import Ricoq.Boot.Task
import Ricoq.Boot.Correctness.FirstFit

/-!
# `Boot.Correctness.Step` — what a construction step leaves behind

Construction only ever does one of two things to the root CNode: fill the next free slot, or nothing.
`Extends T s s'` is what any number of such steps amount to: the allocator has moved forward over slots that
are now filled, every other slot is as before, and of the objects that existed at the beginning only those in
`T` have changed. It holds whether the steps succeeded or not, and composes (`Extends.trans`).

The exact effect of each single step is given next to it (`Created`, `Copied`, `kernelOp_cases`).
-/

namespace Ricoq
namespace Bootstrap

open Sel4

/-! ## The relation -/

/-- The slots the allocator has yet to give out are empty. -/
def Vacant (s : BootState) : Prop :=
  ∀ i, s.slots.start ≤ i → i < s.slots.stop → s.kernel.root i = none

/-- From `s` to `s'` construction only filled slots, and among the old objects changed only those in `T`. -/
structure Extends (T : Nat → Prop) (s s' : BootState) : Prop where
  first : s'.slots.first = s.slots.first
  stop : s'.slots.stop = s.slots.stop
  start_le : s.slots.start ≤ s'.slots.start
  le_stop : s'.slots.start = s.slots.start ∨ s'.slots.start ≤ s.slots.stop
  outside : ∀ i, i < s.slots.start ∨ s'.slots.start ≤ i → s'.kernel.root i = s.kernel.root i
  filled : ∀ i, s.slots.start ≤ i → i < s'.slots.start → s'.kernel.root i ≠ none
  nextObject_le : s.kernel.nextObject ≤ s'.kernel.nextObject
  objects : ∀ id, id < s.kernel.nextObject → ¬ T id → s'.kernel.objects id = s.kernel.objects id
  mapped : ∀ i cap object address, s.slots.start ≤ i → i < s'.slots.start → s'.kernel.root i = some cap →
    cap.mapping = some (object, address) → T object ∨ s.kernel.nextObject ≤ object

/-- The touched object is one of `T`, or was made on the way. -/
def Touches (T : Nat → Prop) (s : BootState) (object : Nat) : Prop := T object ∨ s.kernel.nextObject ≤ object

namespace Extends

variable {T T' : Nat → Prop} {s s₁ s₂ s' : BootState}

/-- No slot was filled. -/
theorem of_same_slots (hslots : s'.slots = s.slots) (hroot : s'.kernel.root = s.kernel.root)
    (hnext : s.kernel.nextObject ≤ s'.kernel.nextObject)
    (hobjects : ∀ id, id < s.kernel.nextObject → ¬ T id → s'.kernel.objects id = s.kernel.objects id) :
    Extends T s s' where
  first := by rw [hslots]
  stop := by rw [hslots]
  start_le := Nat.le_of_eq (by rw [hslots])
  le_stop := by rw [hslots]; exact Or.inl rfl
  outside i _ := by rw [hroot]
  filled i hlo hhi := by
    rw [hslots] at hhi
    omega
  nextObject_le := hnext
  objects := hobjects
  mapped i cap object address hlo hhi := by
    rw [hslots] at hhi
    omega

theorem refl (T : Nat → Prop) (s : BootState) : Extends T s s :=
  of_same_slots rfl rfl (Nat.le_refl _) fun _ _ _ => rfl

/-- Only the record of invocations changed. -/
theorem of_log (T : Nat → Prop) (s : BootState) (log : List Invocation) :
    Extends T s { s with kernel := { s.kernel with log } } :=
  of_same_slots rfl rfl (Nat.le_refl _) fun _ _ _ => rfl

/-- One object changed. -/
theorem of_object {object : Nat} {value : Object} (hslots : s'.slots = s.slots)
    (hroot : s'.kernel.root = s.kernel.root)
    (hobjects : s'.kernel.objects = Function.update s.kernel.objects object value)
    (hnext : s'.kernel.nextObject = s.kernel.nextObject) (htouch : Touches T s object) : Extends T s s' := by
  refine of_same_slots hslots hroot (Nat.le_of_eq hnext.symm) ?_
  intro id hid hT
  rw [hobjects]
  refine Function.update_of_ne ?_ _ _
  rintro rfl
  rcases htouch with hin | hnew
  · exact hT hin
  · omega

/-- One slot was filled. -/
theorem of_fill {cap : Cap} (hav : s.slots.Available) (hslots : s'.slots = s.slots.next hav)
    (hroot : s'.kernel.root = Function.update s.kernel.root s.slots.start (some cap))
    (hnext : s.kernel.nextObject ≤ s'.kernel.nextObject)
    (hobjects : ∀ id, id < s.kernel.nextObject → ¬ T id → s'.kernel.objects id = s.kernel.objects id)
    (hmapped : ∀ object address, cap.mapping = some (object, address) → Touches T s object) :
    Extends T s s' := by
  have hstart : s'.slots.start = s.slots.start + 1 := by rw [hslots]; rfl
  refine ⟨by rw [hslots]; rfl, by rw [hslots]; rfl, by omega, ?_, ?_, ?_, hnext, hobjects, ?_⟩
  · rw [hstart]
    exact Or.inr hav
  · intro i hi
    rw [hroot]
    exact Function.update_of_ne (by omega) _ _
  · intro i hlo hhi
    have hi : i = s.slots.start := by omega
    rw [hroot, hi, Function.update_self]
    nofun
  · intro i c object address hlo hhi hc hmap
    have hi : i = s.slots.start := by omega
    rw [hroot, hi, Function.update_self] at hc
    rw [← Option.some.inj hc] at hmap
    exact hmapped object address hmap

/-- A slot filled on the way was given another capability, and one object changed. -/
theorem remap {i object : Nat} {cap : Cap} {value : Object} (h : Extends T s s₁) (hlo : s.slots.start ≤ i)
    (hhi : i < s₁.slots.start) (hslots : s'.slots = s₁.slots)
    (hroot : s'.kernel.root = Function.update s₁.kernel.root i (some cap))
    (hobjects : s'.kernel.objects = Function.update s₁.kernel.objects object value)
    (hnext : s'.kernel.nextObject = s₁.kernel.nextObject) (htouch : Touches T s object)
    (hmapped : ∀ object address, cap.mapping = some (object, address) → Touches T s object) :
    Extends T s s' where
  first := by rw [hslots, h.first]
  stop := by rw [hslots, h.stop]
  start_le := by rw [hslots]; exact h.start_le
  le_stop := by rw [hslots]; exact h.le_stop
  outside j hj := by
    rw [hslots] at hj
    rw [hroot, Function.update_of_ne (by omega), h.outside j hj]
  filled j hjlo hjhi := by
    rw [hslots] at hjhi
    by_cases hj : j = i
    · rw [hroot, hj, Function.update_self]
      nofun
    · rw [hroot, Function.update_of_ne hj]
      exact h.filled j hjlo hjhi
  nextObject_le := by rw [hnext]; exact h.nextObject_le
  objects id hid hT := by
    have hne : id ≠ object := by
      rintro rfl
      rcases htouch with hin | hnew
      · exact hT hin
      · omega
    rw [hobjects, Function.update_of_ne hne, h.objects id hid hT]
  mapped j c o address hjlo hjhi hc hmap := by
    rw [hslots] at hjhi
    by_cases hj : j = i
    · rw [hroot, hj, Function.update_self] at hc
      rw [← Option.some.inj hc] at hmap
      exact hmapped o address hmap
    · rw [hroot, Function.update_of_ne hj] at hc
      exact h.mapped j c o address hjlo hjhi hc hmap

/-- **Steps compose**, provided the old objects the second part touches are among those of the whole. -/
theorem trans (h : Extends T s s₁) (h' : Extends T' s₁ s₂)
    (hT : ∀ id, id < s.kernel.nextObject → T' id → T id) : Extends T s s₂ where
  first := h'.first.trans h.first
  stop := h'.stop.trans h.stop
  start_le := Nat.le_trans h.start_le h'.start_le
  le_stop := by
    have hle := h.le_stop
    have hle' := h'.le_stop
    have hstop := h.stop
    omega
  outside i hi := by
    have hstart := h.start_le
    have hstart' := h'.start_le
    rw [h'.outside i (by omega), h.outside i (by omega)]
  filled i hlo hhi := by
    by_cases hi : i < s₁.slots.start
    · rw [h'.outside i (Or.inl hi)]
      exact h.filled i hlo hi
    · exact h'.filled i (Nat.not_lt.mp hi) hhi
  nextObject_le := Nat.le_trans h.nextObject_le h'.nextObject_le
  objects id hid hnot := by
    have hid' : id < s₁.kernel.nextObject := Nat.lt_of_lt_of_le hid h.nextObject_le
    rw [h'.objects id hid' (fun ht => hnot (hT id hid ht)), h.objects id hid hnot]
  mapped i cap object address hlo hhi hcap hmap := by
    by_cases hi : i < s₁.slots.start
    · rw [h'.outside i (Or.inl hi)] at hcap
      exact h.mapped i cap object address hlo hi hcap hmap
    · have hnext := h.nextObject_le
      rcases h'.mapped i cap object address (Nat.not_lt.mp hi) hhi hcap hmap with hT' | hnew
      · by_cases hold : object < s.kernel.nextObject
        · exact Or.inl (hT object hold hT')
        · exact Or.inr (Nat.not_lt.mp hold)
      · exact Or.inr (Nat.le_trans hnext hnew)

/-- Steps that touch the same old objects compose. -/
theorem trans_same (h : Extends T s s₁) (h' : Extends T s₁ s₂) : Extends T s s₂ := h.trans h' fun _ _ ht => ht

theorem weaken (h : Extends T s s') (hT : ∀ id, T id → T' id) : Extends T' s s' :=
  { h with
    objects := fun id hid hnot => h.objects id hid fun ht => hnot (hT id ht)
    mapped := fun i cap object address hlo hhi hcap hmap =>
      (h.mapped i cap object address hlo hhi hcap hmap).imp_left (hT object) }

/-- What was filled before stays as it was. -/
theorem root_of_some {i : Nat} {cap : Cap} (h : Extends T s s') (hi : i < s.slots.start)
    (hcap : s.kernel.root i = some cap) : s'.kernel.root i = some cap :=
  (h.outside i (Or.inl hi)).trans hcap

/-- **Nothing in use beyond the next slot** stays so. -/
theorem vacant (h : Extends T s s') (hv : Vacant s) : Vacant s' := by
  intro i hlo hhi
  rw [h.outside i (Or.inr hlo)]
  exact hv i (Nat.le_trans h.start_le hlo) (h.stop ▸ hhi)

/-- If nothing was in use beyond the next slot, no capability was replaced. -/
theorem keeps {i : Nat} {cap : Cap} (h : Extends T s s') (hv : Vacant s) (hcap : s.kernel.root i = some cap) :
    s'.kernel.root i = some cap := by
  have hle := h.le_stop
  by_cases hi : i < s.slots.start ∨ s'.slots.start ≤ i
  · exact (h.outside i hi).trans hcap
  · exact absurd (hcap.symm.trans (hv i (by omega) (by omega))) nofun

end Extends

/-- A program that only extends the state, whatever its outcome; `D` is what it ensures on return. -/
def Builds {α : Type} (T : Nat → Prop) (x : Boot α) (s : BootState) (D : α → BootState → Prop) : Prop :=
  Prog.Ensures x s (fun a s' => Extends T s s' ∧ D a s') fun _ s' => Extends T s s'

namespace Builds

variable {α β : Type} {T T' : Nat → Prop} {s : BootState} {D : α → BootState → Prop}
  {D' : β → BootState → Prop}

theorem pure {a : α} (h : D a s) : Builds T (Pure.pure a) s D := ⟨Extends.refl T s, h⟩

theorem throw {e : BootstrapError} : Builds T (Prog.throw e : Boot α) s D := Extends.refl T s

/-- Sequencing: the second part may touch what the first part made. -/
theorem bind {x : Boot α} {f : α → Boot β} (hx : Builds T x s D)
    (hf : ∀ a s', Extends T s s' → D a s' → ∃ T', (∀ id, id < s.kernel.nextObject → T' id → T id) ∧
      Builds T' (f a) s' D') : Builds T (x >>= f) s D' := by
  refine Prog.Ensures.bind hx ?_
  rintro a s' - ⟨hext, hD⟩
  obtain ⟨T', hT, h⟩ := hf a s' hext hD
  exact h.conseq (fun b s'' hb => ⟨hext.trans hb.1 hT, hb.2⟩) fun _ s'' he => hext.trans he hT

theorem bind_same {x : Boot α} {f : α → Boot β} (hx : Builds T x s D)
    (hf : ∀ a s', Extends T s s' → D a s' → Builds T (f a) s' D') : Builds T (x >>= f) s D' :=
  hx.bind fun a s' hext hD => ⟨T, fun _ _ h => h, hf a s' hext hD⟩

/-- Sequencing, where the second part touches no old object. -/
theorem bind_untouched {x : Boot α} {f : α → Boot β} (hx : Builds (fun _ => False) x s D)
    (hf : ∀ a s', Extends (fun _ => False) s s' → D a s' → Builds (fun _ => False) (f a) s' D') :
    Builds T (x >>= f) s D' := by
  refine Prog.Ensures.conseq (hx.bind_same hf) ?_ ?_
  · intro b s'' hb
    exact ⟨hb.1.weaken fun _ => False.elim, hb.2⟩
  · intro _ s'' he
    exact he.weaken fun _ => False.elim

theorem conseq {D' : α → BootState → Prop} {x : Boot α} (hx : Builds T x s D)
    (h : ∀ a s', Extends T s s' → D a s' → D' a s') : Builds T x s D' :=
  Prog.Ensures.conseq hx (fun a s' hd => ⟨hd.1, h a s' hd.1 hd.2⟩) fun _ _ he => he

/-- A check changes nothing. -/
theorem ofExcept {x : Except BootstrapError α} (h : ∀ a, x = .ok a → D a s) :
    Builds T (Prog.ofExcept x : Boot α) s D := by
  cases hx : x with
  | ok a => exact Builds.pure (h a hx)
  | error e => exact Builds.throw

end Builds

/-! ## Kernel operations -/

section Units

variable (h : Host)

/-- A kernel operation other than a delete has its effect, or leaves only its record. -/
theorem kernelOp_cases {i : Invocation} (hi : ∀ slot, i ≠ .delete slot) (error : BootstrapError)
    (s : BootState) :
    (∃ k log, s.kernel.effect h.machine.toPlatform i = .ok k ∧
      kernelOp (invoke h.machine i) error s = (.ok (), { s with kernel := { k with log } })) ∨
    (∃ log, kernelOp (invoke h.machine i) error s =
      (.err error, { s with kernel := { s.kernel with log } })) := by
  unfold kernelOp
  match hrun : invoke h.machine i s.kernel with
  | (.ok (), k') =>
      obtain ⟨k, heffect, rfl⟩ := invoke_ok hrun
      exact Or.inl ⟨k, _, heffect, rfl⟩
  | (.err e, k') =>
      obtain rfl := invoke_err hi hrun
      exact Or.inr ⟨_, rfl⟩
  | (.panic, k') => exact absurd (congrArg Prod.fst hrun) invoke_ne_panic

/-- A kernel operation that can have its effect has it, unless it is refused. -/
theorem kernelOp_of_effect {i : Invocation} {s : BootState} {k : ObjectStore}
    (he : s.kernel.effect h.machine.toPlatform i = .ok k) (error : BootstrapError) :
    kernelOp (invoke h.machine i) error s = (.ok (), { s with kernel := { k with log := i :: s.kernel.log } }) ∨
    (h.machine.refuses s.kernel.log i ≠ none ∧
      ∃ s', kernelOp (invoke h.machine i) error s = (.err error, s')) := by
  cases hr : h.machine.refuses s.kernel.log i with
  | none =>
      refine Or.inl ?_
      rw [kernelOp, invoke_of_effect hr he]
  | some refusal =>
      refine Or.inr ⟨nofun, ?_⟩
      unfold kernelOp invoke
      rw [hr]
      exact ⟨_, rfl⟩

/-- An operation on the kernel that changes no root slot. -/
theorem kernelOp_builds {T : Nat → Prop} {s : BootState} {i : Invocation} (hi : ∀ slot, i ≠ .delete slot)
    (error : BootstrapError) {D : BootState → Prop}
    (hok : ∀ k log, s.kernel.effect h.machine.toPlatform i = .ok k →
      Extends T s { s with kernel := { k with log } } ∧ D { s with kernel := { k with log } }) :
    Builds T (kernelOp (invoke h.machine i) error) s fun _ s' => D s' := by
  rcases kernelOp_cases h hi error s with ⟨k, log, heffect, hrun⟩ | ⟨log, hrun⟩
  · exact Prog.Ensures.ok hrun (hok k log heffect)
  · exact Prog.Ensures.err hrun (Extends.of_log T s log)

/-- The retype loop creates the object in the slot, or leaves only records. -/
theorem retypeFirst_cases (blueprint : ObjectBlueprint) (slot : Nat) (k : ObjectStore)
    (candidates : List (UntypedDescriptor × Nat)) :
    (∃ log, retypeFirst h blueprint slot candidates k =
      (.ok slot, { k.create blueprint slot with log })) ∨
    (∃ e log, (e = .noKernelMemory ∨ e = .kernelAllocationFailed) ∧
      retypeFirst h blueprint slot candidates k = (.err e, { k with log })) := by
  have hloop : retypeFirst h blueprint slot candidates k = _ := retypeFirst_eq slot k.log candidates [] k
  generalize firstFit _ _ _ = result at hloop
  obtain ⟨outcome, attempts⟩ := result
  cases outcome with
  | found index => exact Or.inl ⟨_, hloop⟩
  | failed e => exact Or.inr ⟨.kernelAllocationFailed, _, Or.inr rfl, hloop⟩
  | exhausted => exact Or.inr ⟨.noKernelMemory, _, Or.inl rfl, hloop⟩

/-- A new object in the next slot. -/
structure Created (blueprint : ObjectBlueprint) (s s' : BootState) : Prop where
  start : s'.slots.start = s.slots.start + 1
  root : s'.kernel.root = Function.update s.kernel.root s.slots.start
    (some ⟨s.kernel.nextObject, blueprint, .all, 0, none⟩)
  objects : s'.kernel.objects = Function.update s.kernel.objects s.kernel.nextObject blueprint.fresh
  nextObject : s'.kernel.nextObject = s.kernel.nextObject + 1

/-- The slots committed since a valid checkpoint. -/
theorem committedSlots_of_le {checkpoint : Nat} {s : BootState} (hfirst : s.slots.first ≤ checkpoint)
    (hle : checkpoint ≤ s.slots.start) : committedSlots checkpoint s = (.ok (checkpoint, s.slots.start), s) := by
  rw [committedSlots, FreeSlots.allocatedSince_of_le hfirst hle]

/-- **Allocation** creates one object in the next slot, or changes nothing but the record. -/
theorem allocateBlueprint_builds (T : Nat → Prop) (blueprint : ObjectBlueprint) (s : BootState) :
    Builds T (allocateBlueprint h blueprint) s
      fun slot s' => slot = s.slots.start ∧ Created blueprint s s' := by
  unfold allocateBlueprint
  by_cases hav : s.slots.Available
  · rcases retypeFirst_cases h blueprint s.slots.start s.kernel (candidates h) with
      ⟨log, hrun⟩ | ⟨e, log, -, hrun⟩
    · refine Prog.Ensures.ok (Prog.run_bind_ok (tryAllocate_ok hav hrun)) ⟨?_, rfl, rfl, rfl, rfl, rfl⟩
      refine Extends.of_fill hav rfl rfl (Nat.le_succ _) ?_ nofun
      intro id hid _
      exact Function.update_of_ne (Nat.ne_of_lt hid) _ _
    · exact Prog.Ensures.err (Prog.run_bind_err (tryAllocate_err hav hrun)) (Extends.of_log T s log)
  · exact Prog.Ensures.err (Prog.run_bind_ok (tryAllocate_none hav)) (Extends.refl T s)

/-- Copying into a slot does so, or changes nothing but the record. -/
theorem copyInto_cases (source : Nat) (rights : CapRights) (index : Nat) (k : ObjectStore) :
    (∃ cap log, k.root source = some cap ∧ copyInto h source rights index k =
      (.ok index, { k.setRoot index (some (cap.derive rights)) with log })) ∨
    (∃ log, copyInto h source rights index k = (.err .cspaceCreationFailed, { k with log })) := by
  unfold copyInto
  match hrun : invoke h.machine (.copy index source rights) k with
  | (.ok (), k') =>
      obtain ⟨k₁, heffect, rfl⟩ := invoke_ok hrun
      obtain ⟨cap, hcap, rfl⟩ := ObjectStore.effect_copy heffect
      exact Or.inl ⟨cap, _, hcap, Prog.run_bind_ok (Prog.run_mapErr_ok hrun)⟩
  | (.err e, k') =>
      obtain rfl := invoke_err (by nofun) hrun
      exact Or.inr ⟨_, Prog.run_bind_err (Prog.run_mapErr_err hrun)⟩
  | (.panic, k') => exact absurd (congrArg Prod.fst hrun) invoke_ne_panic

/-- A copy of a capability in the next slot. -/
structure Copied (source : Nat) (rights : CapRights) (cap : Cap) (s s' : BootState) : Prop where
  start : s'.slots.start = s.slots.start + 1
  source : s.kernel.root source = some cap
  root : s'.kernel.root = Function.update s.kernel.root s.slots.start (some (cap.derive rights))
  objects : s'.kernel.objects = s.kernel.objects
  nextObject : s'.kernel.nextObject = s.kernel.nextObject

theorem copyToRoot_builds (T : Nat → Prop) (source : Nat) (rights : CapRights) (s : BootState) :
    Builds T (copyToRoot h source rights) s
      fun slot s' => slot = s.slots.start ∧ ∃ cap, Copied source rights cap s s' := by
  unfold copyToRoot
  by_cases hav : s.slots.Available
  · rcases copyInto_cases h source rights s.slots.start s.kernel with ⟨cap, log, hcap, hrun⟩ | ⟨log, hrun⟩
    · refine Prog.Ensures.ok (Prog.run_bind_ok (tryAllocate_ok hav hrun))
        ⟨?_, rfl, cap, rfl, hcap, rfl, rfl, rfl⟩
      exact Extends.of_fill hav rfl rfl (Nat.le_refl _) (fun _ _ _ => rfl) nofun
    · exact Prog.Ensures.err (Prog.run_bind_err (tryAllocate_err hav hrun)) (Extends.of_log T s log)
  · exact Prog.Ensures.err (Prog.run_bind_ok (tryAllocate_none hav)) (Extends.refl T s)

end Units

/-! ## Parent-held capabilities -/

section Holds

variable {T : Nat → Prop} {s s' : BootState}

/-- A slot below the allocator's next one holds a capability to this object, of this kind. -/
structure Holds (slot object : Nat) (blueprint : ObjectBlueprint) (s : BootState) : Prop where
  slot_lt : slot < s.slots.start
  cap : ∃ cap, s.kernel.root slot = some cap ∧ cap.object = object ∧ cap.blueprint = blueprint
  object_lt : object < s.kernel.nextObject

namespace Holds

variable {slot object : Nat} {blueprint : ObjectBlueprint}

theorem mono (hs : Holds slot object blueprint s) (he : Extends T s s') : Holds slot object blueprint s' := by
  obtain ⟨cap, hcap, hkind⟩ := hs.cap
  exact ⟨Nat.lt_of_lt_of_le hs.slot_lt he.start_le, ⟨cap, he.root_of_some hs.slot_lt hcap, hkind⟩,
    Nat.lt_of_lt_of_le hs.object_lt he.nextObject_le⟩

/-- The same under equal numbers. -/
theorem of_eq {slot' object' : Nat} (hs : Holds slot object blueprint s) (hslot : slot' = slot)
    (hobject : object' = object) : Holds slot' object' blueprint s := by
  rw [hslot, hobject]
  exact hs

/-- Whatever capability is in the slot, it is one to the object. -/
theorem object_eq (hs : Holds slot object blueprint s) {cap : Cap} (hcap : s.kernel.root slot = some cap) :
    cap.object = object := by
  obtain ⟨cap', hcap', hobject, -⟩ := hs.cap
  obtain rfl := Option.some.inj (hcap.symm.trans hcap')
  exact hobject

theorem blueprint_eq (hs : Holds slot object blueprint s) {cap : Cap} (hcap : s.kernel.root slot = some cap) :
    cap.blueprint = blueprint := by
  obtain ⟨cap', hcap', -, hkind⟩ := hs.cap
  obtain rfl := Option.some.inj (hcap.symm.trans hcap')
  exact hkind

end Holds

/-- The new object is held by its slot. -/
theorem Created.holds {blueprint : ObjectBlueprint} (hc : Created blueprint s s') :
    Holds s.slots.start s.kernel.nextObject blueprint s' where
  slot_lt := by
    rw [hc.start]
    exact Nat.lt_succ_self _
  cap := ⟨_, by rw [hc.root, Function.update_self], rfl, rfl⟩
  object_lt := by
    rw [hc.nextObject]
    exact Nat.lt_succ_self _

end Holds

end Bootstrap
end Ricoq
