import Ricoq.Boot.Correctness.Step

/-!
# `Boot.Correctness.Rollback` — taking back a construction

`rollback` deletes the slots since the checkpoint, the last first, and moves the allocator back only when
every delete returned. What it leaves behind is described by `Cleared`: slots of the range are as they were
or empty, no other slot has changed, and neither has any object that none of the deleted capabilities was
mapped into. Applied to what a construction left (`Extends`), this gives back the state before it, except for
new objects nothing refers to.
-/

namespace Ricoq

open Sel4

/-! ## Deleting one slot -/

namespace Sel4.ObjectStore

variable {p : Platform} {k : ObjectStore} {cap : Cap} {slot : Nat}

theorem unmap_root : (k.unmap p cap).root = k.root := by
  unfold unmap
  repeat' split
  all_goals rfl

theorem unmap_nextObject : (k.unmap p cap).nextObject = k.nextObject := by
  unfold unmap
  repeat' split
  all_goals rfl

/-- Only the VSpace the capability was mapped in changes. -/
theorem unmap_objects {id : Nat} (hid : ∀ object address, cap.mapping = some (object, address) → object ≠ id) :
    (k.unmap p cap).objects id = k.objects id := by
  unfold unmap
  cases hmap : cap.mapping with
  | none => rfl
  | some mapping =>
      obtain ⟨object, address⟩ := mapping
      have hne : id ≠ object := (hid object address hmap).symm
      dsimp only
      repeat' split
      all_goals first | rfl | exact Function.update_of_ne hne _ _

theorem empty_root : (k.empty p slot).root = Function.update k.root slot none := by
  unfold empty
  cases hroot : k.root slot with
  | none => exact (Function.update_eq_self_iff.mpr hroot.symm).symm
  | some cap =>
      show Function.update (k.unmap p cap).root slot none = _
      rw [unmap_root]

theorem empty_nextObject : (k.empty p slot).nextObject = k.nextObject := by
  unfold empty
  cases k.root slot with
  | none => rfl
  | some cap => exact unmap_nextObject

theorem empty_objects {id : Nat} (hid : ∀ cap object address, k.root slot = some cap →
    cap.mapping = some (object, address) → object ≠ id) : (k.empty p slot).objects id = k.objects id := by
  unfold empty
  cases hroot : k.root slot with
  | none => rfl
  | some cap => exact unmap_objects fun object address hmap => hid cap object address hroot hmap

end Sel4.ObjectStore

namespace Bootstrap

/-! ## Deleting a range -/

/-- From `s` to `s'` at most the slots `lo .. hi` were emptied. -/
structure Cleared (lo hi : Nat) (s s' : BootState) : Prop where
  slots : s'.slots = s.slots
  nextObject : s'.kernel.nextObject = s.kernel.nextObject
  outside : ∀ i, i < lo ∨ hi ≤ i → s'.kernel.root i = s.kernel.root i
  inside : ∀ i, s'.kernel.root i = none ∨ s'.kernel.root i = s.kernel.root i
  objects : ∀ id, (∀ i cap object address, lo ≤ i → i < hi → s.kernel.root i = some cap →
    cap.mapping = some (object, address) → object ≠ id) → s'.kernel.objects id = s.kernel.objects id

namespace Cleared

variable {lo mid hi : Nat} {s s₁ s' : BootState}

theorem refl (lo hi : Nat) (s : BootState) : Cleared lo hi s s :=
  ⟨rfl, rfl, fun _ _ => rfl, fun _ => Or.inr rfl, fun _ _ => rfl⟩

/-- The upper part of a range first, then the lower part. -/
theorem trans (h : Cleared mid hi s s₁) (h' : Cleared lo mid s₁ s') (hlo : lo ≤ mid) (hhi : mid ≤ hi) :
    Cleared lo hi s s' where
  slots := h'.slots.trans h.slots
  nextObject := h'.nextObject.trans h.nextObject
  outside i hi := (h'.outside i (by omega)).trans (h.outside i (by omega))
  inside i := by
    rcases h'.inside i with hnone | hsame
    · exact Or.inl hnone
    · rw [hsame]
      exact h.inside i
  objects id hid := by
    rw [h'.objects id ?_, h.objects id ?_]
    · intro i cap object address hlo' hhi' hcap
      exact hid i cap object address (Nat.le_trans hlo hlo') hhi' hcap
    · intro i cap object address hlo' hhi' hcap
      -- what is left in the lower part was there before
      rw [h.outside i (Or.inl hhi')] at hcap
      exact hid i cap object address hlo' (Nat.lt_of_lt_of_le hhi' hhi) hcap

theorem widen (h : Cleared mid hi s s') (hlo : lo ≤ mid) : Cleared lo hi s s' where
  slots := h.slots
  nextObject := h.nextObject
  outside i hi := h.outside i (by omega)
  inside := h.inside
  objects id hid := h.objects id fun i cap object address hmid => hid i cap object address (by omega)

end Cleared

variable (h : Host)

/-- A delete that returned has emptied its slot; one that failed may have. -/
theorem delete_ensures (slot : Nat) (error : BootstrapError) (s : BootState) :
    Prog.Ensures (kernelOp (invoke h.machine (.delete slot)) error) s
      (fun _ s' => Cleared slot (slot + 1) s s' ∧ s'.kernel.root slot = none)
      (fun e s' => e = error ∧ Cleared slot (slot + 1) s s') := by
  have hempty : ∀ log, Cleared slot (slot + 1) s
      { s with kernel := { s.kernel.empty h.machine.toPlatform slot with log } } := by
    intro log
    refine ⟨rfl, ObjectStore.empty_nextObject, ?_, ?_, ?_⟩
    · intro i hi
      show (s.kernel.empty h.machine.toPlatform slot).root i = _
      rw [ObjectStore.empty_root]
      exact Function.update_of_ne (by omega) _ _
    · intro i
      show (s.kernel.empty h.machine.toPlatform slot).root i = none ∨ _
      rw [ObjectStore.empty_root]
      by_cases hi : i = slot
      · rw [hi, Function.update_self]
        exact Or.inl rfl
      · exact Or.inr (Function.update_of_ne hi _ _)
    · intro id hid
      refine ObjectStore.empty_objects ?_
      intro cap object address hcap
      exact hid slot cap object address (Nat.le_refl _) (Nat.lt_succ_self _) hcap
  unfold Prog.Ensures kernelOp invoke
  cases h.machine.refuses s.kernel.log (.delete slot) with
  | none =>
      refine ⟨hempty _, ?_⟩
      show (s.kernel.empty h.machine.toPlatform slot).root slot = none
      rw [ObjectStore.empty_root, Function.update_self]
  | some refusal =>
      refine ⟨rfl, ?_⟩
      dsimp only [ObjectStore.refused]
      by_cases hemptied : refusal.emptied
      · rw [if_pos hemptied]
        exact hempty _
      · rw [if_neg hemptied]
        exact ⟨rfl, rfl, fun _ _ => rfl, fun _ => Or.inr rfl, fun _ _ => rfl⟩

/-- Deleting from the last slot down: all are empty, or a delete failed on the way. -/
theorem deleteRootSlots_ensures (start count : Nat) (s : BootState) :
    Prog.Ensures (deleteRootSlots h start count) s
      (fun _ s' => Cleared start (start + count) s s' ∧
        ∀ i, start ≤ i → i < start + count → s'.kernel.root i = none)
      (fun e s' => e = .rollbackFailed ∧ Cleared start (start + count) s s') := by
  induction count generalizing s with
  | zero => exact ⟨Cleared.refl _ _ s, fun i hlo hhi => absurd hlo (by omega)⟩
  | succ count ih =>
      unfold deleteRootSlots
      rcases (delete_ensures h (start + count) .rollbackFailed s).cases with
        ⟨u, s₁, hrun, hcleared, hnone⟩ | ⟨e, s₁, hrun, he, hcleared⟩
      · rcases (ih s₁).cases with ⟨u', s₂, hrun₂, hrest, hall⟩ | ⟨e, s₂, hrun₂, he, hrest⟩
        · refine Prog.Ensures.ok ((Prog.run_bind_ok hrun).trans hrun₂) ⟨?_, ?_⟩
          · exact hcleared.trans hrest (Nat.le_add_right _ _) (Nat.le_succ _)
          · intro i hlo hhi
            by_cases hi : i < start + count
            · exact hall i hlo hi
            · -- the slot deleted first stays empty
              have heq : i = start + count := by omega
              rw [hrest.outside i (by omega), heq]
              exact hnone
        · exact Prog.Ensures.err ((Prog.run_bind_ok hrun).trans hrun₂)
            ⟨he, hcleared.trans hrest (Nat.le_add_right _ _) (Nat.le_succ _)⟩
      · exact Prog.Ensures.err (Prog.run_bind_err hrun) ⟨he, hcleared.widen (Nat.le_add_right _ _)⟩

/-! ## Rolling back -/

/-- A rollback took back what was done between `s` and `s₁`, and ended in `s'`. -/
structure RolledBack (s s₁ s' : BootState) : Prop where
  slots : s'.slots = s.slots
  nextObject : s'.kernel.nextObject = s₁.kernel.nextObject
  emptied : ∀ i, s.slots.start ≤ i → i < s₁.slots.start → s'.kernel.root i = none
  outside : ∀ i, i < s.slots.start ∨ s₁.slots.start ≤ i → s'.kernel.root i = s.kernel.root i

variable {h} {T : Nat → Prop} {s s₁ s' : BootState}

/-- When every delete has returned, the allocator is moved back. -/
theorem rollback_of_deleted {checkpoint : Nat} (hfirst : s.slots.first ≤ checkpoint)
    (hle : checkpoint ≤ s.slots.start)
    (hdelete : deleteRootSlots h checkpoint (s.slots.start - checkpoint) s = (.ok (), s₁))
    (hslots : s₁.slots = s.slots) :
    rollback h checkpoint s =
      (.ok (), { s₁ with slots := s.slots.withStart checkpoint hfirst (Nat.le_trans hle s.slots.start_le) }) := by
  unfold rollback
  rw [Prog.run_bind_ok (committedSlots_of_le hfirst hle), Prog.run_bind_ok hdelete,
    Prog.run_bind_ok (Prog.run_modifyGet _ s₁), hslots, FreeSlots.rewind_of_le hfirst hle]
  rfl

/-- Nothing was constructed, so there is nothing to take back. -/
theorem RolledBack.refl (s : BootState) : RolledBack s s s :=
  ⟨rfl, rfl, fun i hlo hhi => absurd hlo (by omega), fun _ _ => rfl⟩

/-- After a rollback, empty slots are empty again and the others have not changed. -/
theorem RolledBack.root_eq (hext : Extends T s s₁) (hback : RolledBack s s₁ s')
    (hvacant : Vacant s) : s'.kernel.root = s.kernel.root := by
  funext i
  by_cases hi : i < s.slots.start ∨ s₁.slots.start ≤ i
  · exact hback.outside i hi
  · have hle := hext.le_stop
    rw [hback.emptied i (by omega) (by omega), hvacant i (by omega) (by omega)]

/-- **Rollback** either takes the construction back, or leaves the allocator where it is because a delete
    failed. Old objects the construction did not touch stay as they were. -/
theorem rollback_cases (hext : Extends T s s₁) :
    ∃ s', ((rollback h s.slots.start s₁ = (.ok (), s') ∧
          (deleteRootSlots h s.slots.start (s₁.slots.start - s.slots.start) s₁).1 = .ok () ∧
          RolledBack s s₁ s') ∨
        (rollback h s.slots.start s₁ = (.err .rollbackFailed, s') ∧
          deleteRootSlots h s.slots.start (s₁.slots.start - s.slots.start) s₁ = (.err .rollbackFailed, s') ∧
          Cleared s.slots.start s₁.slots.start s₁ s')) ∧
      ∀ id, id < s.kernel.nextObject → ¬ T id → s'.kernel.objects id = s.kernel.objects id := by
  have hfirst : s₁.slots.first ≤ s.slots.start := hext.first ▸ s.slots.first_le
  have hcount : s.slots.start + (s₁.slots.start - s.slots.start) = s₁.slots.start :=
    Nat.add_sub_cancel' hext.start_le
  -- the deleted capabilities were mapped into new objects, or into ones that may be touched
  have hobjects : ∀ {s₂ : BootState}, Cleared s.slots.start s₁.slots.start s₁ s₂ →
      ∀ id, id < s.kernel.nextObject → ¬ T id → s₂.kernel.objects id = s.kernel.objects id := by
    intro s₂ hcleared id hid hT
    rw [hcleared.objects id ?_, hext.objects id hid hT]
    rintro i cap object address hlo hhi hcap hmap rfl
    rcases hext.mapped i cap object address hlo hhi hcap hmap with hin | hnew
    · exact hT hin
    · omega
  rcases (deleteRootSlots_ensures h s.slots.start (s₁.slots.start - s.slots.start) s₁).cases with
    ⟨u, s₂, hrun, hcleared, hnone⟩ | ⟨e, s₂, hrun, rfl, hcleared⟩
  · rw [hcount] at hcleared hnone
    have hback := rollback_of_deleted hfirst hext.start_le hrun hcleared.slots
    have hkept := hobjects hcleared
    refine ⟨_, Or.inl ⟨hback, by rw [hrun], ?_⟩, hkept⟩
    refine ⟨?_, hcleared.nextObject, hnone, fun i hi => (hcleared.outside i hi).trans (hext.outside i hi)⟩
    exact FreeSlots.ext hext.first rfl hext.stop
  · rw [hcount] at hcleared
    have hback : rollback h s.slots.start s₁ = (.err .rollbackFailed, s₂) := by
      unfold rollback
      rw [Prog.run_bind_ok (committedSlots_of_le hfirst hext.start_le), Prog.run_bind_err hrun]
    exact ⟨s₂, Or.inr ⟨hback, hrun, hcleared⟩, hobjects hcleared⟩

end Bootstrap
end Ricoq
