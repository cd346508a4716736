import Ricoq.Lib.FirstFit
import Ricoq.Boot.Bootstrap

/-!
# `Boot.Correctness.FirstFit` — which Untyped an object is made from

`allocateBlueprint` runs a loop over the Untyped descriptors inside the callback of the slot allocator. The loop
is the general first-fit search over the eligible descriptors, with the kernel's replies as the answers
(`retypeFirst_eq`): a reply of `notEnoughMemory` declines a candidate, any other error ends the search. What is
attempted, with what outcome, and what becomes of the slot then follows from the search and from the allocator's
commit on success.
-/

namespace Ricoq
namespace Bootstrap

open Sel4

variable (h : Host) (blueprint : ObjectBlueprint)

/-! ## Candidates -/

/-- The descriptor is of ordinary memory, and large enough. -/
def Suitable (descriptor : UntypedDescriptor) : Prop :=
  descriptor.isDevice = false ∧ h.machine.physicalSizeBits blueprint ≤ descriptor.sizeBits

instance (descriptor : UntypedDescriptor) : Decidable (Suitable h blueprint descriptor) :=
  inferInstanceAs (Decidable (_ ∧ _))

/-- The index lies within both the range of Untyped slots and the descriptor list, and its descriptor is
    suitable. -/
def Eligible (index : Nat) : Prop :=
  index < h.bootinfo.untyped.stop - h.bootinfo.untyped.start ∧
  ∃ descriptor, h.bootinfo.untypedList[index]? = some descriptor ∧ Suitable h blueprint descriptor

/-- The indices of the suitable candidates. -/
def suitable (candidates : List (UntypedDescriptor × Nat)) : List Nat :=
  (candidates.filter fun candidate => Suitable h blueprint candidate.1).map (·.2)

/-- The indices of the eligible descriptors, in list order. -/
def eligible : List Nat := suitable h blueprint (candidates h)

theorem mem_eligible {index : Nat} : index ∈ eligible h blueprint ↔ Eligible h blueprint index := by
  have hmem : ∀ descriptor, (descriptor, index) ∈ candidates h ↔
      index < h.bootinfo.untyped.stop - h.bootinfo.untyped.start ∧
      h.bootinfo.untypedList[index]? = some descriptor := by
    intro descriptor
    unfold candidates
    rw [List.mem_iff_getElem?]
    simp only [List.getElem?_take, List.getElem?_zipIdx]
    constructor
    · rintro ⟨i, hi⟩
      by_cases hlt : i < h.bootinfo.untyped.stop - h.bootinfo.untyped.start
      · rw [if_pos hlt] at hi
        obtain ⟨d, hd, hpair⟩ := Option.map_eq_some_iff.mp hi
        obtain ⟨rfl, rfl⟩ := Prod.mk.inj hpair
        rw [Nat.zero_add]
        exact ⟨hlt, hd⟩
      · rw [if_neg hlt] at hi
        exact nomatch hi
    · rintro ⟨hlt, hd⟩
      refine ⟨index, ?_⟩
      simp [hlt, hd]
  unfold eligible suitable Eligible
  simp only [List.mem_map, List.mem_filter, decide_eq_true_eq]
  constructor
  · rintro ⟨⟨descriptor, i⟩, ⟨hin, hsuitable⟩, rfl⟩
    obtain ⟨hlt, hd⟩ := (hmem descriptor).mp hin
    exact ⟨hlt, descriptor, hd, hsuitable⟩
  · rintro ⟨hlt, descriptor, hd, hsuitable⟩
    exact ⟨(descriptor, index), ⟨(hmem descriptor).mpr ⟨hlt, hd⟩, hsuitable⟩, rfl⟩

/-- No index comes twice, nor out of order. -/
theorem eligible_sorted : (eligible h blueprint).Pairwise (· < ·) := by
  have hall : ((candidates h).map (·.2)).Pairwise (· < ·) := by
    unfold candidates
    rw [List.map_take, List.zipIdx_map_snd]
    exact (List.pairwise_lt_range' ..).sublist (List.take_sublist _ _)
  exact hall.sublist ((List.filter_sublist).map _)

/-! ## The loop -/

/-- The attempt on the Untyped with this index. -/
def retypeAt (slot index : Nat) : Invocation :=
  .untypedRetype (h.bootinfo.untyped.start + index) blueprint slot

/-- The record of the invocations after these attempts. -/
def recorded (slot : Nat) (log : List Invocation) (attempts : List Nat) : List Invocation :=
  (attempts.map (retypeAt h blueprint slot)).reverse ++ log

/-- The kernel's reply to an attempt, after those of `tried`: an error, or nothing. -/
def reply (slot : Nat) (log : List Invocation) (tried : List Nat) (index : Nat) : Option Sel4Error :=
  (h.machine.refuses (recorded h blueprint slot log tried) (retypeAt h blueprint slot index)).map (·.error)

/-- What a reply means for the search. -/
def answerOf : Option Sel4Error → Answer Sel4Error
  | none                  => .accept
  | some .notEnoughMemory => .decline
  | some e                => .abort e

theorem answerOf_accept {r : Option Sel4Error} : answerOf r = .accept ↔ r = none := by
  unfold answerOf
  split <;> simp

theorem answerOf_decline {r : Option Sel4Error} : answerOf r = .decline ↔ r = some .notEnoughMemory := by
  unfold answerOf
  split <;> simp_all

theorem answerOf_abort {r : Option Sel4Error} {e : Sel4Error} :
    answerOf r = .abort e ↔ r = some e ∧ e ≠ .notEnoughMemory := by
  unfold answerOf
  split <;> grind

/-- The outcome of a search, and the kernel it leaves. -/
def conclude (slot : Nat) (k : ObjectStore) (log : List Invocation) :
    Search Sel4Error Nat × List Nat → Outcome BootstrapError Nat × ObjectStore
  | (.found _, attempts)   =>
      (.ok slot, { k.create blueprint slot with log := recorded h blueprint slot log attempts })
  | (.failed _, attempts)  =>
      (.err .kernelAllocationFailed, { k with log := recorded h blueprint slot log attempts })
  | (.exhausted, attempts) =>
      (.err .noKernelMemory, { k with log := recorded h blueprint slot log attempts })

variable {h blueprint}

theorem recorded_concat (slot : Nat) (log : List Invocation) (tried : List Nat) (index : Nat) :
    recorded h blueprint slot log (tried ++ [index]) =
      retypeAt h blueprint slot index :: recorded h blueprint slot log tried := by
  simp [recorded]

/-- A retype creates the object, or leaves only its record. -/
theorem invoke_retype {slot index : Nat} {log : List Invocation} {tried : List Nat} {k : ObjectStore}
    (hlog : k.log = recorded h blueprint slot log tried) :
    invoke h.machine (retypeAt h blueprint slot index) k =
      match reply h blueprint slot log tried index with
      | none   => (.ok (), { k.create blueprint slot with
          log := recorded h blueprint slot log (tried ++ [index]) })
      | some e => (.err e, { k with log := recorded h blueprint slot log (tried ++ [index]) }) := by
  rw [recorded_concat, ← hlog]
  unfold reply invoke
  rw [hlog]
  cases h.machine.refuses (recorded h blueprint slot log tried) (retypeAt h blueprint slot index) with
  | none => rfl
  | some refusal => rfl

/-- **The loop is a first-fit search** over the suitable candidates. -/
theorem retypeFirst_eq (slot : Nat) (log : List Invocation) (candidates : List (UntypedDescriptor × Nat))
    (tried : List Nat) (k : ObjectStore) :
    retypeFirst h blueprint slot candidates { k with log := recorded h blueprint slot log tried } =
      conclude h blueprint slot k log
        (firstFit (fun tried index => answerOf (reply h blueprint slot log tried index)) tried
          (suitable h blueprint candidates)) := by
  induction candidates generalizing tried with
  | nil => rfl
  | cons candidate rest ih =>
      obtain ⟨descriptor, index⟩ := candidate
      unfold retypeFirst
      by_cases hsuitable : Suitable h blueprint descriptor
      · have hskip : ¬ (descriptor.isDevice = true ∨
            descriptor.sizeBits < h.machine.physicalSizeBits blueprint) := by
          obtain ⟨hdevice, hsize⟩ := hsuitable
          simp [hdevice, hsize]
        have hcons : suitable h blueprint ((descriptor, index) :: rest) =
            index :: suitable h blueprint rest := by
          simp [suitable, hsuitable]
        rw [if_neg hskip, hcons, firstFit]
        have hinvoke : invoke h.machine (retypeAt h blueprint slot index)
          { k with log := recorded h blueprint slot log tried } = _ := invoke_retype rfl
        cases hreply : reply h blueprint slot log tried index with
        | none =>
            rw [hreply] at hinvoke
            exact Prog.run_bind_ok (Prog.run_attempt_ok BootstrapError hinvoke)
        | some e =>
            rw [hreply] at hinvoke
            refine (Prog.run_bind_ok (Prog.run_attempt_err BootstrapError hinvoke)).trans ?_
            -- only a lack of memory lets the loop go on
            cases e with
            | notEnoughMemory => exact ih (tried ++ [index])
            | _ => rfl
      · have hskip : descriptor.isDevice = true ∨
            descriptor.sizeBits < h.machine.physicalSizeBits blueprint := by
          unfold Suitable at hsuitable
          by_cases hdevice : descriptor.isDevice = true
          · exact Or.inl hdevice
          · simp only [Bool.not_eq_true] at hdevice
            exact Or.inr (Nat.lt_of_not_le fun hsize => hsuitable ⟨hdevice, hsize⟩)
        have hcons : suitable h blueprint ((descriptor, index) :: rest) = suitable h blueprint rest := by
          simp [suitable, hsuitable]
        rw [if_pos hskip, hcons]
        exact ih tried

/-! ## The allocation -/

section TryAllocate

variable {α : Type} {create : Nat → Prog BootstrapError ObjectStore α} {s : BootState} {k : ObjectStore}

theorem tryAllocate_ok (hav : s.slots.Available) {a : α} (hrun : create s.slots.start s.kernel = (.ok a, k)) :
    tryAllocate create s = (.ok (some a), ⟨s.slots.next hav, k⟩) := by
  rw [tryAllocate, FreeSlots.tryAllocate_of_available hav, Prog.run_bind_ok hrun]
  rfl

theorem tryAllocate_err (hav : s.slots.Available) {e : BootstrapError}
    (hrun : create s.slots.start s.kernel = (.err e, k)) :
    tryAllocate create s = (.err e, { s with kernel := k }) := by
  rw [tryAllocate, FreeSlots.tryAllocate_of_available hav, Prog.run_bind_err hrun]

theorem tryAllocate_none (hav : ¬ s.slots.Available) : tryAllocate create s = (.ok none, s) := by
  rw [tryAllocate, FreeSlots.tryAllocate_of_empty hav]
  rfl

end TryAllocate

variable (h blueprint) (s : BootState)

/-- The reply to the attempt on an eligible descriptor, into the allocator's next slot, after those of
    `tried`. -/
def replyAt (tried : List Nat) (index : Nat) : Option Sel4Error :=
  reply h blueprint s.slots.start s.kernel.log tried index

/-- Tried in order, all of `before` are answered with a lack of memory. -/
def OutOfMemory (before : List Nat) : Prop :=
  ∀ p index q, before = p ++ index :: q → replyAt h blueprint s p index = some .notEnoughMemory

/-- The search for an Untyped. -/
def search : Search Sel4Error Nat × List Nat :=
  firstFit (fun tried index => answerOf (replyAt h blueprint s tried index)) [] (eligible h blueprint)

theorem declined_iff {before : List Nat} :
    Declined (fun tried index => answerOf (replyAt h blueprint s tried index)) [] before ↔
      OutOfMemory h blueprint s before := by
  simp only [Declined, OutOfMemory, List.nil_append, answerOf_decline]

section Judged

variable {h blueprint s} {outcome : Search Sel4Error Nat} {attempts : List Nat}
  (hsearch : search h blueprint s = (outcome, attempts))

include hsearch

theorem search_found :
    (∃ index, outcome = .found index) ↔
      ∃ before index after, eligible h blueprint = before ++ index :: after ∧
        OutOfMemory h blueprint s before ∧ replyAt h blueprint s before index = none := by
  constructor
  · rintro ⟨index, rfl⟩
    obtain ⟨before, after, hsplit, hbefore, hindex, -⟩ := firstFit_found.mp hsearch
    exact ⟨before, index, after, hsplit, (declined_iff h blueprint s).mp hbefore, answerOf_accept.mp hindex⟩
  · rintro ⟨before, index, after, hsplit, hbefore, hindex⟩
    have hfound := firstFit_found.mpr ⟨before, after, hsplit, (declined_iff h blueprint s).mpr hbefore,
      answerOf_accept.mpr hindex, rfl⟩
    exact ⟨index, (Prod.mk.inj (hsearch.symm.trans hfound)).1⟩

theorem search_failed :
    (∃ e, outcome = .failed e) ↔
      ∃ before index after e, eligible h blueprint = before ++ index :: after ∧
        OutOfMemory h blueprint s before ∧ replyAt h blueprint s before index = some e ∧
        e ≠ .notEnoughMemory := by
  constructor
  · rintro ⟨e, rfl⟩
    obtain ⟨before, index, after, hsplit, hbefore, hindex, -⟩ := firstFit_failed.mp hsearch
    exact ⟨before, index, after, e, hsplit, (declined_iff h blueprint s).mp hbefore,
      answerOf_abort.mp hindex⟩
  · rintro ⟨before, index, after, e, hsplit, hbefore, hindex⟩
    have hfailed := firstFit_failed.mpr ⟨before, index, after, hsplit,
      (declined_iff h blueprint s).mpr hbefore, answerOf_abort.mpr hindex, rfl⟩
    exact ⟨e, (Prod.mk.inj (hsearch.symm.trans hfailed)).1⟩

theorem search_exhausted : outcome = .exhausted ↔ OutOfMemory h blueprint s (eligible h blueprint) := by
  rw [← declined_iff]
  constructor
  · rintro rfl
    exact (firstFit_exhausted.mp hsearch).1
  · intro hall
    have hexhausted := firstFit_exhausted.mpr ⟨hall, rfl⟩
    exact (Prod.mk.inj (hsearch.symm.trans hexhausted)).1

/-- Only eligible descriptors are tried, each at most once and in list order. -/
theorem search_attempts :
    attempts <+: eligible h blueprint ∧ attempts.Pairwise (· < ·) ∧
      ∀ index ∈ attempts, Eligible h blueprint index := by
  obtain ⟨made, hmade, hinitial⟩ := firstFit_attempts
    (fun tried index => answerOf (replyAt h blueprint s tried index)) [] (eligible h blueprint)
  have hattempts : attempts = made := (congrArg Prod.snd hsearch).symm.trans hmade
  subst hattempts
  refine ⟨hinitial, (eligible_sorted h blueprint).sublist hinitial.sublist, ?_⟩
  intro index hindex
  exact (mem_eligible h blueprint).mp (hinitial.subset hindex)

end Judged

/-- What an allocation from `s` with this outcome did: which retypes it attempted, when it has which outcome,
    and what became of the slot. -/
structure FirstFit (outcome : Outcome BootstrapError Nat) (s' : BootState) : Prop where
  attempts : ∃ attempts, s'.kernel.log = recorded h blueprint s.slots.start s.kernel.log attempts ∧
    attempts <+: eligible h blueprint ∧ attempts.Pairwise (· < ·) ∧
    ∀ index ∈ attempts, Eligible h blueprint index
  ok : (∃ slot, outcome = .ok slot) ↔ s.slots.Available ∧
    ∃ before index after, eligible h blueprint = before ++ index :: after ∧
      OutOfMemory h blueprint s before ∧ replyAt h blueprint s before index = none
  noKernelMemory : outcome = .err .noKernelMemory ↔
    s.slots.Available ∧ OutOfMemory h blueprint s (eligible h blueprint)
  kernelAllocationFailed : outcome = .err .kernelAllocationFailed ↔ s.slots.Available ∧
    ∃ before index after e, eligible h blueprint = before ++ index :: after ∧
      OutOfMemory h blueprint s before ∧ replyAt h blueprint s before index = some e ∧ e ≠ .notEnoughMemory
  noFreeSlots : outcome = .err .noFreeSlots ↔ ¬ s.slots.Available
  unattempted : outcome = .err .noFreeSlots → s'.kernel.log = s.kernel.log
  returns : (∃ slot, outcome = .ok slot) ∨ outcome = .err .noKernelMemory ∨
    outcome = .err .kernelAllocationFailed ∨ outcome = .err .noFreeSlots
  advanced : ∀ slot, outcome = .ok slot → slot = s.slots.start ∧ s'.slots.first = s.slots.first ∧
    s'.slots.start = s.slots.start + 1 ∧ s'.slots.stop = s.slots.stop
  kept : ∀ e, outcome = .err e → s'.slots = s.slots

variable {s}

/-- With a slot, the allocation does what the search says. -/
theorem allocateBlueprint_of_available (hav : s.slots.Available) :
    allocateBlueprint h blueprint s =
      match search h blueprint s with
      | (.found _, attempts)   => (.ok s.slots.start, ⟨s.slots.next hav,
          { s.kernel.create blueprint s.slots.start with
            log := recorded h blueprint s.slots.start s.kernel.log attempts }⟩)
      | (.failed _, attempts)  => (.err .kernelAllocationFailed, { s with kernel :=
          { s.kernel with log := recorded h blueprint s.slots.start s.kernel.log attempts } })
      | (.exhausted, attempts) => (.err .noKernelMemory, { s with kernel :=
          { s.kernel with log := recorded h blueprint s.slots.start s.kernel.log attempts } }) := by
  have hloop : retypeFirst h blueprint s.slots.start (candidates h) s.kernel =
      conclude h blueprint s.slots.start s.kernel s.kernel.log (search h blueprint s) :=
    retypeFirst_eq s.slots.start s.kernel.log (candidates h) [] s.kernel
  match hsearch : search h blueprint s with
  | (.found index, attempts) =>
      rw [hsearch] at hloop
      exact Prog.run_bind_ok (tryAllocate_ok hav hloop)
  | (.failed e, attempts) =>
      rw [hsearch] at hloop
      exact Prog.run_bind_err (tryAllocate_err hav hloop)
  | (.exhausted, attempts) =>
      rw [hsearch] at hloop
      exact Prog.run_bind_err (tryAllocate_err hav hloop)

/-- Without one it attempts nothing. -/
theorem allocateBlueprint_of_empty (hav : ¬ s.slots.Available) :
    allocateBlueprint h blueprint s = (.err .noFreeSlots, s) :=
  Prog.run_bind_ok (tryAllocate_none hav)

section Outcomes

variable {h blueprint} {attempts : List Nat} (hav : s.slots.Available)

include hav

/-- Some eligible Untyped was retyped. -/
theorem firstFit_of_found {index : Nat} (hsearch : search h blueprint s = (.found index, attempts)) :
    FirstFit h blueprint s (allocateBlueprint h blueprint s).1 (allocateBlueprint h blueprint s).2 := by
  rw [allocateBlueprint_of_available h blueprint hav, hsearch]
  exact {
    attempts := ⟨attempts, rfl, search_attempts hsearch⟩
    ok := iff_of_true ⟨_, rfl⟩ ⟨hav, (search_found hsearch).mp ⟨index, rfl⟩⟩
    noKernelMemory := by
      rw [← search_exhausted hsearch]
      simp
    kernelAllocationFailed := by
      rw [← search_failed hsearch]
      simp
    noFreeSlots := by simp [hav]
    unattempted := nofun
    returns := Or.inl ⟨_, rfl⟩
    advanced := by
      intro slot hslot
      exact ⟨(Outcome.ok.inj hslot).symm, rfl, rfl, rfl⟩
    kept := nofun }

/-- A retype failed for another reason. -/
theorem firstFit_of_failed {e : Sel4Error} (hsearch : search h blueprint s = (.failed e, attempts)) :
    FirstFit h blueprint s (allocateBlueprint h blueprint s).1 (allocateBlueprint h blueprint s).2 := by
  rw [allocateBlueprint_of_available h blueprint hav, hsearch]
  exact {
    attempts := ⟨attempts, rfl, search_attempts hsearch⟩
    ok := by
      rw [← search_found hsearch]
      simp
    noKernelMemory := by
      rw [← search_exhausted hsearch]
      simp
    kernelAllocationFailed := iff_of_true rfl ⟨hav, (search_failed hsearch).mp ⟨e, rfl⟩⟩
    noFreeSlots := by simp [hav]
    unattempted := nofun
    returns := Or.inr (Or.inr (Or.inl rfl))
    advanced := nofun
    kept := fun _ _ => rfl }

/-- Every eligible Untyped is used up, or there is none. -/
theorem firstFit_of_exhausted (hsearch : search h blueprint s = (.exhausted, attempts)) :
    FirstFit h blueprint s (allocateBlueprint h blueprint s).1 (allocateBlueprint h blueprint s).2 := by
  rw [allocateBlueprint_of_available h blueprint hav, hsearch]
  exact {
    attempts := ⟨attempts, rfl, search_attempts hsearch⟩
    ok := by
      rw [← search_found hsearch]
      simp
    noKernelMemory := iff_of_true rfl ⟨hav, (search_exhausted hsearch).mp rfl⟩
    kernelAllocationFailed := by
      rw [← search_failed hsearch]
      simp
    noFreeSlots := by simp [hav]
    unattempted := nofun
    returns := Or.inr (Or.inl rfl)
    advanced := nofun
    kept := fun _ _ => rfl }

omit hav in
/-- There is no slot. -/
theorem firstFit_of_empty (hav : ¬ s.slots.Available) :
    FirstFit h blueprint s (allocateBlueprint h blueprint s).1 (allocateBlueprint h blueprint s).2 := by
  rw [allocateBlueprint_of_empty h blueprint hav]
  exact {
    attempts := ⟨[], rfl, List.nil_prefix, List.Pairwise.nil, nofun⟩
    ok := by simp [hav]
    noKernelMemory := by simp [hav]
    kernelAllocationFailed := by simp [hav]
    noFreeSlots := by simp [hav]
    unattempted := fun _ => rfl
    returns := Or.inr (Or.inr (Or.inr rfl))
    advanced := nofun
    kept := fun _ _ => rfl }

end Outcomes

end Bootstrap
end Ricoq
