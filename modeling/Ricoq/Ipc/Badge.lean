import Ricoq.Lib.Word
import Ricoq.Ipc.Endpoint

/-!
# `Ipc.Badge` — badge allocation

`BadgeSequence` counts upwards from a nonzero start and stops before the count would overflow;
`BadgeAllocator` hands its values out as badges. The conversions between `usize`, the target word and `Badge`
on the way are written out, as a badge that failed one of them would be lost: the sequence has moved on by then.
-/

namespace Ricoq

/-- A `usize`. -/
abbrev Usize : Type := { n : Nat // n ≤ wordMax }

/-- `usize::try_from(word)`. -/
def usizeTryFrom (word : Word) : Option Usize :=
  if h : word.toNat ≤ wordMax then some ⟨word.toNat, h⟩ else none

/-- `sel4::Word::try_from(n)`. -/
def wordTryFrom (n : Usize) : Option Word := if n.val < 2 ^ 64 then some (BitVec.ofNat 64 n.val) else none

/-- Monotonic nonzero badge allocation with explicit exhaustion. -/
structure BadgeSequence where
  next : Usize
  next_ne : next.val ≠ 0
deriving DecidableEq

namespace BadgeSequence

def new (first : Usize) : Option BadgeSequence :=
  if h : first.val ≠ 0 then some ⟨first, h⟩ else none

/-- The next badge, and the sequence afterwards. -/
def allocate (sequence : BadgeSequence) : Option Usize × BadgeSequence :=
  match h : (checkedAdd sequence.next.val 1).filter (· ≠ 0) with
  | some next =>
      have hnext := Option.filter_eq_some_iff.mp h
      (some sequence.next,
        ⟨⟨next, by
          obtain ⟨hle, heq⟩ := checkedAdd_eq_some.mp hnext.1
          rw [heq]
          exact hle⟩, by simpa using hnext.2⟩)
  | none => (none, sequence)

end BadgeSequence

/-- Failure to configure or advance a unique badge sequence. -/
inductive BadgeAllocationError where
  | invalidStart
  | exhausted
deriving DecidableEq, Repr

/-- A monotonic allocator for unambiguous capability-path badges. -/
structure BadgeAllocator where
  sequence : BadgeSequence
deriving DecidableEq

namespace BadgeAllocator

/-- Starts a badge sequence at a validated nonzero value. -/
def new (first : Word) : Except BadgeAllocationError BadgeAllocator :=
  match usizeTryFrom first with
  | none => .error .invalidStart
  | some first =>
      match BadgeSequence.new first with
      | none          => .error .invalidStart
      | some sequence => .ok ⟨sequence⟩

/-- Allocates a badge that has not previously been returned by this allocator. -/
def allocate (allocator : BadgeAllocator) : Except BadgeAllocationError Badge × BadgeAllocator :=
  match allocator.sequence.allocate with
  | (none, sequence) => (.error .exhausted, ⟨sequence⟩)
  | (some raw, sequence) =>
      match wordTryFrom raw with
      | none => (.error .exhausted, ⟨sequence⟩)
      | some raw =>
          match Badge.new raw with
          | none       => (.error .exhausted, ⟨sequence⟩)
          | some badge => (.ok badge, ⟨sequence⟩)

/-- The results of a number of calls in a row, and the allocator after them. -/
def calls : Nat → BadgeAllocator → List (Except BadgeAllocationError Badge) × BadgeAllocator
  | 0, allocator => ([], allocator)
  | n + 1, allocator =>
      ((allocator.allocate).1 :: (calls n allocator.allocate.2).1, (calls n allocator.allocate.2).2)

end BadgeAllocator

/-! ## One call -/

theorem wordTryFrom_eq (n : Usize) : wordTryFrom n = some (BitVec.ofNat 64 n.val) := by
  have hlt : n.val < 2 ^ 64 := Nat.lt_of_le_of_lt n.2 (by decide)
  rw [wordTryFrom, if_pos hlt]

/-- A nonzero `usize` is the raw value of a badge. -/
theorem badge_of_usize (n : Usize) (hne : n.val ≠ 0) :
    ∃ badge, Badge.new (BitVec.ofNat 64 n.val) = some badge ∧ badge.raw.toNat = n.val := by
  have hlt : n.val < 2 ^ 64 := Nat.lt_of_le_of_lt n.2 (by decide)
  have hnat : (BitVec.ofNat 64 n.val).toNat = n.val := by
    rw [BitVec.toNat_ofNat, Nat.mod_eq_of_lt hlt]
  have hraw : BitVec.ofNat 64 n.val ≠ 0 := by
    intro hzero
    rw [hzero] at hnat
    exact hne hnat.symm
  exact ⟨⟨_, hraw⟩, dif_neg hraw, hnat⟩

namespace BadgeSequence

variable {sequence : BadgeSequence}

/-- Below the largest word the sequence moves on by one. -/
theorem allocate_of_lt (h : sequence.next.val < wordMax) :
    ∃ sequence', sequence.allocate = (some sequence.next, sequence') ∧
      sequence'.next.val = sequence.next.val + 1 := by
  have hadd : (checkedAdd sequence.next.val 1).filter (· ≠ 0) = some (sequence.next.val + 1) := by
    rw [checkedAdd_of_le h]
    simp
  unfold allocate
  split
  · rename_i next hnext
    obtain rfl := Option.some.inj (hadd.symm.trans hnext)
    exact ⟨_, rfl, rfl⟩
  · rename_i hnone
    exact nomatch hadd.symm.trans hnone

/-- At the largest word it stays. -/
theorem allocate_of_eq (h : sequence.next.val = wordMax) : sequence.allocate = (none, sequence) := by
  have hadd : (checkedAdd sequence.next.val 1).filter (· ≠ 0) = none := by
    rw [h]
    rfl
  unfold allocate
  split
  · rename_i next hnext
    exact nomatch hadd.symm.trans hnext
  · rfl

/-- What the sequence gives out is its counter. -/
theorem allocate_some {raw : Usize} {sequence' : BadgeSequence}
    (h : sequence.allocate = (some raw, sequence')) : raw = sequence.next := by
  by_cases hlt : sequence.next.val < wordMax
  · obtain ⟨_, hsome, -⟩ := allocate_of_lt hlt
    exact Option.some.inj (Prod.mk.inj (h.symm.trans hsome)).1
  · have heq : sequence.next.val = wordMax := Nat.le_antisymm sequence.next.2 (Nat.not_lt.mp hlt)
    exact nomatch (Prod.mk.inj (h.symm.trans (allocate_of_eq heq))).1

end BadgeSequence

namespace BadgeAllocator

variable {allocator : BadgeAllocator}

/-- Whatever the sequence gives out becomes a badge. -/
theorem allocate_of_sequence {raw : Usize} {sequence : BadgeSequence}
    (h : allocator.sequence.allocate = (some raw, sequence)) (hne : raw.val ≠ 0) :
    ∃ badge, allocator.allocate = (.ok badge, ⟨sequence⟩) ∧ badge.raw.toNat = raw.val := by
  obtain ⟨badge, hbadge, hraw⟩ := badge_of_usize raw hne
  refine ⟨badge, ?_, hraw⟩
  simp only [allocate, h, wordTryFrom_eq, hbadge]

theorem allocate_of_lt (h : allocator.sequence.next.val < wordMax) :
    ∃ badge allocator', allocator.allocate = (.ok badge, allocator') ∧
      badge.raw.toNat = allocator.sequence.next.val ∧
      allocator'.sequence.next.val = allocator.sequence.next.val + 1 := by
  obtain ⟨sequence, hsequence, hnext⟩ := BadgeSequence.allocate_of_lt h
  obtain ⟨badge, hbadge, hraw⟩ := allocate_of_sequence hsequence allocator.sequence.next_ne
  exact ⟨badge, ⟨sequence⟩, hbadge, hraw, hnext⟩

theorem allocate_of_eq (h : allocator.sequence.next.val = wordMax) :
    allocator.allocate = (.error .exhausted, allocator) := by
  simp only [allocate, BadgeSequence.allocate_of_eq h]

end BadgeAllocator
end Ricoq
