import Ricoq.Lib.Word
import Ricoq.Lib.Prog

/-!
# `Boot.FreeSlots` — sequential allocation of slot indices

The allocator hands out the indices of one range in order. `tryAllocate` runs a creation callback on the next
index and commits the index only if the callback returns; `rewind` takes back everything allocated since a
checkpoint. Whether the slots behind the indices are empty is the caller's business.
-/

namespace Ricoq

/-- An allocator over a range of indices: `first` is where the range began, `start .. stop` is what remains.
    The range may be empty or reversed. -/
@[ext]
structure FreeSlots where
  first : Nat
  start : Nat
  stop : Nat
  first_le : first ≤ start
  start_le : start ≤ wordMax
  stop_le : stop ≤ wordMax

/-- A range of machine words. -/
structure SlotRange where
  start : Nat
  stop : Nat
  start_le : start ≤ wordMax
  stop_le : stop ≤ wordMax

namespace FreeSlots

variable {ε σ α : Type}

def new (remaining : SlotRange) : FreeSlots :=
  ⟨remaining.start, remaining.start, remaining.stop, Nat.le_refl _, remaining.start_le, remaining.stop_le⟩

/-- The allocator with `next` as the next index. -/
def withStart (slots : FreeSlots) (next : Nat) (hfirst : slots.first ≤ next) (hle : next ≤ wordMax) :
    FreeSlots :=
  { slots with start := next, first_le := hfirst, start_le := hle }

/-- Commits an index only when creation succeeds; errors leave it available. The second component is the
    allocator afterwards. -/
def tryAllocate (slots : FreeSlots) (create : Nat → Prog ε σ α) : Prog ε σ (Option α × FreeSlots) :=
  if slots.stop ≤ slots.start then
    pure (none, slots)
  else if hnext : slots.start + 1 ≤ wordMax then do
    let value ← create slots.start
    return (some value, slots.withStart (slots.start + 1) (Nat.le_succ_of_le slots.first_le) hnext)
  else
    pure (none, slots)

/-- Captures the next index so that a multi-object operation can be rolled back. -/
def checkpoint (slots : FreeSlots) : Nat := slots.start

/-- Reserves a contiguous range; nothing changes when it does not fit. -/
def reserve (slots : FreeSlots) (count : Nat) : Option ((Nat × Nat) × FreeSlots) :=
  if hend : slots.start + count ≤ wordMax then
    if slots.start + count > slots.stop then
      none
    else
      some ((slots.start, slots.start + count),
        slots.withStart (slots.start + count) (Nat.le_add_right_of_le slots.first_le) hend)
  else
    none

/-- The indices committed after a valid checkpoint. -/
def allocatedSince (slots : FreeSlots) (checkpoint : Nat) : Option (Nat × Nat) :=
  if slots.first ≤ checkpoint ∧ checkpoint ≤ slots.start then some (checkpoint, slots.start) else none

/-- Restores a checkpoint after the caller has emptied every later slot. -/
def rewind (slots : FreeSlots) (checkpoint : Nat) : Bool × FreeSlots :=
  if h : slots.first ≤ checkpoint ∧ checkpoint ≤ slots.start then
    (true, slots.withStart checkpoint h.1 (Nat.le_trans h.2 slots.start_le))
  else
    (false, slots)

/-! ## What the operations return -/

/-- An index is available. -/
def Available (slots : FreeSlots) : Prop := slots.start < slots.stop

theorem next_le {slots : FreeSlots} (h : slots.Available) : slots.start + 1 ≤ wordMax :=
  Nat.le_trans h slots.stop_le

/-- The allocator after one commit. -/
def next (slots : FreeSlots) (h : slots.Available) : FreeSlots :=
  slots.withStart (slots.start + 1) (Nat.le_succ_of_le slots.first_le) (next_le h)

/-- Without an index the callback does not run. -/
theorem tryAllocate_of_empty {slots : FreeSlots} (h : ¬ slots.Available) (create : Nat → Prog ε σ α) :
    slots.tryAllocate create = pure (none, slots) := if_pos (Nat.not_lt.mp h)

/-- With an index the callback runs on it, and its success is what commits the index. -/
theorem tryAllocate_of_available {slots : FreeSlots} (h : slots.Available) (create : Nat → Prog ε σ α) :
    slots.tryAllocate create = (do
      let value ← create slots.start
      return (some value, slots.next h)) := by
  unfold tryAllocate
  rw [if_neg (Nat.not_le.mpr h), dif_pos (next_le h)]
  rfl

theorem reserve_eq_some {slots slots' : FreeSlots} {count : Nat} {range : Nat × Nat} :
    slots.reserve count = some (range, slots') ↔
      slots.start + count ≤ slots.stop ∧ range = (slots.start, slots.start + count) ∧
      slots'.first = slots.first ∧ slots'.start = slots.start + count ∧ slots'.stop = slots.stop := by
  have hstop := slots.stop_le
  unfold reserve
  by_cases hfit : slots.start + count ≤ slots.stop
  · have hend : slots.start + count ≤ wordMax := Nat.le_trans hfit hstop
    rw [dif_pos hend, if_neg (Nat.not_lt.mpr hfit)]
    obtain ⟨f, s, e, _, _, _⟩ := slots'
    simp only [withStart, Option.some.injEq, Prod.mk.injEq, FreeSlots.mk.injEq, hfit, true_and]
    constructor
    · rintro ⟨hrange, hf, hs, he⟩
      exact ⟨hrange.symm, hf.symm, hs.symm, he.symm⟩
    · rintro ⟨hrange, hf, hs, he⟩
      exact ⟨hrange.symm, hf.symm, hs.symm, he.symm⟩
  · by_cases hend : slots.start + count ≤ wordMax
    · rw [dif_pos hend, if_pos (Nat.not_le.mp hfit)]
      simp [hfit]
    · rw [dif_neg hend]
      simp [hfit]

/-- A checkpoint between the beginning of the range and the next index is valid. -/
theorem allocatedSince_of_le {slots : FreeSlots} {checkpoint : Nat} (hfirst : slots.first ≤ checkpoint)
    (hle : checkpoint ≤ slots.start) : slots.allocatedSince checkpoint = some (checkpoint, slots.start) :=
  if_pos ⟨hfirst, hle⟩

theorem rewind_of_le {slots : FreeSlots} {checkpoint : Nat} (hfirst : slots.first ≤ checkpoint)
    (hle : checkpoint ≤ slots.start) :
    slots.rewind checkpoint =
      (true, slots.withStart checkpoint hfirst (Nat.le_trans hle slots.start_le)) :=
  dif_pos ⟨hfirst, hle⟩

end FreeSlots
end Ricoq
