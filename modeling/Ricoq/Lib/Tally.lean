import Mathlib.Algebra.BigOperators.Group.Finset.Basic
import Mathlib.Algebra.Order.Group.Multiset
import Mathlib.Logic.Function.Basic
import Mathlib.Tactic.Abel

/-!
# `Lib.Tally` — what the entries of a table amount to

A table of numbered entries that are filled one after the other and emptied in any order. `tally` adds up what
the filled ones among the first `n` stand for, as a multiset: filling an entry adds to it, emptying one takes
away from it. `balance_append` is for books that are kept along a run.

Nothing in this file mentions a particular program.
-/

namespace Ricoq

variable {α β : Type} {value : β → Multiset α} {table : ℕ → Option β} {n i : ℕ} {b : β}

/-- What an entry amounts to, if it is filled. -/
def entryValue (value : β → Multiset α) : Option β → Multiset α
  | some b => value b
  | none   => 0

/-- What the first entries of a table amount to. -/
def tally (value : β → Multiset α) (table : ℕ → Option β) (n : ℕ) : Multiset α :=
  ∑ i ∈ Finset.range n, entryValue value (table i)

/-- Only the values of filled entries matter. -/
theorem tally_congr {value' : β → Multiset α} (hsame : ∀ i b, table i = some b → value b = value' b) :
    tally value table n = tally value' table n := by
  apply Finset.sum_congr rfl
  intro i _
  cases hb : table i with
  | none => rfl
  | some b => exact hsame i b hb

theorem tally_of_none (hnone : ∀ i, table i = none) : tally value table n = 0 := by
  apply Finset.sum_eq_zero
  intro i _
  rw [hnone i]
  rfl

/-- Entries past the end do not matter. -/
theorem tally_update_of_le (hle : n ≤ i) (entry : Option β) :
    tally value (Function.update table i entry) n = tally value table n := by
  apply Finset.sum_congr rfl
  intro j hj
  have hlt := Finset.mem_range.mp hj
  rw [Function.update_of_ne (by omega)]

/-- One more entry that is not filled. -/
theorem tally_succ_of_none (hnone : table n = none) : tally value table (n + 1) = tally value table n := by
  rw [tally, Finset.sum_range_succ, hnone]
  exact add_zero _

/-- One more entry that is filled. -/
theorem tally_succ_update :
    tally value (Function.update table n (some b)) (n + 1) = tally value table n + value b := by
  rw [tally, Finset.sum_range_succ, Function.update_self]
  congr 1
  exact tally_update_of_le (Nat.le_refl n) _

/-- An entry is emptied. -/
theorem tally_eq_add_update (hb : table i = some b) (hlt : i < n) :
    tally value table n = value b + tally value (Function.update table i none) n := by
  have hmem : i ∈ Finset.range n := Finset.mem_range.mpr hlt
  have hbefore := Finset.add_sum_erase (Finset.range n) (fun j => entryValue value (table j)) hmem
  have hafter := Finset.add_sum_erase (Finset.range n)
    (fun j => entryValue value (Function.update table i none j)) hmem
  rw [hb] at hbefore
  rw [Function.update_self] at hafter
  have hsame : ∑ j ∈ (Finset.range n).erase i, entryValue value (Function.update table i none j) =
      ∑ j ∈ (Finset.range n).erase i, entryValue value (table j) := by
    apply Finset.sum_congr rfl
    intro j hj
    rw [Function.update_of_ne (Finset.ne_of_mem_erase hj)]
  rw [tally, tally, ← hbefore, ← hafter, hsame]
  show _ = value b + (0 + _)
  rw [zero_add]
  rfl

/-- What a table amounts to is what some filled entry amounts to. -/
theorem mem_tally {a : α} : a ∈ tally value table n ↔ ∃ i < n, ∃ b, table i = some b ∧ a ∈ value b := by
  unfold tally
  rw [Multiset.mem_sum]
  constructor
  · rintro ⟨i, hi, ha⟩
    cases hb : table i with
    | none =>
        rw [hb] at ha
        cases ha
    | some b =>
        rw [hb] at ha
        exact ⟨i, Finset.mem_range.mp hi, b, hb, ha⟩
  · rintro ⟨i, hlt, b, hb, ha⟩
    refine ⟨i, Finset.mem_range.mpr hlt, ?_⟩
    rw [hb]
    exact ha

/-! ## Books -/

/-- Books that balance are carried on: what comes in is there afterwards or on one of the two lists of what went
    out. -/
theorem balance_append {now before : Multiset α} {asks out out' asked gone gone' : List α}
    (hstep : now + (out + out' : Multiset α) = asks + before) (hbefore : before + (gone + gone' : Multiset α) = asked) :
    now + (↑(out ++ gone) + ↑(out' ++ gone') : Multiset α) = ↑(asks ++ asked) := by
  simp only [← Multiset.coe_add]
  calc now + (out + gone + (out' + gone') : Multiset α)
      = now + (out + out' : Multiset α) + (gone + gone' : Multiset α) := by abel
    _ = asks + before + (gone + gone' : Multiset α) := by rw [hstep]
    _ = asks + asked := by rw [add_assoc, hbefore]

end Ricoq
