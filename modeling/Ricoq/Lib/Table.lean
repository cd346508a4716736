import Mathlib.Logic.Function.Basic

/-!
# `Lib.Table` — tables of optional entries

A table is a function into `Option`; an entry is added or removed with `Function.update`. What such an
update leaves present is said once here.

Nothing in this file mentions a particular program.
-/

namespace Ricoq

variable {κ α : Type} [DecidableEq κ] {table : κ → Option α} {k i : κ} {a b : α}

/-- After an insertion an entry is the inserted one or an older one under another key. -/
theorem update_some_eq_some :
    Function.update table k (some a) i = some b ↔ (i = k ∧ b = a) ∨ (i ≠ k ∧ table i = some b) := by
  by_cases hi : i = k
  · rw [hi, Function.update_self]
    simp [eq_comm]
  · rw [Function.update_of_ne hi]
    simp [hi]

/-- After a removal only entries under other keys are left. -/
theorem update_none_eq_some :
    Function.update table k none i = some b ↔ i ≠ k ∧ table i = some b := by
  by_cases hi : i = k
  · rw [hi, Function.update_self]
    simp
  · rw [Function.update_of_ne hi]
    simp [hi]

end Ricoq
