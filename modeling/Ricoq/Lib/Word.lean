import Mathlib.Algebra.Group.Nat.Defs

/-!
# `Lib.Word` — 64-bit machine words and checked arithmetic

Data words are bit vectors. Sizes, indices and addresses are natural numbers with the overflow checks the
code performs written out: `checkedAdd a b` is `none` exactly when the sum does not fit a word. A `usize` is a
machine word here, so a conversion from one to the other always succeeds and is not written out, except for
badges, where it matters what a failed one would lose; a conversion to a narrower type is (`tryFromU32`).
-/

namespace Ricoq

/-- A machine word of the 64-bit target. -/
abbrev Word := BitVec 64

/-- The number of bits in a machine word. -/
def wordBits : Nat := 64

/-- The largest machine word. -/
def wordMax : Nat := 2 ^ wordBits - 1

/-- `a.checked_add(b)`. -/
def checkedAdd (a b : Nat) : Option Nat := if a + b ≤ wordMax then some (a + b) else none

/-- `a.checked_shl(shift)`: `none` when the shift is not below the word size; bits shifted out are lost. -/
def checkedShl (a shift : Nat) : Option Nat :=
  if shift < wordBits then some (a * 2 ^ shift % 2 ^ wordBits) else none

/-- `u32::try_from(a)`. -/
def tryFromU32 (a : Nat) : Option Nat := if a < 2 ^ 32 then some a else none

/-- `a.is_power_of_two()`. -/
def isPowerOfTwo (a : Nat) : Bool := a == 2 ^ a.log2

theorem checkedAdd_eq_some {a b c : Nat} : checkedAdd a b = some c ↔ a + b ≤ wordMax ∧ c = a + b := by
  unfold checkedAdd
  by_cases h : a + b ≤ wordMax
  · simp [h, eq_comm]
  · simp [h]

theorem checkedAdd_isNone {a b : Nat} : (checkedAdd a b).isNone ↔ wordMax < a + b := by
  unfold checkedAdd
  by_cases h : a + b ≤ wordMax
  · simp [h, Nat.not_lt.mpr h]
  · simp [h, Nat.lt_of_not_le h]

theorem isPowerOfTwo_iff {a : Nat} : isPowerOfTwo a = true ↔ ∃ k, a = 2 ^ k := by
  constructor
  · intro h
    exact ⟨a.log2, by simpa [isPowerOfTwo] using h⟩
  · rintro ⟨k, rfl⟩
    simp [isPowerOfTwo, Nat.log2_two_pow]

theorem checkedAdd_of_le {a b : Nat} (h : a + b ≤ wordMax) : checkedAdd a b = some (a + b) :=
  checkedAdd_eq_some.mpr ⟨h, rfl⟩

end Ricoq
