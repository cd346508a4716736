import Ricoq.Lib.Outcome

/-!
# `Lib.Slice` — bounds-checked slices of fixed-size arrays

A fixed-size array is a `Vector`, so its size is part of its type; a slice is a list. The accesses that
can abort are `xs[i]`, `&xs[..k]` and `dst[..k].copy_from_slice(src)`; each is an `Outcome` that panics
exactly when its bounds check fails.
-/

namespace Ricoq

variable {ε α : Type} {n : Nat}

/-- `xs[i]`: the element, or an abort past the end. -/
def index (xs : List α) (i : Nat) : Outcome ε α :=
  match xs[i]? with
  | some x => .ok x
  | none   => .panic

@[simp] theorem index_cons_zero (x : α) (xs : List α) : (index (x :: xs) 0 : Outcome ε α) = .ok x := rfl

@[simp] theorem index_cons_succ (x : α) (xs : List α) (i : Nat) :
    (index (x :: xs) (i + 1) : Outcome ε α) = index xs i := rfl

/-- `&xs[..k]`: the first `k` elements, or an abort when there are fewer. -/
def slicePrefix (xs : Vector α n) (k : Nat) : Outcome ε (List α) :=
  if k ≤ n then .ok (xs.toList.take k) else .panic

theorem slicePrefix_of_le {xs : Vector α n} {k : Nat} (h : k ≤ n) :
    (slicePrefix xs k : Outcome ε (List α)) = .ok (xs.toList.take k) := if_pos h

/-- `dst` with its first elements replaced by `src`; what does not fit is dropped. -/
def overwrite (dst : Vector α n) (src : List α) : Vector α n :=
  ⟨(src.take n ++ dst.toList.drop src.length).toArray, by simp; omega⟩

theorem toList_overwrite (dst : Vector α n) (src : List α) :
    (overwrite dst src).toList = src.take n ++ dst.toList.drop src.length := rfl

/-- Reading back exactly what was written. -/
theorem take_overwrite {dst : Vector α n} {src : List α} (h : src.length ≤ n) :
    (overwrite dst src).toList.take src.length = src := by
  rw [toList_overwrite, List.take_of_length_le h, List.take_left]

/-- `dst[..k].copy_from_slice(src)`: aborts past the end and on a length mismatch. -/
def copyPrefix (dst : Vector α n) (k : Nat) (src : List α) : Outcome ε (Vector α n) :=
  if k ≤ n ∧ src.length = k then .ok (overwrite dst src) else .panic

theorem copyPrefix_of_le {dst : Vector α n} {k : Nat} {src : List α} (h : k ≤ n) (hk : src.length = k) :
    (copyPrefix dst k src : Outcome ε (Vector α n)) = .ok (overwrite dst src) := if_pos ⟨h, hk⟩

theorem copyPrefix_of_lt {dst : Vector α n} {k : Nat} {src : List α} (h : n < k) :
    (copyPrefix dst k src : Outcome ε (Vector α n)) = .panic :=
  if_neg fun hk => Nat.not_le.mpr h hk.1

end Ricoq
