/-!
# `Lib.Outcome` — fallible computations that may also abort

A bounds-checked language has two ways to leave a function early: it *returns* an error value, which the
caller can inspect, or it *aborts* on a failed run-time check (a slice index past the end), which nobody
can. `Outcome ε α` keeps the two apart, so that "yields an error" and "never aborts" are different
statements about the same definition. Slice accesses are the only source of `panic` here.

Nothing in this file mentions a particular program.
-/

namespace Ricoq

/-- The result of a computation that returns a value, returns an error, or aborts. -/
inductive Outcome (ε α : Type) where
  | ok (a : α)
  | err (e : ε)
  | panic
deriving DecidableEq, Repr

namespace Outcome

variable {ε α β : Type}

/-- Sequencing: an error or an abort ends the computation. -/
protected def bind (x : Outcome ε α) (f : α → Outcome ε β) : Outcome ε β :=
  match x with
  | ok a  => f a
  | err e => err e
  | panic => panic

instance : Monad (Outcome ε) where
  pure := Outcome.ok
  bind := Outcome.bind

@[simp] theorem pure_eq (a : α) : (pure a : Outcome ε α) = ok a := rfl
@[simp] theorem ok_bind (a : α) (f : α → Outcome ε β) : (ok a >>= f) = f a := rfl
@[simp] theorem err_bind (e : ε) (f : α → Outcome ε β) : (err e >>= f) = err e := rfl
@[simp] theorem panic_bind (f : α → Outcome ε β) : ((panic : Outcome ε α) >>= f) = panic := rfl

/-- Replace the value of a successful computation. -/
def map (f : α → β) : Outcome ε α → Outcome ε β
  | ok a  => ok (f a)
  | err e => err e
  | panic => panic

@[simp] theorem map_ok (f : α → β) (a : α) : (ok a : Outcome ε α).map f = ok (f a) := rfl
@[simp] theorem map_err (f : α → β) (e : ε) : (err e : Outcome ε α).map f = err e := rfl
@[simp] theorem map_panic (f : α → β) : (panic : Outcome ε α).map f = panic := rfl

theorem map_eq_ok {f : α → β} {x : Outcome ε α} {b : β} :
    x.map f = ok b ↔ ∃ a, x = ok a ∧ f a = b := by
  cases x <;> simp

end Outcome

/-- A sequence of checks passes when both parts do. -/
theorem except_bind_eq_ok {ε α β : Type} {x : Except ε α} {f : α → Except ε β} {b : β} :
    (x >>= f) = .ok b ↔ ∃ a, x = .ok a ∧ f a = .ok b := by
  cases x with
  | error e =>
      constructor
      · exact nofun
      · rintro ⟨a, ha, -⟩
        exact nomatch ha
  | ok a =>
      constructor
      · intro h
        exact ⟨a, rfl, h⟩
      · rintro ⟨a', ha, h⟩
        injection ha with ha
        exact ha ▸ h

/-- It fails with the error of the first part that fails. -/
theorem except_bind_eq_error {ε α β : Type} {x : Except ε α} {f : α → Except ε β} {e : ε} :
    (x >>= f) = .error e ↔ x = .error e ∨ ∃ a, x = .ok a ∧ f a = .error e := by
  cases x with
  | error e' =>
      constructor
      · intro h
        obtain rfl : e' = e := Except.error.inj h
        exact Or.inl rfl
      · rintro (h | ⟨a, ha, -⟩)
        · obtain rfl := Except.error.inj h
          rfl
        · exact nomatch ha
  | ok a =>
      constructor
      · intro h
        exact Or.inr ⟨a, rfl, h⟩
      · rintro (h | ⟨a', ha, h⟩)
        · exact nomatch h
        · injection ha with ha
          exact ha ▸ h

end Ricoq
