import Ricoq.Lib.Outcome

/-!
# `Lib.Prog` — state-passing programs and their specifications

`Prog ε σ α` is a program over a mutable state `σ` that returns an `α`, returns an error `ε`, or aborts.
The state it has reached is kept in all three cases: an error return undoes nothing by itself.

Two ways to reason about a program are provided.

* **Equations.** `run_bind_ok` and its companions step through a program whose first half is known.
* **Specifications.** `Ensures x s Q E` says that from `s` the program does not abort, and ends in `Q` on
  return and in `E` on an error. `Ensures.bind` composes specifications.

Nothing in this file mentions a particular program.
-/

namespace Ricoq

/-- A program over state `σ`. -/
def Prog (ε σ α : Type) : Type := σ → Outcome ε α × σ

namespace Prog

variable {ε ε' σ α β : Type}

protected def pure (a : α) : Prog ε σ α := fun s => (.ok a, s)

protected def bind (x : Prog ε σ α) (f : α → Prog ε σ β) : Prog ε σ β := fun s =>
  match x s with
  | (.ok a, s')  => f a s'
  | (.err e, s') => (.err e, s')
  | (.panic, s') => (.panic, s')

instance : Monad (Prog ε σ) where
  pure := Prog.pure
  bind := Prog.bind

instance : LawfulMonad (Prog ε σ) := LawfulMonad.mk' _
  (by
    intro α x
    funext s
    show Prog.bind x (fun a => Prog.pure a) s = x s
    unfold Prog.bind
    match x s with
    | (.ok a, s') => rfl
    | (.err e, s') => rfl
    | (.panic, s') => rfl)
  (fun _ _ => rfl)
  (by
    intro α β γ x f g
    funext s
    show Prog.bind (Prog.bind x f) g s = Prog.bind x (fun a => Prog.bind (f a) g) s
    unfold Prog.bind
    match x s with
    | (.ok a, s') => rfl
    | (.err e, s') => rfl
    | (.panic, s') => rfl)

/-- Replace the state by its image under `f`. -/
def modify (f : σ → σ) : Prog ε σ Unit := fun s => (.ok (), f s)

/-- Read the state and update it in one step. -/
def modifyGet (f : σ → α × σ) : Prog ε σ α := fun s => (.ok (f s).1, (f s).2)

/-- Return an error. -/
def throw (e : ε) : Prog ε σ α := fun s => (.err e, s)

/-- Run a computation that needs no state. -/
def lift (x : Outcome ε α) : Prog ε σ α := fun s => (x, s)

/-- The value or error of a check, `check()?`. -/
def ofExcept : Except ε α → Prog ε σ α
  | .ok a    => Prog.pure a
  | .error e => throw e

/-- `map_err`. -/
def mapErr (f : ε → ε') (x : Prog ε σ α) : Prog ε' σ α := fun s =>
  match x s with
  | (.ok a, s')  => (.ok a, s')
  | (.err e, s') => (.err (f e), s')
  | (.panic, s') => (.panic, s')

/-- Run a program and hand its result to the caller as a value, `match x { Ok(a) => .., Err(e) => .. }`. -/
def attempt (x : Prog ε σ α) : Prog ε' σ (Except ε α) := fun s =>
  match x s with
  | (.ok a, s')  => (.ok (.ok a), s')
  | (.err e, s') => (.ok (.error e), s')
  | (.panic, s') => (.panic, s')

/-! ## Equations -/

@[simp] theorem run_modify (f : σ → σ) (s : σ) : (modify f : Prog ε σ Unit) s = (.ok (), f s) := rfl

@[simp] theorem run_modifyGet (f : σ → α × σ) (s : σ) :
    (modifyGet f : Prog ε σ α) s = (.ok (f s).1, (f s).2) := rfl

@[simp] theorem run_lift (x : Outcome ε α) (s : σ) : (lift x : Prog ε σ α) s = (x, s) := rfl

theorem run_bind (x : Prog ε σ α) (f : α → Prog ε σ β) (s : σ) :
    (x >>= f) s = match x s with
      | (.ok a, s')  => f a s'
      | (.err e, s') => (.err e, s')
      | (.panic, s') => (.panic, s') := rfl

theorem run_bind_ok {x : Prog ε σ α} {f : α → Prog ε σ β} {s s' : σ} {a : α} (h : x s = (.ok a, s')) :
    (x >>= f) s = f a s' := by
  rw [run_bind, h]

theorem run_bind_err {x : Prog ε σ α} {f : α → Prog ε σ β} {s s' : σ} {e : ε} (h : x s = (.err e, s')) :
    (x >>= f) s = (.err e, s') := by
  rw [run_bind, h]

theorem run_bind_panic {x : Prog ε σ α} {f : α → Prog ε σ β} {s s' : σ} (h : x s = (.panic, s')) :
    (x >>= f) s = (.panic, s') := by
  rw [run_bind, h]

/-- A sequence returns exactly when both parts do. -/
theorem run_bind_eq_ok {x : Prog ε σ α} {f : α → Prog ε σ β} {s s' : σ} {b : β} :
    (x >>= f) s = (.ok b, s') ↔ ∃ a s₁, x s = (.ok a, s₁) ∧ f a s₁ = (.ok b, s') := by
  constructor
  · intro h
    match hx : x s with
    | (.ok a, s₁) =>
        rw [run_bind_ok hx] at h
        exact ⟨a, s₁, rfl, h⟩
    | (.err e, s₁) =>
        rw [run_bind_err hx] at h
        exact nomatch (Prod.mk.inj h).1
    | (.panic, s₁) =>
        rw [run_bind_panic hx] at h
        exact nomatch (Prod.mk.inj h).1
  · rintro ⟨a, s₁, hx, hf⟩
    rw [run_bind_ok hx, hf]

theorem run_mapErr_ok {f : ε → ε'} {x : Prog ε σ α} {s s' : σ} {a : α} (h : x s = (.ok a, s')) :
    x.mapErr f s = (.ok a, s') := by
  rw [mapErr, h]

theorem run_mapErr_err {f : ε → ε'} {x : Prog ε σ α} {s s' : σ} {e : ε} (h : x s = (.err e, s')) :
    x.mapErr f s = (.err (f e), s') := by
  rw [mapErr, h]

theorem run_attempt_ok (ε' : Type) {x : Prog ε σ α} {s s' : σ} {a : α} (h : x s = (.ok a, s')) :
    (attempt x : Prog ε' σ (Except ε α)) s = (.ok (.ok a), s') := by
  rw [attempt, h]

theorem run_attempt_err (ε' : Type) {x : Prog ε σ α} {s s' : σ} {e : ε} (h : x s = (.err e, s')) :
    (attempt x : Prog ε' σ (Except ε α)) s = (.ok (.error e), s') := by
  rw [attempt, h]

/-! ## Specifications -/

/-- From `s` the program ends in `Q` or, with an error, in `E`. It does not abort. -/
def Ensures (x : Prog ε σ α) (s : σ) (Q : α → σ → Prop) (E : ε → σ → Prop) : Prop :=
  match x s with
  | (.ok a, s')  => Q a s'
  | (.err e, s') => E e s'
  | (.panic, _)  => False

variable {s s' : σ} {Q : α → σ → Prop} {R : β → σ → Prop} {E : ε → σ → Prop}

/-- What a specification says of a run that returned. -/
theorem Ensures.of_ok {x : Prog ε σ α} {a : α} (h : Ensures x s Q E) (hx : x s = (.ok a, s')) : Q a s' := by
  rwa [Ensures, hx] at h

/-- What a specification says of a run that failed. -/
theorem Ensures.of_err {x : Prog ε σ α} {e : ε} (h : Ensures x s Q E) (hx : x s = (.err e, s')) : E e s' := by
  rwa [Ensures, hx] at h

/-- A program that meets a specification returns or fails. -/
theorem Ensures.cases {x : Prog ε σ α} (h : Ensures x s Q E) :
    (∃ a s', x s = (.ok a, s') ∧ Q a s') ∨ (∃ e s', x s = (.err e, s') ∧ E e s') := by
  unfold Ensures at h
  match hx : x s with
  | (.ok a, s') =>
      rw [hx] at h
      exact Or.inl ⟨a, s', rfl, h⟩
  | (.err e, s') =>
      rw [hx] at h
      exact Or.inr ⟨e, s', rfl, h⟩
  | (.panic, s') =>
      rw [hx] at h
      exact h.elim

theorem Ensures.ok {x : Prog ε σ α} {a : α} (hx : x s = (.ok a, s')) (h : Q a s') : Ensures x s Q E := by
  rw [Ensures, hx]
  exact h

theorem Ensures.err {x : Prog ε σ α} {e : ε} (hx : x s = (.err e, s')) (h : E e s') : Ensures x s Q E := by
  rw [Ensures, hx]
  exact h

/-- **Sequencing.** The second program starts where the first returned. -/
theorem Ensures.bind {x : Prog ε σ α} {f : α → Prog ε σ β} (hx : Ensures x s Q E)
    (hf : ∀ a s', x s = (.ok a, s') → Q a s' → Ensures (f a) s' R E) : Ensures (x >>= f) s R E := by
  rcases hx.cases with ⟨a, s', hrun, hq⟩ | ⟨e, s', hrun, he⟩
  · have h := hf a s' hrun hq
    rw [Ensures] at h ⊢
    rw [run_bind_ok hrun]
    exact h
  · exact Ensures.err (run_bind_err hrun) he

theorem Ensures.conseq {x : Prog ε σ α} {Q' : α → σ → Prop} {E' : ε → σ → Prop} (h : Ensures x s Q E)
    (hQ : ∀ a s', Q a s' → Q' a s') (hE : ∀ e s', E e s' → E' e s') : Ensures x s Q' E' := by
  rcases h.cases with ⟨a, s', hrun, hq⟩ | ⟨e, s', hrun, he⟩
  · exact Ensures.ok hrun (hQ a s' hq)
  · exact Ensures.err hrun (hE e s' he)

end Prog
end Ricoq
