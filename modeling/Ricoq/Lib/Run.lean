import Mathlib.Logic.Relation

/-!
# `Lib.Run` — runs of a labelled transition system

A system is a partial step function `step : σ → ι → Option σ`; a label it is not enabled for has no step.
`Reachable step init C s` says that some run from an initial state, all of whose steps satisfy the
condition `C` (on the state before the step and its label), ends in `s`. With `C` always true these are
all reachable states.

The one induction over runs is `Reachable.invariant`; everything said about whole runs goes through it.
-/

namespace Ricoq

variable {σ ι : Type}

/-- One step, with a label that meets the condition `C`. -/
def StepWhere (step : σ → ι → Option σ) (C : σ → ι → Prop) (s s' : σ) : Prop :=
  ∃ i, C s i ∧ step s i = some s'

/-- A run whose steps all meet `C` leads from an initial state to `s`. -/
def Reachable (step : σ → ι → Option σ) (init : σ → Prop) (C : σ → ι → Prop) (s : σ) : Prop :=
  ∃ s₀, init s₀ ∧ Relation.ReflTransGen (StepWhere step C) s₀ s

/-- The condition that excludes no step. -/
def anyStep : σ → ι → Prop := fun _ _ => True

/-- A step that is taken only if it meets the condition. -/
def guardedStep (step : σ → ι → Option σ) (C : σ → ι → Prop) [∀ s i, Decidable (C s i)] (s : σ) (i : ι) :
    Option σ := if C s i then step s i else none

namespace Reachable

variable {step : σ → ι → Option σ} {init : σ → Prop} {C : σ → ι → Prop} {s s' : σ}

theorem refl (h : init s) : Reachable step init C s := ⟨s, h, .refl⟩

theorem tail {i : ι} (h : Reachable step init C s) (hC : C s i) (hs : step s i = some s') :
    Reachable step init C s' := by
  obtain ⟨s₀, h0, hrun⟩ := h
  exact ⟨s₀, h0, hrun.tail ⟨i, hC, hs⟩⟩

/-- **The invariant rule.** What holds initially and survives every step of the run holds at its end. -/
theorem invariant {I : σ → Prop} (h0 : ∀ s, init s → I s)
    (hstep : ∀ s i s', I s → C s i → step s i = some s' → I s') (h : Reachable step init C s) : I s := by
  obtain ⟨s₀, hinit, hrun⟩ := h
  induction hrun with
  | refl => exact h0 s₀ hinit
  | tail _ hlast ih =>
      obtain ⟨i, hC, hs⟩ := hlast
      exact hstep _ i _ ih hC hs

/-- Following a list of labels that all meet the condition. -/
theorem foldlM_guarded [∀ s i, Decidable (C s i)] (h : Reachable step init C s) (labels : List ι)
    (hs : labels.foldlM (guardedStep step C) s = some s') : Reachable step init C s' := by
  induction labels generalizing s with
  | nil =>
      rw [List.foldlM_nil] at hs
      exact Option.some.inj hs ▸ h
  | cons i labels ih =>
      rw [List.foldlM_cons] at hs
      obtain ⟨s₁, h1, h2⟩ := Option.bind_eq_some_iff.mp hs
      by_cases hC : C s i
      · rw [guardedStep, if_pos hC] at h1
        exact ih (h.tail hC h1) h2
      · rw [guardedStep, if_neg hC] at h1
        exact nomatch h1

/-- Following a list of labels. -/
theorem foldlM (h : Reachable step init (@anyStep σ ι) s) (labels : List ι)
    (hs : labels.foldlM step s = some s') : Reachable step init (@anyStep σ ι) s' := by
  have : ∀ s i, Decidable (@anyStep σ ι s i) := fun _ _ => .isTrue trivial
  have hguard : guardedStep step (@anyStep σ ι) = step := by
    funext s i
    exact if_pos trivial
  refine h.foldlM_guarded labels ?_
  rw [hguard]
  exact hs

end Reachable
end Ricoq
