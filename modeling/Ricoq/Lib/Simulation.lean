import Mathlib.Data.List.Basic
import Ricoq.Lib.Run

/-!
# `Lib.Simulation` — following a run in another system

Two systems with partial step functions, where each label of the first stands for a list of labels of the
second. `Simulates` says what has to be shown of one step; `Simulates.run` is what follows for a run.
`guarded_fold` and `guarded_run` are the same for a property of one system, along a given list of labels.

Nothing in this file mentions a particular program.
-/

namespace Ricoq

variable {σ τ ι κ : Type}

/-- Following labels one after the other. -/
theorem foldlM_append_eq_some {step : τ → κ → Option τ} {t t' : τ} {first second : List κ} :
    (first ++ second).foldlM step t = some t' ↔
      ∃ m, first.foldlM step t = some m ∧ second.foldlM step m = some t' := by
  rw [List.foldlM_append]
  exact Option.bind_eq_some_iff

/-- A step of the first system is answered by the labels it stands for in the second. -/
def Simulates (step : σ → ι → Option σ) (step' : τ → κ → Option τ) (labels : ι → List κ)
    (R : σ → τ → Prop) : Prop :=
  ∀ s t i s', R s t → step s i = some s' → ∃ t', (labels i).foldlM step' t = some t' ∧ R s' t'

/-- **Runs follow steps.** -/
theorem Simulates.run {step : σ → ι → Option σ} {step' : τ → κ → Option τ} {labels : ι → List κ}
    {R : σ → τ → Prop} (h : Simulates step step' labels R) {s s' : σ} {t : τ} {run : List ι} (hR : R s t)
    (hrun : run.foldlM step s = some s') : ∃ t', (run.flatMap labels).foldlM step' t = some t' ∧ R s' t' := by
  induction run generalizing s t with
  | nil =>
      obtain rfl := Option.some.inj hrun
      exact ⟨t, rfl, hR⟩
  | cons i run ih =>
      rw [List.foldlM_cons] at hrun
      obtain ⟨s₁, hstep, hrest⟩ := Option.bind_eq_some_iff.mp hrun
      obtain ⟨t₁, hfirst, hR₁⟩ := h s t i s₁ hR hstep
      obtain ⟨t', hsecond, hR'⟩ := ih hR₁ hrest
      refine ⟨t', ?_, hR'⟩
      rw [List.flatMap_cons]
      exact foldlM_append_eq_some.mpr ⟨t₁, hfirst, hsecond⟩

/-- What is known of the states along a run whose labels change a value as they go. -/
theorem guarded_fold {step : σ → ι → Option σ} {C : σ → ι → Prop} [∀ s i, Decidable (C s i)] {I : σ → τ → Prop}
    (next : τ → ι → τ) {run : List ι} {s s' : σ} {t : τ}
    (hstep : ∀ s t i s', i ∈ run → I s t → C s i → step s i = some s' → I s' (next t i)) (hI : I s t)
    (hrun : run.foldlM (guardedStep step C) s = some s') : I s' (run.foldl next t) := by
  induction run generalizing s t with
  | nil =>
      obtain rfl := Option.some.inj hrun
      exact hI
  | cons i run ih =>
      rw [List.foldlM_cons] at hrun
      obtain ⟨s₁, hfirst, hrest⟩ := Option.bind_eq_some_iff.mp hrun
      refine ih (fun s t j s' hj => hstep s t j s' (List.mem_cons_of_mem i hj)) ?_ hrest
      unfold guardedStep at hfirst
      by_cases hC : C s i
      · rw [if_pos hC] at hfirst
        exact hstep s t i s₁ List.mem_cons_self hI hC hfirst
      · rw [if_neg hC] at hfirst
        cases hfirst

/-- What every label of a list preserves holds after all of them. -/
theorem guarded_run {step : σ → ι → Option σ} {C : σ → ι → Prop} [∀ s i, Decidable (C s i)] {I : σ → Prop}
    {run : List ι} {s s' : σ} (hstep : ∀ s i s', i ∈ run → I s → C s i → step s i = some s' → I s') (hI : I s)
    (hrun : run.foldlM (guardedStep step C) s = some s') : I s' :=
  guarded_fold (I := fun s (_ : Unit) => I s) (fun t _ => t) (t := ()) (fun s _ i s' => hstep s i s') hI hrun

end Ricoq
