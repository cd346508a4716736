import Mathlib.Data.Finset.Dedup
import Mathlib.Data.Finset.SDiff
import Mathlib.Data.Finset.Insert
import Mathlib.Data.Finset.Card

/-!
# `Lib.Distinct` — counting distinct values along a list

A loop that does something at each element whose value under `f` it has not met before does it once for each
distinct value. `newImages` follows such a loop, with the elements already met as an accumulator;
`newImages_eq` says what it counts.
-/

namespace Ricoq

variable {α β : Type} [DecidableEq β]

/-- The elements whose value under `f` is new, when those of `prior` come first. -/
def newImages (f : α → β) (prior : List α) : List α → Nat
  | [] => 0
  | a :: rest =>
      if ∃ b ∈ prior, f b = f a then
        newImages f (prior ++ [a]) rest
      else
        newImages f (prior ++ [a]) rest + 1

theorem newImages_card (f : α → β) (prior xs : List α) :
    newImages f prior xs = ((xs.map f).toFinset \ (prior.map f).toFinset).card := by
  induction xs generalizing prior with
  | nil => simp [newImages]
  | cons a rest ih =>
      have hprior : ((prior ++ [a]).map f).toFinset = insert (f a) (prior.map f).toFinset := by
        ext b
        simp
      have hseen : (∃ b ∈ prior, f b = f a) ↔ f a ∈ (prior.map f).toFinset := by simp
      rw [newImages, ih, hprior, List.map_cons, List.toFinset_cons]
      by_cases h : f a ∈ (prior.map f).toFinset
      · rw [if_pos (hseen.mpr h), Finset.insert_eq_self.mpr h, Finset.insert_sdiff_of_mem _ h]
      · rw [if_neg (mt hseen.mp h), Finset.insert_sdiff_of_notMem _ h]
        have hnew : f a ∉ (rest.map f).toFinset \ insert (f a) (prior.map f).toFinset := by simp
        rw [← Finset.card_insert_of_notMem hnew]
        congr 1
        ext b
        by_cases hb : b = f a
        · simp [hb]
        · simp [hb]

/-- **From the start, each distinct value is counted once.** -/
theorem newImages_eq (f : α → β) (xs : List α) : newImages f [] xs = (xs.map f).dedup.length := by
  rw [newImages_card, List.map_nil, List.toFinset_nil, Finset.sdiff_empty, List.card_toFinset]

end Ricoq
