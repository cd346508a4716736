import Mathlib.Data.Set.Basic
import Mathlib.Logic.Function.Basic
import Mathlib.Logic.Relation

/-!
# `Lib.Provenance` — tables that are filled by copying

Some places of a table begin with a value, and from then on values are only ever copied from a filled place to
an empty one. Then what a place holds is what some place began with, from which a chain of copies leads to it
(`Provenance.holds_iff`), and a value stays where it is.

The places looked at are those in a `scope`, which may grow (`Provenance.extend`).

Nothing in this file mentions a particular program.
-/

namespace Ricoq

open Relation

variable {π α : Type} {origin origin' : π → α → Prop} {moves : List (π × π)} {table table' : π → Option α}
  {scope scope' : Set π} {p q : π} {a : α}

/-- A copy was made from one place to the other. -/
def CopiedTo (moves : List (π × π)) (p q : π) : Prop := (p, q) ∈ moves

/-- The table comes from what places began with and from the copies made since. -/
structure Provenance (origin : π → α → Prop) (moves : List (π × π)) (table : π → Option α) (scope : Set π) :
    Prop where
  begins : ∀ p a, origin p a → p ∈ scope ∧ table p = some a
  moved : ∀ m ∈ moves, m.1 ∈ scope ∧ m.2 ∈ scope ∧ (table m.1).isSome ∧ table m.2 = table m.1
  traced : ∀ q ∈ scope, ∀ a, table q = some a → ∃ p, origin p a ∧ ReflTransGen (CopiedTo moves) p q

namespace Provenance

/-- A chain of copies carries a value along. -/
theorem carries (h : Provenance origin moves table scope) (hchain : ReflTransGen (CopiedTo moves) p q)
    (hp : table p = some a) : table q = some a := by
  induction hchain with
  | refl => exact hp
  | tail _ hlast ih =>
      obtain ⟨-, -, -, hsame⟩ := h.moved _ hlast
      exact hsame.trans ih

/-- **What a place holds.** It is what some place began with, from which copies lead here. -/
theorem holds_iff (h : Provenance origin moves table scope) (hq : q ∈ scope) :
    table q = some a ↔ ∃ p, origin p a ∧ ReflTransGen (CopiedTo moves) p q := by
  constructor
  · exact h.traced q hq a
  · rintro ⟨p, horigin, hchain⟩
    exact h.carries hchain (h.begins p a horigin).2

/-- Nothing has been copied, and nothing is looked at. -/
theorem empty (hnone : ∀ p a, ¬ origin p a) : Provenance origin [] table ∅ where
  begins p a horigin := absurd horigin (hnone p a)
  moved _ hm := absurd hm List.not_mem_nil
  traced q hq := absurd hq (Set.notMem_empty q)

/-- What was copied before stays copied. -/
theorem copied_cons {m : π × π} (hchain : ReflTransGen (CopiedTo moves) p q) :
    ReflTransGen (CopiedTo (m :: moves)) p q := by
  induction hchain with
  | refl => exact .refl
  | tail _ hlast ih => exact ih.tail (List.mem_cons_of_mem m hlast)

/-- A copy from a filled place to an empty one. -/
theorem copy [DecidableEq π] (h : Provenance origin moves table scope) (hp : p ∈ scope) (hq : q ∈ scope)
    (hfilled : table p = some a) (hempty : table q = none) :
    Provenance origin ((p, q) :: moves) (Function.update table q (some a)) scope := by
  -- places that hold something are other places than `q`
  have hkept : ∀ {i b}, table i = some b → Function.update table q (some a) i = some b := by
    intro i b hi
    rw [Function.update_of_ne]
    · exact hi
    · rintro rfl
      cases hempty.symm.trans hi
  constructor
  case begins =>
    intro i b horigin
    obtain ⟨hi, hb⟩ := h.begins i b horigin
    exact ⟨hi, hkept hb⟩
  case moved =>
    intro m hm
    rcases List.mem_cons.mp hm with rfl | hold
    · refine ⟨hp, hq, ?_, ?_⟩
      · show (Function.update table q (some a) p).isSome = true
        rw [hkept hfilled]
        rfl
      · show Function.update table q (some a) q = Function.update table q (some a) p
        rw [Function.update_self, hkept hfilled]
    · obtain ⟨h1, h2, hsome, hsame⟩ := h.moved m hold
      obtain ⟨b, hb⟩ := Option.isSome_iff_exists.mp hsome
      refine ⟨h1, h2, ?_, ?_⟩
      · rw [hkept hb]
        rfl
      · rw [hkept hb, hkept (hsame.trans hb)]
  case traced =>
    intro i hi b hb
    by_cases heq : i = q
    · subst heq
      rw [Function.update_self] at hb
      obtain rfl := Option.some.inj hb
      obtain ⟨o, horigin, hchain⟩ := h.traced p hp a hfilled
      exact ⟨o, horigin, (copied_cons hchain).tail List.mem_cons_self⟩
    · rw [Function.update_of_ne heq] at hb
      obtain ⟨o, horigin, hchain⟩ := h.traced i hi b hb
      exact ⟨o, horigin, copied_cons hchain⟩

/-- More places come into view, with what they begin with. -/
theorem extend (h : Provenance origin moves table scope) (hscope : scope ⊆ scope')
    (hsame : ∀ p ∈ scope, table' p = table p) (hkept : ∀ p a, origin p a → origin' p a)
    (hbegins : ∀ p a, origin' p a → p ∈ scope' ∧ table' p = some a)
    (hnew : ∀ q ∈ scope', q ∉ scope → ∀ a, table' q = some a → origin' q a) :
    Provenance origin' moves table' scope' := by
  constructor
  case begins => exact hbegins
  case moved =>
    intro m hm
    obtain ⟨h1, h2, hsome, heq⟩ := h.moved m hm
    rw [hsame _ h1, hsame _ h2]
    exact ⟨hscope h1, hscope h2, hsome, heq⟩
  case traced =>
    intro q hq a ha
    by_cases hold : q ∈ scope
    · rw [hsame q hold] at ha
      obtain ⟨p, horigin, hchain⟩ := h.traced q hold a ha
      exact ⟨p, hkept p a horigin, hchain⟩
    · exact ⟨q, hnew q hq hold a ha, .refl⟩

end Provenance
end Ricoq
