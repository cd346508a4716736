import Mathlib.Order.Lattice

/-!
# `Lib.Issue` — what was issued and taken back

The record of an allocator over an ordered type: values are issued, and everything from some cut on is taken
back at once. A record lists its entries with the newest first. `outstanding` are the values issued and not
taken back since.

A record is `Fresh` if each issue was of distinct values that were not outstanding. In a fresh record no value
is issued a second time unless it was taken back in between (`Fresh.issued_once`).
-/

namespace Ricoq

/-- An entry of a record. -/
inductive Entry (α : Type) where
  | issued (values : List α)
  | revoked (cut : α)
deriving DecidableEq

variable {α : Type} [LinearOrder α]

/-- The values issued and not taken back since, in the order in which they were issued. -/
def outstanding : List (Entry α) → List α
  | [] => []
  | .issued values :: record => outstanding record ++ values
  | .revoked cut :: record => (outstanding record).filter (· < cut)

/-- Each issue was of distinct values that were not outstanding. -/
def Fresh : List (Entry α) → Prop
  | [] => True
  | .issued values :: record => values.Nodup ∧ (∀ x ∈ values, x ∉ outstanding record) ∧ Fresh record
  | .revoked _ :: record => Fresh record

/-- What was issued and not taken back since is outstanding. -/
theorem mem_outstanding_of_issued {between before : List (Entry α)} {values : List α} {x : α}
    (hx : x ∈ values) (hkept : ∀ cut, .revoked cut ∈ between → x < cut) :
    x ∈ outstanding (between ++ .issued values :: before) := by
  induction between with
  | nil => exact List.mem_append_right _ hx
  | cons entry between ih =>
      have hrest := ih fun cut hcut => hkept cut (List.mem_cons_of_mem _ hcut)
      cases entry with
      | issued later => exact List.mem_append_left _ hrest
      | revoked cut =>
          have hlt : x < cut := hkept cut List.mem_cons_self
          show x ∈ List.filter _ _
          simp [hrest, hlt]

namespace Fresh

theorem outstanding_nodup {record : List (Entry α)} (h : Fresh record) : (outstanding record).Nodup := by
  induction record with
  | nil => exact List.nodup_nil
  | cons entry record ih =>
      cases entry with
      | issued values =>
          obtain ⟨hnodup, hnew, hrecord⟩ := h
          show (outstanding record ++ values).Nodup
          rw [List.nodup_append]
          refine ⟨ih hrecord, hnodup, ?_⟩
          rintro x hold y hy rfl
          exact hnew x hy hold
      | revoked cut => exact (ih h).filter _

theorem values_nodup {record : List (Entry α)} (h : Fresh record) {values : List α}
    (hvalues : .issued values ∈ record) : values.Nodup := by
  induction record with
  | nil => exact nomatch hvalues
  | cons entry record ih =>
      cases entry with
      | issued latest =>
          rcases List.mem_cons.mp hvalues with heq | hrest
          · obtain rfl := Entry.issued.inj heq
            exact h.1
          · exact ih h.2.2 hrest
      | revoked cut =>
          rcases List.mem_cons.mp hvalues with heq | hrest
          · exact nomatch heq
          · exact ih h hrest

/-- Part of a fresh record is fresh. -/
theorem of_append {later record : List (Entry α)} (h : Fresh (later ++ record)) : Fresh record := by
  induction later with
  | nil => exact h
  | cons entry later ih =>
      cases entry with
      | issued values => exact ih h.2.2
      | revoked cut => exact ih h

/-- **No value is issued twice** unless it was taken back in between. -/
theorem issued_once {after between before : List (Entry α)} {first second : List α} {x : α}
    (h : Fresh (after ++ .issued second :: (between ++ .issued first :: before)))
    (hfirst : x ∈ first) (hsecond : x ∈ second) : ∃ cut, .revoked cut ∈ between ∧ cut ≤ x := by
  by_contra hnone
  obtain ⟨-, hnew, -⟩ := h.of_append
  refine hnew x hsecond (mem_outstanding_of_issued hfirst ?_)
  intro cut hcut
  by_contra hle
  exact hnone ⟨cut, hcut, not_lt.mp hle⟩

end Fresh
end Ricoq
