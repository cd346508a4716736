import Mathlib.Data.Set.BooleanAlgebra
import Mathlib.Order.CompletePartialOrder
import Mathlib.Order.Interval.Set.Disjoint

/-!
# `Lib.Region` — aligned ranges of addresses

Memory is cut into ranges of one size that start at its multiples. Such ranges are equal or share no byte, so
comparing their starts decides whether they overlap. `Covers` is the invariant of covering a list of addresses
with such ranges, on several levels and without duplicates.
-/

namespace Ricoq

variable {p q a b e : Nat}

/-- The bytes of the range of `size` bytes that starts at `start`. -/
def bytes (size start : Nat) : Set Nat := Set.Ico start (start + size)

theorem mem_bytes {x : Nat} : x ∈ bytes p a ↔ a ≤ x ∧ x < a + p := Iff.rfl

/-! ## Ranges of one size -/

/-- Of two different multiples of `p`, the smaller lies at least `p` below the larger. -/
theorem add_le_of_dvd_of_lt (ha : p ∣ a) (hb : p ∣ b) (hlt : a < b) : a + p ≤ b := by
  have hdiff : p ∣ b - a := Nat.dvd_sub hb ha
  have hle : p ≤ b - a := Nat.le_of_dvd (Nat.sub_pos_of_lt hlt) hdiff
  omega

theorem disjoint_bytes_iff (hp : 0 < p) (ha : p ∣ a) (hb : p ∣ b) :
    Disjoint (bytes p a) (bytes p b) ↔ a ≠ b := by
  constructor
  · rintro hdis rfl
    exact Set.disjoint_left.mp hdis (mem_bytes.mpr ⟨Nat.le_refl a, by omega⟩) ⟨Nat.le_refl a, by omega⟩
  · intro hne
    rw [Set.disjoint_left]
    intro x hxa hxb
    rw [mem_bytes] at hxa hxb
    rcases Nat.lt_or_gt_of_ne hne with hlt | hlt
    · have := add_le_of_dvd_of_lt ha hb hlt
      omega
    · have := add_le_of_dvd_of_lt hb ha hlt
      omega

/-- Comparing starts is enough to keep a list of aligned ranges apart. -/
theorem pairwise_disjoint_iff_nodup (hp : 0 < p) {starts : List Nat} (haligned : ∀ a ∈ starts, p ∣ a) :
    (starts.Pairwise fun a b => Disjoint (bytes p a) (bytes p b)) ↔ starts.Nodup := by
  constructor
  · intro hdis
    refine hdis.imp_of_mem fun {a b} ha hb h => ?_
    exact (disjoint_bytes_iff hp (haligned a ha) (haligned b hb)).mp h
  · intro hnd
    refine hnd.imp_of_mem fun {a b} ha hb h => ?_
    exact (disjoint_bytes_iff hp (haligned a ha) (haligned b hb)).mpr h

/-- An aligned small range lies inside an aligned large one as soon as it starts there. -/
theorem bytes_subset_iff (hq : 0 < q) (hqp : q ∣ p) (ha : p ∣ a) (he : q ∣ e) :
    bytes q e ⊆ bytes p a ↔ a ≤ e ∧ e < a + p := by
  constructor
  · intro hsub
    exact hsub (mem_bytes.mpr ⟨Nat.le_refl e, by omega⟩)
  · rintro ⟨hle, hlt⟩ x hx
    rw [mem_bytes] at hx ⊢
    have hend : q ∣ a + p := Nat.dvd_add (Nat.dvd_trans hqp ha) hqp
    have := add_le_of_dvd_of_lt he hend hlt
    omega

/-! ## Covering level by level

Points are covered by regions on several levels, the coarsest level first: on each level one region for every
point that no region covers yet. `region l x` is the region of level `l` in which the point `x` lies. -/

section Cover

variable {α β : Type} {region : Nat → α → β} {points prior : List α} {level : Nat} {regions : List (Nat × β)}

/-- `regions`, the latest first, are those of all points on the levels from 1 below `level`, and those of the
    points in `prior` on `level` itself. -/
structure Covers (region : Nat → α → β) (points : List α) (level : Nat) (prior : List α)
    (regions : List (Nat × β)) : Prop where
  nodup : regions.Nodup
  ordered : regions.Pairwise fun x y => y.1 ≤ x.1
  mem_iff : ∀ l r, (l, r) ∈ regions ↔
    (1 ≤ l ∧ l < level ∧ ∃ x ∈ points, r = region l x) ∨ (l = level ∧ ∃ x ∈ prior, r = region l x)

namespace Covers

theorem nil (region : Nat → α → β) (points : List α) : Covers region points 1 [] [] where
  nodup := List.nodup_nil
  ordered := List.Pairwise.nil
  mem_iff l r := by
    simp only [List.not_mem_nil, false_iff, false_and, exists_false, and_false, or_false, not_and]
    omega

/-- Every point is covered on the levels that are done. -/
theorem mem_of_lt (hc : Covers region points level prior regions) {x : α} (hx : x ∈ points) {l : Nat}
    (hone : 1 ≤ l) (hlt : l < level) : (l, region l x) ∈ regions :=
  (hc.mem_iff l _).mpr (Or.inl ⟨hone, hlt, x, hx, rfl⟩)

/-- On the level in progress a region is there if a prior point lies in it. -/
theorem mem_level_iff (hc : Covers region points level prior regions) {r : β} :
    (level, r) ∈ regions ↔ ∃ x ∈ prior, r = region level x := by
  rw [hc.mem_iff]
  constructor
  · rintro (⟨-, hlt, -⟩ | ⟨-, hprior⟩)
    · exact absurd hlt (Nat.lt_irrefl level)
    · exact hprior
  · exact fun hprior => Or.inr ⟨rfl, hprior⟩

/-- A point in the region of a prior one is covered already. -/
theorem skip (hc : Covers region points level prior regions) {x : α}
    (hseen : ∃ y ∈ prior, region level y = region level x) :
    Covers region points level (prior ++ [x]) regions where
  nodup := hc.nodup
  ordered := hc.ordered
  mem_iff l r := by
    rw [hc.mem_iff]
    refine or_congr Iff.rfl (and_congr_right ?_)
    rintro rfl
    constructor
    · rintro ⟨y, hy, hr⟩
      exact ⟨y, List.mem_append_left _ hy, hr⟩
    · rintro ⟨y, hy, hr⟩
      rcases List.mem_append.mp hy with hprior | hlast
      · exact ⟨y, hprior, hr⟩
      · obtain ⟨z, hz, hregion⟩ := hseen
        rw [List.mem_singleton.mp hlast] at hr
        exact ⟨z, hz, hr.trans hregion.symm⟩

/-- For a point in no such region, its region is added. -/
theorem add (hc : Covers region points level prior regions) {x : α}
    (hnew : (level, region level x) ∉ regions) :
    Covers region points level (prior ++ [x]) ((level, region level x) :: regions) where
  nodup := List.nodup_cons.mpr ⟨hnew, hc.nodup⟩
  ordered := by
    refine List.pairwise_cons.mpr ⟨?_, hc.ordered⟩
    rintro ⟨l, r⟩ hmem
    rcases (hc.mem_iff l r).mp hmem with ⟨-, hlt, -⟩ | ⟨rfl, -⟩
    · exact Nat.le_of_lt hlt
    · exact Nat.le_refl l
  mem_iff l r := by
    rw [List.mem_cons, hc.mem_iff, Prod.mk.injEq]
    constructor
    · rintro (⟨rfl, rfl⟩ | hlower | ⟨rfl, y, hy, hr⟩)
      · exact Or.inr ⟨rfl, x, List.mem_append_right _ (List.mem_singleton_self x), rfl⟩
      · exact Or.inl hlower
      · exact Or.inr ⟨rfl, y, List.mem_append_left _ hy, hr⟩
    · rintro (hlower | ⟨rfl, y, hy, hr⟩)
      · exact Or.inr (Or.inl hlower)
      · rcases List.mem_append.mp hy with hprior | hlast
        · exact Or.inr (Or.inr ⟨rfl, y, hprior, hr⟩)
        · rw [List.mem_singleton.mp hlast] at hr
          exact Or.inl ⟨rfl, hr⟩

/-- When all points are done, so is the level. -/
theorem next (hc : Covers region points level points regions) (hone : 1 ≤ level) :
    Covers region points (level + 1) [] regions where
  nodup := hc.nodup
  ordered := hc.ordered
  mem_iff l r := by
    rw [hc.mem_iff]
    constructor
    · rintro (⟨hl, hlt, hx⟩ | ⟨rfl, hx⟩)
      · exact Or.inl ⟨hl, Nat.lt_succ_of_lt hlt, hx⟩
      · exact Or.inl ⟨hone, Nat.lt_succ_self _, hx⟩
    · rintro (⟨hl, hlt, hx⟩ | ⟨-, x, hx, -⟩)
      · rcases Nat.lt_succ_iff_lt_or_eq.mp hlt with hlt | rfl
        · exact Or.inl ⟨hl, hlt, hx⟩
        · exact Or.inr ⟨rfl, hx⟩
      · exact absurd hx List.not_mem_nil

end Covers
end Cover

end Ricoq
