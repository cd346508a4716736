import Ricoq.Boot.Correctness.Step

/-!
# `Boot.Correctness.VSpace` — what `VSpace.create` and `mapFrame` make

Creating a VSpace fills slots with new objects only, the VSpace first and then its translation tables, and
numbers and slots advance in step (`Tabled`). Mapping a frame fills one slot with a copy of its capability
and changes one page of the VSpace (`Mapped`).
-/

namespace Ricoq

open Sel4 Bootstrap

variable (h : Host) {T : Nat → Prop} {s s' s₁ s₂ : BootState}

namespace VSpace

/-- The pages of the VSpace `v`. -/
def HasPages (v : Nat) (pages : Nat → Option Page) (s : BootState) : Prop :=
  ∃ vs, s.kernel.objects v = .vspace vs ∧ vs.pages = pages

theorem HasPages.mono {v : Nat} {pages : Nat → Option Page} (hp : HasPages v pages s) (hext : Extends T s s')
    (hv : v < s.kernel.nextObject) (hT : ¬ T v) : HasPages v pages s' := by
  obtain ⟨vs, hvs, hpages⟩ := hp
  exact ⟨vs, (hext.objects v hv hT).trans hvs, hpages⟩

/-! ## Translation tables -/

/-- Tables for the VSpace `v` were made: each slot filled holds a table with the number that corresponds to
    the slot, and `v` has the pages it had. -/
structure Tabled (v : Nat) (s s' : BootState) : Prop where
  start_le : s.slots.start ≤ s'.slots.start
  offset : s'.kernel.nextObject + s.slots.start = s.kernel.nextObject + s'.slots.start
  tables : ∀ i, s.slots.start ≤ i → i < s'.slots.start →
    ∃ level, Holds i (s.kernel.nextObject + (i - s.slots.start)) (.table level) s'
  pages : ∀ pages, HasPages v pages s → HasPages v pages s'

namespace Tabled

variable {v : Nat}

theorem refl (v : Nat) (s : BootState) : Tabled v s s where
  start_le := Nat.le_refl _
  offset := rfl
  tables i hlo hhi := by omega
  pages _ hp := hp

theorem trans (ht : Tabled v s s₁) (hext : Extends T s₁ s₂) (ht' : Tabled v s₁ s₂) : Tabled v s s₂ where
  start_le := Nat.le_trans ht.start_le ht'.start_le
  offset := by
    have ho := ht.offset
    have ho' := ht'.offset
    omega
  tables i hlo hhi := by
    by_cases hi : i < s₁.slots.start
    · obtain ⟨level, hheld⟩ := ht.tables i hlo hi
      exact ⟨level, hheld.mono hext⟩
    · obtain ⟨level, hheld⟩ := ht'.tables i (Nat.not_lt.mp hi) hhi
      have hnumber : s₁.kernel.nextObject + (i - s₁.slots.start) =
          s.kernel.nextObject + (i - s.slots.start) := by
        have ho := ht.offset
        have hle := ht.start_le
        omega
      exact ⟨level, hnumber ▸ hheld⟩
  pages pages hp := ht'.pages pages (ht.pages pages hp)

end Tabled

variable {vspace : VSpace} {v : Nat}

/-- Mapping one table allocates it and enters it into the VSpace. -/
theorem mapTable_builds (hv : Holds vspace.root v .vspace s) (level address : Nat) :
    Builds (Eq v) (mapTable h vspace level address) s fun _ s' => Tabled v s s' := by
  unfold mapTable
  cases h.machine.fromLevel level with
  | none => exact Builds.throw
  | some tableType =>
      refine Prog.Ensures.bind (allocateBlueprint_builds h (Eq v) (.table tableType.level) s) ?_
      rintro table s₁ - ⟨hext, rfl, hcreated⟩
      have hv₁ := hv.mono hext
      have hlt := hv.slot_lt
      have hobject_lt := hv.object_lt
      rcases kernelOp_cases h (i := .tableMap s.slots.start tableType.level vspace.root address) (by nofun)
        .vspaceCreationFailed s₁ with ⟨k, log, heffect, hrun⟩ | ⟨log, hrun⟩
      · obtain ⟨cap, object, vs, hcap, hvspace, -, -, rfl⟩ := ObjectStore.effect_tableMap heffect
        obtain ⟨cap', hcap', hobject, hvs⟩ := ObjectStore.vspaceAt_eq_ok.mp hvspace
        obtain rfl : v = object := (hv₁.object_eq hcap').symm.trans hobject
        rw [hcreated.root, Function.update_self] at hcap
        obtain rfl := Option.some.inj hcap
        refine Prog.Ensures.ok hrun ⟨?_, ?_⟩
        · refine hext.remap (Nat.le_refl _) (by rw [hcreated.start]; exact Nat.lt_succ_self _) rfl rfl rfl rfl
            (Or.inl rfl) ?_
          intro o a hmap
          exact Or.inl (Prod.mk.inj (Option.some.inj hmap)).1
        · refine ⟨?_, ?_, ?_, ?_⟩
          · show s.slots.start ≤ s₁.slots.start
            exact hext.start_le
          · show s₁.kernel.nextObject + s.slots.start = s.kernel.nextObject + s₁.slots.start
            rw [hcreated.nextObject, hcreated.start]
            omega
          · intro i hlo hhi
            have hi : i = s.slots.start := by
              have : i < s₁.slots.start := hhi
              rw [hcreated.start] at this
              omega
            subst hi
            rw [Nat.sub_self, Nat.add_zero]
            exact ⟨tableType.level, hcreated.holds.slot_lt, ⟨_, Function.update_self _ _ _, rfl, rfl⟩,
              hcreated.holds.object_lt⟩
          · rintro pages ⟨vs₀, hvs₀, hpages⟩
            have hsame : s₁.kernel.objects v = s.kernel.objects v := by
              rw [hcreated.objects]
              exact Function.update_of_ne (Nat.ne_of_lt hobject_lt) _ _
            obtain rfl := Object.vspace.inj ((hsame ▸ hvs).symm.trans hvs₀)
            exact ⟨_, Function.update_self _ _ _, hpages⟩
      · exact Prog.Ensures.err hrun (hext.trans_same (Extends.of_log _ s₁ log))

/-- The tables of one level. The prior addresses only decide which ones are needed. -/
theorem mapLevel_builds (hv : Holds vspace.root v .vspace s) (level span : Nat) (prior addresses : List Nat) :
    Builds (Eq v) (mapLevel h vspace level span prior addresses) s fun _ s' => Tabled v s s' := by
  induction addresses generalizing prior s with
  | nil => exact Builds.pure (Tabled.refl v s)
  | cons address rest ih =>
      unfold mapLevel
      split
      · exact ih hv _
      · refine Builds.bind_same (mapTable_builds h hv level address) ?_
        intro _ s₁ hext htabled
        apply (ih (hv.mono hext) (prior ++ [address])).conseq
        intro _ s₂ hext' htabled'
        exact htabled.trans hext' htabled'

/-- All the tables. -/
theorem mapTranslationTables_builds (hv : Holds vspace.root v .vspace s)
    (pageAddresses reservedPages levels : List Nat) :
    Builds (Eq v) (mapTranslationTables h vspace pageAddresses reservedPages levels) s
      fun _ s' => Tabled v s s' := by
  induction levels generalizing s with
  | nil => exact Builds.pure (Tabled.refl v s)
  | cons level levels ih =>
      unfold mapTranslationTables
      cases span h level with
      | none => exact Builds.throw
      | some span =>
          refine Builds.bind_same (mapLevel_builds h hv level span [] _) ?_
          intro _ s₁ hext htabled
          apply (ih (hv.mono hext)).conseq
          intro _ s₂ hext' htabled'
          exact htabled.trans hext' htabled'

/-! ## Creation -/

/-- What `VSpace.create` makes: a VSpace without pages in the next slot, and its tables in the slots after. -/
structure Made (s : BootState) (vspace : VSpace) (s' : BootState) : Prop where
  root : vspace.root = s.slots.start
  start_lt : s.slots.start < s'.slots.start
  offset : s'.kernel.nextObject + s.slots.start = s.kernel.nextObject + s'.slots.start
  holds : Holds vspace.root s.kernel.nextObject .vspace s'
  tables : ∀ i, s.slots.start < i → i < s'.slots.start →
    ∃ level, Holds i (s.kernel.nextObject + (i - s.slots.start)) (.table level) s'
  pages : HasPages s.kernel.nextObject (fun _ => none) s'

theorem create_builds (T : Nat → Prop) (pageAddresses reservedPages : List Nat) (s : BootState) :
    Builds T (create h pageAddresses reservedPages) s (Made s) := by
  unfold create
  refine Builds.bind (allocateBlueprint_builds h T .vspace s) ?_
  rintro root s₁ hext ⟨rfl, hcreated⟩
  -- from here on only the new VSpace is touched
  refine ⟨Eq s.kernel.nextObject, fun id hid hnew => absurd hid (by omega), ?_⟩
  have hfresh : s₁.kernel.objects s.kernel.nextObject = .vspace ⟨false, [], fun _ => none⟩ := by
    rw [hcreated.objects, Function.update_self]
    rfl
  have hassign : Builds (Eq s.kernel.nextObject)
      (kernelOp (invoke h.machine (.asidPoolAssign s.slots.start)) .vspaceCreationFailed) s₁
      fun _ s₂ => s₂.slots = s₁.slots ∧ s₂.kernel.nextObject = s₁.kernel.nextObject ∧
        HasPages s.kernel.nextObject (fun _ => none) s₂ := by
    refine kernelOp_builds h (by nofun) _ ?_
    intro k log heffect
    obtain ⟨object, vs, hvspace, rfl⟩ := ObjectStore.effect_asidPoolAssign heffect
    obtain ⟨cap, hcap, hobject, hvs⟩ := ObjectStore.vspaceAt_eq_ok.mp hvspace
    obtain rfl : s.kernel.nextObject = object := (hcreated.holds.object_eq hcap).symm.trans hobject
    obtain rfl := Object.vspace.inj (hfresh.symm.trans hvs)
    exact ⟨Extends.of_object rfl rfl rfl rfl (Or.inl rfl), rfl, rfl, _, Function.update_self _ _ _, rfl⟩
  refine Builds.bind_same hassign ?_
  rintro - s₂ hext₂ ⟨hslots, hnext, hpages⟩
  have hholds : Holds s.slots.start s.kernel.nextObject .vspace s₂ := hcreated.holds.mono hext₂
  have hholds' : Holds (VSpace.mk s.slots.start).root s.kernel.nextObject .vspace s₂ := hholds
  refine Builds.bind_same (mapTranslationTables_builds h hholds' pageAddresses reservedPages (levels h)) ?_
  intro _ s₃ hext₃ htabled
  have hstart : s₂.slots.start = s.slots.start + 1 := by rw [hslots, hcreated.start]
  have hnextObject : s₂.kernel.nextObject = s.kernel.nextObject + 1 := by rw [hnext, hcreated.nextObject]
  have hstart_le := htabled.start_le
  have hoffset := htabled.offset
  refine Builds.pure ⟨rfl, by omega, by omega, hholds.mono hext₃, ?_, htabled.pages _ hpages⟩
  · intro i hlo hhi
    obtain ⟨level, hheld⟩ := htabled.tables i (by omega) hhi
    have hnumber : s₂.kernel.nextObject + (i - s₂.slots.start) =
        s.kernel.nextObject + (i - s.slots.start) := by omega
    exact ⟨level, hnumber ▸ hheld⟩

/-! ## Mapping a frame -/

/-- A frame was mapped at an address of the VSpace `v`, through a copy of its capability in the next slot. -/
structure Mapped (v address : Nat) (cap : Cap) (vs : VSpaceObject) (rights : CapRights) (s s' : BootState) :
    Prop where
  start : s'.slots.start = s.slots.start + 1
  nextObject : s'.kernel.nextObject = s.kernel.nextObject
  granule : cap.blueprint = .granule
  vspace : s.kernel.objects v = .vspace vs
  root : s'.kernel.root = Function.update s.kernel.root s.slots.start
    (some { cap.derive rights with mapping := some (v, address) })
  objects : s'.kernel.objects = Function.update s.kernel.objects v (.vspace { vs with
    pages := Function.update vs.pages address (some ⟨cap.object, (cap.rights.inter rights).inter rights⟩) })

/-- The page is added to those the VSpace has. -/
theorem Mapped.pages {address : Nat} {cap : Cap} {vs : VSpaceObject} {rights : CapRights}
    (hm : Mapped v address cap vs rights s s') {pages : Nat → Option Page} (hp : HasPages v pages s) :
    HasPages v (Function.update pages address (some ⟨cap.object, (cap.rights.inter rights).inter rights⟩))
      s' := by
  obtain ⟨vs', hvs', rfl⟩ := hp
  obtain rfl := Object.vspace.inj (hm.vspace.symm.trans hvs')
  exact ⟨_, by rw [hm.objects, Function.update_self], rfl⟩

/-- Mapping a frame, provided the VSpace named is one that may be touched. -/
theorem mapFrame_builds (frame : Frame) (address : Nat) (rights : CapRights)
    (htouch : ∀ s₁ cap object vs, Copied frame.cap rights cap s s₁ →
      s₁.kernel.vspaceAt vspace.root = .ok (object, vs) → Touches T s object) :
    Builds T (vspace.mapFrame h frame address rights) s fun slot s' => slot = s.slots.start ∧
      ∃ v cap vs, s.kernel.root frame.cap = some cap ∧ Mapped v address cap vs rights s s' ∧
        ∀ object, Holds vspace.root object .vspace s → v = object := by
  unfold mapFrame
  by_cases haligned : address % h.machine.pageBytes ≠ 0
  · rw [if_pos haligned]
    exact Builds.throw
  · rw [if_neg haligned]
    refine Prog.Ensures.bind (copyToRoot_builds h T frame.cap rights s) ?_
    rintro mapping s₁ - ⟨hext, rfl, cap, hcopied⟩
    rcases kernelOp_cases h (i := .frameMap s.slots.start vspace.root address rights) (by nofun)
      .frameMappingFailed s₁ with ⟨k, log, heffect, hrun⟩ | ⟨log, hrun⟩
    · obtain ⟨copy, v, vs, hcopy, hvspace, hgranule, -, rfl⟩ := ObjectStore.effect_frameMap heffect
      have ht := htouch s₁ cap v vs hcopied hvspace
      obtain ⟨cap', hcap', hobject, hvs⟩ := ObjectStore.vspaceAt_eq_ok.mp hvspace
      rw [hcopied.root, Function.update_self] at hcopy
      obtain rfl := Option.some.inj hcopy
      refine Prog.Ensures.ok (Prog.run_bind_ok hrun) ⟨?_, rfl, v, cap, vs, hcopied.source, ?_, ?_⟩
      · refine hext.remap (Nat.le_refl _) (by rw [hcopied.start]; exact Nat.lt_succ_self _) rfl rfl rfl rfl ht ?_
        intro object address' hmap
        obtain rfl := (Prod.mk.inj (Option.some.inj hmap)).1
        exact ht
      · refine ⟨hcopied.start, hcopied.nextObject, hgranule, hcopied.objects ▸ hvs, ?_, ?_⟩
        · show Function.update s₁.kernel.root s.slots.start _ = _
          rw [hcopied.root, Function.update_idem]
        · show Function.update s₁.kernel.objects v _ = _
          rw [hcopied.objects]
          rfl
      · intro object hholds
        exact hobject.symm.trans ((hholds.mono hext).object_eq hcap')
    · exact Prog.Ensures.err (Prog.run_bind_err hrun) (hext.trans_same (Extends.of_log _ s₁ log))

/-- Mapping a frame into the VSpace `v`. -/
theorem mapFrame_builds_of_holds (hv : Holds vspace.root v .vspace s) (frame : Frame) (address : Nat)
    (rights : CapRights) :
    Builds (Eq v) (vspace.mapFrame h frame address rights) s fun slot s' => slot = s.slots.start ∧
      ∃ cap vs, s.kernel.root frame.cap = some cap ∧ Mapped v address cap vs rights s s' := by
  have htouch : ∀ s₁ cap object vs, Copied frame.cap rights cap s s₁ →
      s₁.kernel.vspaceAt vspace.root = .ok (object, vs) → Touches (Eq v) s object := by
    intro s₁ cap object vs hcopied hvspace
    obtain ⟨cap', hcap', hobject, -⟩ := ObjectStore.vspaceAt_eq_ok.mp hvspace
    rw [hcopied.root, Function.update_of_ne (Nat.ne_of_lt hv.slot_lt)] at hcap'
    exact Or.inl ((hv.object_eq hcap').symm.trans hobject)
  apply (mapFrame_builds h frame address rights htouch).conseq
  rintro slot s' - ⟨hslot, v', cap, vs, hcap, hmapped, hholds⟩
  obtain rfl := hholds v hv
  exact ⟨hslot, cap, vs, hcap, hmapped⟩

/-- A mapping that fails has touched nothing old: at most the copy was made. -/
theorem mapFrame_fails {frame : Frame} {address : Nat} {rights : CapRights} {e : BootstrapError}
    (hrun : vspace.mapFrame h frame address rights s = (.err e, s')) : Extends (fun _ => False) s s' := by
  have hfails : Prog.Ensures (vspace.mapFrame h frame address rights) s (fun _ _ => True)
      fun _ s' => Extends (fun _ => False) s s' := by
    unfold mapFrame
    by_cases haligned : address % h.machine.pageBytes ≠ 0
    · rw [if_pos haligned]
      exact Extends.refl _ s
    · rw [if_neg haligned]
      rcases (copyToRoot_builds h (fun _ => False) frame.cap rights s).cases with
        ⟨mapping, s₁, hcopy, hext, -⟩ | ⟨e, s₁, hcopy, hext⟩
      · rcases kernelOp_cases h (i := .frameMap mapping vspace.root address rights) (by nofun)
          .frameMappingFailed s₁ with ⟨k, log, -, hmap⟩ | ⟨log, hmap⟩
        · exact Prog.Ensures.ok ((Prog.run_bind_ok hcopy).trans (Prog.run_bind_ok hmap)) trivial
        · exact Prog.Ensures.err ((Prog.run_bind_ok hcopy).trans (Prog.run_bind_err hmap))
            (hext.trans_same (Extends.of_log _ s₁ log))
      · exact Prog.Ensures.err (Prog.run_bind_err hcopy) hext
  exact hfails.of_err hrun

end VSpace
end Ricoq
