import Ricoq.Boot.Correctness.Layout
import Ricoq.Boot.Correctness.Ownership

/-!
# `Boot.Correctness.Tables` — the translation tables of a VSpace

`mapTranslationTables` maps a table where no earlier address lies in the same region, level by level. What
the VSpace has then is a cover of the pages (`Covers`), and along the way the cover is what the kernel asks
for: the levels above the one in progress are done for every page, and the region to be mapped is new.

A VSpace keeps its tables from then on. Frames are mapped next to them, and what a rollback deletes was mapped
in nothing old (`KeepsTables`). So a page that was named when the task was made can be mapped at any later
time.
-/

namespace Ricoq

open Sel4 Bootstrap

/-! ## What is relied on -/

/-- Every level below the root has a table type, and a span that fits a word. -/
structure Sel4.Platform.HasLevels (p : Platform) : Prop where
  fromLevel : ∀ l, 1 ≤ l → l < p.numLevels → p.fromLevel l = some ⟨l⟩
  span_lt : ∀ l, 1 ≤ l → l < p.numLevels → p.spanBits l < wordBits

/-- The kernel has no reason of its own to refuse a table: it maps one exactly when those above it are there
    and its region has none. -/
def Sel4.Machine.AcceptsTables (m : Machine) : Prop :=
  ∀ log table level vspace address, m.refuses log (.tableMap table level vspace address) = none

namespace VSpace

/-- The VSpace `v` has these translation tables, the latest first. -/
def HasTables (v : Nat) (tables : List (Nat × Nat)) (s : BootState) : Prop :=
  ∃ vs, s.kernel.objects v = .vspace vs ∧ vs.tables = tables

/-- A table could not be allocated. -/
def TableFails (h : Host) (e : BootstrapError) (s' : BootState) : Prop :=
  ∃ level s, allocateBlueprint h (.table level) s = (.err e, s')

variable (h : Host) {vspace : VSpace} {v : Nat} {s s' : BootState} {tables : List (Nat × Nat)}

/-! ## One level -/

theorem span_of_lt {level : Nat} (hlt : h.machine.spanBits level < wordBits) :
    span h level = some (2 ^ h.machine.spanBits level) := by
  have hword : h.machine.spanBits level < 2 ^ 32 := Nat.lt_trans hlt (by decide)
  have hpow : 2 ^ h.machine.spanBits level < 2 ^ wordBits := Nat.pow_lt_pow_right (by decide) hlt
  simp only [span, tryFromU32, if_pos hword, Option.bind_some, checkedShl, if_pos hlt,
    Nat.one_mul, Nat.mod_eq_of_lt hpow]

/-- Mapping a table where it is due adds it, unless it cannot be allocated. -/
theorem mapTable_ensures {level address : Nat} (hfrom : h.machine.fromLevel level = some ⟨level⟩)
    (hv : Holds vspace.root v .vspace s) (ht : HasTables v tables s)
    (hupper : ∀ l, 1 ≤ l → l < level → (l, h.machine.region l address) ∈ tables)
    (hnew : (level, h.machine.region level address) ∉ tables) :
    Prog.Ensures (mapTable h vspace level address) s
      (fun _ s' => Holds vspace.root v .vspace s' ∧
        HasTables v ((level, h.machine.region level address) :: tables) s')
      fun e s' => TableFails h e s' ∨ ¬ h.machine.AcceptsTables := by
  unfold mapTable
  rw [hfrom]
  dsimp only
  rcases (allocateBlueprint_builds h (fun _ => False) (.table level) s).cases with
    ⟨table, s₁, hrun, hext, rfl, hcreated⟩ | ⟨e, s₁, hrun, -⟩
  · obtain ⟨vs, hvs, rfl⟩ := ht
    have hv₁ := hv.mono hext
    have hvs₁ : s₁.kernel.objects v = .vspace vs := (hext.objects v hv.object_lt not_false).trans hvs
    obtain ⟨vcap, hvcap, hobject, hkind⟩ := hv₁.cap
    obtain ⟨tcap, htcap, -⟩ := hcreated.holds.cap
    let vs' := { vs with tables := (level, h.machine.region level address) :: vs.tables }
    -- the kernel finds the VSpace as the code left it
    have heffect := ObjectStore.effect_tableMap_of htcap (ObjectStore.vspaceAt_eq_ok.mpr
      ⟨vcap, hvcap, hobject, hvs₁⟩) hupper hnew
    rcases kernelOp_of_effect h heffect .vspaceCreationFailed with hop | ⟨hr, s₂, hop⟩
    · refine Prog.Ensures.ok ((Prog.run_bind_ok hrun).trans hop) ⟨?_, vs', ?_, rfl⟩
      · refine ⟨hv₁.slot_lt, ⟨vcap, ?_, hobject, hkind⟩, hv₁.object_lt⟩
        show Function.update s₁.kernel.root s.slots.start _ vspace.root = some vcap
        rw [Function.update_of_ne (Nat.ne_of_lt hv.slot_lt), hvcap]
      · show Function.update s₁.kernel.objects v (.vspace vs') v = .vspace vs'
        rw [Function.update_self]
    · exact Prog.Ensures.err ((Prog.run_bind_ok hrun).trans hop) (Or.inr fun ha => hr (ha _ _ _ _ _))
  · exact Prog.Ensures.err (Prog.run_bind_err hrun) (Or.inl ⟨level, s, hrun⟩)

/-- What a part of the table construction ends in: a cover, or a table that could not be allocated. -/
def CoversUpTo (x : Boot Unit) (vspace : VSpace) (v : Nat) (points : List Nat) (level : Nat) (prior : List Nat)
    (s : BootState) : Prop :=
  Prog.Ensures x s (fun _ s' => Holds vspace.root v .vspace s' ∧ ∃ tables, HasTables v tables s' ∧
      Covers h.machine.region points level prior tables)
    fun e s' => TableFails h e s' ∨ ¬ h.machine.AcceptsTables

/-- The tables of one level. The prior addresses are those the level is done for. -/
theorem mapLevel_covers {points : List Nat} {level : Nat} (hfrom : h.machine.fromLevel level = some ⟨level⟩)
    (prior addresses : List Nat) (hpoints : ∀ a ∈ addresses, a ∈ points) (hv : Holds vspace.root v .vspace s)
    (ht : HasTables v tables s) (hc : Covers h.machine.region points level prior tables) :
    CoversUpTo h (mapLevel h vspace level (2 ^ h.machine.spanBits level) prior addresses) vspace v points level
      (prior ++ addresses) s := by
  induction addresses generalizing prior s tables with
  | nil =>
      rw [List.append_nil]
      exact Prog.Ensures.ok rfl ⟨hv, tables, ht, hc⟩
  | cons address rest ih =>
      have hrest : ∀ a ∈ rest, a ∈ points := fun a ha => hpoints a (List.mem_cons_of_mem _ ha)
      rw [List.append_cons]
      unfold mapLevel
      by_cases hseen : ∃ b ∈ prior, b / 2 ^ h.machine.spanBits level = address / 2 ^ h.machine.spanBits level
      · rw [if_pos hseen]
        exact ih (prior ++ [address]) hrest hv ht (hc.skip hseen)
      · rw [if_neg hseen]
        have hnew : (level, h.machine.region level address) ∉ tables := by
          intro hmem
          obtain ⟨b, hb, hregion⟩ := hc.mem_level_iff.mp hmem
          exact hseen ⟨b, hb, hregion.symm⟩
        have hupper : ∀ l, 1 ≤ l → l < level → (l, h.machine.region l address) ∈ tables :=
          fun l hone hlt => hc.mem_of_lt (hpoints address (List.mem_cons_self ..)) hone hlt
        refine Prog.Ensures.bind (mapTable_ensures h hfrom hv ht hupper hnew) ?_
        rintro _ s₁ - ⟨hv₁, ht₁⟩
        exact ih (prior ++ [address]) hrest hv₁ ht₁ (hc.add hnew)

/-- The tables of the levels from `level` on. -/
theorem mapTranslationTables_covers (hp : h.machine.HasLevels) (pageAddresses reservedPages : List Nat)
    (level count : Nat) (hone : 1 ≤ level) (hcount : level + count ≤ max 1 h.machine.numLevels)
    (hv : Holds vspace.root v .vspace s) (ht : HasTables v tables s)
    (hc : Covers h.machine.region (pageAddresses ++ reservedPages) level [] tables) :
    CoversUpTo h (mapTranslationTables h vspace pageAddresses reservedPages (List.range' level count)) vspace v
      (pageAddresses ++ reservedPages) (level + count) [] s := by
  induction count generalizing level s tables with
  | zero => exact Prog.Ensures.ok rfl ⟨hv, tables, ht, hc⟩
  | succ count ih =>
      have hlt : level < h.machine.numLevels := by omega
      rw [List.range'_succ, mapTranslationTables, span_of_lt h (hp.span_lt level hone hlt)]
      refine Prog.Ensures.bind (mapLevel_covers h (hp.fromLevel level hone hlt) [] _ (fun _ ha => ha) hv ht hc) ?_
      rintro _ s₁ - ⟨hv₁, tables₁, ht₁, hc₁⟩
      rw [← Nat.add_assoc, Nat.add_right_comm]
      exact ih (level + 1) (Nat.le_succ_of_le hone) (by omega) hv₁ ht₁ (hc₁.next hone)

/-! ## All levels -/

/-- The translation tables of a VSpace are exactly those the addresses need: one for each level below the root
    and each region one of them lies in. -/
structure TablesFor (p : Platform) (addresses : List Nat) (tables : List (Nat × Nat)) : Prop where
  nodup : tables.Nodup
  ordered : tables.Pairwise fun x y => y.1 ≤ x.1
  mem_iff : ∀ l r, (l, r) ∈ tables ↔ 1 ≤ l ∧ l < p.numLevels ∧ ∃ a ∈ addresses, r = p.region l a

/-- An address the tables are for has its full chain of tables. -/
theorem TablesFor.hasTables {p : Platform} {addresses : List Nat} {vs : VSpaceObject}
    (ht : TablesFor p addresses vs.tables) {a : Nat} (ha : a ∈ addresses) :
    ObjectStore.hasTables p vs p.numLevels a :=
  fun l hone hlt => (ht.mem_iff l _).mpr ⟨hone, hlt, a, ha, rfl⟩

theorem tablesFor_of_covers {p : Platform} {addresses : List Nat}
    (hc : Covers p.region addresses (1 + (p.numLevels - 1)) [] tables) : TablesFor p addresses tables where
  nodup := hc.nodup
  ordered := hc.ordered
  mem_iff l r := by
    rw [hc.mem_iff]
    constructor
    · rintro (⟨hone, hlt, hr⟩ | ⟨-, x, hx, -⟩)
      · exact ⟨hone, by omega, hr⟩
      · exact absurd hx List.not_mem_nil
    · rintro ⟨hone, hlt, hr⟩
      exact Or.inl ⟨hone, by omega, hr⟩

/-- Into a VSpace without tables exactly those needed are mapped, unless one cannot be allocated. -/
theorem mapTranslationTables_ensures (hp : h.machine.HasLevels) (pageAddresses reservedPages : List Nat)
    (hv : Holds vspace.root v .vspace s) (ht : HasTables v [] s) :
    Prog.Ensures (mapTranslationTables h vspace pageAddresses reservedPages (levels h)) s
      (fun _ s' => ∃ tables, HasTables v tables s' ∧
        TablesFor h.machine.toPlatform (pageAddresses ++ reservedPages) tables)
      fun e s' => TableFails h e s' ∨ ¬ h.machine.AcceptsTables := by
  have hcovers := mapTranslationTables_covers h hp pageAddresses reservedPages 1 (h.machine.numLevels - 1)
    (Nat.le_refl 1) (by omega) hv ht (Covers.nil h.machine.region _)
  refine Prog.Ensures.conseq hcovers ?_ fun _ _ he => he
  rintro _ s' ⟨-, tables, ht', hc⟩
  exact ⟨tables, ht', tablesFor_of_covers hc⟩

/-- A VSpace that was created has exactly the tables its pages need. -/
theorem create_tables (hp : h.machine.HasLevels) {pageAddresses reservedPages : List Nat}
    (hrun : create h pageAddresses reservedPages s = (.ok vspace, s')) :
    ∃ tables, HasTables s.kernel.nextObject tables s' ∧
      TablesFor h.machine.toPlatform (pageAddresses ++ reservedPages) tables := by
  unfold create at hrun
  obtain ⟨root, s₁, hallocate, hrun⟩ := Prog.run_bind_eq_ok.mp hrun
  obtain ⟨-, rfl, hcreated⟩ := (allocateBlueprint_builds h (fun _ => False) .vspace s).of_ok hallocate
  obtain ⟨⟨⟩, s₂, hassign, hrun⟩ := Prog.run_bind_eq_ok.mp hrun
  obtain ⟨⟨⟩, s₃, htables, hend⟩ := Prog.run_bind_eq_ok.mp hrun
  obtain ⟨hvspace, rfl⟩ := Prod.mk.inj hend
  have hfresh : s₁.kernel.objects s.kernel.nextObject = .vspace ⟨false, [], fun _ => none⟩ := by
    rw [hcreated.objects, Function.update_self]
    rfl
  -- assigning it to a pool changes no table
  have hassigned : Holds (VSpace.mk s.slots.start).root s.kernel.nextObject .vspace s₂ ∧
      HasTables s.kernel.nextObject [] s₂ := by
    rcases kernelOp_cases h (i := .asidPoolAssign s.slots.start) (by nofun) .vspaceCreationFailed s₁ with
      ⟨k, log, heffect, hop⟩ | ⟨log, hop⟩
    · obtain ⟨object, vs, hat, rfl⟩ := ObjectStore.effect_asidPoolAssign heffect
      obtain ⟨cap, hcap, hobject, hvs⟩ := ObjectStore.vspaceAt_eq_ok.mp hat
      obtain rfl : s.kernel.nextObject = object := (hcreated.holds.object_eq hcap).symm.trans hobject
      obtain rfl := Object.vspace.inj (hfresh.symm.trans hvs)
      obtain ⟨-, rfl⟩ := Prod.mk.inj (hop.symm.trans hassign)
      exact ⟨⟨hcreated.holds.slot_lt, hcreated.holds.cap, hcreated.holds.object_lt⟩, _,
        Function.update_self _ _ _, rfl⟩
    · exact nomatch (Prod.mk.inj (hop.symm.trans hassign)).1
  exact (mapTranslationTables_ensures h hp pageAddresses reservedPages hassigned.1 hassigned.2).of_ok htables

end VSpace

/-! ## Keeping the tables -/

/-- From `s` to `s'` the old VSpaces kept their translation tables. -/
structure KeepsTables (s s' : BootState) : Prop where
  nextObject_le : s.kernel.nextObject ≤ s'.kernel.nextObject
  tables : ∀ v tables, v < s.kernel.nextObject → VSpace.HasTables v tables s → VSpace.HasTables v tables s'

namespace KeepsTables

variable {s s₁ s₂ s' : BootState}

theorem refl (s : BootState) : KeepsTables s s := ⟨Nat.le_refl _, fun _ _ _ ht => ht⟩

theorem trans (hk : KeepsTables s s₁) (hk' : KeepsTables s₁ s₂) : KeepsTables s s₂ where
  nextObject_le := Nat.le_trans hk.nextObject_le hk'.nextObject_le
  tables v tables hv ht := hk'.tables v tables (Nat.lt_of_lt_of_le hv hk.nextObject_le) (hk.tables v tables hv ht)

/-- No old object changed. -/
theorem of_unchanged (hnext : s.kernel.nextObject ≤ s'.kernel.nextObject)
    (hobjects : Unchanged (fun _ => False) s s') : KeepsTables s s' where
  nextObject_le := hnext
  tables v tables hv ht := by
    obtain ⟨vs, hvs, htables⟩ := ht
    exact ⟨vs, (hobjects v hv not_false).trans hvs, htables⟩

/-- One object changed, and if it is a VSpace, then not in its tables. -/
theorem of_update {object : Nat} {value : Object} (hnext : s'.kernel.nextObject = s.kernel.nextObject)
    (hobjects : s'.kernel.objects = Function.update s.kernel.objects object value)
    (hvalue : ∀ vs, s.kernel.objects object = .vspace vs → ∃ vs', value = .vspace vs' ∧ vs'.tables = vs.tables) :
    KeepsTables s s' where
  nextObject_le := Nat.le_of_eq hnext.symm
  tables v tables _ ht := by
    obtain ⟨vs, hvs, rfl⟩ := ht
    by_cases hv : v = object
    · obtain ⟨vs', rfl, htables⟩ := hvalue vs (hv ▸ hvs)
      exact ⟨vs', by rw [hobjects, hv, Function.update_self], htables⟩
    · exact ⟨vs, by rw [hobjects, Function.update_of_ne hv, hvs], rfl⟩

end KeepsTables

/-- A program that keeps the tables, whatever its outcome. -/
def Keeps {α : Type} (x : Boot α) (s : BootState) : Prop :=
  Prog.Ensures x s (fun _ s' => KeepsTables s s') fun _ s' => KeepsTables s s'

section Programs

variable {α β : Type} {s s' : BootState}

theorem Keeps.pure (a : α) : Keeps (Pure.pure a : Boot α) s := KeepsTables.refl s

theorem Keeps.bind {x : Boot α} {f : α → Boot β} (hx : Keeps x s) (hf : ∀ a s', Keeps (f a) s') :
    Keeps (x >>= f) s := by
  refine Prog.Ensures.bind hx ?_
  intro a s₁ _ hk
  exact (hf a s₁).conseq (fun _ _ hk' => hk.trans hk') fun _ _ hk' => hk.trans hk'

/-- What touches nothing old keeps the tables. -/
theorem Bootstrap.Builds.keeps {x : Boot α} {D : α → BootState → Prop} (hx : Builds (fun _ => False) x s D) :
    Keeps x s :=
  Prog.Ensures.conseq hx (fun _ _ hd => .of_unchanged hd.1.nextObject_le hd.1.objects)
    fun _ _ he => .of_unchanged he.nextObject_le he.objects

/-- A construction that touches nothing old keeps the tables, rolled back or not. -/
theorem Settles.keeps {h : Host} {construction : Boot α} {call : Boot β} {D : β → BootState → Prop}
    (hs : Settles h (fun _ => False) construction D s (call s)) : Keeps call s := by
  generalize hcall : call s = r at hs
  cases hs with
  | done hrun hext hD => exact Prog.Ensures.ok hcall (.of_unchanged hext.nextObject_le hext.objects)
  | undone hrun hext hdeleted hback hkept =>
      refine Prog.Ensures.err hcall (.of_unchanged ?_ hkept)
      rw [hback.nextObject]
      exact hext.nextObject_le
  | stuck hrun hext hfailed hcleared hkept =>
      refine Prog.Ensures.err hcall (.of_unchanged ?_ hkept)
      rw [hcleared.nextObject]
      exact hext.nextObject_le

variable (h : Host)

/-- A kernel operation keeps the tables if its effect does. -/
theorem kernelOp_keeps {i : Invocation} (hi : ∀ slot, i ≠ .delete slot) (error : BootstrapError)
    (heffect : ∀ k log, s.kernel.effect h.machine.toPlatform i = .ok k →
      KeepsTables s { s with kernel := { k with log } }) : Keeps (kernelOp (invoke h.machine i) error) s := by
  rcases kernelOp_cases h hi error s with ⟨k, log, he, hrun⟩ | ⟨log, hrun⟩
  · exact Prog.Ensures.ok hrun (heffect k log he)
  · exact Prog.Ensures.err hrun ⟨Nat.le_refl _, fun _ _ _ ht => ht⟩

theorem mapFrame_keeps (vspace : VSpace) (frame : Frame) (address : Nat) (rights : CapRights) :
    Keeps (vspace.mapFrame h frame address rights) s := by
  unfold VSpace.mapFrame
  by_cases haligned : address % h.machine.pageBytes ≠ 0
  · rw [if_pos haligned]
    exact KeepsTables.refl s
  · rw [if_neg haligned]
    refine Keeps.bind (copyToRoot_builds h (fun _ => False) frame.cap rights s).keeps fun mapping s₁ => ?_
    refine Keeps.bind (kernelOp_keeps h (by nofun) _ ?_) fun _ s₂ => Keeps.pure mapping
    intro k log he
    obtain ⟨cap, v, vs, -, hat, -, -, rfl⟩ := ObjectStore.effect_frameMap he
    obtain ⟨-, -, -, hvs⟩ := ObjectStore.vspaceAt_eq_ok.mp hat
    refine .of_update rfl rfl fun vs₀ hvs₀ => ?_
    obtain rfl := Object.vspace.inj (hvs.symm.trans hvs₀)
    exact ⟨_, rfl, rfl⟩

theorem allocateMapped_keeps (vspace : VSpace) (address : Nat) : Keeps (allocateMapped h vspace address) s := by
  unfold allocateMapped allocateFrame
  refine Keeps.bind ?_ fun frame s₁ => Keeps.bind (mapFrame_keeps h vspace frame address .readWrite)
    fun mapping s₂ => Keeps.pure _
  exact Keeps.bind (allocateBlueprint_builds h (fun _ => False) .granule s).keeps fun slot s₁ => Keeps.pure _

theorem Thread.create_keeps (cspace : CSpace) (vspace : VSpace) (config : ThreadConfig) :
    Keeps (Thread.create h cspace vspace config) s := by
  unfold Thread.create
  refine Keeps.bind (allocateBlueprint_builds h (fun _ => False) .tcb s).keeps fun tcb s₁ => ?_
  refine Keeps.bind (kernelOp_keeps h (by nofun) _ ?_) fun _ s₂ => ?_
  · intro k log he
    obtain ⟨object, tcb, -, -, -, -, -, hat, -, -, -, rfl⟩ := ObjectStore.effect_tcbConfigure he
    obtain ⟨-, -, -, htcb⟩ := ObjectStore.tcbAt_eq_ok.mp hat
    exact .of_update rfl rfl fun vs hvs => nomatch htcb.symm.trans hvs
  · refine Keeps.bind (kernelOp_keeps h (by nofun) _ ?_) fun _ s₃ => Keeps.pure _
    intro k log he
    obtain ⟨object, tcb, hat, rfl⟩ := ObjectStore.effect_tcbWriteAllRegisters he
    obtain ⟨-, -, -, htcb⟩ := ObjectStore.tcbAt_eq_ok.mp hat
    exact .of_update rfl rfl fun vs hvs => nomatch htcb.symm.trans hvs

theorem createTask_keeps (config : TaskConfig) : Keeps (createTask h config) s :=
  (createTask_settles h (fun _ => False) config s).keeps

/-- Mapping a recovery frame changes pages, or nothing old. -/
theorem mapRecoveryFrame_keeps (task : Task) (frame : Frame) (address : Nat) :
    Keeps (mapRecoveryFrame h task frame address) s := by
  have hkeeps : Keeps (task.vspace.mapFrame h frame address .readWrite) s :=
    mapFrame_keeps h task.vspace frame address .readWrite
  rcases hkeeps.cases with ⟨slot, s₁, hrun, hk⟩ | ⟨e, s₁, hrun, -⟩
  · have hsettles := mapRecoveryFrame_settles h task frame address s
    generalize hcall : mapRecoveryFrame h task frame address s = r at hsettles
    cases hsettles with
    | done hrun' hext hD =>
        obtain ⟨-, rfl⟩ := Prod.mk.inj (hrun.symm.trans hrun')
        exact Prog.Ensures.ok hcall hk
    | undone hrun' hext hdeleted hback hkept => exact nomatch (Prod.mk.inj (hrun.symm.trans hrun')).1
    | stuck hrun' hext hfailed hcleared hkept => exact nomatch (Prod.mk.inj (hrun.symm.trans hrun')).1
  · refine (mapRecoveryFrame_settles_of h task frame address s ?_).keeps
    intro slot s₂ hrun'
    exact nomatch (Prod.mk.inj (hrun.symm.trans hrun')).1

/-! ## Mapping a page later -/

/-- The kernel has no reason of its own to refuse a copy or a frame mapping. -/
def Sel4.Machine.AcceptsFrames (m : Machine) : Prop :=
  (∀ log slot source rights, m.refuses log (.copy slot source rights) = none) ∧
  ∀ log frame vspace address rights, m.refuses log (.frameMap frame vspace address rights) = none

theorem copyToRoot_returns (hacc : h.machine.AcceptsFrames) (hav : s.slots.Available) {source : Nat}
    (rights : CapRights) {cap : Cap} (hcap : s.kernel.root source = some cap) :
    ∃ s', copyToRoot h source rights s = (.ok s.slots.start, s') := by
  have heffect : s.kernel.effect h.machine.toPlatform (.copy s.slots.start source rights) =
      .ok (s.kernel.setRoot s.slots.start (some (cap.derive rights))) :=
    except_bind_eq_ok.mpr ⟨cap, ObjectStore.rootCap_eq_ok.mpr hcap, rfl⟩
  have hcopy := Prog.run_mapErr_ok (f := fun _ => BootstrapError.cspaceCreationFailed)
    (invoke_of_effect (hacc.1 s.kernel.log s.slots.start source rights) heffect)
  unfold copyToRoot
  exact ⟨_, Prog.run_bind_ok (tryAllocate_ok hav (Prog.run_bind_ok hcopy))⟩

/-- A page with its full chain of tables can be mapped. -/
theorem mapFrame_returns (hacc : h.machine.AcceptsFrames) (hav : s.slots.Available) {vspace : VSpace} {v : Nat}
    {vs : VSpaceObject} (hv : Holds vspace.root v .vspace s) (hvs : s.kernel.objects v = .vspace vs)
    {address : Nat} (haligned : h.machine.pageBytes ∣ address)
    (htables : ObjectStore.hasTables h.machine.toPlatform vs h.machine.numLevels address) {frame : Frame}
    {cap : Cap} (hcap : s.kernel.root frame.cap = some cap) (hgranule : cap.blueprint = .granule)
    (rights : CapRights) : ∃ slot s', vspace.mapFrame h frame address rights s = (.ok slot, s') := by
  obtain ⟨s₁, hcopy⟩ := copyToRoot_returns h hacc hav rights hcap
  obtain ⟨hext, -, cap', hcopied⟩ := (copyToRoot_builds h (fun _ => False) frame.cap rights s).of_ok hcopy
  obtain rfl := Option.some.inj (hcap.symm.trans hcopied.source)
  obtain ⟨vcap, hvcap, hobject, -⟩ := (hv.mono hext).cap
  have hvs₁ : s₁.kernel.objects v = .vspace vs := by rw [hcopied.objects, hvs]
  have hroot : s₁.kernel.root s.slots.start = some (cap.derive rights) := by
    rw [hcopied.root, Function.update_self]
  have heffect : s₁.kernel.effect h.machine.toPlatform (.frameMap s.slots.start vspace.root address rights) = _ :=
    ObjectStore.effect_frameMap_of hroot (ObjectStore.vspaceAt_eq_ok.mpr ⟨vcap, hvcap, hobject, hvs₁⟩) hgranule
      htables
  unfold VSpace.mapFrame
  rw [if_neg (not_not_intro (Nat.mod_eq_zero_of_dvd haligned))]
  rcases kernelOp_of_effect h heffect .frameMappingFailed with hop | ⟨hr, -⟩
  · exact ⟨_, _, (Prog.run_bind_ok hcopy).trans (Prog.run_bind_ok hop)⟩
  · exact absurd (hacc.2 _ _ _ _ _) hr

/-- A recovery frame is mapped if its page can be. -/
theorem mapRecoveryFrame_returns {task : Task} {frame : Frame} {address slot : Nat} {s₁ : BootState}
    (hrun : task.vspace.mapFrame h frame address .readWrite s = (.ok slot, s₁)) :
    ∃ mapping s', mapRecoveryFrame h task frame address s = (.ok mapping, s') := by
  have hsettles := mapRecoveryFrame_settles h task frame address s
  generalize hcall : mapRecoveryFrame h task frame address s = r at hsettles
  cases hsettles with
  | done hrun' hext hD => exact ⟨_, _, rfl⟩
  | undone hrun' hext hdeleted hback hkept => exact nomatch (Prod.mk.inj (hrun.symm.trans hrun')).1
  | stuck hrun' hext hfailed hcleared hkept => exact nomatch (Prod.mk.inj (hrun.symm.trans hrun')).1

/-! ## Tasks -/

/-- The pages of a task are aligned, and its VSpace has exactly the tables they need. -/
def HeldTask.Tabled (x : HeldTask) (s : BootState) : Prop :=
  (∀ a ∈ x.config.pageAddresses ++ x.config.reservedPages, h.machine.pageBytes ∣ a) ∧
  ∃ v tables, Holds x.task.vspace.root v .vspace s ∧ VSpace.HasTables v tables s ∧
    VSpace.TablesFor h.machine.toPlatform (x.config.pageAddresses ++ x.config.reservedPages) tables

/-- A task that was made has the tables its pages need: what follows the creation of its VSpace keeps them. -/
theorem createTask_tabled (hp : h.machine.HasLevels) {config : TaskConfig} {task : Task}
    (hrun : createTask h config s = (.ok task, s')) (objects : Nat × Nat) :
    HeldTask.Tabled h ⟨task, config, objects⟩ s' := by
  obtain ⟨layout, hlayout, hinner⟩ := (createTask_eq_ok h).mp hrun
  obtain ⟨-, -, haligned⟩ := config.layout_ok hlayout
  obtain ⟨-, code, width, hbuilt⟩ := (createTaskInner_builds h (fun _ => False) config layout s).of_ok hinner
  unfold createTaskInner at hinner
  obtain ⟨cspace, s₁, hcspace, hinner⟩ := Prog.run_bind_eq_ok.mp hinner
  obtain ⟨vspace, s₂, hvspace, hinner⟩ := Prog.run_bind_eq_ok.mp hinner
  obtain ⟨codeMapping, s₃, hcode, hinner⟩ := Prog.run_bind_eq_ok.mp hinner
  obtain ⟨privateMemory, s₄, hprivate, hinner⟩ := Prog.run_bind_eq_ok.mp hinner
  obtain ⟨stack, s₅, hstack, hinner⟩ := Prog.run_bind_eq_ok.mp hinner
  obtain ⟨ipcBuffer, s₆, hipc, hinner⟩ := Prog.run_bind_eq_ok.mp hinner
  obtain ⟨thread, s₇, hthread, hinner⟩ := Prog.run_bind_eq_ok.mp hinner
  obtain ⟨rootSlots, s₈, hslots, hend⟩ := Prog.run_bind_eq_ok.mp hinner
  obtain ⟨-, rfl⟩ := Prod.mk.inj hend
  obtain ⟨-, hmade⟩ := (CSpace.create_builds h (fun _ => False) _ _ _ s).of_ok hcspace
  obtain ⟨-, hvmade⟩ := (VSpace.create_builds h (fun _ => False) _ _ s₁).of_ok hvspace
  obtain ⟨tables, htables, hfor⟩ := VSpace.create_tables h hp hvspace
  -- what is left to do keeps the tables
  have hk₃ := (mapFrame_keeps h vspace _ _ _).of_ok hcode
  have hk₄ := (allocateMapped_keeps h vspace _).of_ok hprivate
  have hk₅ := (allocateMapped_keeps h vspace _).of_ok hstack
  have hk₆ := (allocateMapped_keeps h vspace _).of_ok hipc
  have hk₇ := (Thread.create_keeps h cspace vspace _).of_ok hthread
  have hk₈ : s₇ = s₈ := by
    unfold committedSlots at hslots
    cases hsince : s₇.slots.allocatedSince s.slots.start with
    | none =>
        rw [hsince] at hslots
        exact nomatch (Prod.mk.inj hslots).1
    | some range =>
        rw [hsince] at hslots
        exact (Prod.mk.inj hslots).2
  obtain rfl := hk₈
  have hkeeps := hk₃.trans (hk₄.trans (hk₅.trans (hk₆.trans hk₇)))
  have hnumber : s₁.kernel.nextObject = s.kernel.nextObject + 1 := hmade.nextObject
  refine ⟨haligned, s.kernel.nextObject + 1, tables, ?_, ?_, hfor⟩
  · exact hbuilt.vspace.of_eq hbuilt.vspaceRoot rfl
  · rw [← hnumber]
    exact hkeeps.tables _ tables hvmade.holds.object_lt htables

/-- A task keeps its tables through whatever leaves its slots and the old tables alone. -/
theorem HeldTask.Tabled.mono {x : HeldTask} (ht : x.Tabled h s) (ha : Advances s s') (hk : KeepsTables s s') :
    x.Tabled h s' := by
  obtain ⟨haligned, v, tables, hholds, htables, hfor⟩ := ht
  obtain ⟨cap, hcap, hkind⟩ := hholds.cap
  refine ⟨haligned, v, tables, ⟨Nat.lt_of_lt_of_le hholds.slot_lt ha.start_le, ⟨cap, ?_, hkind⟩,
    Nat.lt_of_lt_of_le hholds.object_lt hk.nextObject_le⟩, hk.tables v tables hholds.object_lt htables, hfor⟩
  rw [ha.below _ hholds.slot_lt, hcap]

end Programs

/-! ## Runs -/

namespace RootTask

variable (h : Host) {w w' : RootTask}

/-- Every task has its tables. -/
def AllTabled (w : RootTask) : Prop := ∀ x ∈ w.tasks, x.Tabled h w.state

/-- One operation that advances the allocator and keeps the tables; a task it returns has its own. -/
theorem AllTabled.perform {α : Type} {x : Boot α} {keep : α → BootState → Handle} (hw : AllTabled h w)
    (hy : Yields x w.state fun a s => (keep a s).slots) (hk : Keeps x w.state)
    (hnew : ∀ a s, x w.state = (.ok a, s) → ∀ y, keep a s = .task y → y.Tabled h s)
    (hs : w.perform x keep = some w') : AllTabled h w' := by
  rcases perform_cases hk hs with ⟨a, s, hrun, hkeeps, rfl⟩ | ⟨e, s, hrun, hkeeps, rfl⟩
  · have hadv := (hy.of_ok hrun).1
    intro y hy'
    rcases List.mem_append.mp (mem_tasks.mp hy') with hold | hlast
    · exact (hw y (mem_tasks.mpr hold)).mono h hadv hkeeps
    · exact hnew a s hrun y (List.mem_singleton.mp hlast).symm
  · have hadv := hy.of_err hrun
    exact fun y hy' => (hw y hy').mono h hadv hkeeps

theorem AllTabled.step (hp : h.machine.HasLevels) {op : RootOp} (hw : AllTabled h w)
    (hs : step h w op = some w') : AllTabled h w' := by
  unfold RootTask.step at hs
  have hallocate : ∀ blueprint, Keeps (allocateBlueprint h blueprint) w.state :=
    fun blueprint => (allocateBlueprint_builds h (fun _ => False) blueprint w.state).keeps
  cases op with
  | allocateFrame =>
      refine hw.perform h (allocateFrame_yields h _) ?_ (by nofun) hs
      exact Keeps.bind (hallocate .granule) fun slot s => Keeps.pure _
  | allocateEndpoint =>
      exact hw.perform h (allocateBlueprint_yields h _ .endpoint) (hallocate .endpoint) (by nofun) hs
  | allocateNotification =>
      exact hw.perform h (allocateBlueprint_yields h _ .notification) (hallocate .notification) (by nofun) hs
  | allocateFaultEndpoint =>
      exact hw.perform h (allocateBlueprint_yields h _ .endpoint) (hallocate .endpoint) (by nofun) hs
  | allocateReplyPool capacity =>
      refine hw.perform h (allocateReplyPool_yields _ capacity) ?_ (by nofun) hs
      rcases allocateReplyPool_cases w.state capacity with ⟨e, hrun⟩ | ⟨pool, slots, hrun, -⟩
      · exact Prog.Ensures.err hrun (KeepsTables.refl _)
      · exact Prog.Ensures.ok hrun ⟨Nat.le_refl _, fun _ _ _ ht => ht⟩
  | createTask config =>
      refine hw.perform h ((createTask_settles h (fun _ => False) config _).yields ?_)
        (createTask_keeps h config) ?_ hs
      · rintro task s ⟨-, code, width, hbuilt⟩
        exact hbuilt.rootSlots
      · intro task s hrun y hy
        obtain rfl := Handle.task.inj hy
        exact createTask_tabled h hp hrun _
  | mapRecoveryFrame task frame address =>
      refine hw.perform h ((mapRecoveryFrame_settles h task frame address _).yields ?_)
        (mapRecoveryFrame_keeps h task frame address) (by nofun) hs
      · rintro mapping s ⟨rfl, hstart, -⟩
        rw [hstart]
        rfl

/-- **Translation tables are complete, unique and ordered.** If the platform gives every level below the root
    a table type and a span that fits a word, and the kernel has no reason of its own to refuse a table, then
    `mapTranslationTables` leaves a VSpace that had no table with exactly one table for each level and each
    region of the pages and reserved pages, the upper levels first; the only thing that can stop it is a table
    that cannot be allocated. However many operations the root task performs, a task still has these tables,
    so that a frame can be mapped at each of its pages and reserved pages. -/
theorem translation_tables_exact (hp : h.machine.HasLevels) (hacc : h.machine.AcceptsTables) :
    (∀ (s : BootState) (vspace : VSpace) (v : Nat) (pageAddresses reservedPages : List Nat),
      Holds vspace.root v .vspace s → VSpace.HasTables v [] s →
      Prog.Ensures (vspace.mapTranslationTables h pageAddresses reservedPages (VSpace.levels h)) s
        (fun _ s' => ∃ vs, s'.kernel.objects v = .vspace vs ∧
          VSpace.TablesFor h.machine.toPlatform (pageAddresses ++ reservedPages) vs.tables ∧
          ∀ a ∈ pageAddresses ++ reservedPages,
            ObjectStore.hasTables h.machine.toPlatform vs h.machine.numLevels a)
        (VSpace.TableFails h)) ∧
    (∀ w, Reachable (RootTask.step h) (Initial h) anyStep w → ∀ x ∈ w.tasks, ∃ v vs,
      Holds x.task.vspace.root v .vspace w.state ∧ w.state.kernel.objects v = .vspace vs ∧
      VSpace.TablesFor h.machine.toPlatform (x.config.pageAddresses ++ x.config.reservedPages) vs.tables ∧
      (h.machine.AcceptsFrames → w.state.slots.Available →
        ∀ (frame : Frame) (cap : Cap), w.state.kernel.root frame.cap = some cap → cap.blueprint = .granule →
        ∀ a ∈ x.config.pageAddresses ++ x.config.reservedPages,
          ∃ mapping s', mapRecoveryFrame h x.task frame a w.state = (.ok mapping, s'))) := by
  constructor
  · intro s vspace v pageAddresses reservedPages hv ht
    refine Prog.Ensures.conseq (VSpace.mapTranslationTables_ensures h hp pageAddresses reservedPages hv ht) ?_ ?_
    · rintro _ s' ⟨tables, ⟨vs, hvs, rfl⟩, hfor⟩
      exact ⟨vs, hvs, hfor, fun a ha => hfor.hasTables ha⟩
    · rintro e s' (hfails | hrefuses)
      · exact hfails
      · exact absurd hacc hrefuses
  · intro w hr x hx
    have hw : AllTabled h w := by
      refine hr.invariant ?_ fun _ _ _ hw _ hs => AllTabled.step h hp hw hs
      intro w hi y hy
      rw [tasks, hi.handles] at hy
      exact absurd hy List.not_mem_nil
    obtain ⟨haligned, v, tables, hholds, ⟨vs, hvs, rfl⟩, hfor⟩ := hw x hx
    refine ⟨v, vs, hholds, hvs, hfor, ?_⟩
    intro hframes hav frame cap hcap hgranule a ha
    obtain ⟨slot, s₁, hrun⟩ := mapFrame_returns h hframes hav hholds hvs (haligned a ha) (hfor.hasTables ha) hcap
      hgranule .readWrite
    exact mapRecoveryFrame_returns h hrun

theorem host_hasLevels : host.machine.HasLevels where
  fromLevel l _ hlt := if_pos hlt
  span_lt l hone _ := by
    show 12 + 9 * (4 - l) < 64
    omega

/-- The task of `operations`, after its recovery frame has been mapped at 0x600000, has the tables for this
    page and its own, and a frame can be mapped there again. -/
theorem translation_tables_exact_task : ∃ w x v vs, operations.foldlM (step host) start = some w ∧
    x ∈ w.tasks ∧ w.state.kernel.objects v = .vspace vs ∧
    VSpace.TablesFor host.machine.toPlatform (x.config.pageAddresses ++ x.config.reservedPages) vs.tables ∧
    ∃ mapping s', mapRecoveryFrame host x.task ⟨100⟩ 0x600000 w.state = (.ok mapping, s') := by
  have hcheck : (operations.foldlM (step host) start).map (fun w => (w.tasks.map (·.config.reservedPages),
      decide (w.state.slots.start < w.state.slots.stop), (w.state.kernel.root 100).map Cap.blueprint)) =
      some ([[0x600000]], true, some .granule) := by
    decide +kernel
  obtain ⟨w, hrun, hw⟩ := Option.map_eq_some_iff.mp hcheck
  obtain ⟨htasks, hrest⟩ := Prod.mk.inj hw
  obtain ⟨hav, hframe⟩ := Prod.mk.inj hrest
  obtain ⟨x, hx, hreserved⟩ := List.map_eq_singleton_iff.mp htasks
  obtain ⟨cap, hcap, hgranule⟩ := Option.map_eq_some_iff.mp hframe
  have hlt : w.state.slots.start < w.state.slots.stop := of_decide_eq_true hav
  have hmem : x ∈ w.tasks := by
    rw [hx]
    exact List.mem_singleton_self x
  have hexact := translation_tables_exact host host_hasLevels (fun _ _ _ _ _ => rfl)
  obtain ⟨v, vs, -, hvs, hfor, hmap⟩ := hexact.2 w ((Reachable.refl start_initial).foldlM _ hrun) x hmem
  refine ⟨w, x, v, vs, hrun, hmem, hvs, hfor, ?_⟩
  refine hmap ⟨fun _ _ _ _ => rfl, fun _ _ _ _ _ => rfl⟩ hlt ⟨100⟩ cap hcap hgranule _ ?_
  rw [hreserved]
  exact List.mem_append_right _ (List.mem_singleton_self _)

end RootTask
end Ricoq
