import Ricoq.Boot.Correctness.Footprint
import Ricoq.Boot.Correctness.Population

/-!
# `Boot.Correctness.Acceptance` — which configurations become tasks

The code checks a configuration in several places: the layout and the delegations before it starts, the slot
tracker after the CNode has been made, and everything else by asking the kernel. `Constructible` puts together
what has to hold of the configuration and of the root CNode. A task is only returned for such a
configuration, whatever the kernel; and with a kernel that refuses nothing and has memory left (`Provides`)
every such configuration becomes a task. So no step of the construction asks for more than the check before
it has made sure of: no two steps get in each other's way.

The proof of the second half follows the construction: one `…_returns` lemma for each step, and what the step
has done from the lemmas of `Boot.Correctness.Step`, `Tables` and `Task`.
-/

namespace Ricoq

open Sel4 Bootstrap

variable (h : Host) {s s' : BootState} {config : TaskConfig}

/-! ## Conditions -/

/-- What a configuration needs in order to become a task. -/
structure TaskConfig.Constructible (config : TaskConfig) (s : BootState) : Prop where
  layout : ∃ layout, config.layout h = .ok layout
  delegations : CSpace.validate config.cspaceSizeBits config.delegatedCapabilities config.faultRoute = .ok ()
  tracked : 2 ^ config.cspaceSizeBits ≤ maxSlots
  -- the one source that need not be there yet is the CNode of the task itself
  sources : ∀ d ∈ config.delegations, d.source = s.slots.start ∨ (s.kernel.root d.source).isSome
  code : ∃ cap, s.kernel.root config.code.frame.cap = some cap ∧ cap.blueprint = .granule
  slots : s.slots.start + config.footprint h.machine.toPlatform ≤ s.slots.stop

/-- The kinds of objects a task is made of. -/
def TaskConfig.blueprints (config : TaskConfig) (p : Platform) : List ObjectBlueprint :=
  [.cnode config.cspaceSizeBits, .vspace, .granule, .tcb] ++ (List.range' 1 (p.numLevels - 1)).map .table

/-- The kernel refuses nothing, and some Untyped is large enough for every object of the task. -/
structure Host.Provides (config : TaskConfig) : Prop where
  refuses : ∀ log i, h.machine.refuses log i = none
  memory : ∀ blueprint ∈ config.blueprints h.machine.toPlatform, ∃ index, Eligible h blueprint index

/-! ## Single steps -/

section Steps

variable {h} (hwilling : ∀ log i, h.machine.refuses log i = none)
include hwilling

/-- A kernel operation that can have its effect has it. -/
theorem kernelOp_returns {i : Invocation} {k : ObjectStore} (he : s.kernel.effect h.machine.toPlatform i = .ok k)
    (error : BootstrapError) : kernelOp (invoke h.machine i) error s =
      (.ok (), { s with kernel := { k with log := i :: s.kernel.log } }) := by
  rcases kernelOp_of_effect h he error with hop | ⟨hr, -⟩
  · exact hop
  · exact absurd (hwilling _ _) hr

theorem allocateBlueprint_returns {blueprint : ObjectBlueprint} (hmemory : ∃ index, Eligible h blueprint index)
    (hav : s.slots.Available) : ∃ s', allocateBlueprint h blueprint s = (.ok s.slots.start, s') := by
  obtain ⟨index, hindex⟩ := hmemory
  obtain ⟨first, rest, hsplit⟩ := List.exists_cons_of_ne_nil
    (List.ne_nil_of_mem ((mem_eligible h blueprint).mpr hindex))
  have hreply : replyAt h blueprint s [] first = none := by
    unfold replyAt reply
    rw [hwilling]
    rfl
  have hfirst : OutOfMemory h blueprint s [] := by
    intro p i q hnil
    simp at hnil
  rcases hsearch : search h blueprint s with ⟨outcome, attempts⟩
  obtain ⟨found, rfl⟩ := (search_found hsearch).mpr ⟨[], first, rest, hsplit, hfirst, hreply⟩
  rw [allocateBlueprint_of_available h blueprint hav, hsearch]
  exact ⟨_, rfl⟩

/-- Delegations with sources are minted one after the other. -/
theorem minted_of_sources {root sizeBits object : Nat} {k : ObjectStore} {slots : Nat → Option Cap}
    (hroot : k.cnodeAt root = .ok (object, ⟨sizeBits, slots⟩)) {cs : List DelegatedCapability}
    (hcs : ∀ c ∈ cs, c.destination < 2 ^ sizeBits ∧ (k.root c.source).isSome) :
    ∃ k', Minted h.machine root sizeBits k cs k' := by
  induction cs generalizing k slots with
  | nil => exact ⟨k, .nil⟩
  | cons c cs ih =>
      obtain ⟨hlt, hsource⟩ := hcs c (List.mem_cons_self ..)
      obtain ⟨cap, hcap⟩ := Option.isSome_iff_exists.mp hsource
      let k₁ := k.setObject object (.cnode ⟨sizeBits,
        Function.update slots c.destination (some (cap.mint c.rights c.badge))⟩)
      have heffect : k.effect h.machine.toPlatform (c.mintInto root sizeBits) = .ok k₁ :=
        except_bind_eq_ok.mpr ⟨cap, ObjectStore.rootCap_eq_ok.mpr hcap, except_bind_eq_ok.mpr ⟨_, hroot,
          except_bind_eq_ok.mpr ⟨_, ObjectStore.resolve_unguarded hlt, rfl⟩⟩⟩
      have hmint := invoke_of_effect (hwilling k.log _) heffect
      -- the CNode is where it was, with one slot more in use
      have hroot₁ : ObjectStore.cnodeAt { k₁ with log := c.mintInto root sizeBits :: k.log } root =
          .ok (object, ⟨sizeBits, Function.update slots c.destination (some (cap.mint c.rights c.badge))⟩) := by
        obtain ⟨rcap, hrcap, hobject, -⟩ := ObjectStore.cnodeAt_eq_ok.mp hroot
        exact ObjectStore.cnodeAt_eq_ok.mpr ⟨rcap, hrcap, hobject, Function.update_self _ _ _⟩
      obtain ⟨k', hrest⟩ := ih hroot₁ fun c' hc' => hcs c' (List.mem_cons_of_mem _ hc')
      exact ⟨k', .cons hmint hrest⟩

/-! ## The parts of a task -/

/-- A CSpace that passes the checks is created. -/
theorem CSpace.create_returns {sizeBits : Nat} {capabilities : List DelegatedCapability}
    {faultRoute : Option FaultRoute} (hmemory : ∃ index, Eligible h (.cnode sizeBits) index)
    (hvalid : CSpace.validate sizeBits capabilities faultRoute = .ok ()) (hfits : 2 ^ sizeBits ≤ maxSlots)
    (hsources : ∀ d ∈ CSpace.delegations capabilities faultRoute,
      d.source = s.slots.start ∨ (s.kernel.root d.source).isSome)
    (hav : s.slots.Available) : ∃ cspace s', CSpace.create h sizeBits capabilities faultRoute s =
      (.ok cspace, s') := by
  obtain ⟨-, hplace, -⟩ := CSpace.validate_eq_ok.mp hvalid
  obtain ⟨s₀, hallocate⟩ := allocateBlueprint_returns hwilling hmemory hav
  rcases CSpace.create_cases h hvalid s with ⟨e, s₁, hroot, -⟩ | ⟨root, s₁, hroot, hcases⟩
  · cases (Prod.mk.inj (hroot.symm.trans hallocate)).1
  obtain ⟨-, rfl, hcreated⟩ := (allocateBlueprint_builds h (fun _ => False) _ s).of_ok hroot
  have hcnode : s₁.kernel.cnodeAt s.slots.start = .ok (s.kernel.nextObject, ⟨sizeBits, fun _ => none⟩) := by
    apply ObjectStore.cnodeAt_eq_ok.mpr
    refine ⟨_, by rw [hcreated.root, Function.update_self], rfl, ?_⟩
    rw [hcreated.objects, Function.update_self]
    rfl
  have hready : ∀ d ∈ CSpace.delegations capabilities faultRoute,
      d.destination < 2 ^ sizeBits ∧ (s₁.kernel.root d.source).isSome := by
    intro d hd
    refine ⟨(hplace d hd).destination_lt, ?_⟩
    rw [hcreated.root]
    by_cases hown : d.source = s.slots.start
    · rw [hown, Function.update_self]
      rfl
    · rw [Function.update_of_ne hown]
      exact (hsources d hd).resolve_left hown
  obtain ⟨k, hminted⟩ := minted_of_sources hwilling hcnode hready
  rcases hcases with ⟨hlarge, -⟩ | ⟨-, k', tracker, -, hrun, -⟩ | ⟨-, k', hfails, -⟩
  · exact absurd hfits (Nat.not_le.mpr hlarge)
  · exact ⟨_, _, hrun⟩
  · exact absurd hfails hminted.not_fails

/-- A table is mapped where it is due. -/
theorem VSpace.mapTable_returns {vspace : VSpace} {v level address : Nat} {tables : List (Nat × Nat)}
    (hfrom : h.machine.fromLevel level = some ⟨level⟩) (hmemory : ∃ index, Eligible h (.table level) index)
    (hav : s.slots.Available) (hv : Holds vspace.root v .vspace s) (ht : VSpace.HasTables v tables s)
    (hupper : ∀ l, 1 ≤ l → l < level → (l, h.machine.region l address) ∈ tables)
    (hnew : (level, h.machine.region level address) ∉ tables) :
    ∃ s', vspace.mapTable h level address s = (.ok (), s') := by
  unfold VSpace.mapTable
  rw [hfrom]
  dsimp only
  obtain ⟨s₁, hrun⟩ := allocateBlueprint_returns hwilling hmemory hav
  obtain ⟨hext, -, hcreated⟩ := (allocateBlueprint_builds h (fun _ => False) (.table level) s).of_ok hrun
  obtain ⟨vs, hvs, rfl⟩ := ht
  have hvs₁ : s₁.kernel.objects v = .vspace vs := (hext.objects v hv.object_lt not_false).trans hvs
  obtain ⟨vcap, hvcap, hobject, -⟩ := (hv.mono hext).cap
  obtain ⟨tcap, htcap, -⟩ := hcreated.holds.cap
  have hat := ObjectStore.vspaceAt_eq_ok.mpr ⟨vcap, hvcap, hobject, hvs₁⟩
  have heffect := ObjectStore.effect_tableMap_of htcap hat hupper hnew
  exact ⟨_, (Prog.run_bind_ok hrun).trans (kernelOp_returns hwilling heffect _)⟩

/-- The tables of one level are mapped if there are slots for those that are new. -/
theorem VSpace.mapLevel_returns {vspace : VSpace} {v level : Nat} {points : List Nat}
    (hfrom : h.machine.fromLevel level = some ⟨level⟩) (hmemory : ∃ index, Eligible h (.table level) index)
    (prior addresses : List Nat) {tables : List (Nat × Nat)} (hpoints : ∀ a ∈ addresses, a ∈ points)
    (hv : Holds vspace.root v .vspace s) (ht : VSpace.HasTables v tables s)
    (hc : Covers h.machine.region points level prior tables)
    (hslots : s.slots.start + newImages (· / 2 ^ h.machine.spanBits level) prior addresses ≤ s.slots.stop) :
    ∃ s', vspace.mapLevel h level (2 ^ h.machine.spanBits level) prior addresses s = (.ok (), s') := by
  induction addresses generalizing prior s tables with
  | nil => exact ⟨s, rfl⟩
  | cons address rest ih =>
      have hrest : ∀ a ∈ rest, a ∈ points := fun a ha => hpoints a (List.mem_cons_of_mem _ ha)
      unfold newImages at hslots
      unfold VSpace.mapLevel
      by_cases hseen : ∃ b ∈ prior, b / 2 ^ h.machine.spanBits level = address / 2 ^ h.machine.spanBits level
      · rw [if_pos hseen] at hslots ⊢
        exact ih (prior ++ [address]) hrest hv ht (hc.skip hseen) hslots
      · rw [if_neg hseen] at hslots ⊢
        have hnew : (level, h.machine.region level address) ∉ tables := by
          intro hmem
          obtain ⟨b, hb, hregion⟩ := hc.mem_level_iff.mp hmem
          exact hseen ⟨b, hb, hregion.symm⟩
        have hupper : ∀ l, 1 ≤ l → l < level → (l, h.machine.region l address) ∈ tables :=
          fun l hone hlt => hc.mem_of_lt (hpoints address (List.mem_cons_self ..)) hone hlt
        have hav : s.slots.Available := by
          show s.slots.start < s.slots.stop
          omega
        obtain ⟨s₁, hrun⟩ := VSpace.mapTable_returns hwilling hfrom hmemory hav hv ht hupper hnew
        obtain ⟨hext, -⟩ := (VSpace.mapTable_builds h hv level address).of_ok hrun
        have hstart := Takes.mapTable h vspace level address s () s₁ hrun
        have hstop := hext.stop
        obtain ⟨hv₁, ht₁⟩ := (VSpace.mapTable_ensures h hfrom hv ht hupper hnew).of_ok hrun
        obtain ⟨s', hrun'⟩ := ih (prior ++ [address]) hrest hv₁ ht₁ (hc.add hnew) (by omega)
        exact ⟨s', (Prog.run_bind_ok hrun).trans hrun'⟩

/-- So are those of all the levels from `level` on. -/
theorem VSpace.mapTranslationTables_returns (hp : h.machine.HasLevels) {vspace : VSpace} {v : Nat}
    (pageAddresses reservedPages : List Nat) (level count : Nat) (hone : 1 ≤ level)
    (hcount : level + count ≤ max 1 h.machine.numLevels)
    (hmemory : ∀ l, level ≤ l → l < level + count → ∃ index, Eligible h (.table l) index)
    {tables : List (Nat × Nat)} (hv : Holds vspace.root v .vspace s) (ht : VSpace.HasTables v tables s)
    (hc : Covers h.machine.region (pageAddresses ++ reservedPages) level [] tables)
    (hslots : s.slots.start + ((List.range' level count).map
      (h.machine.regionCount (pageAddresses ++ reservedPages))).sum ≤ s.slots.stop) :
    ∃ s', vspace.mapTranslationTables h pageAddresses reservedPages (List.range' level count) s =
      (.ok (), s') := by
  induction count generalizing level s tables with
  | zero => exact ⟨s, rfl⟩
  | succ count ih =>
      have hlt : level < h.machine.numLevels := by omega
      have hfrom := hp.fromLevel level hone hlt
      have hspan := VSpace.span_of_lt h (hp.span_lt level hone hlt)
      rw [List.range'_succ, List.map_cons, List.sum_cons] at hslots
      rw [List.range'_succ, VSpace.mapTranslationTables, hspan]
      have hnew : newImages (· / 2 ^ h.machine.spanBits level) [] (pageAddresses ++ reservedPages) =
          h.machine.regionCount (pageAddresses ++ reservedPages) level := newImages_eq _ _
      obtain ⟨s₁, hrun⟩ := VSpace.mapLevel_returns hwilling hfrom (hmemory level (Nat.le_refl _) (by omega)) []
        (pageAddresses ++ reservedPages) (fun _ ha => ha) hv ht hc (by omega)
      obtain ⟨hext, -⟩ := (VSpace.mapLevel_builds h hv level _ [] _).of_ok hrun
      have hstart := Takes.mapLevel h vspace level _ [] _ s () s₁ hrun
      have hstop := hext.stop
      obtain ⟨hv₁, tables₁, ht₁, hc₁⟩ :=
        (VSpace.mapLevel_covers h hfrom [] _ (fun _ ha => ha) hv ht hc).of_ok hrun
      have hmemory₁ : ∀ l, level + 1 ≤ l → l < level + 1 + count → ∃ index, Eligible h (.table l) index :=
        fun l hlo hhi => hmemory l (by omega) (by omega)
      obtain ⟨s', hrun'⟩ := ih (level + 1) (Nat.le_succ_of_le hone) (by omega) hmemory₁ hv₁ ht₁ (hc₁.next hone)
        (by omega)
      exact ⟨s', (Prog.run_bind_ok hrun).trans hrun'⟩

/-- A VSpace is created if there are slots for it and its tables. -/
theorem VSpace.create_returns (hp : h.machine.HasLevels) (pageAddresses reservedPages : List Nat)
    (hmemory : ∃ index, Eligible h .vspace index)
    (htables : ∀ l, 1 ≤ l → l < h.machine.numLevels → ∃ index, Eligible h (.table l) index)
    (hslots : s.slots.start + (h.machine.tableCount (pageAddresses ++ reservedPages) + 1) ≤ s.slots.stop) :
    ∃ vspace s', VSpace.create h pageAddresses reservedPages s = (.ok vspace, s') := by
  have hav : s.slots.Available := by
    show s.slots.start < s.slots.stop
    omega
  obtain ⟨s₁, hrun⟩ := allocateBlueprint_returns hwilling hmemory hav
  obtain ⟨hext, -, hcreated⟩ := (allocateBlueprint_builds h (fun _ => False) .vspace s).of_ok hrun
  obtain ⟨cap, hcap, hobject, hkind⟩ := hcreated.holds.cap
  have hfresh : s₁.kernel.objects s.kernel.nextObject = .vspace ⟨false, [], fun _ => none⟩ := by
    rw [hcreated.objects, Function.update_self]
    rfl
  have hat : s₁.kernel.vspaceAt s.slots.start = .ok (s.kernel.nextObject, ⟨false, [], fun _ => none⟩) :=
    ObjectStore.vspaceAt_eq_ok.mpr ⟨cap, hcap, hobject, hfresh⟩
  have heffect : s₁.kernel.effect h.machine.toPlatform (.asidPoolAssign s.slots.start) = .ok _ :=
    except_bind_eq_ok.mpr ⟨_, hat, rfl⟩
  have hassign := kernelOp_returns hwilling heffect .vspaceCreationFailed
  -- the VSpace is assigned, and has no tables yet
  generalize hs₂ : ({ s₁ with kernel := _ } : BootState) = s₂ at hassign
  have hslots₂ : s₂.slots = s₁.slots := by rw [← hs₂]
  have hroot₂ : s₂.kernel.root = s₁.kernel.root := by
    rw [← hs₂]
    rfl
  have hnext₂ : s₂.kernel.nextObject = s₁.kernel.nextObject := by
    rw [← hs₂]
    rfl
  have hv : Holds (VSpace.mk s.slots.start).root s.kernel.nextObject .vspace s₂ :=
    ⟨hslots₂ ▸ hcreated.holds.slot_lt, ⟨cap, hroot₂ ▸ hcap, hobject, hkind⟩,
      hnext₂ ▸ hcreated.holds.object_lt⟩
  have ht : VSpace.HasTables s.kernel.nextObject [] s₂ := by
    rw [← hs₂]
    exact ⟨_, Function.update_self _ _ _, rfl⟩
  have hstart := hcreated.start
  have hstop := hext.stop
  have hroom : s₂.slots.start + h.machine.tableCount (pageAddresses ++ reservedPages) ≤ s₂.slots.stop := by
    rw [hslots₂]
    omega
  obtain ⟨s₃, htables⟩ := VSpace.mapTranslationTables_returns hwilling hp pageAddresses reservedPages 1
    (h.machine.numLevels - 1) (Nat.le_refl 1) (by omega) (fun l hlo hhi => htables l hlo (by omega)) hv ht
    (Covers.nil _ _) hroom
  unfold VSpace.create
  rw [Prog.run_bind_ok hrun, Prog.run_bind_ok hassign]
  exact ⟨_, s₃, Prog.run_bind_ok htables⟩

/-! ### Pages -/

omit hwilling in
variable (h) in
/-- The addresses are aligned, and the VSpace `v` has the tables that they need. -/
structure VSpace.Ready (vspace : VSpace) (v : Nat) (addresses : List Nat) (s : BootState) : Prop where
  aligned : ∀ a ∈ addresses, h.machine.pageBytes ∣ a
  holds : Holds vspace.root v .vspace s
  tables : ∃ tables, VSpace.HasTables v tables s ∧ VSpace.TablesFor h.machine.toPlatform addresses tables

omit hwilling in
theorem VSpace.Ready.mono {T : Nat → Prop} {vspace : VSpace} {v : Nat} {addresses : List Nat}
    (hr : vspace.Ready h v addresses s) (hext : Extends T s s') (hk : KeepsTables s s') :
    vspace.Ready h v addresses s' := by
  obtain ⟨tables, ht, hfor⟩ := hr.tables
  exact ⟨hr.aligned, hr.holds.mono hext, tables, hk.tables v tables hr.holds.object_lt ht, hfor⟩

omit hwilling in
variable (h) in
/-- A step returned, took this many slots, and left the VSpace ready for more. -/
structure VSpace.Advanced (vspace : VSpace) (v : Nat) (addresses : List Nat) (count : Nat) (s s' : BootState) :
    Prop where
  steps : Extends (Eq v) s s'
  ready : vspace.Ready h v addresses s'
  start : s'.slots.start = s.slots.start + count

/-- A page whose tables are there can be mapped. -/
theorem VSpace.mapFrame_accepted {vspace : VSpace} {v : Nat} {addresses : List Nat}
    (hr : vspace.Ready h v addresses s) {address : Nat} (ha : address ∈ addresses) (hav : s.slots.Available)
    (frame : Frame) {cap : Cap} (hcap : s.kernel.root frame.cap = some cap) (hgranule : cap.blueprint = .granule)
    (rights : CapRights) : ∃ slot s', vspace.mapFrame h frame address rights s = (.ok slot, s') ∧
      vspace.Advanced h v addresses 1 s s' := by
  obtain ⟨tables, ⟨vs, hvs, rfl⟩, hfor⟩ := hr.tables
  have hacc : h.machine.AcceptsFrames :=
    ⟨fun log _ _ _ => hwilling log _, fun log _ _ _ _ => hwilling log _⟩
  obtain ⟨slot, s', hrun⟩ := mapFrame_returns h hacc hav hr.holds hvs (hr.aligned _ ha) (hfor.hasTables ha) hcap
    hgranule rights
  obtain ⟨hext, -⟩ := (VSpace.mapFrame_builds_of_holds h hr.holds _ _ _).of_ok hrun
  exact ⟨slot, s', hrun, hext, hr.mono hext ((mapFrame_keeps h vspace _ _ _).of_ok hrun),
    Takes.mapFrame h vspace _ _ _ s slot s' hrun⟩

theorem allocateMapped_accepted {vspace : VSpace} {v : Nat} {addresses : List Nat}
    (hr : vspace.Ready h v addresses s) (hmemory : ∃ index, Eligible h .granule index) {address : Nat}
    (ha : address ∈ addresses) (hslots : s.slots.start + 2 ≤ s.slots.stop) :
    ∃ r s', allocateMapped h vspace address s = (.ok r, s') ∧ vspace.Advanced h v addresses 2 s s' := by
  have hav : s.slots.Available := by
    show s.slots.start < s.slots.stop
    omega
  obtain ⟨s₁, hrun⟩ := allocateBlueprint_returns hwilling hmemory hav
  obtain ⟨hext, -, hcreated⟩ := (allocateBlueprint_builds h (fun _ => False) .granule s).of_ok hrun
  have hr₁ := hr.mono hext (.of_unchanged hext.nextObject_le hext.objects)
  obtain ⟨cap, hcap, -, hgranule⟩ := hcreated.holds.cap
  have hav₁ : s₁.slots.Available := by
    have hstart := hcreated.start
    have hstop := hext.stop
    show s₁.slots.start < s₁.slots.stop
    omega
  have hframe : allocateFrame h s = (.ok ⟨s.slots.start⟩, s₁) := Prog.run_bind_ok hrun
  obtain ⟨mapping, s₂, hmap, -⟩ := VSpace.mapFrame_accepted hwilling hr₁ ha hav₁ ⟨s.slots.start⟩ hcap
    hgranule .readWrite
  have hboth : allocateMapped h vspace address s = (.ok (⟨s.slots.start⟩, mapping), s₂) :=
    (Prog.run_bind_ok hframe).trans (Prog.run_bind_ok hmap)
  obtain ⟨hext₂, -⟩ := (allocateMapped_builds h hr.holds address).of_ok hboth
  exact ⟨_, s₂, hboth, hext₂, hr.mono hext₂ ((allocateMapped_keeps h vspace address).of_ok hboth),
    Takes.allocateMapped h vspace address s _ s₂ hboth⟩

/-! ### Threads -/

/-- A thread is created if the objects it is bound to are what they are called. -/
theorem Thread.create_returns {cspace : CSpace} {vspace : VSpace} (config : ThreadConfig) {c v f : Nat}
    {bc bf : ObjectBlueprint} {cnode : CNodeObject} {vs : VSpaceObject}
    (hmemory : ∃ index, Eligible h .tcb index) (hav : s.slots.Available) (hc : Holds cspace.root c bc s)
    (hcnode : s.kernel.objects c = .cnode cnode) (hv : Holds vspace.root v .vspace s)
    (hvs : s.kernel.objects v = .vspace vs) (hf : Holds config.ipcBufferMapping f bf s) :
    ∃ thread s', Thread.create h cspace vspace config s = (.ok thread, s') := by
  obtain ⟨s₁, hrun⟩ := allocateBlueprint_returns hwilling hmemory hav
  obtain ⟨hext, -, hcreated⟩ := (allocateBlueprint_builds h (fun _ => False) .tcb s).of_ok hrun
  obtain ⟨tcap, htcap, htobject, -⟩ := hcreated.holds.cap
  obtain ⟨ccap, hccap, hcobject, -⟩ := (hc.mono hext).cap
  obtain ⟨vcap, hvcap, hvobject, -⟩ := (hv.mono hext).cap
  obtain ⟨fcap, hfcap, -⟩ := (hf.mono hext).cap
  have htcb : s₁.kernel.tcbAt s.slots.start = .ok (s.kernel.nextObject, ⟨none, none⟩) := by
    refine ObjectStore.tcbAt_eq_ok.mpr ⟨tcap, htcap, htobject, ?_⟩
    rw [hcreated.objects, Function.update_self]
    rfl
  have hcnode₁ : s₁.kernel.cnodeAt cspace.root = .ok (c, cnode) :=
    ObjectStore.cnodeAt_eq_ok.mpr ⟨ccap, hccap, hcobject, (hext.objects c hc.object_lt not_false).trans hcnode⟩
  have hvspace₁ : s₁.kernel.vspaceAt vspace.root = .ok (v, vs) :=
    ObjectStore.vspaceAt_eq_ok.mpr ⟨vcap, hvcap, hvobject, (hext.objects v hv.object_lt not_false).trans hvs⟩
  have hconfigure : s₁.kernel.effect h.machine.toPlatform (.tcbConfigure s.slots.start config.faultEndpoint
      cspace.root cspace.rootData.1 cspace.rootData.2 vspace.root config.ipcBufferAddress
      config.ipcBufferMapping) = .ok _ :=
    except_bind_eq_ok.mpr ⟨_, htcb, except_bind_eq_ok.mpr ⟨_, hcnode₁, except_bind_eq_ok.mpr ⟨_, hvspace₁,
      except_bind_eq_ok.mpr ⟨_, ObjectStore.rootCap_eq_ok.mpr hfcap, rfl⟩⟩⟩⟩
  have hop := kernelOp_returns hwilling hconfigure .threadConfigurationFailed
  generalize hs₂ : ({ s₁ with kernel := _ } : BootState) = s₂ at hop
  -- the TCB is still in its slot
  have htcb₂ : ∃ tcb, s₂.kernel.tcbAt s.slots.start = .ok (s.kernel.nextObject, tcb) := by
    rw [← hs₂]
    exact ⟨_, ObjectStore.tcbAt_eq_ok.mpr ⟨tcap, htcap, htobject, Function.update_self _ _ _⟩⟩
  obtain ⟨tcb, htcb₂⟩ := htcb₂
  have hwrite : s₂.kernel.effect h.machine.toPlatform (.tcbWriteAllRegisters s.slots.start
      ⟨config.entry, config.stackPointer, config.arguments.toList⟩) = .ok _ :=
    except_bind_eq_ok.mpr ⟨_, htcb₂, rfl⟩
  have hop₂ := kernelOp_returns hwilling hwrite .threadConfigurationFailed
  unfold Thread.create
  exact ⟨_, _, (Prog.run_bind_ok hrun).trans ((Prog.run_bind_ok hop).trans (Prog.run_bind_ok hop₂))⟩

end Steps

/-! ## Both directions -/

/-- The frame mapped as code was a frame before the construction: what the construction puts into its slots up
    to then is a CNode, a VSpace and tables. -/
theorem code_source {s₁ s₂ : BootState} {T T' : Nat → Prop} {cspace : CSpace} {vspace : VSpace}
    {ds : List DelegatedCapability} {sizeBits slot : Nat} {cap : Cap} (hext : Extends T s s₁)
    (hmade : CSpace.Made sizeBits ds s cspace s₁) (hext' : Extends T' s₁ s₂) (hvmade : VSpace.Made s₁ vspace s₂)
    (hcap : s₂.kernel.root slot = some cap) (hgranule : cap.blueprint = .granule) :
    s.kernel.root slot = some cap := by
  have hstart := hmade.start
  by_cases hout : slot < s.slots.start ∨ s₂.slots.start ≤ slot
  · have hle := hvmade.start_lt
    rw [hext'.outside slot (by omega), hext.outside slot (by omega)] at hcap
    exact hcap
  · exfalso
    rcases Nat.lt_trichotomy slot s₁.slots.start with hlt | heq | hgt
    · have hroot : cspace.root = slot := by
        have := hmade.root
        omega
      exact nomatch ((hmade.holds.mono hext').blueprint_eq (hroot ▸ hcap)).symm.trans hgranule
    · have hroot : vspace.root = slot := hvmade.root.trans heq.symm
      exact nomatch (hvmade.holds.blueprint_eq (hroot ▸ hcap)).symm.trans hgranule
    · obtain ⟨level, hheld⟩ := hvmade.tables slot hgt (by omega)
      exact nomatch (hheld.blueprint_eq hcap).symm.trans hgranule

/-- **Every task was made of a constructible configuration**, and takes the slots of its footprint. -/
theorem createTask_constructible {task : Task} (hrun : createTask h config s = (.ok task, s')) :
    config.Constructible h s ∧
      task.rootSlots = (s.slots.start, s.slots.start + config.footprint h.machine.toPlatform) := by
  obtain ⟨layout, hlayout, hinner⟩ := (createTask_eq_ok h).mp hrun
  obtain ⟨hext, code, width, hbuilt⟩ := (createTaskInner_builds h (fun _ => False) config layout s).of_ok hinner
  have hstart := Takes.createTaskInner h config layout s.slots.start s task s' hinner
  obtain ⟨s₀, hcspace₀⟩ := createTask_cspace h hrun
  unfold createTaskInner at hinner
  obtain ⟨cspace, s₁, hcspace, hinner⟩ := Prog.run_bind_eq_ok.mp hinner
  obtain ⟨vspace, s₂, hvspace, hinner⟩ := Prog.run_bind_eq_ok.mp hinner
  obtain ⟨codeMapping, s₃, hcode, -⟩ := Prog.run_bind_eq_ok.mp hinner
  obtain ⟨hext₁, hmade⟩ := (CSpace.create_builds h (fun _ => False) _ _ _ s).of_ok hcspace
  obtain ⟨hext₂, hvmade⟩ := (VSpace.create_builds h (fun _ => False) _ _ s₁).of_ok hvspace
  obtain ⟨-, -, cap, vs, hcap, hmapped⟩ :=
    (VSpace.mapFrame_builds_of_holds h hvmade.holds config.code.frame config.code.address .readOnly).of_ok hcode
  have hvalid := CSpace.create_valid h hcspace
  refine ⟨⟨⟨layout, hlayout⟩, hvalid, ?_, ?_, ⟨cap, ?_, hmapped.granule⟩, ?_⟩, ?_⟩
  · rcases CSpace.create_cases h hvalid s with
      ⟨e, t, -, hfail⟩ | ⟨root, t, -, ⟨-, hfail⟩ | ⟨hfits, -⟩ | ⟨hfits, -⟩⟩
    · cases (Prod.mk.inj (hfail.symm.trans hcspace)).1
    · cases (Prod.mk.inj (hfail.symm.trans hcspace)).1
    · exact hfits
    · exact hfits
  · intro d hd
    obtain ⟨slots, -, hdelegated⟩ := hmade.contents
    obtain ⟨dcap, hdcap, -⟩ := hdelegated.installed d hd
    by_cases hown : d.source = s.slots.start
    · exact Or.inl hown
    · rw [hmade.kroot, Function.update_of_ne hown] at hdcap
      exact Or.inr (Option.isSome_iff_exists.mpr ⟨dcap, hdcap⟩)
  · exact code_source hext₁ hmade hext₂ hvmade hcap hmapped.granule
  · have hle := hext.le_stop
    have hten : 10 ≤ config.footprint h.machine.toPlatform := Nat.le_add_left _ _
    omega
  · rw [hbuilt.rootSlots, hstart]

/-- **Every constructible configuration becomes a task**, if the kernel provides for it. -/
theorem createTask_accepted (hp : h.machine.HasLevels) (hprovides : h.Provides config) (hvacant : Vacant s)
    (hc : config.Constructible h s) : ∃ task s', createTask h config s = (.ok task, s') := by
  obtain ⟨layout, hlayout⟩ := hc.layout
  obtain ⟨codeCap, hcodeCap, hgranule⟩ := hc.code
  have hwilling := hprovides.refuses
  have hslots := hc.slots
  unfold TaskConfig.footprint at hslots
  have hkinds : ∀ b ∈ [ObjectBlueprint.cnode config.cspaceSizeBits, .vspace, .granule, .tcb],
      ∃ index, Eligible h b index := fun b hb => hprovides.memory b (List.mem_append_left _ hb)
  have htable : ∀ l, 1 ≤ l → l < h.machine.numLevels → ∃ index, Eligible h (.table l) index := by
    intro l hone hlt
    refine hprovides.memory _ (List.mem_append_right _ (List.mem_map_of_mem ?_))
    rw [List.mem_range'_1]
    omega
  have hpage : ∀ a ∈ config.pageAddresses, a ∈ config.pageAddresses ++ config.reservedPages :=
    fun a ha => List.mem_append_left _ ha
  -- the CSpace
  obtain ⟨cspace, s₁, hrun₁⟩ := CSpace.create_returns hwilling (hkinds _ (by simp)) hc.delegations hc.tracked
    hc.sources (show s.slots.start < s.slots.stop by omega)
  obtain ⟨ext₁, hmade⟩ := (CSpace.create_builds h (fun _ => False) _ _ _ s).of_ok hrun₁
  have start₁ := hmade.start
  have stop₁ := ext₁.stop
  -- the VSpace and its tables
  obtain ⟨vspace, s₂, hrun₂⟩ := VSpace.create_returns (s := s₁) hwilling hp config.pageAddresses
    config.reservedPages (hkinds _ (by simp)) htable (by omega)
  obtain ⟨ext₂, hvmade⟩ := (VSpace.create_builds h (fun _ => False) _ _ s₁).of_ok hrun₂
  have hready : vspace.Ready h s₁.kernel.nextObject (config.pageAddresses ++ config.reservedPages) s₂ :=
    ⟨(config.layout_ok hlayout).2.2, hvmade.holds, VSpace.create_tables h hp hrun₂⟩
  have start₂ := Takes.vspaceCreate h config.pageAddresses config.reservedPages s₁ vspace s₂ hrun₂
  have stop₂ := ext₂.stop
  -- the four pages
  have hcode₂ : s₂.kernel.root config.code.frame.cap = some codeCap :=
    ext₂.keeps (ext₁.vacant hvacant) (ext₁.keeps hvacant hcodeCap)
  obtain ⟨codeMapping, s₃, hrun₃, ext₃, hready₃, start₃⟩ := VSpace.mapFrame_accepted hwilling hready
    (hpage config.code.address (by simp [TaskConfig.pageAddresses])) (show s₂.slots.start < s₂.slots.stop by omega)
    config.code.frame hcode₂ hgranule .readOnly
  have stop₃ := ext₃.stop
  obtain ⟨⟨privateMemory, privateMapping⟩, s₄, hrun₄, ext₄, hready₄, start₄⟩ := allocateMapped_accepted hwilling
    hready₃ (hkinds _ (by simp)) (hpage config.privateMemoryAddress (by simp [TaskConfig.pageAddresses]))
    (by omega)
  have stop₄ := ext₄.stop
  obtain ⟨⟨stack, stackMapping⟩, s₅, hrun₅, ext₅, hready₅, start₅⟩ := allocateMapped_accepted hwilling hready₄
    (hkinds _ (by simp)) (hpage config.stackAddress (by simp [TaskConfig.pageAddresses])) (by omega)
  have stop₅ := ext₅.stop
  obtain ⟨⟨ipcBuffer, ipcBufferMapping⟩, s₆, hrun₆, ext₆, hready₆, start₆⟩ := allocateMapped_accepted hwilling
    hready₅ (hkinds _ (by simp)) (hpage config.ipcBufferAddress (by simp [TaskConfig.pageAddresses])) (by omega)
  have stop₆ := ext₆.stop
  obtain ⟨-, hmapped, hipc⟩ := (allocateMapped_builds h hready₅.holds _).of_ok hrun₆
  obtain ⟨-, rfl⟩ := Prod.mk.inj hmapped
  -- the CNode is as it was made, since only the VSpace has changed
  obtain ⟨slots, hcontents, -⟩ := hmade.contents
  have later := ext₃.trans_same (ext₄.trans_same (ext₅.trans_same ext₆))
  have hc₂ := hmade.holds.mono ext₂
  have hnext := hmade.nextObject
  have hother : ¬ s₁.kernel.nextObject = s.kernel.nextObject := by omega
  have hcnode₆ : s₆.kernel.objects s.kernel.nextObject = .cnode ⟨config.cspaceSizeBits, slots⟩ := by
    rw [later.objects _ hc₂.object_lt hother, ext₂.objects _ hmade.holds.object_lt not_false]
    exact hcontents
  obtain ⟨tables, ⟨vs, hvs, -⟩, -⟩ := hready₆.tables
  -- the thread
  let threadConfig : ThreadConfig :=
    { ipcBufferAddress := config.ipcBufferAddress
      ipcBufferMapping := s₅.slots.start + 1
      entry := config.code.entry
      stackPointer := layout.stackPointer
      arguments := config.initialArguments
      faultEndpoint := (config.faultRoute.map FaultRoute.childSlot).getD 0 }
  obtain ⟨thread, s₇, hrun₇⟩ := Thread.create_returns hwilling threadConfig (hkinds _ (by simp))
    (show s₆.slots.start < s₆.slots.stop by omega) (hc₂.mono later) hcnode₆ hready₆.holds hvs hipc.mapping
  obtain ⟨ext₇, -⟩ :=
    (Thread.create_builds h (fun _ => False) threadConfig (hc₂.mono later) hready₆.holds hipc.mapping).of_ok hrun₇
  have hall : Extends (fun _ => False) s s₇ :=
    (ext₁.trans_same ext₂).trans (later.trans ext₇ fun _ _ => False.elim) fun id hid heq => by omega
  have hfirst : s₇.slots.first ≤ s.slots.start := hall.first ▸ s.slots.first_le
  have hrange := committedSlots_of_le hfirst hall.start_le
  have hinner : createTaskInner h config layout s.slots.start s =
      (.ok ⟨thread, cspace, vspace, privateMemory, stack, ipcBuffer, (s.slots.start, s₇.slots.start)⟩, s₇) := by
    unfold createTaskInner
    exact (Prog.run_bind_ok hrun₁).trans <| (Prog.run_bind_ok hrun₂).trans <| (Prog.run_bind_ok hrun₃).trans <|
      (Prog.run_bind_ok hrun₄).trans <| (Prog.run_bind_ok hrun₅).trans <| (Prog.run_bind_ok hrun₆).trans <|
      (Prog.run_bind_ok hrun₇).trans (Prog.run_bind_ok hrange)
  exact ⟨_, s₇, (createTask_eq_ok h).mpr ⟨layout, hlayout, hinner⟩⟩

/-! ## Runs -/

namespace RootTask

theorem host_provides (config : TaskConfig) : host.Provides config where
  refuses _ _ := rfl
  memory blueprint _ := by
    have hsize : 12 ≤ 24 := by decide
    exact ⟨0, Nat.zero_lt_one, ⟨false, 24⟩, rfl, rfl, hsize⟩

end RootTask
end Ricoq
