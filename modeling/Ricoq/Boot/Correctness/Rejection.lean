import Ricoq.Boot.Correctness.Population
import Ricoq.Boot.Correctness.Tables

/-!
# `Boot.Correctness.Rejection` — when an invalid configuration is found to be one

A configuration is checked twice before anything is allocated: its layout, and its delegations. Whatever comes
later has its own checks, and reports them as the same error. All of them are implied by the first two
(`NeverInvalid`), except for one: the slot tracker has 256 cells, and the check of the CSpace size accepts
anything below the word size. So a size of 9 bits and more is found invalid only when the CNode is there.
-/

namespace Ricoq

open Sel4 Bootstrap

/-! ## Programs that report no invalid configuration -/

/-- From no state does the program report an invalid configuration. -/
def NeverInvalid {α : Type} (x : Boot α) : Prop :=
  ∀ s, Prog.Ensures x s (fun _ _ => True) fun e _ => e ≠ .invalidTaskConfiguration

namespace NeverInvalid

variable {α β : Type}

theorem pure (a : α) : NeverInvalid (Pure.pure a : Boot α) := fun _ => trivial

theorem throw {e : BootstrapError} (he : e ≠ .invalidTaskConfiguration) : NeverInvalid (Prog.throw e : Boot α) :=
  fun _ => he

theorem bind {x : Boot α} {f : α → Boot β} (hx : NeverInvalid x) (hf : ∀ a, NeverInvalid (f a)) :
    NeverInvalid (x >>= f) := fun s => Prog.Ensures.bind (hx s) fun a s' _ _ => hf a s'

end NeverInvalid

section Programs

variable (h : Host)

theorem kernelOp_neverInvalid {i : Invocation} (hi : ∀ slot, i ≠ .delete slot) {error : BootstrapError}
    (he : error ≠ .invalidTaskConfiguration) : NeverInvalid (kernelOp (invoke h.machine i) error) := by
  intro s
  rcases kernelOp_cases h hi error s with ⟨k, log, -, hrun⟩ | ⟨log, hrun⟩
  · exact Prog.Ensures.ok hrun trivial
  · exact Prog.Ensures.err hrun he

theorem allocateBlueprint_neverInvalid (blueprint : ObjectBlueprint) :
    NeverInvalid (allocateBlueprint h blueprint) := by
  intro s
  unfold allocateBlueprint
  by_cases hav : s.slots.Available
  · rcases retypeFirst_cases h blueprint s.slots.start s.kernel (candidates h) with
      ⟨log, hrun⟩ | ⟨e, log, he, hrun⟩
    · exact Prog.Ensures.ok (Prog.run_bind_ok (tryAllocate_ok hav hrun)) trivial
    · refine Prog.Ensures.err (Prog.run_bind_err (tryAllocate_err hav hrun)) ?_
      rcases he with rfl | rfl <;> nofun
  · exact Prog.Ensures.err (Prog.run_bind_ok (tryAllocate_none hav)) nofun

theorem copyToRoot_neverInvalid (source : Nat) (rights : CapRights) :
    NeverInvalid (copyToRoot h source rights) := by
  intro s
  unfold copyToRoot
  by_cases hav : s.slots.Available
  · rcases copyInto_cases h source rights s.slots.start s.kernel with ⟨cap, log, -, hrun⟩ | ⟨log, hrun⟩
    · exact Prog.Ensures.ok (Prog.run_bind_ok (tryAllocate_ok hav hrun)) trivial
    · exact Prog.Ensures.err (Prog.run_bind_err (tryAllocate_err hav hrun)) nofun
  · exact Prog.Ensures.err (Prog.run_bind_ok (tryAllocate_none hav)) nofun

/-- A CSpace that passed the check and fits a tracker is not found invalid later: its destinations can all be
    marked. -/
theorem CSpace.create_neverInvalid {sizeBits : Nat} {capabilities : List DelegatedCapability}
    {faultRoute : Option FaultRoute} (hvalid : validate sizeBits capabilities faultRoute = .ok ())
    (hfits : 2 ^ sizeBits ≤ maxSlots) : NeverInvalid (create h sizeBits capabilities faultRoute) := by
  intro s
  rcases create_cases h hvalid s with ⟨e, s₁, halloc, hrun⟩ | ⟨root, s₁, -, hcases⟩
  · exact Prog.Ensures.err hrun ((allocateBlueprint_neverInvalid h (.cnode sizeBits) s).of_err halloc)
  · rcases hcases with ⟨hlarge, -⟩ | ⟨-, k, tracker, -, hrun, -⟩ | ⟨-, k, -, hrun⟩
    · exact absurd hfits (Nat.not_le.mpr hlarge)
    · exact Prog.Ensures.ok hrun trivial
    · exact Prog.Ensures.err hrun nofun

namespace VSpace

theorem mapLevel_neverInvalid (vspace : VSpace) {level : Nat} (hfrom : h.machine.fromLevel level = some ⟨level⟩)
    (span : Nat) (prior addresses : List Nat) : NeverInvalid (mapLevel h vspace level span prior addresses) := by
  induction addresses generalizing prior with
  | nil => exact NeverInvalid.pure ()
  | cons address rest ih =>
      unfold mapLevel
      split
      · exact ih _
      · refine NeverInvalid.bind ?_ fun _ => ih _
        unfold mapTable
        rw [hfrom]
        exact NeverInvalid.bind (allocateBlueprint_neverInvalid h _) fun table =>
          kernelOp_neverInvalid h (by simp) (by simp)

/-- A platform with its levels has a span and a table type wherever they are asked for. -/
theorem mapTranslationTables_neverInvalid (hp : h.machine.HasLevels) (vspace : VSpace)
    (pageAddresses reservedPages : List Nat) (level count : Nat) (hone : 1 ≤ level)
    (hcount : level + count ≤ max 1 h.machine.numLevels) :
    NeverInvalid (mapTranslationTables h vspace pageAddresses reservedPages (List.range' level count)) := by
  induction count generalizing level with
  | zero => exact NeverInvalid.pure ()
  | succ count ih =>
      have hlt : level < h.machine.numLevels := by omega
      rw [List.range'_succ, mapTranslationTables, span_of_lt h (hp.span_lt level hone hlt)]
      refine NeverInvalid.bind (mapLevel_neverInvalid h vspace (hp.fromLevel level hone hlt) _ [] _) fun _ => ?_
      exact ih (level + 1) (Nat.le_succ_of_le hone) (by omega)

theorem create_neverInvalid (hp : h.machine.HasLevels) (pageAddresses reservedPages : List Nat) :
    NeverInvalid (create h pageAddresses reservedPages) := by
  unfold create
  refine NeverInvalid.bind (allocateBlueprint_neverInvalid h .vspace) fun root => ?_
  refine NeverInvalid.bind (kernelOp_neverInvalid h (by nofun) nofun) fun _ => ?_
  refine NeverInvalid.bind ?_ fun _ => NeverInvalid.pure _
  exact mapTranslationTables_neverInvalid h hp _ _ _ 1 (h.machine.numLevels - 1) (Nat.le_refl 1) (by omega)

/-- The only check of a mapping is that of its alignment. -/
theorem mapFrame_neverInvalid (vspace : VSpace) (frame : Frame) {address : Nat} (rights : CapRights)
    (haligned : h.machine.pageBytes ∣ address) : NeverInvalid (vspace.mapFrame h frame address rights) := by
  unfold mapFrame
  rw [if_neg (not_not_intro (Nat.mod_eq_zero_of_dvd haligned))]
  refine NeverInvalid.bind (copyToRoot_neverInvalid h frame.cap rights) fun mapping => ?_
  exact NeverInvalid.bind (kernelOp_neverInvalid h (by nofun) nofun) fun _ => NeverInvalid.pure mapping

end VSpace

theorem allocateMapped_neverInvalid (vspace : VSpace) {address : Nat} (haligned : h.machine.pageBytes ∣ address) :
    NeverInvalid (allocateMapped h vspace address) := by
  unfold allocateMapped allocateFrame
  refine NeverInvalid.bind ?_ fun frame => ?_
  · exact NeverInvalid.bind (allocateBlueprint_neverInvalid h .granule) fun slot => NeverInvalid.pure _
  · exact NeverInvalid.bind (VSpace.mapFrame_neverInvalid h vspace frame .readWrite haligned) fun mapping =>
      NeverInvalid.pure _

theorem Thread.create_neverInvalid (cspace : CSpace) (vspace : VSpace) (config : ThreadConfig) :
    NeverInvalid (Thread.create h cspace vspace config) := by
  unfold Thread.create
  refine NeverInvalid.bind (allocateBlueprint_neverInvalid h .tcb) fun tcb => ?_
  refine NeverInvalid.bind (kernelOp_neverInvalid h (by nofun) nofun) fun _ => ?_
  exact NeverInvalid.bind (kernelOp_neverInvalid h (by nofun) nofun) fun _ => NeverInvalid.pure _

theorem committedSlots_neverInvalid (checkpoint : Nat) : NeverInvalid (committedSlots checkpoint) := by
  intro s
  unfold Prog.Ensures committedSlots
  cases s.slots.allocatedSince checkpoint with
  | none => nofun
  | some range => trivial

/-- A configuration that passed both checks and whose CNode fits a tracker is not found invalid later. -/
theorem createTaskInner_neverInvalid (hp : h.machine.HasLevels) {config : TaskConfig} {layout : TaskLayout}
    (hlayout : config.layout h = .ok layout)
    (hvalid : CSpace.validate config.cspaceSizeBits config.delegatedCapabilities config.faultRoute = .ok ())
    (hfits : 2 ^ config.cspaceSizeBits ≤ maxSlots) (checkpoint : Nat) :
    NeverInvalid (createTaskInner h config layout checkpoint) := by
  obtain ⟨-, -, haligned⟩ := config.layout_ok hlayout
  have hpages : ∀ a ∈ config.pageAddresses, h.machine.pageBytes ∣ a :=
    fun a ha => haligned a (List.mem_append_left _ ha)
  unfold createTaskInner
  refine NeverInvalid.bind (CSpace.create_neverInvalid h hvalid hfits) fun cspace => ?_
  refine NeverInvalid.bind (VSpace.create_neverInvalid h hp _ _) fun vspace => ?_
  refine NeverInvalid.bind (VSpace.mapFrame_neverInvalid h vspace _ _ (hpages _ ?_)) fun _ => ?_
  · simp [TaskConfig.pageAddresses]
  refine NeverInvalid.bind (allocateMapped_neverInvalid h vspace (hpages _ ?_)) fun _ => ?_
  · simp [TaskConfig.pageAddresses]
  refine NeverInvalid.bind (allocateMapped_neverInvalid h vspace (hpages _ ?_)) fun _ => ?_
  · simp [TaskConfig.pageAddresses]
  refine NeverInvalid.bind (allocateMapped_neverInvalid h vspace (hpages _ ?_)) fun _ => ?_
  · simp [TaskConfig.pageAddresses]
  refine NeverInvalid.bind (Thread.create_neverInvalid h cspace vspace _) fun thread => ?_
  exact NeverInvalid.bind (committedSlots_neverInvalid checkpoint) fun rootSlots => NeverInvalid.pure _

end Programs

/-! ## The check of the CSpace -/

namespace CSpace

theorem capacity_error {sizeBits : Nat} {e : BootstrapError} (herr : capacity sizeBits = .error e) :
    e = .invalidTaskConfiguration := by
  unfold capacity at herr
  repeat' split at herr
  · exact (Except.error.inj herr).symm
  · exact nomatch herr
  · exact (Except.error.inj herr).symm

theorem validateCapabilities_error {capacity : Nat} {prior cs : List DelegatedCapability} {e : BootstrapError}
    (herr : validateCapabilities capacity prior cs = .error e) : e = .invalidTaskConfiguration := by
  induction cs generalizing prior with
  | nil => exact nomatch herr
  | cons c cs ih =>
      unfold validateCapabilities at herr
      split at herr
      · exact (Except.error.inj herr).symm
      · exact ih herr

/-- The check knows one error. -/
theorem validate_error {sizeBits : Nat} {capabilities : List DelegatedCapability}
    {faultRoute : Option FaultRoute} {e : BootstrapError}
    (herr : validate sizeBits capabilities faultRoute = .error e) : e = .invalidTaskConfiguration := by
  rcases except_bind_eq_error.mp herr with hcapacity | ⟨n, -, herr⟩
  · exact capacity_error hcapacity
  · split at herr
    · exact (Except.error.inj herr).symm
    · rcases except_bind_eq_error.mp herr with hcs | ⟨-, -, herr⟩
      · exact validateCapabilities_error hcs
      · repeat' split at herr
        · exact nomatch herr
        · exact (Except.error.inj herr).symm
        · exact nomatch herr

end CSpace

/-! ## Nothing constructed -/

/-- The invocations that create, copy, mint or map something. -/
def Sel4.Invocation.constructs : Invocation → Bool
  | .untypedRetype .. => true
  | .tableMap ..      => true
  | .mint ..          => true
  | .copy ..          => true
  | .frameMap ..      => true
  | _                 => false

/-- From `s` to `s'` nothing was constructed. -/
def Untouched (s s' : BootState) : Prop :=
  ∃ new, s'.kernel.log = new ++ s.kernel.log ∧ ∀ i ∈ new, i.constructs = false

/-- Invalid configurations are rejected before anything is constructed, whatever the kernel does. -/
def RejectedEarly (p : Platform) (config : TaskConfig) : Prop :=
  ∀ h : Host, h.machine.toPlatform = p → ∀ s s',
    createTask h config s = (.err .invalidTaskConfiguration, s') → Untouched s s'

/-- The configuration passes the two checks that come first. -/
def PassesChecks (p : Platform) (config : TaskConfig) : Prop :=
  (∃ layout, TaskLayout.validate p.pageBytes config.code.address config.code.entry config.privateMemoryAddress
    config.stackAddress config.ipcBufferAddress config.reservedPages = .ok layout) ∧
  CSpace.validate config.cspaceSizeBits config.delegatedCapabilities config.faultRoute = .ok ()

section Early

variable {h : Host} {config : TaskConfig} {s s' : BootState}

/-- A rollback to the present changes nothing. -/
theorem rollback_self (h : Host) (s : BootState) : rollback h s.slots.start s = (.ok (), s) := by
  have hnone : deleteRootSlots h s.slots.start (s.slots.start - s.slots.start) s = (.ok (), s) := by
    rw [Nat.sub_self]
    rfl
  exact rollback_of_deleted s.slots.first_le (Nat.le_refl _) hnone rfl

/-- A construction that fails is rolled back, and the call returns its error. -/
theorem createTask_of_rollback {layout : TaskLayout} (hlayout : config.layout h = .ok layout)
    {e : BootstrapError} {s₁ : BootState}
    (hrun : createTaskInner h config layout s.slots.start s = (.err e, s₁))
    (hback : rollback h s.slots.start s₁ = (.ok (), s')) : createTask h config s = (.err e, s') := by
  have hcheckpoint : getCheckpoint s = (.ok s.slots.start, s) := rfl
  unfold createTask
  rw [hlayout]
  dsimp only
  rw [Prog.run_bind_ok hcheckpoint, Prog.run_bind_ok (Prog.run_attempt_err BootstrapError hrun)]
  dsimp only
  rw [Prog.run_bind_ok (Prog.run_attempt_ok BootstrapError hback)]
  rfl

/-- A configuration that fails one of the first checks leaves the state as it was. -/
theorem createTask_of_fails (hfails : ¬ PassesChecks h.machine.toPlatform config) :
    createTask h config s = (.err .invalidTaskConfiguration, s) := by
  cases hlayout : config.layout h with
  | error e =>
      unfold createTask
      rw [hlayout]
      rfl
  | ok layout =>
      have hcreate : CSpace.create h config.cspaceSizeBits config.delegatedCapabilities config.faultRoute s =
          (.err .invalidTaskConfiguration, s) := by
        unfold CSpace.create
        cases hv : CSpace.validate config.cspaceSizeBits config.delegatedCapabilities config.faultRoute with
        | ok u => exact absurd ⟨⟨layout, hlayout⟩, hv⟩ hfails
        | error e =>
            obtain rfl : e = .invalidTaskConfiguration := CSpace.validate_error hv
            rfl
      exact createTask_of_rollback hlayout (Prog.run_bind_err hcreate) (rollback_self h s)

/-- A configuration that passes them and whose CNode fits a tracker is not found invalid at all. -/
theorem createTask_ne_invalid (hp : h.machine.HasLevels) (hpasses : PassesChecks h.machine.toPlatform config)
    (hfits : 2 ^ config.cspaceSizeBits ≤ maxSlots) :
    createTask h config s ≠ (.err .invalidTaskConfiguration, s') := by
  intro hrun
  obtain ⟨⟨layout, hok⟩, hvalid⟩ := hpasses
  have hlayout : config.layout h = .ok layout := hok
  have hsettles := createTask_settles h (fun _ => False) config s
  have hnever := createTaskInner_neverInvalid h hp hlayout hvalid hfits s.slots.start s
  rw [hrun] at hsettles
  cases hsettles with
  | undone hinner hext hdeleted hback hkept =>
      unfold TaskConfig.construct at hinner
      rw [hlayout] at hinner
      exact hnever.of_err hinner rfl

end Early

/-! ## A late rejection -/

section Late

variable {h : Host} {s : BootState}

/-- Where no delete is refused, deleting returns, and the record of what was invoked before is kept. -/
theorem deleteRootSlots_returns (hacc : ∀ log slot, h.machine.refuses log (.delete slot) = none)
    (start count : Nat) (s : BootState) :
    ∃ s', deleteRootSlots h start count s = (.ok (), s') ∧ s'.slots = s.slots ∧
      s.kernel.log <:+ s'.kernel.log := by
  induction count generalizing s with
  | zero => exact ⟨s, rfl, rfl, List.suffix_refl _⟩
  | succ count ih =>
      have hdelete := invoke_of_effect (hacc s.kernel.log (start + count))
        (rfl : s.kernel.effect h.machine.toPlatform (.delete (start + count)) = .ok _)
      obtain ⟨s', hrest, hslots, hlog⟩ := ih { s with kernel :=
        { s.kernel.empty h.machine.toPlatform (start + count) with
          log := .delete (start + count) :: s.kernel.log } }
      refine ⟨s', ?_, hslots, (List.suffix_cons _ _).trans hlog⟩
      have hop : kernelOp (invoke h.machine (.delete (start + count))) .rollbackFailed s =
          (.ok (), { s with kernel :=
            { s.kernel.empty h.machine.toPlatform (start + count) with
              log := .delete (start + count) :: s.kernel.log } }) := by
        rw [kernelOp, hdelete]
      unfold deleteRootSlots
      exact (Prog.run_bind_ok hop).trans hrest

theorem rollback_returns (hacc : ∀ log slot, h.machine.refuses log (.delete slot) = none) {checkpoint : Nat}
    (hfirst : s.slots.first ≤ checkpoint) (hle : checkpoint ≤ s.slots.start) :
    ∃ s', rollback h checkpoint s = (.ok (), s') ∧ s.kernel.log <:+ s'.kernel.log := by
  obtain ⟨s₁, hdelete, hslots, hlog⟩ := deleteRootSlots_returns hacc checkpoint (s.slots.start - checkpoint) s
  exact ⟨_, rollback_of_deleted hfirst hle hdelete hslots, hlog⟩

/-- A root task with one Untyped, large enough for a CNode, and a kernel that refuses nothing. -/
def lateHost (p : Platform) (sizeBits : Nat) : Host where
  machine := { p with refuses := fun _ _ => none }
  bootinfo :=
    { empty := ⟨2, 3, by decide, by decide⟩
      untyped := ⟨1, 2, by decide, by decide⟩
      untypedList := [⟨false, p.physicalSizeBits (.cnode sizeBits)⟩] }

/-- Its state before the first allocation. -/
def lateState : BootState where
  slots := FreeSlots.new ⟨2, 3, by decide, by decide⟩
  kernel := { nextObject := 0, root := fun _ => none, objects := fun _ => .plain, log := [] }

/-- There the CNode is allocated. -/
theorem lateHost_allocates (p : Platform) (sizeBits : Nat) :
    ∃ s₁, allocateBlueprint (lateHost p sizeBits) (.cnode sizeBits) lateState = (.ok 2, s₁) ∧
      s₁.slots.first = 2 ∧ s₁.slots.start = 3 ∧ s₁.kernel.log = [.untypedRetype 1 (.cnode sizeBits) 2] := by
  have hav : lateState.slots.Available := Nat.lt_succ_self 2
  have heffect : lateState.kernel.effect p (.untypedRetype 1 (.cnode sizeBits) 2) =
      .ok (lateState.kernel.create (.cnode sizeBits) 2) := rfl
  have hinvoke := invoke_of_effect (m := (lateHost p sizeBits).machine) rfl heffect
  have hretype : retypeFirst (lateHost p sizeBits) (.cnode sizeBits) lateState.slots.start
      (candidates (lateHost p sizeBits)) lateState.kernel =
      (.ok 2, { lateState.kernel.create (.cnode sizeBits) 2 with
        log := [.untypedRetype 1 (.cnode sizeBits) 2] }) := by
    show retypeFirst _ _ 2 [(⟨false, p.physicalSizeBits (.cnode sizeBits)⟩, 0)] _ = _
    unfold retypeFirst
    rw [if_neg (by simp [lateHost])]
    exact Prog.run_bind_ok (Prog.run_attempt_ok BootstrapError hinvoke)
  exact ⟨_, Prog.run_bind_ok (tryAllocate_ok hav hretype), rfl, rfl, rfl⟩

/-- A configuration that passes the first checks and asks for more cells than a tracker has: the CNode is
    retyped, and then the configuration is found invalid. -/
theorem late_rejection {p : Platform} {config : TaskConfig} (hpasses : PassesChecks p config)
    (hlarge : maxSlots < 2 ^ config.cspaceSizeBits) : ¬ RejectedEarly p config := by
  intro hearly
  obtain ⟨⟨layout, hlayout⟩, hvalid⟩ := hpasses
  obtain ⟨s₁, halloc, hfirst, hstart, hlog⟩ := lateHost_allocates p config.cspaceSizeBits
  have hcreate : CSpace.create (lateHost p config.cspaceSizeBits) config.cspaceSizeBits
      config.delegatedCapabilities config.faultRoute lateState = (.err .invalidTaskConfiguration, s₁) := by
    rcases CSpace.create_cases (lateHost p config.cspaceSizeBits) hvalid lateState with
      ⟨e, s₂, halloc', -⟩ | ⟨root, s₂, halloc', hcases⟩
    · exact nomatch (Prod.mk.inj (halloc.symm.trans halloc')).1
    · obtain rfl : s₁ = s₂ := (Prod.mk.inj (halloc.symm.trans halloc')).2
      rcases hcases with ⟨-, hrun⟩ | ⟨hfits, -⟩ | ⟨hfits, -⟩
      · exact hrun
      · exact absurd hfits (Nat.not_le.mpr hlarge)
      · exact absurd hfits (Nat.not_le.mpr hlarge)
  have hle : 2 ≤ s₁.slots.start := by
    rw [hstart]
    exact Nat.le_succ 2
  obtain ⟨s', hback, hkept⟩ := rollback_returns (h := lateHost p config.cspaceSizeBits)
    (fun _ _ => rfl) (Nat.le_of_eq hfirst) hle
  have hrun := createTask_of_rollback (h := lateHost p config.cspaceSizeBits) (s := lateState) hlayout
    (Prog.run_bind_err hcreate) hback
  obtain ⟨new, hnew, hnone⟩ := hearly _ rfl _ _ hrun
  -- the record of the retype is still there, and it was not there before
  have hmem : Invocation.untypedRetype 1 (.cnode config.cspaceSizeBits) 2 ∈ new := by
    have : Invocation.untypedRetype 1 (.cnode config.cspaceSizeBits) 2 ∈ s'.kernel.log :=
      hkept.subset (by rw [hlog]; exact List.mem_singleton_self _)
    rw [hnew] at this
    exact (List.mem_append.mp this).resolve_right List.not_mem_nil
  exact Bool.noConfusion (hnone _ hmem)

end Late

/-! ## The condition -/

/-- Invalid configurations are rejected before anything is constructed, up to the size of a tracker: a
    configuration that passes the checks of its layout and of its CSpace must ask for at most 2⁸ cells. -/
theorem rejected_early_iff (p : Platform) (hp : p.HasLevels) (config : TaskConfig) :
    RejectedEarly p config ↔ (PassesChecks p config → config.cspaceSizeBits ≤ 8) := by
  have hsize : 2 ^ config.cspaceSizeBits ≤ maxSlots ↔ config.cspaceSizeBits ≤ 8 :=
    Nat.pow_le_pow_iff_right (n := config.cspaceSizeBits) (m := 8) (by decide)
  constructor
  · intro hearly hpasses
    apply hsize.mp
    by_contra hlarge
    exact late_rejection hpasses (Nat.not_le.mp hlarge) hearly
  · intro hbound h hplatform s s' hrun
    subst hplatform
    by_cases hpasses : PassesChecks h.machine.toPlatform config
    · exact absurd hrun (createTask_ne_invalid hp hpasses (hsize.mpr (hbound hpasses)))
    · obtain rfl := (Prod.mk.inj ((createTask_of_fails hpasses).symm.trans hrun)).2
      exact ⟨[], rfl, by nofun⟩

theorem rejected_early_iff_image : RejectedEarly RootTask.host.machine.toPlatform RootTask.imageTask :=
  (rejected_early_iff RootTask.host.machine.toPlatform RootTask.host_hasLevels RootTask.imageTask).mpr
    fun _ => by decide

/-- The same task with nine bits of CSpace: a CNode is retyped, and deleted again. -/
theorem wide_cspace_retyped :
    ∃ s', createTask RootTask.host { RootTask.imageTask with cspaceSizeBits := 9 } RootTask.start.state =
        (.err .invalidTaskConfiguration, s') ∧
      s'.kernel.log = [.delete 100, .untypedRetype 50 (.cnode 9) 100] ∧
      ¬ RejectedEarly RootTask.host.machine.toPlatform { RootTask.imageTask with cspaceSizeBits := 9 } := by
  have hlate : (match createTask RootTask.host { RootTask.imageTask with cspaceSizeBits := 9 }
      RootTask.start.state with
    | (.err .invalidTaskConfiguration, s') =>
        decide (s'.kernel.log = [.delete 100, .untypedRetype 50 (.cnode 9) 100])
    | _ => false) = true := by decide +kernel
  split at hlate
  · rename_i s' hrun
    have hlog := of_decide_eq_true hlate
    refine ⟨s', hrun, hlog, fun hearly => ?_⟩
    obtain ⟨new, hnew, hnone⟩ := hearly _ rfl _ _ hrun
    have hnew : [.delete 100, .untypedRetype 50 (.cnode 9) 100] = new ++ [] := hlog.symm.trans hnew
    have hmem : Invocation.untypedRetype 50 (.cnode 9) 100 ∈ new := by
      rw [List.append_nil] at hnew
      rw [← hnew]
      exact List.mem_of_mem_tail (List.mem_singleton_self _)
    exact Bool.noConfusion (hnone _ hmem)
  · exact nomatch hlate

end Ricoq
