import Ricoq.Boot.Correctness.CSpace
import Ricoq.Boot.Correctness.VSpace

/-!
# `Boot.Correctness.Task` — what `createTaskInner` makes

The whole construction, put together from its parts. `Built` lists what is in which slot and behind which
object number, relative to the next slot and the next number at the beginning; `width` is the number of slots
the CNode, the VSpace and the translation tables take up, which depends on the layout.
-/

namespace Ricoq

open Sel4 Bootstrap

variable (h : Host) {T : Nat → Prop} {s s' s₁ s₂ : BootState}

/-! ## A frame of one's own -/

/-- What `allocateMapped` makes: a frame in the next slot, and its mapping at an address of the VSpace `v` in
    the slot after. -/
structure OwnPage (v address : Nat) (s s' : BootState) : Prop where
  start : s'.slots.start = s.slots.start + 2
  nextObject : s'.kernel.nextObject = s.kernel.nextObject + 1
  frame : Holds s.slots.start s.kernel.nextObject .granule s'
  mapping : Holds (s.slots.start + 1) s.kernel.nextObject .granule s'
  pages : ∀ pages, VSpace.HasPages v pages s →
    VSpace.HasPages v (Function.update pages address (some ⟨s.kernel.nextObject, .readWrite⟩)) s'

theorem allocateMapped_builds {vspace : VSpace} {v : Nat} (hv : Holds vspace.root v .vspace s) (address : Nat) :
    Builds (Eq v) (allocateMapped h vspace address) s fun r s' =>
      r = (⟨s.slots.start⟩, s.slots.start + 1) ∧ OwnPage v address s s' := by
  unfold allocateMapped allocateFrame
  have hallocate : Builds (Eq v) (do return (⟨← allocateBlueprint h .granule⟩ : Frame)) s
      fun frame s₁ => frame = ⟨s.slots.start⟩ ∧ Created .granule s s₁ := by
    refine Builds.bind_same (allocateBlueprint_builds h (Eq v) .granule s) ?_
    rintro slot s₁ - ⟨rfl, hcreated⟩
    exact Builds.pure ⟨rfl, hcreated⟩
  refine Builds.bind_same hallocate ?_
  rintro frame s₁ hext ⟨rfl, hcreated⟩
  have hv₁ := hv.mono hext
  refine Builds.bind_same (VSpace.mapFrame_builds_of_holds h hv₁ ⟨s.slots.start⟩ address .readWrite) ?_
  rintro mapping s₂ hext₂ ⟨rfl, cap, vs, hcap, hmapped⟩
  have hframe := hcreated.holds
  -- the owner's capability is the one just made
  rw [hcreated.root, Function.update_self] at hcap
  obtain rfl := Option.some.inj hcap
  have hmapping : Holds s₁.slots.start s.kernel.nextObject .granule s₂ := by
    refine ⟨?_, ⟨_, by rw [hmapped.root, Function.update_self], rfl, rfl⟩, (hframe.mono hext₂).object_lt⟩
    rw [hmapped.start]
    exact Nat.lt_succ_self _
  refine Builds.pure ⟨?_, ?_, ?_, hframe.mono hext₂, ?_, ?_⟩
  · rw [hcreated.start]
  · rw [hmapped.start, hcreated.start]
  · rw [hmapped.nextObject, hcreated.nextObject]
  · rw [← hcreated.start]
    exact hmapping
  · rintro pages ⟨vs₀, hvs₀, hpages⟩
    refine hmapped.pages ⟨vs₀, ?_, hpages⟩
    rw [hcreated.objects, Function.update_of_ne (Nat.ne_of_lt hv.object_lt)]
    exact hvs₀

/-! ## Threads -/

/-- What `Thread.create` makes: a TCB in the next slot, bound to the CNode `c`, the VSpace `v` and the IPC
    buffer frame `f`. -/
structure Thread.Made (c v f : Nat) (cspace : CSpace) (config : ThreadConfig) (s : BootState) (thread : Thread)
    (s' : BootState) : Prop where
  tcb : thread.tcb = s.slots.start
  start : s'.slots.start = s.slots.start + 1
  nextObject : s'.kernel.nextObject = s.kernel.nextObject + 1
  holds : Holds thread.tcb s.kernel.nextObject .tcb s'
  bound : s'.kernel.objects s.kernel.nextObject = .tcb
    ⟨some ⟨config.faultEndpoint, c, cspace.rootData.1, cspace.rootData.2, v, config.ipcBufferAddress, f⟩,
      some ⟨config.entry, config.stackPointer, config.arguments.toList⟩⟩

theorem Thread.create_builds (T : Nat → Prop) {cspace : CSpace} {vspace : VSpace} (config : ThreadConfig)
    {c v f : Nat} {bc bv bf : ObjectBlueprint} (hc : Holds cspace.root c bc s) (hv : Holds vspace.root v bv s)
    (hf : Holds config.ipcBufferMapping f bf s) :
    Builds T (Thread.create h cspace vspace config) s (Thread.Made c v f cspace config s) := by
  unfold Thread.create
  refine Builds.bind (allocateBlueprint_builds h T .tcb s) ?_
  rintro tcb s₁ hext ⟨rfl, hcreated⟩
  -- from here on only the new TCB is touched
  refine ⟨Eq s.kernel.nextObject, fun id hid hnew => absurd hid (by omega), ?_⟩
  have hfresh : s₁.kernel.objects s.kernel.nextObject = .tcb ⟨none, none⟩ := by
    rw [hcreated.objects, Function.update_self]
    rfl
  have hconfigure : Builds (Eq s.kernel.nextObject) (kernelOp (invoke h.machine
      (.tcbConfigure s.slots.start config.faultEndpoint cspace.root cspace.rootData.1 cspace.rootData.2
        vspace.root config.ipcBufferAddress config.ipcBufferMapping)) .threadConfigurationFailed) s₁
      fun _ s₂ => s₂.slots = s₁.slots ∧ s₂.kernel.root = s₁.kernel.root ∧
        s₂.kernel.nextObject = s₁.kernel.nextObject ∧
        s₂.kernel.objects s.kernel.nextObject = .tcb ⟨some ⟨config.faultEndpoint, c, cspace.rootData.1,
          cspace.rootData.2, v, config.ipcBufferAddress, f⟩, none⟩ := by
    refine kernelOp_builds h (by nofun) _ ?_
    intro k log heffect
    obtain ⟨object, tcb, cspaceObject, cnode, vspaceObject, vs, frame, htcb, hcnode, hvspace, hframe, rfl⟩ :=
      ObjectStore.effect_tcbConfigure heffect
    obtain ⟨cap, hcap, hobject, htcbs⟩ := ObjectStore.tcbAt_eq_ok.mp htcb
    obtain ⟨capc, hcapc, hobjectc, -⟩ := ObjectStore.cnodeAt_eq_ok.mp hcnode
    obtain ⟨capv, hcapv, hobjectv, -⟩ := ObjectStore.vspaceAt_eq_ok.mp hvspace
    -- each slot named is one whose object is known
    obtain rfl : s.kernel.nextObject = object := (hcreated.holds.object_eq hcap).symm.trans hobject
    obtain rfl : c = cspaceObject := ((hc.mono hext).object_eq hcapc).symm.trans hobjectc
    obtain rfl : v = vspaceObject := ((hv.mono hext).object_eq hcapv).symm.trans hobjectv
    obtain rfl : frame.object = f := (hf.mono hext).object_eq hframe
    obtain rfl := Object.tcb.inj (hfresh.symm.trans htcbs)
    exact ⟨Extends.of_object rfl rfl rfl rfl (Or.inl rfl), rfl, rfl, rfl, Function.update_self _ _ _⟩
  refine Builds.bind_same hconfigure ?_
  rintro - s₂ hext₂ ⟨hslots, hroot, hnext, hobject⟩
  have hholds := hcreated.holds.mono hext₂
  refine Builds.bind_same (D := fun _ s₃ => s₃.slots = s₂.slots ∧ s₃.kernel.root = s₂.kernel.root ∧
      s₃.kernel.nextObject = s₂.kernel.nextObject ∧
      s₃.kernel.objects s.kernel.nextObject = .tcb ⟨some ⟨config.faultEndpoint, c, cspace.rootData.1,
          cspace.rootData.2, v, config.ipcBufferAddress, f⟩,
        some ⟨config.entry, config.stackPointer, config.arguments.toList⟩⟩) ?_ ?_
  · refine kernelOp_builds h (by nofun) _ ?_
    intro k log heffect
    obtain ⟨object, tcb, htcb, rfl⟩ := ObjectStore.effect_tcbWriteAllRegisters heffect
    obtain ⟨cap, hcap, hobject', htcbs⟩ := ObjectStore.tcbAt_eq_ok.mp htcb
    obtain rfl : s.kernel.nextObject = object := (hholds.object_eq hcap).symm.trans hobject'
    obtain rfl := Object.tcb.inj (hobject.symm.trans htcbs)
    exact ⟨Extends.of_object rfl rfl rfl rfl (Or.inl rfl), rfl, rfl, rfl, Function.update_self _ _ _⟩
  · rintro - s₃ hext₃ ⟨hslots₃, hroot₃, hnext₃, hobject₃⟩
    refine Builds.pure ⟨rfl, ?_, ?_, hholds.mono hext₃, hobject₃⟩
    · rw [hslots₃, hslots, hcreated.start]
    · rw [hnext₃, hnext, hcreated.nextObject]

/-! ## Tasks -/

/-- The pages of a task: the code page, and three frames mapped read/write. -/
def TaskConfig.pageTable (config : TaskConfig) (code : Page) (privateMemory stack ipcBuffer : Nat) :
    Nat → Option Page :=
  Function.update (Function.update (Function.update (Function.update (fun _ => none)
    config.code.address (some code))
    config.privateMemoryAddress (some ⟨privateMemory, .readWrite⟩))
    config.stackAddress (some ⟨stack, .readWrite⟩))
    config.ipcBufferAddress (some ⟨ipcBuffer, .readWrite⟩)

/-- The delegations of a configuration. -/
def TaskConfig.delegations (config : TaskConfig) : List DelegatedCapability :=
  CSpace.delegations config.delegatedCapabilities config.faultRoute

/-- The fault endpoint of a configuration, as its thread names it; 0 is the null capability. -/
def TaskConfig.faultEndpoint (config : TaskConfig) : Nat :=
  (config.faultRoute.map FaultRoute.childSlot).getD 0

/-- What the construction makes of the configuration; `code` is the capability of the code frame. -/
structure Built (config : TaskConfig) (code : Cap) (width : Nat) (s : BootState) (task : Task)
    (s' : BootState) : Prop where
  two_le : 2 ≤ width
  start : s'.slots.start = s.slots.start + width + 8
  nextObject : s'.kernel.nextObject = s.kernel.nextObject + width + 4
  -- the handles
  rootSlots : task.rootSlots = (s.slots.start, s'.slots.start)
  cspaceRoot : task.cspace.root = s.slots.start
  cspaceSize : task.cspace.sizeBits = config.cspaceSizeBits
  vspaceRoot : task.vspace.root = s.slots.start + 1
  privateMemory : task.privateMemory = ⟨s.slots.start + width + 1⟩
  stack : task.stack = ⟨s.slots.start + width + 3⟩
  ipcBuffer : task.ipcBuffer = ⟨s.slots.start + width + 5⟩
  thread : task.thread = ⟨s.slots.start + width + 7⟩
  -- the objects behind the slots
  cnode : Holds s.slots.start s.kernel.nextObject (.cnode config.cspaceSizeBits) s'
  vspace : Holds (s.slots.start + 1) (s.kernel.nextObject + 1) .vspace s'
  tables : ∀ i, s.slots.start + 1 < i → i < s.slots.start + width →
    ∃ level, Holds i (s.kernel.nextObject + (i - s.slots.start)) (.table level) s'
  codeMapping : ∃ cap, s'.kernel.root (s.slots.start + width) = some cap ∧ cap.blueprint = .granule
  privateFrame : Holds (s.slots.start + width + 1) (s.kernel.nextObject + width) .granule s'
  privateMapping : Holds (s.slots.start + width + 2) (s.kernel.nextObject + width) .granule s'
  stackFrame : Holds (s.slots.start + width + 3) (s.kernel.nextObject + width + 1) .granule s'
  stackMapping : Holds (s.slots.start + width + 4) (s.kernel.nextObject + width + 1) .granule s'
  ipcBufferFrame : Holds (s.slots.start + width + 5) (s.kernel.nextObject + width + 2) .granule s'
  ipcBufferMapping : Holds (s.slots.start + width + 6) (s.kernel.nextObject + width + 2) .granule s'
  tcb : Holds (s.slots.start + width + 7) (s.kernel.nextObject + width + 3) .tcb s'
  -- what is in them
  source : config.code.frame.cap < s.slots.start ∨ s'.slots.start ≤ config.code.frame.cap →
    s.kernel.root config.code.frame.cap = some code
  contents : Vacant s → ∃ slots,
    s'.kernel.objects s.kernel.nextObject = .cnode ⟨config.cspaceSizeBits, slots⟩ ∧
    CSpace.Delegated s'.kernel.root config.delegations slots
  pages : VSpace.HasPages (s.kernel.nextObject + 1)
    (config.pageTable ⟨code.object, code.rights.inter .readOnly⟩ (s.kernel.nextObject + width)
      (s.kernel.nextObject + width + 1) (s.kernel.nextObject + width + 2)) s'
  bound : ∃ registers, s'.kernel.objects (s.kernel.nextObject + width + 3) = .tcb
    ⟨some ⟨config.faultEndpoint, s.kernel.nextObject, 0, wordBits - config.cspaceSizeBits,
      s.kernel.nextObject + 1, config.ipcBufferAddress, s.kernel.nextObject + width + 2⟩, some registers⟩

/-- **The construction** makes what the configuration asks for, and touches nothing old. -/
theorem createTaskInner_builds (T : Nat → Prop) (config : TaskConfig) (layout : TaskLayout) (s : BootState) :
    Builds T (createTaskInner h config layout s.slots.start) s fun task s' =>
      ∃ code width, Built config code width s task s' := by
  unfold createTaskInner
  refine Builds.bind (CSpace.create_builds h T _ _ _ s) ?_
  rintro cspace s₁ ext₁ hcspace
  have next₁ := hcspace.nextObject
  -- from here on only the VSpace is touched, which has the next number
  refine ⟨Eq s₁.kernel.nextObject, fun id hid hnew => absurd hid (by omega), ?_⟩
  refine Builds.bind_same (VSpace.create_builds h _ _ _ s₁) ?_
  rintro vspace s₂ ext₂ hvspace
  refine Builds.bind_same
    (VSpace.mapFrame_builds_of_holds h hvspace.holds config.code.frame config.code.address .readOnly) ?_
  rintro codeMapping s₃ ext₃ ⟨rfl, code, vs, hcode, hmapped⟩
  have hv₃ := hvspace.holds.mono ext₃
  refine Builds.bind_same (allocateMapped_builds h hv₃ config.privateMemoryAddress) ?_
  rintro ⟨privateMemory, _⟩ s₄ ext₄ ⟨hprivateMemory, hprivate⟩
  have hv₄ := hv₃.mono ext₄
  refine Builds.bind_same (allocateMapped_builds h hv₄ config.stackAddress) ?_
  rintro ⟨stack, _⟩ s₅ ext₅ ⟨hstackFrame, hstack⟩
  have hv₅ := hv₄.mono ext₅
  refine Builds.bind_same (allocateMapped_builds h hv₅ config.ipcBufferAddress) ?_
  rintro ⟨ipcBuffer, ipcBufferMapping⟩ s₆ ext₆ ⟨hipcBuffer, hipc⟩
  obtain ⟨rfl, rfl⟩ := Prod.mk.inj hipcBuffer
  have hv₆ := hv₅.mono ext₆
  -- what is known of each state carries over to the last one
  have e₅ := ext₅.trans_same ext₆
  have e₄ := ext₄.trans_same e₅
  have e₃ := ext₃.trans_same e₄
  have hcnode := hcspace.holds.mono ext₂
  refine Builds.bind_untouched (Thread.create_builds h _ _ (hcnode.mono e₃) hv₆ hipc.mapping) ?_
  rintro ⟨tcb⟩ s₇ ext₇ hthread
  have f₆ := ext₆.trans ext₇ fun _ _ => False.elim
  have f₅ := ext₅.trans_same f₆
  have f₄ := ext₄.trans_same f₅
  have f₃ := ext₃.trans_same f₄
  have f₂ := ext₂.trans_same f₃
  -- how far the allocator and the numbers have come
  have start₁ := hcspace.start
  have start₂ := hvspace.start_lt
  have start₃ := hmapped.start
  have start₄ := hprivate.start
  have start₅ := hstack.start
  have start₆ := hipc.start
  have start₇ := hthread.start
  have next₂ := hvspace.offset
  have next₃ := hmapped.nextObject
  have next₄ := hprivate.nextObject
  have next₅ := hstack.nextObject
  have next₆ := hipc.nextObject
  have next₇ := hthread.nextObject
  have hfirst : s₇.slots.first ≤ s.slots.start := by
    rw [f₂.first, ext₁.first]
    exact s.slots.first_le
  have hrange := committedSlots_of_le hfirst (by omega)
  refine Builds.bind_same (D := fun r s' => r = (s.slots.start, s₇.slots.start) ∧ s₇ = s')
    (Prog.Ensures.ok hrange ⟨Extends.refl (fun _ => False) _, rfl, rfl⟩) ?_
  rintro rootSlots s₈ - ⟨rfl, rfl⟩
  obtain ⟨width, hwidth⟩ : ∃ width, s₂.slots.start = s.slots.start + width := ⟨_, (by omega :
    s₂.slots.start = s.slots.start + (s₂.slots.start - s.slots.start))⟩
  refine Builds.pure ⟨code, width, ?_⟩
  obtain ⟨rfl, -⟩ := Prod.mk.inj hprivateMemory
  obtain ⟨rfl, -⟩ := Prod.mk.inj hstackFrame
  constructor
  case two_le => omega
  case start => omega
  case nextObject => omega
  case rootSlots => rfl
  case cspaceRoot => exact hcspace.root
  case cspaceSize => exact hcspace.size
  case vspaceRoot => rw [hvspace.root, start₁]
  case privateMemory => exact congrArg Frame.mk (by omega)
  case stack => exact congrArg Frame.mk (by omega)
  case ipcBuffer => exact congrArg Frame.mk (by omega)
  case thread =>
    have htcb : tcb = s₆.slots.start := hthread.tcb
    exact congrArg Thread.mk (by omega)
  case cnode => exact (hcspace.holds.mono f₂).of_eq hcspace.root.symm rfl
  case vspace => exact (hvspace.holds.mono f₃).of_eq (by rw [hvspace.root, start₁]) next₁.symm
  case tables =>
    intro i hlo hhi
    obtain ⟨level, htable⟩ := hvspace.tables i (by omega) (by omega)
    exact ⟨level, (htable.mono f₃).of_eq rfl (by omega)⟩
  case codeMapping =>
    have hcopy : s₃.kernel.root s₂.slots.start = some
        { code.derive .readOnly with mapping := some (s₁.kernel.nextObject, config.code.address) } := by
      rw [hmapped.root, Function.update_self]
    rw [← hwidth]
    exact ⟨_, f₄.root_of_some (by omega) hcopy, hmapped.granule⟩
  case privateFrame => exact (hprivate.frame.mono f₅).of_eq (by omega) (by omega)
  case privateMapping => exact (hprivate.mapping.mono f₅).of_eq (by omega) (by omega)
  case stackFrame => exact (hstack.frame.mono f₆).of_eq (by omega) (by omega)
  case stackMapping => exact (hstack.mapping.mono f₆).of_eq (by omega) (by omega)
  case ipcBufferFrame => exact (hipc.frame.mono ext₇).of_eq (by omega) (by omega)
  case ipcBufferMapping => exact (hipc.mapping.mono ext₇).of_eq (by omega) (by omega)
  case tcb => exact hthread.holds.of_eq (by rw [hthread.tcb]; omega) (by omega)
  case source =>
    intro hout
    rw [← hcode, ext₂.outside _ (by omega), ext₁.outside _ (by omega)]
  case contents =>
    intro hvacant
    obtain ⟨slots, hobject, hdelegated⟩ := hcspace.contents
    refine ⟨slots, ?_, hdelegated.mono fun _ _ _ hcap => f₂.keeps (ext₁.vacant hvacant) hcap⟩
    rw [f₂.objects _ hcspace.holds.object_lt (by omega)]
    exact hobject
  case pages =>
    have hpages := hipc.pages _ (hstack.pages _ (hprivate.pages _ (hmapped.pages hvspace.pages)))
    have hfinal := hpages.mono ext₇ hv₆.object_lt not_false
    rw [next₁, CapRights.inter_inter_self] at hfinal
    have number₃ : s₃.kernel.nextObject = s.kernel.nextObject + width := by omega
    have number₄ : s₄.kernel.nextObject = s.kernel.nextObject + width + 1 := by omega
    have number₅ : s₅.kernel.nextObject = s.kernel.nextObject + width + 2 := by omega
    rw [number₃, number₄, number₅] at hfinal
    exact hfinal
  case bound =>
    have hbound := hthread.bound
    have number₅ : s₅.kernel.nextObject = s.kernel.nextObject + width + 2 := by omega
    have number₆ : s₆.kernel.nextObject = s.kernel.nextObject + width + 3 := by omega
    rw [number₅, number₆, next₁, CSpace.rootData, hcspace.size] at hbound
    exact ⟨_, hbound⟩

/-! ## What a returned task was made of -/

/-- A task is returned exactly if its layout passes the checks and its construction returns it. -/
theorem createTask_eq_ok {config : TaskConfig} {task : Task} :
    createTask h config s = (.ok task, s') ↔ ∃ layout, config.layout h = .ok layout ∧
      createTaskInner h config layout s.slots.start s = (.ok task, s') := by
  unfold createTask
  cases hlayout : config.layout h with
  | error e =>
      constructor
      · intro hok
        cases (Prod.mk.inj hok).1
      · rintro ⟨layout, hl, -⟩
        cases hl
  | ok layout =>
      have hcheckpoint : getCheckpoint s = (.ok s.slots.start, s) := rfl
      dsimp only
      rw [Prog.run_bind_ok hcheckpoint]
      rcases hrun : createTaskInner h config layout s.slots.start s with ⟨outcome, s₁⟩
      cases outcome with
      | ok made =>
          rw [Prog.run_bind_ok (Prog.run_attempt_ok BootstrapError hrun)]
          constructor
          · intro hok
            exact ⟨layout, rfl, hrun.trans hok⟩
          · rintro ⟨layout', hl, hok⟩
            obtain rfl := Except.ok.inj hl
            exact hrun.symm.trans hok
      | err e =>
          rw [Prog.run_bind_ok (Prog.run_attempt_err BootstrapError hrun)]
          refine iff_of_false ?_ ?_
          · -- whether the rollback returns or not, an error is returned
            intro hok
            obtain ⟨result, s₂, -, hend⟩ := Prog.run_bind_eq_ok.mp hok
            cases result with
            | ok u => cases (Prod.mk.inj hend).1
            | error e => cases (Prod.mk.inj hend).1
          · rintro ⟨layout', hl, hok⟩
            obtain rfl := Except.ok.inj hl
            cases (Prod.mk.inj (hrun.symm.trans hok)).1
      | panic =>
          have hpanic : (Prog.attempt (createTaskInner h config layout s.slots.start) :
              Boot (Except BootstrapError Task)) s = (.panic, s₁) := by
            rw [Prog.attempt, hrun]
          rw [Prog.run_bind_panic hpanic]
          constructor
          · intro hok
            cases (Prod.mk.inj hok).1
          · rintro ⟨layout', hl, hok⟩
            obtain rfl := Except.ok.inj hl
            cases (Prod.mk.inj (hrun.symm.trans hok)).1

/-- The CSpace of a returned task is the one that was created for it. -/
theorem createTask_cspace {config : TaskConfig} {task : Task} (hok : createTask h config s = (.ok task, s')) :
    ∃ s₁, CSpace.create h config.cspaceSizeBits config.delegatedCapabilities config.faultRoute s =
      (.ok task.cspace, s₁) := by
  obtain ⟨layout, -, hinner⟩ := (createTask_eq_ok h).mp hok
  unfold createTaskInner at hinner
  obtain ⟨cspace, s₁, hcreate, hinner⟩ := Prog.run_bind_eq_ok.mp hinner
  obtain ⟨vspace, s₂, -, hinner⟩ := Prog.run_bind_eq_ok.mp hinner
  obtain ⟨codeMapping, s₃, -, hinner⟩ := Prog.run_bind_eq_ok.mp hinner
  obtain ⟨privateMemory, s₄, -, hinner⟩ := Prog.run_bind_eq_ok.mp hinner
  obtain ⟨stack, s₅, -, hinner⟩ := Prog.run_bind_eq_ok.mp hinner
  obtain ⟨ipcBuffer, s₆, -, hinner⟩ := Prog.run_bind_eq_ok.mp hinner
  obtain ⟨thread, s₇, -, hinner⟩ := Prog.run_bind_eq_ok.mp hinner
  obtain ⟨rootSlots, s₈, -, hinner⟩ := Prog.run_bind_eq_ok.mp hinner
  obtain rfl := Outcome.ok.inj (Prod.mk.inj hinner).1
  exact ⟨s₁, hcreate⟩

end Ricoq
