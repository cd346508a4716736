import Ricoq.Lib.Distinct
import Ricoq.Boot.Correctness.Tables

/-!
# `Boot.Correctness.Footprint` — how many root slots a task takes

Every step of the construction that returns moves the allocator by a number that the configuration fixes
beforehand (`Takes`). Summed up, that is one slot for each distinct translation table and ten for everything
else: the CNode, the VSpace, the code mapping, three frames with their mappings, and the TCB.
-/

namespace Ricoq

open Sel4 Bootstrap

/-! ## Steps that take a fixed number of slots -/

/-- Whenever the program returns, it has taken `count` slots. -/
def Takes {α : Type} (x : Boot α) (count : Nat) : Prop :=
  ∀ s a s', x s = (.ok a, s') → s'.slots.start = s.slots.start + count

namespace Takes

variable {α β : Type} {m n : Nat}

theorem pure (a : α) : Takes (Pure.pure a : Boot α) 0 := by
  intro s a' s' hrun
  obtain ⟨-, rfl⟩ := Prod.mk.inj hrun
  rfl

theorem throw (e : BootstrapError) : Takes (Prog.throw e : Boot α) n := by
  intro s a s' hrun
  cases (Prod.mk.inj hrun).1

theorem bind {x : Boot α} {f : α → Boot β} (hx : Takes x m) (hf : ∀ a, Takes (f a) n) :
    Takes (x >>= f) (m + n) := by
  intro s b s' hrun
  obtain ⟨a, s₁, hfirst, hrest⟩ := Prog.run_bind_eq_ok.mp hrun
  rw [hf a s₁ b s' hrest, hx s a s₁ hfirst, Nat.add_assoc]

theorem of_eq {x : Boot α} (hx : Takes x m) (h : m = n) : Takes x n := h ▸ hx

theorem ofExcept (x : Except BootstrapError α) : Takes (Prog.ofExcept x : Boot α) 0 := by
  cases x with
  | ok a => exact pure a
  | error e => exact throw e

theorem kernelOp (x : Prog Sel4Error ObjectStore α) (error : BootstrapError) :
    Takes (Bootstrap.kernelOp x error) 0 := by
  intro s a s' hrun
  unfold Bootstrap.kernelOp at hrun
  rcases hx : x s.kernel with ⟨outcome, k⟩
  rw [hx] at hrun
  cases outcome with
  | ok b =>
      obtain ⟨-, rfl⟩ := Prod.mk.inj hrun
      rfl
  | err e => cases (Prod.mk.inj hrun).1
  | panic => cases (Prod.mk.inj hrun).1

variable (h : Host)

theorem allocateBlueprint (blueprint : ObjectBlueprint) : Takes (Bootstrap.allocateBlueprint h blueprint) 1 := by
  intro s slot s' hrun
  exact ((allocateBlueprint_builds h (fun _ => False) blueprint s).of_ok hrun).2.2.start

theorem copyToRoot (source : Nat) (rights : CapRights) : Takes (Bootstrap.copyToRoot h source rights) 1 := by
  intro s slot s' hrun
  obtain ⟨-, -, cap, hcopied⟩ := (copyToRoot_builds h (fun _ => False) source rights s).of_ok hrun
  exact hcopied.start

theorem committedSlots (checkpoint : Nat) : Takes (Bootstrap.committedSlots checkpoint) 0 := by
  intro s range s' hrun
  unfold Bootstrap.committedSlots at hrun
  cases hsince : s.slots.allocatedSince checkpoint with
  | none =>
      rw [hsince] at hrun
      cases (Prod.mk.inj hrun).1
  | some r =>
      rw [hsince] at hrun
      obtain ⟨-, rfl⟩ := Prod.mk.inj hrun
      rfl

/-! ## The parts of the construction -/

theorem mapFrame (vspace : VSpace) (frame : Frame) (address : Nat) (rights : CapRights) :
    Takes (vspace.mapFrame h frame address rights) 1 := by
  unfold VSpace.mapFrame
  by_cases haligned : address % h.machine.pageBytes ≠ 0
  · rw [if_pos haligned]
    exact throw _
  · rw [if_neg haligned]
    exact bind (copyToRoot h frame.cap rights) fun mapping => bind (kernelOp _ _) fun _ => pure mapping

theorem allocateMapped (vspace : VSpace) (address : Nat) : Takes (Ricoq.allocateMapped h vspace address) 2 := by
  unfold Ricoq.allocateMapped allocateFrame
  refine bind (m := 1) ?_ fun frame => bind (n := 0) (mapFrame h vspace frame address .readWrite) fun _ => pure _
  exact bind (n := 0) (allocateBlueprint h .granule) fun slot => pure _

theorem threadCreate (cspace : CSpace) (vspace : VSpace) (config : ThreadConfig) :
    Takes (Thread.create h cspace vspace config) 1 := by
  unfold Thread.create
  apply bind (n := 0) (allocateBlueprint h .tcb)
  intro tcb
  apply bind (m := 0) (n := 0) (kernelOp _ _)
  intro _
  exact bind (m := 0) (n := 0) (kernelOp _ _) fun _ => pure _

theorem install (cspace : CSpace) (c : DelegatedCapability) : Takes (cspace.install h c) 0 := by
  unfold CSpace.install
  apply bind (m := 0) (n := 0) (kernelOp _ _)
  intro _
  cases cspace.slots.markOccupied c.destination with
  | ok slots => exact pure _
  | error e => exact throw _

theorem foldlM_install (cs : List DelegatedCapability) (cspace : CSpace) :
    Takes (cs.foldlM (CSpace.install h) cspace) 0 := by
  induction cs generalizing cspace with
  | nil => exact pure cspace
  | cons c cs ih =>
      rw [List.foldlM_cons]
      exact bind (m := 0) (n := 0) (install h cspace c) ih

/-- A CSpace is one CNode, whatever is minted into it. -/
theorem cspaceCreate (sizeBits : Nat) (capabilities : List DelegatedCapability) (faultRoute : Option FaultRoute) :
    Takes (CSpace.create h sizeBits capabilities faultRoute) 1 := by
  unfold CSpace.create
  apply bind (m := 0) (n := 1) (ofExcept _)
  intro _
  apply bind (n := 0) (allocateBlueprint h (.cnode sizeBits))
  intro root
  apply bind (m := 0) (n := 0) (ofExcept _)
  intro capacity
  cases SlotTracker.tryNew capacity with
  | error e => exact throw _
  | ok slots =>
      apply bind (m := 0) (n := 0) (foldlM_install h capabilities _)
      intro cspace
      cases faultRoute with
      | none => exact pure cspace
      | some route => exact install h cspace route.delegation

theorem mapTable (vspace : VSpace) (level address : Nat) : Takes (vspace.mapTable h level address) 1 := by
  unfold VSpace.mapTable
  cases h.machine.fromLevel level with
  | none => exact throw _
  | some tableType => exact bind (n := 0) (allocateBlueprint h _) fun table => kernelOp _ _

/-- One table for each region that is met for the first time. -/
theorem mapLevel (vspace : VSpace) (level span : Nat) (prior addresses : List Nat) :
    Takes (vspace.mapLevel h level span prior addresses) (newImages (· / span) prior addresses) := by
  induction addresses generalizing prior with
  | nil => exact pure ()
  | cons address rest ih =>
      unfold VSpace.mapLevel newImages
      by_cases hseen : ∃ p ∈ prior, p / span = address / span
      · rw [if_pos hseen, if_pos hseen]
        exact ih _
      · rw [if_neg hseen, if_neg hseen, Nat.add_comm]
        exact bind (mapTable h vspace level address) fun _ => ih _

end Takes

/-! ## The tables of a configuration -/

/-- The distinct regions of one level in which the addresses lie. -/
def Sel4.Platform.regionCount (p : Platform) (addresses : List Nat) (level : Nat) : Nat :=
  (addresses.map (p.region level)).dedup.length

/-- The translation tables the addresses need. -/
def Sel4.Platform.tableCount (p : Platform) (addresses : List Nat) : Nat :=
  ((List.range' 1 (p.numLevels - 1)).map (p.regionCount addresses)).sum

/-- The root slots of a task: its tables, and ten more. -/
def TaskConfig.footprint (config : TaskConfig) (p : Platform) : Nat :=
  p.tableCount (config.pageAddresses ++ config.reservedPages) + 10

namespace Takes

variable (h : Host)

/-- A span that the code could compute is the one of the level. -/
theorem span_eq {level span : Nat} (hspan : VSpace.span h level = some span) :
    span = 2 ^ h.machine.spanBits level := by
  unfold VSpace.span at hspan
  obtain ⟨shift, hshift, hspan⟩ := Option.bind_eq_some_iff.mp hspan
  unfold tryFromU32 at hshift
  unfold checkedShl at hspan
  by_cases h32 : h.machine.spanBits level < 2 ^ 32
  · rw [if_pos h32] at hshift
    obtain rfl := Option.some.inj hshift
    by_cases hlt : h.machine.spanBits level < wordBits
    · rw [if_pos hlt, Nat.one_mul, Nat.mod_eq_of_lt (Nat.pow_lt_pow_right (by decide) hlt)] at hspan
      exact (Option.some.inj hspan).symm
    · rw [if_neg hlt] at hspan
      cases hspan
  · rw [if_neg h32] at hshift
    cases hshift

theorem mapTranslationTables (vspace : VSpace) (pageAddresses reservedPages levels : List Nat) :
    Takes (vspace.mapTranslationTables h pageAddresses reservedPages levels)
      (levels.map (h.machine.regionCount (pageAddresses ++ reservedPages))).sum := by
  induction levels with
  | nil => exact pure ()
  | cons level levels ih =>
      unfold VSpace.mapTranslationTables
      cases hspan : VSpace.span h level with
      | none => exact throw _
      | some span =>
          rw [List.map_cons, List.sum_cons]
          refine bind ((mapLevel h vspace level span [] _).of_eq ?_) fun _ => ih
          rw [newImages_eq, span_eq h hspan]
          rfl

theorem vspaceCreate (pageAddresses reservedPages : List Nat) :
    Takes (VSpace.create h pageAddresses reservedPages)
      (h.machine.tableCount (pageAddresses ++ reservedPages) + 1) := by
  unfold VSpace.create
  rw [Nat.add_comm]
  apply bind (allocateBlueprint h .vspace)
  intro root
  refine (bind (m := 0) (kernelOp _ _) fun _ => ?_).of_eq (Nat.zero_add _)
  exact bind (n := 0) (mapTranslationTables h ⟨root⟩ pageAddresses reservedPages (VSpace.levels h))
    fun _ => pure _

/-- **The construction takes the slots of its footprint.** -/
theorem createTaskInner (config : TaskConfig) (layout : TaskLayout) (checkpoint : Nat) :
    Takes (Ricoq.createTaskInner h config layout checkpoint) (config.footprint h.machine.toPlatform) := by
  have hsum : config.footprint h.machine.toPlatform =
      1 + (h.machine.tableCount (config.pageAddresses ++ config.reservedPages) + 1 +
        (1 + (2 + (2 + (2 + (1 + (0 + 0))))))) := by
    unfold TaskConfig.footprint
    omega
  rw [hsum]
  unfold Ricoq.createTaskInner
  apply bind (cspaceCreate h config.cspaceSizeBits config.delegatedCapabilities config.faultRoute)
  intro cspace
  apply bind (vspaceCreate h config.pageAddresses config.reservedPages)
  intro vspace
  apply bind (mapFrame h vspace config.code.frame config.code.address .readOnly)
  intro codeMapping
  apply bind (allocateMapped h vspace config.privateMemoryAddress)
  intro privateMemory
  apply bind (allocateMapped h vspace config.stackAddress)
  intro stack
  apply bind (allocateMapped h vspace config.ipcBufferAddress)
  intro ipcBuffer
  apply bind (threadCreate h cspace vspace _)
  intro thread
  exact bind (committedSlots checkpoint) fun rootSlots => pure _

end Takes
end Ricoq
