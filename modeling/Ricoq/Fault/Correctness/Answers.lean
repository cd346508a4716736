import Mathlib.Data.List.Nodup
import Ricoq.Fault.Correctness.Handling

/-!
# `Fault.Correctness.Answers` — from a fault to its answer

A thread that has faulted stays stopped, first while its fault waits to be received (`Waits`) and then while the
root task holds it (`Awaits`), whatever else the root task and the other threads do. Only resuming and
suspending the thread end this early. So the root task receives the fault as it was raised, with the badge of
the task's fault route, and its reply makes this thread run, with the registers last written to it, and no other
(`fault_handled`).
-/

namespace Ricoq

open Sel4 Bootstrap

/-- The events of an operation at the TCB in a slot. -/
def FaultOp.eventsAt (slot : Nat) : FaultOp → List ThreadEvent
  | .supervise op => op.eventsAt slot
  | _             => []

/-- The registers of a stopped thread after an operation: those last written to it. -/
def FaultOp.written (slot : Nat) (registers : RegisterFile) (op : FaultOp) : RegisterFile :=
  (op.eventsAt slot).foldl Execution.written registers

/-- The operation neither resumes nor suspends the thread behind a slot. -/
def FaultOp.Leaves (slot : Nat) (op : FaultOp) : Prop :=
  ∀ event ∈ op.eventsAt slot, event ≠ .resume ∧ event ≠ .suspend

namespace FaultSystem

variable {h : Host} {s s' : FaultSystem} {x : HeldTask} {t endpoint : Nat} {badge : Word}
  {registers : RegisterFile} {m : FaultMessage} {held : HeldFault} {op : FaultOp}

/-- The fault of a task's thread waits to be received. -/
structure Waits (s : FaultSystem) (x : HeldTask) (m : FaultMessage) (registers : RegisterFile) : Prop where
  waiting : m ∈ s.waiting
  stopped : s.supervisor.Stopped x m.thread m.endpoint m.badge registers

/-- The root task has received the fault of a task's thread, which waits for the answer. -/
structure Awaits (s : FaultSystem) (x : HeldTask) (held : HeldFault) (registers : RegisterFile) : Prop where
  holds : s.held = [held]
  caller : s.ipc.kernel.caller = some ⟨held.thread, true⟩
  stopped : ∃ endpoint, s.supervisor.Stopped x held.thread endpoint held.received.source.raw registers

/-! ## A thread stays stopped -/

/-- Where the thread itself is left alone, an event forgets the fault of another one, if any. -/
theorem Handled.observe_leaves {op : SupervisorOp} {s₁ : FaultSystem} (hs : Handled h s)
    (ha : s.supervisor.Owned op) (hst : s.supervisor.Stopped x t endpoint badge registers)
    (hleaves : FaultOp.Leaves x.task.thread.tcb (.supervise op)) (hobserved : s.observe op.event = some s₁) :
    s₁ = s ∨ ∃ object, object ≠ t ∧ s₁ = s.cancel object := by
  rcases observe_cases hobserved with ⟨rfl, -⟩ | ⟨slot, cap, event, hop, hends, hcap, rfl⟩
  · exact Or.inl rfl
  · refine Or.inr ⟨cap.object, ?_, rfl⟩
    rintro rfl
    -- the event would be at the TCB of this very task
    obtain ⟨y, hy, rfl⟩ := ha.event hop
    obtain ⟨t', context, registers', ht', htcb'⟩ := (hs.reporting.intact.alive y hy).tcb
    obtain ⟨-, -, cap', hcap', rfl, -⟩ := id ht'
    obtain rfl := Option.some.inj (hcap.symm.trans hcap')
    obtain rfl := hs.reporting.intact.eq_of_tcb hst.task hy hst.thread ht'
    have hmem : event ∈ FaultOp.eventsAt x.task.thread.tcb (.supervise op) := by
      simp [FaultOp.eventsAt, SupervisorOp.eventsAt, hop]
    obtain ⟨hresume, hsuspend⟩ := hleaves event hmem
    exact hends.elim hresume hsuspend

/-- **A stopped thread stays stopped**, unless it is resumed, suspended or answered. -/
theorem Handled.stopped_step (hs : Handled h s) (ha : s.Orderly op) (hm : Moves h s op s')
    (hst : s.supervisor.Stopped x t endpoint badge registers) (hf : s.Faulted t)
    (hleaves : op.Leaves x.task.thread.tcb)
    (hnot : ∀ held, op = .reply held → s.ipc.kernel.caller ≠ some ⟨t, true⟩) :
    s'.supervisor.Stopped x t endpoint badge (op.written x.task.thread.tcb registers) := by
  cases hm with
  | @supervises op s₁ w hobserved hw =>
      have hf₁ : s₁.Faulted t := by
        rcases hs.observe_leaves ha.1 hst hleaves hobserved with rfl | ⟨object, hne, rfl⟩
        · exact hf
        · rcases hf with hwaiting | hcaller
          · obtain ⟨m, hm, rfl⟩ := List.mem_map.mp hwaiting
            exact Or.inl (List.mem_map_of_mem (List.mem_filter.mpr ⟨hm, decide_eq_true hne.symm⟩))
          · exact Or.inr (Option.filter_eq_some_iff.mpr ⟨hcaller, decide_eq_true hne.symm⟩)
      exact hst.step hs.reporting ha.1 hw (quiet_of_observe hobserved hst.thread hf₁).2
  | sends htask hx ht he hat hhandler hw =>
      exact hs.others (List.mem_map_of_mem hx) rfl hw ht hst (hs.ne_of_running hst hx ht he)
  | stops htask hx he hat hhandler hw =>
      obtain ⟨t', context, registers', ht', htcb'⟩ := (hs.reporting.intact.alive _ hx).tcb
      exact hs.others (List.mem_map_of_mem hx) rfl hw ht' hst (hs.ne_of_running hst hx ht' he)
  | receives hcap hmem hendpoint hbadge hreceived hheld => exact hst
  | @answers held y registers' buffer w hheld hcaller hx ht he hw =>
      refine hs.others (List.mem_map_of_mem hx) rfl hw ht hst ?_
      rintro rfl
      exact hnot held rfl hcaller
  | expires hheld hcaller => exact hst

/-- A fault waits until it is received. -/
theorem Waits.step (hw : s.Waits x m registers) (hs : Handled h s) (ha : s.Orderly op)
    (hstep : s.step h op = some s') (hleaves : op.Leaves x.task.thread.tcb)
    (hnot : ∀ endpoint, op ≠ .receive endpoint m.thread) :
    s'.Waits x m (op.written x.task.thread.tcb registers) := by
  have hmoves := hs.moves ha hstep
  have hfaulted : s.Faulted m.thread := Or.inl (List.mem_map_of_mem hw.waiting)
  constructor
  case stopped =>
    refine hs.stopped_step ha hmoves hw.stopped hfaulted hleaves fun held _ hcaller => ?_
    exact (hs.caller _ hcaller).2.1 (List.mem_map_of_mem hw.waiting)
  case waiting =>
    cases hmoves with
    | supervises hobserved hw' =>
        rcases hs.observe_leaves ha.1 hw.stopped hleaves hobserved with rfl | ⟨object, hne, rfl⟩
        · exact hw.waiting
        · exact List.mem_filter.mpr ⟨hw.waiting, decide_eq_true hne.symm⟩
    | sends htask hx ht he hat hhandler hw' => exact List.mem_append_left _ hw.waiting
    | @receives endpoint cap m' received hcap hmem hendpoint hbadge hreceived hheld =>
        apply (List.mem_erase_of_ne _).mpr hw.waiting
        rintro rfl
        exact hnot endpoint rfl
    | _ => exact hw.waiting

/-- A thread waits for its answer until it is answered. -/
theorem Awaits.step (hw : s.Awaits x held registers) (hs : Handled h s) (ha : s.Orderly op)
    (hstep : s.step h op = some s') (hleaves : op.Leaves x.task.thread.tcb) (hnot : op ≠ .reply held) :
    s'.Awaits x held (op.written x.task.thread.tcb registers) := by
  have hmoves := hs.moves ha hstep
  obtain ⟨endpoint, hst⟩ := hw.stopped
  -- the only fault that is held is this one
  have honly : ∀ held', s.held = [held'] → held' = held := fun held' heq =>
    (List.cons.inj (heq.symm.trans hw.holds)).1
  have hother : ∀ held', op = .reply held' → s.ipc.kernel.caller ≠ some ⟨held.thread, true⟩ := by
    rintro held' rfl
    cases hmoves with
    | answers hheld => exact absurd (honly _ hheld ▸ rfl) hnot
    | expires hheld => exact absurd (honly _ hheld ▸ rfl) hnot
  have hstopped := hs.stopped_step ha hmoves hst (Or.inr hw.caller) hleaves hother
  cases hmoves with
  | supervises hobserved hw' =>
      rcases hs.observe_leaves ha.1 hst hleaves hobserved with rfl | ⟨object, hne, rfl⟩
      · exact ⟨hw.holds, hw.caller, endpoint, hstopped⟩
      · refine ⟨hw.holds, ?_, endpoint, hstopped⟩
        exact Option.filter_eq_some_iff.mpr ⟨hw.caller, decide_eq_true hne.symm⟩
  | sends htask hx ht he hat hhandler hw' => exact ⟨hw.holds, hw.caller, endpoint, hstopped⟩
  | stops htask hx he hat hhandler hw' => exact ⟨hw.holds, hw.caller, endpoint, hstopped⟩
  | receives hcap hmem hendpoint hbadge hreceived hheld => cases hheld.symm.trans hw.holds
  | answers hheld => exact absurd (honly _ hheld ▸ rfl) hnot
  | expires hheld => exact absurd (honly _ hheld ▸ rfl) hnot

/-! ## Receiving and answering -/

/-- A waiting fault can be received, when nothing else is held, and is received as it was raised. -/
theorem Waits.receive {route : FaultRoute} (hw : s.Waits x m registers) (hs : Handled h s)
    (hroute : x.config.faultRoute = some route) (hheld : s.held = []) :
    ∃ s' held, guardedStep (FaultSystem.step h) Orderly s (.receive route.delegation.source m.thread) = some s' ∧
      held.received.source.raw = route.delegation.badge ∧ held.received.fault = m.fault ∧
      held.thread = m.thread ∧ s'.Awaits x held registers := by
  have hrep := hs.reporting
  obtain ⟨object, hendpoint, hhandler⟩ := hrep.routed hw.stopped.task hroute
  obtain ⟨hobject, hbadge⟩ := Prod.mk.inj (Option.some.inj (hw.stopped.handler.symm.trans hhandler))
  obtain ⟨cap, hroot, hunmapped⟩ := Option.map_eq_some_iff.mp hendpoint
  have hcap : s.kernel.root route.delegation.source = some cap := hroot
  have hcapobject : cap.object = object := congrArg Cap.object hunmapped
  have hsource := (hrep.routes x hw.stopped.task route hroute).1
  -- there is one message of this thread
  have hfind : s.waiting.find? (fun m' => m'.endpoint = cap.object ∧ m'.thread = m.thread) = some m := by
    have hsome : (s.waiting.find? fun m' => m'.endpoint = cap.object ∧ m'.thread = m.thread).isSome := by
      apply List.find?_isSome.mpr
      exact ⟨m, hw.waiting, decide_eq_true ⟨hobject.trans hcapobject.symm, rfl⟩⟩
    obtain ⟨m', hm'⟩ := Option.isSome_iff_exists.mp hsome
    have hfound := List.find?_some hm'
    have hthread := (of_decide_eq_true hfound).2
    rw [hm', List.inj_on_of_nodup_map hs.distinct (List.mem_of_find?_eq_some hm') hw.waiting hthread]
  have hready : s.ipc.pending route.delegation.source = false := by
    by_contra hpending
    obtain ⟨held, hmem, -⟩ := hs.pending _ (Bool.eq_true_of_not_eq_false hpending)
    rw [hheld] at hmem
    cases hmem
  obtain ⟨received, -, hrun⟩ := FaultEndpoint.receive_delivery hready m hw.stopped.badge_ne
  refine ⟨{ s with
    ipc := s.ipc.settled route.delegation.source none (.message m.delivery)
    waiting := s.waiting.erase m
    held := [⟨⟨⟨m.badge, hw.stopped.badge_ne⟩, m.fault, received⟩, m.thread⟩] },
    ⟨⟨⟨m.badge, hw.stopped.badge_ne⟩, m.fault, received⟩, m.thread⟩, ?_, hbadge, rfl, rfl, ?_⟩
  · rw [guardedStep, if_pos ⟨hsource, hheld⟩]
    show (s.kernel.root route.delegation.source).bind _ = _
    rw [hcap, Option.bind_some, hfind]
    dsimp only [bind, Option.bind_some]
    rw [hrun]
    dsimp only
    rw [withIpc_of_restarted (restarted_settled s.ipc _ none m.delivery), hheld]
  · exact ⟨rfl, rfl, m.endpoint, hw.stopped⟩

/-- A reply to a fault that is held goes through. -/
theorem reply_returns (hmem : held ∈ s.held) :
    ∃ s', guardedStep (FaultSystem.step h) Orderly s (.reply held) = some s' := by
  obtain ⟨buffer, hrun⟩ := ReceivedMessage.reply_empty (ε := FaultReceiveError) held.received.received s.ipc
  have hreply : FaultEndpoint.reply held.received s.ipc = _ := hrun
  refine ⟨{ s.withIpc (s.ipc.answered held.received.received.endpoint buffer (MessageInfo.build 0 0 0 0)) with
    held := s.held.erase held }, ?_⟩
  rw [guardedStep, if_pos (show s.Orderly (.reply held) from trivial)]
  dsimp only [FaultSystem.step]
  rw [if_pos hmem, hreply]

/-- The reply makes the thread run, and no other. -/
theorem Awaits.reply (hw : s.Awaits x held registers) (hs : Handled h s) :
    ∃ s', guardedStep (FaultSystem.step h) Orderly s (.reply held) = some s' ∧ s'.held = [] ∧
      x.execution s'.supervisor = some ⟨.running, registers⟩ ∧
      ∀ y ∈ s.tasks, y ≠ x → y.execution s'.supervisor = y.execution s.supervisor := by
  have hmem : held ∈ s.held := by
    rw [hw.holds]
    exact List.mem_singleton_self held
  have hintact := hs.reporting.intact
  obtain ⟨endpoint, hst⟩ := hw.stopped
  obtain ⟨s', hstep⟩ := reply_returns (h := h) hmem
  have hstep' := hstep
  rw [guardedStep, if_pos (show s.Orderly (.reply held) from trivial)] at hstep'
  refine ⟨s', hstep, ?_⟩
  have ha : s.Orderly (.reply held) := trivial
  cases hs.moves ha hstep' with
  | @answers held y registers' buffer w hheld hcaller hy ht he hw' =>
      obtain rfl := hintact.eq_of_tcb hy hst.task ht hst.thread
      obtain ⟨-, rfl⟩ := Execution.mk.inj (Option.some.inj (he.symm.trans hst.blocked))
      have ha : s.supervisor.Owned (.runs y.task (.wake registers')) := List.mem_map_of_mem hy
      refine ⟨rfl, ?_, fun z hz hne => ?_⟩
      · obtain ⟨e, hevents, he'⟩ := hintact.execution_step ha hw' hy he
        have hat : SupervisorOp.eventsAt y.task.thread.tcb (.runs y.task (.wake registers')) =
            [.wake registers'] := by
          simp [SupervisorOp.eventsAt, SupervisorOp.event]
        rw [hat] at hevents
        obtain rfl := Option.some.inj hevents
        exact he'
      · obtain ⟨e, he'⟩ := hintact.execution hz
        obtain ⟨t', context, registers, ht', -⟩ := (hintact.alive z hz).tcb
        have hthreads : held.thread ≠ t' := by
          rintro rfl
          exact hne (hintact.eq_of_tcb hz hy ht' ht)
        have hnone : SupervisorOp.eventsAt z.task.thread.tcb (.runs y.task (.wake registers')) = [] :=
          eventsAt_of_ne rfl (Supervisor.Intact.tcb_ne ht ht' hthreads)
        obtain ⟨e', hevents, hafter⟩ := hintact.execution_step ha hw' hz he'
        rw [hnone] at hevents
        obtain rfl := Option.some.inj hevents
        exact hafter.trans he'.symm
  | expires hheld hcaller => cases hcaller.symm.trans hw.caller

/-! ## From the fault to the answer -/

theorem Waits.run {ops : List FaultOp} (hw : s.Waits x m registers) (hs : Handled h s)
    (hops : ∀ op ∈ ops, op.Leaves x.task.thread.tcb ∧ ∀ endpoint, op ≠ .receive endpoint m.thread)
    (hrun : ops.foldlM (guardedStep (FaultSystem.step h) Orderly) s = some s') :
    Handled h s' ∧ s'.Waits x m (ops.foldl (FaultOp.written x.task.thread.tcb) registers) := by
  apply guarded_fold (I := fun s registers => Handled h s ∧ s.Waits x m registers) _ _ ⟨hs, hw⟩ hrun
  rintro s registers op s' hmem ⟨hs, hw⟩ ha hstep
  obtain ⟨hleaves, hnot⟩ := hops op hmem
  exact ⟨hs.step ha hstep, hw.step hs ha hstep hleaves hnot⟩

theorem Awaits.run {ops : List FaultOp} (hw : s.Awaits x held registers) (hs : Handled h s)
    (hops : ∀ op ∈ ops, op.Leaves x.task.thread.tcb ∧ op ≠ .reply held)
    (hrun : ops.foldlM (guardedStep (FaultSystem.step h) Orderly) s = some s') :
    Handled h s' ∧ s'.Awaits x held (ops.foldl (FaultOp.written x.task.thread.tcb) registers) := by
  apply guarded_fold (I := fun s registers => Handled h s ∧ s.Awaits x held registers) _ _ ⟨hs, hw⟩ hrun
  rintro s registers op s' hmem ⟨hs, hw⟩ ha hstep
  obtain ⟨hleaves, hnot⟩ := hops op hmem
  exact ⟨hs.step ha hstep, hw.step hs ha hstep hleaves hnot⟩

/-- A fault of a task with a route waits to be received. -/
theorem Handled.raised {route : FaultRoute} {fault : Fault} (hs : Handled h s) (hx : x ∈ s.tasks)
    (hroute : x.config.faultRoute = some route) (hstep : s.step h (.fault x.task fault) = some s') :
    ∃ m registers, m.fault = fault ∧ m.badge = route.delegation.badge ∧
      x.execution s.supervisor = some ⟨.running, registers⟩ ∧ fault.instructionPointer.toNat = registers.pc ∧
      s'.Waits x m registers := by
  have hintact := hs.reporting.intact
  obtain ⟨object, -, hhandler⟩ := hs.reporting.routed hx hroute
  cases hs.moves_fault hx hstep with
  | @sends y _ _ t endpoint badge registers w htask hy ht he hat hhandler' hw =>
      obtain rfl := hintact.eq_of_task hy hx htask
      obtain ⟨-, hbadge⟩ := Prod.mk.inj (Option.some.inj (hhandler'.symm.trans hhandler))
      refine ⟨⟨endpoint, badge, t, fault⟩, registers, rfl, hbadge, he, hat, ?_, ?_⟩
      · exact List.mem_append_right _ (List.mem_singleton_self _)
      · exact hs.stopped_of_block hy ht he hhandler' hw
  | stops htask hy he hat hhandler' hw =>
      obtain rfl := hintact.eq_of_task hy hx htask
      cases hhandler'.symm.trans hhandler

/-- The task of `RootTask.taskConfig`, with its faults sent to the endpoint in slot 101. -/
def reportingConfig : TaskConfig :=
  { RootTask.taskConfig with faultRoute := some (FaultRoute.new 101 ⟨9, by decide⟩ 3) }

theorem three_lt_maxSlots : 3 < maxSlots := by decide

/-- What `createTask` makes of it. -/
def reportingTask : Task :=
  { Supervisor.firstTask with
    cspace := ⟨102, 4, ⟨16, Supervisor.firstTask.cspace.slots.states.set 3 .occupied three_lt_maxSlots,
      RootTask.sixteen_le_maxSlots⟩⟩ }

/-- A frame for the code, a fault endpoint and the task, which is started. -/
def reportingRun : List FaultOp :=
  [.supervise (.root .allocateFrame), .supervise (.root .allocateFaultEndpoint),
    .supervise (.root (.createTask reportingConfig)), .supervise (.start reportingTask none)]

/-- The task writes where it must not. -/
def refusedWrite : Fault := .vmFault ⟨0x400010, 0x600000, false, 7⟩

set_option synthInstance.maxSize 1000 in
/-- The task faults, its fault is received, and it could be resumed then. -/
theorem reporting_runs : ∃ s s₁ s₂ s₃ : FaultSystem,
    Reachable (FaultSystem.step RootTask.host) (Initial RootTask.host) Orderly s ∧
    guardedStep (FaultSystem.step RootTask.host) Orderly s (.fault reportingTask refusedWrite) = some s₁ ∧
    guardedStep (FaultSystem.step RootTask.host) Orderly s₁ (.receive 101 111) = some s₂ ∧
    guardedStep (FaultSystem.step RootTask.host) Orderly s₂ (.supervise (.resume reportingTask none)) = some s₃ ∧
    (s.tasks.map fun x => (x.task, x.config.faultRoute)) = [(reportingTask, reportingConfig.faultRoute)] ∧
    s₂.tasks.map HeldTask.task = [reportingTask] ∧ s₁.held = [] ∧
    s₁.waiting.map (·.fault) = [refusedWrite] ∧ (s₂.held.map fun held => held.received.fault) = [refusedWrite] := by
  have hrun : (reportingRun.foldlM (guardedStep (FaultSystem.step RootTask.host) Orderly) start).bind (fun s =>
      (guardedStep (FaultSystem.step RootTask.host) Orderly s (.fault reportingTask refusedWrite)).bind fun s₁ =>
        (guardedStep (FaultSystem.step RootTask.host) Orderly s₁ (.receive 101 111)).bind fun s₂ =>
          (guardedStep (FaultSystem.step RootTask.host) Orderly s₂ (.supervise (.resume reportingTask none))).map
            fun _ => (s.tasks.map fun x => (x.task, x.config.faultRoute), s₂.tasks.map HeldTask.task,
              s₁.held.isEmpty, s₁.waiting.map (·.fault), s₂.held.map fun held => held.received.fault)) =
      some ([(reportingTask, reportingConfig.faultRoute)], [reportingTask], true, [refusedWrite],
        [refusedWrite]) := by
    decide +kernel
  obtain ⟨s, hs, hrest⟩ := Option.bind_eq_some_iff.mp hrun
  obtain ⟨s₁, hs₁, hrest⟩ := Option.bind_eq_some_iff.mp hrest
  obtain ⟨s₂, hs₂, hrest⟩ := Option.bind_eq_some_iff.mp hrest
  obtain ⟨s₃, hs₃, hobserved⟩ := Option.map_eq_some_iff.mp hrest
  simp only [Prod.mk.injEq, List.isEmpty_iff] at hobserved
  exact ⟨s, s₁, s₂, s₃, (Reachable.refl start_initial).foldlM_guarded _ hs, hs₁, hs₂, hs₃, hobserved⟩

/-- The badge that the faults of a task are sent with. -/
def faultBadge (x : HeldTask) : Option Word := x.config.faultRoute.map fun route => route.delegation.badge

/-- The badge of a task's faults is that of its route. -/
theorem Handled.faultBadge_eq (hs : Handled h s) (hx : x ∈ s.tasks)
    (hhandler : s.kernel.faultHandler x.task.thread.tcb = some (endpoint, badge)) : faultBadge x = some badge := by
  cases hroute : x.config.faultRoute with
  | none => cases (hs.reporting.unrouted hx hroute).symm.trans hhandler
  | some route =>
      obtain ⟨object, -, hhandler'⟩ := hs.reporting.routed hx hroute
      obtain ⟨-, rfl⟩ := Prod.mk.inj (Option.some.inj (hhandler'.symm.trans hhandler))
      rw [faultBadge, hroute]
      rfl

/-- Whose fault is received can be told from its badge, if the badges of the tasks are different. -/
theorem Handled.identified (hs : Handled h s) (hmem : held ∈ s.held) (hx : x ∈ s.tasks)
    (hbadge : faultBadge x = some held.received.source.raw)
    (hunique : ∀ y ∈ s.tasks, faultBadge y = faultBadge x → y = x) : x.task.HasPart s.kernel .tcb held.thread := by
  obtain ⟨-, y, hy, endpoint, ht, hhandler⟩ := hs.held held hmem
  have hsame := hs.faultBadge_eq hy hhandler
  obtain rfl := hunique y hy (hsame.trans hbadge.symm)
  exact ht

/-- A task without a fault route is suspended where it faults, and its fault is lost. -/
theorem Handled.unreported {fault : Fault} (hs : Handled h s) (hx : x ∈ s.tasks)
    (hroute : x.config.faultRoute = none) (hstep : s.step h (.fault x.task fault) = some s') :
    s'.waiting = s.waiting ∧ s'.held = s.held ∧ ∃ registers,
      fault.instructionPointer.toNat = registers.pc ∧
      x.execution s'.supervisor = some ⟨.inactive, registers⟩ := by
  have hintact := hs.reporting.intact
  have hnone := hs.reporting.unrouted hx hroute
  cases hs.moves_fault hx hstep with
  | sends htask hy ht he hat hhandler hw =>
      obtain rfl := hintact.eq_of_task hy hx htask
      cases hnone.symm.trans hhandler
  | @stops y _ _ registers w htask hy he hat hhandler hw =>
      obtain rfl := hintact.eq_of_task hy hx htask
      refine ⟨rfl, rfl, registers, hat, ?_⟩
      have ha : s.supervisor.Owned (.suspend y.task none) := List.mem_map_of_mem hy
      obtain ⟨e, hevents, he'⟩ := hintact.execution_step ha hw hy he
      have hat' : SupervisorOp.eventsAt y.task.thread.tcb (.suspend y.task none) = [.suspend] := by
        simp [SupervisorOp.eventsAt, SupervisorOp.event]
      rw [hat'] at hevents
      obtain rfl := Option.some.inj hevents
      exact he'

/-- The fault is held, but nobody waits for its answer any more. -/
structure Lost (s : FaultSystem) (held : HeldFault) : Prop where
  holds : s.held = [held]
  caller : s.ipc.kernel.caller = none

theorem Lost.step (hl : s.Lost held) (hs : Handled h s) (ha : s.Orderly op) (hstep : s.step h op = some s')
    (hnot : op ≠ .reply held) : s'.Lost held := by
  have honly : ∀ held', s.held = [held'] → held' = held := fun held' heq =>
    (List.cons.inj (heq.symm.trans hl.holds)).1
  cases hs.moves ha hstep with
  | supervises hobserved hw =>
      obtain ⟨-, hheld, -, hcaller⟩ := observe_fields hobserved
      refine ⟨hheld.trans hl.holds, Option.eq_none_iff_forall_ne_some.mpr fun c hc => ?_⟩
      cases hl.caller.symm.trans (hcaller c hc)
  | sends htask hx ht he hat hhandler hw => exact ⟨hl.holds, hl.caller⟩
  | stops htask hx he hat hhandler hw => exact ⟨hl.holds, hl.caller⟩
  | receives hcap hm hendpoint hbadge hreceived hheld => cases hheld.symm.trans hl.holds
  | answers hheld => exact absurd (honly _ hheld ▸ rfl) hnot
  | expires hheld => exact absurd (honly _ hheld ▸ rfl) hnot

theorem Lost.run {ops : List FaultOp} (hl : s.Lost held) (hs : Handled h s)
    (hops : ∀ op ∈ ops, op ≠ .reply held)
    (hrun : ops.foldlM (guardedStep (FaultSystem.step h) Orderly) s = some s') : Handled h s' ∧ s'.Lost held := by
  apply guarded_run (I := fun s => Handled h s ∧ s.Lost held) _ ⟨hs, hl⟩ hrun
  rintro s op s' hmem ⟨hs, hl⟩ ha hstep
  exact ⟨hs.step ha hstep, hl.step hs ha hstep (hops op hmem)⟩

/-- Its reply reaches nobody. -/
theorem Lost.reply (hl : s.Lost held) (hs : Handled h s) :
    ∃ s', guardedStep (FaultSystem.step h) Orderly s (.reply held) = some s' ∧ s'.held = [] ∧
      s'.supervisor = s.supervisor := by
  have hmem : held ∈ s.held := by
    rw [hl.holds]
    exact List.mem_singleton_self held
  obtain ⟨s', hstep⟩ := reply_returns (h := h) hmem
  have hstep' := hstep
  rw [guardedStep, if_pos (show s.Orderly (.reply held) from trivial)] at hstep'
  refine ⟨s', hstep, ?_⟩
  have ha : s.Orderly (.reply held) := trivial
  cases hs.moves ha hstep' with
  | answers hheld hcaller => cases hl.caller.symm.trans hcaller
  | expires => exact ⟨rfl, rfl⟩

end FaultSystem
end Ricoq
