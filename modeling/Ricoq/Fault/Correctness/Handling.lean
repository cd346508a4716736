import Ricoq.Fault.Correctness.Routes
import Ricoq.Fault.Correctness.Delivery
import Ricoq.Ipc.Correctness.Pending
import Ricoq.Ipc.Correctness.Polling

/-!
# `Fault.Correctness.Handling` — faults are handled one by one, each by its answer

A thread that has faulted is stopped, and its fault is at one place: on its way to the endpoint of its task's
fault route, or in the hands of the root task (`Handled`). Every step is one of six moves (`Moves`), and each of
them is a step of the supervisor or leaves it alone, so what is known of supervised threads can be used here.
-/

namespace Ricoq

open Sel4 Bootstrap

/-- The TCB of a task. -/
theorem Supervisor.Intact.eq_of_tcb {h : Host} {w : Supervisor} {x y : HeldTask} {t : Nat}
    (hw : Supervisor.Intact h w) (hx : x ∈ w.tasks) (hy : y ∈ w.tasks) (ht : x.task.HasPart w.root.state.kernel .tcb t)
    (ht' : y.task.HasPart w.root.state.kernel .tcb t) : x = y := by
  by_contra hne
  have hxn := (hw.alive x hx).numbered _ _ ht
  have hyn := (hw.alive y hy).numbered _ _ ht'
  have hapart := hw.apart hx hy hne
  omega

theorem Supervisor.Intact.eq_of_task {h : Host} {w : Supervisor} {x y : HeldTask} (hw : Supervisor.Intact h w)
    (hx : x ∈ w.tasks) (hy : y ∈ w.tasks) (htask : x.task = y.task) : x = y := by
  obtain ⟨t, context, registers, ht, -⟩ := (hw.alive x hx).tcb
  exact hw.eq_of_tcb hx hy ht (htask ▸ ht)

namespace Supervisor

variable {h : Host} {w : Supervisor} {x : HeldTask} {t : Nat} {k : Live}

/-- A step of a thread itself is an operation of the supervisor. -/
theorem step_runs {task : Task} {event : ThreadEvent} (hevent : event.Spontaneous)
    (hk : w.live.advanceAt task.thread.tcb event = .ok k) :
    Supervisor.step h w (.runs task event) = some (w.withLive k) := by
  simp only [Supervisor.step, if_pos hevent, hk]

theorem step_suspend {task : Task} (hk : w.live.advanceAt task.thread.tcb .suspend = .ok k) :
    Supervisor.step h w (.suspend task none) = some (w.withLive k) := by
  have heffect : w.live.effect h.machine.toPlatform (.tcbSuspend task.thread.tcb) = .ok k := hk
  show w.perform (task.suspend h none) = _
  simp only [perform, Task.suspend, Thread.suspend, Prog.mapErr, invokeControl, heffect]

/-- A blocked thread that is woken runs on where it was. -/
theorem step_wake {registers : RegisterFile} (ht : x.task.HasPart w.root.state.kernel .tcb t)
    (he : x.execution w = some ⟨.blocked, registers⟩) :
    Supervisor.step h w (.runs x.task (.wake registers)) = some (w.withLive (w.live.wake t)) := by
  rw [x.execution_of_hasPart ht] at he
  obtain ⟨tcb, htcb, heq⟩ := Live.execution_eq_some.mp he
  obtain ⟨hstate, hfile⟩ := Execution.mk.inj heq
  have hstep : Execution.step ⟨w.live.threads t, tcb.file⟩ (.wake registers) = some ⟨.running, registers⟩ := by
    rw [← hstate]
    rfl
  have hadvance : ∃ k, w.live.advance t (.wake registers) = some k := by
    simp only [Live.advance, htcb, hstep, Option.map_some, Option.some.injEq, exists_eq']
  obtain ⟨k, hk⟩ := hadvance
  have hwake : w.live.wake t = k := by
    simp only [Live.wake, he, hk, Option.getD_some]
  obtain ⟨-, -, cap, hcap, rfl, -⟩ := ht
  have hat : w.live.store.tcbAt x.task.thread.tcb = .ok (cap.object, tcb) :=
    ObjectStore.tcbAt_eq_ok.mpr ⟨cap, hcap, rfl, htcb⟩
  rw [hwake]
  refine step_runs trivial (except_bind_eq_ok.mpr ⟨_, hat, ?_⟩)
  simp only [hk]

end Supervisor

/-! ## Stopped threads -/

/-- The registers of a blocked thread are those last written, if nothing resumes, suspends or wakes it. -/
theorem Sel4.Execution.blocked_run {events : List ThreadEvent} {registers : RegisterFile} {e : Execution}
    (hno : ∀ event ∈ events, event ≠ .resume ∧ event ≠ .suspend ∧ ∀ r, event ≠ .wake r)
    (hrun : events.foldlM Execution.step ⟨.blocked, registers⟩ = some e) :
    e = ⟨.blocked, events.foldl Execution.written registers⟩ := by
  induction events generalizing registers with
  | nil => exact (Option.some.inj hrun).symm
  | cons event events ih =>
      obtain ⟨hresume, hsuspend, hwake⟩ := hno event List.mem_cons_self
      have hrest : ∀ event ∈ events, event ≠ .resume ∧ event ≠ .suspend ∧ ∀ r, event ≠ .wake r :=
        fun event hmem => hno event (List.mem_cons_of_mem _ hmem)
      rw [List.foldlM_cons] at hrun
      obtain ⟨e₁, hstep, hrun⟩ := Option.bind_eq_some_iff.mp hrun
      cases event with
      | resume => exact absurd rfl hresume
      | suspend => exact absurd rfl hsuspend
      | wake r => exact absurd rfl (hwake r)
      | writeRegisters registers' =>
          obtain rfl := Option.some.inj hstep
          exact ih hrest hrun
      | execute r | block =>
          -- a blocked thread does not run
          cases hstep

namespace Supervisor

/-- The thread of a task has stopped at a fault, which goes to an endpoint with a badge. -/
structure Stopped (w : Supervisor) (x : HeldTask) (t endpoint : Nat) (badge : Word) (registers : RegisterFile) :
    Prop where
  task : x ∈ w.tasks
  thread : x.task.HasPart w.root.state.kernel .tcb t
  handler : w.root.state.kernel.faultHandler x.task.thread.tcb = some (endpoint, badge)
  badge_ne : badge ≠ 0
  blocked : x.execution w = some ⟨.blocked, registers⟩

variable {h : Host} {w w' : Supervisor} {x y : HeldTask} {t t' endpoint endpoint' : Nat} {badge badge' : Word}
  {registers registers' : RegisterFile}

/-- Different threads are in different slots. -/
theorem Intact.tcb_ne (hx : x.task.HasPart w.root.state.kernel .tcb t)
    (hy : y.task.HasPart w.root.state.kernel .tcb t') (hne : t ≠ t') : x.task.thread.tcb ≠ y.task.thread.tcb := by
  intro heq
  have hslot : x.task.slot .tcb = y.task.slot .tcb := heq
  exact hne (Task.HasPart.object_eq hslot hx hy)

/-- A stopped thread stays stopped under an operation that does not resume, suspend or wake it. -/
theorem Stopped.step {op : SupervisorOp} (hst : w.Stopped x t endpoint badge registers) (hw : Reporting h w)
    (ha : w.Owned op) (hs : Supervisor.step h w op = some w')
    (hno : ∀ event ∈ op.eventsAt x.task.thread.tcb, event ≠ .resume ∧ event ≠ .suspend ∧ ∀ r, event ≠ .wake r) :
    w'.Stopped x t endpoint badge
      ((op.eventsAt x.task.thread.tcb).foldl Execution.written registers) := by
  have hc := hw.intact.change ha hs
  have hretains := hc.retains hw.intact
  obtain ⟨e, hevents, he⟩ := hw.intact.execution_step ha hs hst.task hst.blocked
  obtain rfl := Execution.blocked_run hno hevents
  constructor
  case task => exact hc.mem_tasks hst.task
  case thread => exact (Task.hasPart_retained hretains (hw.intact.alive x hst.task).slots_le).mpr hst.thread
  case handler => exact (hw.faultHandler_eq hst.task hretains).trans hst.handler
  case badge_ne => exact hst.badge_ne
  case blocked => exact he

/-- A badge that faults are sent with is not zero. -/
theorem Reporting.badge_ne (hw : Reporting h w) (hx : x ∈ w.tasks)
    (hhandler : w.root.state.kernel.faultHandler x.task.thread.tcb = some (endpoint, badge)) : badge ≠ 0 := by
  obtain ⟨cap, hreports⟩ := hw.reports x hx
  rw [hreports.faultHandler] at hhandler
  obtain ⟨cap, rfl, htarget⟩ := Option.bind_eq_some_iff.mp hhandler
  obtain ⟨route, object, -, -, hbadge, rfl⟩ := hreports.configured
  obtain ⟨-, rfl⟩ := Prod.mk.inj (Option.some.inj htarget)
  exact hbadge

end Supervisor

/-! ## What is known of faults -/

namespace FaultSystem

variable {h : Host} {s s' : FaultSystem}

/-- Every fault is at one place, and the root task has at most one of them. -/
structure Handled (h : Host) (s : FaultSystem) : Prop where
  reporting : Supervisor.Reporting h s.supervisor
  distinct : (s.waiting.map (·.thread)).Nodup
  waiting : ∀ m ∈ s.waiting, ∃ x registers, s.supervisor.Stopped x m.thread m.endpoint m.badge registers
  -- the caller slot has the thread whose fault is held, unless it was taken away from it
  caller : ∀ c, s.ipc.kernel.caller = some c → c.fault = true ∧ c.client ∉ s.waiting.map (·.thread) ∧
    (∃ held ∈ s.held, held.thread = c.client) ∧
    ∃ x endpoint badge registers, s.supervisor.Stopped x c.client endpoint badge registers
  single : s.held.length ≤ 1
  held : ∀ held ∈ s.held, s.ipc.pending held.received.received.endpoint = true ∧
    ∃ x ∈ s.tasks, ∃ endpoint, x.task.HasPart s.kernel .tcb held.thread ∧
      s.kernel.faultHandler x.task.thread.tcb = some (endpoint, held.received.source.raw)
  pending : ∀ e, s.ipc.pending e = true → ∃ held ∈ s.held, held.received.received.endpoint = e

/-! ## The moves -/

/-- What a step does. -/
inductive Moves (h : Host) (s : FaultSystem) : FaultOp → FaultSystem → Prop
  | supervises {op : SupervisorOp} {s₁ : FaultSystem} {w : Supervisor} (hobserved : s.observe op.event = some s₁)
      (hstep : Supervisor.step h s.supervisor op = some w) : Moves h s (.supervise op) { s₁ with supervisor := w }
  | sends {x : HeldTask} {task : Task} {fault : Fault} {t endpoint : Nat} {badge : Word}
      {registers : RegisterFile} {w : Supervisor} (htask : x.task = task) (hx : x ∈ s.tasks)
      (ht : x.task.HasPart s.kernel .tcb t) (he : x.execution s.supervisor = some ⟨.running, registers⟩)
      (hat : fault.instructionPointer.toNat = registers.pc)
      (hhandler : s.kernel.faultHandler x.task.thread.tcb = some (endpoint, badge))
      (hstep : Supervisor.step h s.supervisor (.runs x.task .block) = some w) :
      Moves h s (.fault task fault) { s with
        supervisor := w, waiting := s.waiting ++ [⟨endpoint, badge, t, fault⟩] }
  | stops {x : HeldTask} {task : Task} {fault : Fault} {registers : RegisterFile} {w : Supervisor}
      (htask : x.task = task) (hx : x ∈ s.tasks)
      (he : x.execution s.supervisor = some ⟨.running, registers⟩)
      (hat : fault.instructionPointer.toNat = registers.pc)
      (hhandler : s.kernel.faultHandler x.task.thread.tcb = none)
      (hstep : Supervisor.step h s.supervisor (.suspend x.task none) = some w) :
      Moves h s (.fault task fault) { s with supervisor := w }
  | receives {endpoint : Nat} {cap : Cap} {m : FaultMessage} {received : ReceivedMessage}
      (hcap : s.kernel.root endpoint = some cap) (hm : m ∈ s.waiting) (hendpoint : m.endpoint = cap.object)
      (hbadge : m.badge ≠ 0) (hreceived : received.endpoint = endpoint) (hheld : s.held = []) :
      Moves h s (.receive endpoint m.thread) { s with
        ipc := s.ipc.settled endpoint none (.message m.delivery)
        waiting := s.waiting.erase m
        held := [⟨⟨⟨m.badge, hbadge⟩, m.fault, received⟩, m.thread⟩] }
  | answers {held : HeldFault} {x : HeldTask} {registers : RegisterFile} {buffer : IpcBuffer} {w : Supervisor}
      (hheld : s.held = [held]) (hcaller : s.ipc.kernel.caller = some ⟨held.thread, true⟩) (hx : x ∈ s.tasks)
      (ht : x.task.HasPart s.kernel .tcb held.thread)
      (he : x.execution s.supervisor = some ⟨.blocked, registers⟩)
      (hstep : Supervisor.step h s.supervisor (.runs x.task (.wake registers)) = some w) :
      Moves h s (.reply held) { s with
        supervisor := w
        ipc := s.ipc.answered held.received.received.endpoint buffer (MessageInfo.build 0 0 0 0)
        held := [] }
  | expires {held : HeldFault} {buffer : IpcBuffer} (hheld : s.held = [held])
      (hcaller : s.ipc.kernel.caller = none) :
      Moves h s (.reply held) { s with
        ipc := s.ipc.answered held.received.received.endpoint buffer (MessageInfo.build 0 0 0 0)
        held := [] }

/-- Where nobody is restarted, the threads stay as they are. -/
theorem withIpc_of_restarted {ipc : IpcState} (hsame : ipc.kernel.restarted = s.ipc.kernel.restarted) :
    s.withIpc ipc = { s with ipc } := by
  unfold withIpc
  rw [hsame, Nat.sub_self, List.take_zero]
  rfl

theorem withIpc_of_cons {ipc : IpcState} {c : Caller}
    (hone : ipc.kernel.restarted = c :: s.ipc.kernel.restarted) :
    s.withIpc ipc = { s with
      ipc, supervisor := s.supervisor.withLive (s.supervisor.live.wake c.client) } := by
  have hlength : (c :: s.ipc.kernel.restarted).length - s.ipc.kernel.restarted.length = 1 := by
    rw [List.length_cons]
    omega
  unfold withIpc
  rw [hone, hlength]
  rfl

/-- What the empty reply restarts. -/
theorem restarted_answered (ipc : IpcState) (e : Nat) (buffer : IpcBuffer) :
    (ipc.answered e buffer (MessageInfo.build 0 0 0 0)).kernel.restarted =
      faulting ipc.kernel.caller ++ ipc.kernel.restarted :=
  Kernel.restarted_reply { ipc.kernel with buffer }

/-- A thread that can be blocked is running. -/
theorem running_of_block {e e' : Execution} (he : e.step .block = some e') : e.state = .running := by
  by_contra hne
  rw [Execution.step, if_neg hne] at he
  cases he

theorem eq_singleton_of_mem {α : Type} {a : α} {l : List α} (hmem : a ∈ l) (hle : l.length ≤ 1) : l = [a] := by
  cases l with
  | nil => cases hmem
  | cons b rest =>
      cases rest with
      | nil =>
          obtain rfl := List.mem_singleton.mp hmem
          rfl
      | cons c rest =>
          simp only [List.length_cons] at hle
          omega

theorem Handled.moves_fault {x : HeldTask} {fault : Fault} (hs : Handled h s) (hx : x ∈ s.tasks)
    (hstep : s.raise x.task fault = some s') : Moves h s (.fault x.task fault) s' := by
  have hw := hs.reporting.intact
  obtain ⟨t, context, registers, ht, htcb⟩ := (hw.alive x hx).tcb
  obtain ⟨-, -, cap, hcap, rfl, -⟩ := id ht
  have hat : s.kernel.tcbAt x.task.thread.tcb = .ok (cap.object, ⟨some context, some registers⟩) :=
    ObjectStore.tcbAt_eq_ok.mpr ⟨cap, hcap, rfl, htcb⟩
  unfold raise at hstep
  rw [hat] at hstep
  cases hk : s.supervisor.live.advanceAt x.task.thread.tcb .block with
  | error e =>
      rw [hk] at hstep
      cases hstep
  | ok blocked =>
      obtain ⟨t', tcb, e, ht', htcb', hblock, -⟩ := hw.advanced hx hk
      obtain rfl := Task.HasPart.object_eq rfl ht ht'
      obtain rfl := Object.tcb.inj (htcb.symm.trans htcb')
      have hstate : s.supervisor.threads cap.object = .running := running_of_block hblock
      have he : x.execution s.supervisor = some ⟨.running, TcbObject.file ⟨some context, some registers⟩⟩ := by
        rw [x.execution_of_hasPart ht, ← hstate]
        exact Live.execution_of_tcb htcb
      rw [hk] at hstep
      dsimp only at hstep
      by_cases hpc : fault.instructionPointer.toNat = (TcbObject.file ⟨some context, some registers⟩).pc
      · rw [if_pos hpc] at hstep
        cases hhandler : s.kernel.faultHandler x.task.thread.tcb with
        | some target =>
            obtain ⟨endpoint, badge⟩ := target
            rw [hhandler] at hstep
            obtain rfl := Option.some.inj hstep
            exact .sends rfl hx ht he hpc hhandler (Supervisor.step_runs trivial hk)
        | none =>
            rw [hhandler] at hstep
            dsimp only at hstep
            cases hstop : s.supervisor.live.advanceAt x.task.thread.tcb .suspend with
            | ok stopped =>
                rw [hstop] at hstep
                obtain rfl := Option.some.inj hstep
                exact .stops rfl hx he hpc hhandler (Supervisor.step_suspend hstop)
            | error e =>
                rw [hstop] at hstep
                cases hstep
      · rw [if_neg hpc] at hstep
        cases hstep

theorem Handled.moves_receive {endpoint thread : Nat} (hs : Handled h s) (hheld : s.held = [])
    (hstep : s.step h (.receive endpoint thread) = some s') : Moves h s (.receive endpoint thread) s' := by
  obtain ⟨cap, hcap, hstep⟩ := Option.bind_eq_some_iff.mp hstep
  obtain ⟨m, hfind, hstep⟩ := Option.bind_eq_some_iff.mp hstep
  have hm := List.mem_of_find?_eq_some hfind
  have hfound := List.find?_some hfind
  obtain ⟨hendpoint, rfl⟩ := of_decide_eq_true hfound
  obtain ⟨x, registers, hstopped⟩ := hs.waiting m hm
  -- nothing is held, so no endpoint owes a reply
  have hready : s.ipc.pending endpoint = false := by
    by_contra hpending
    obtain ⟨held, hmem, -⟩ := hs.pending endpoint (Bool.eq_true_of_not_eq_false hpending)
    rw [hheld] at hmem
    cases hmem
  obtain ⟨received, hreceived, hrun⟩ := FaultEndpoint.receive_delivery hready m hstopped.badge_ne
  rw [hrun] at hstep
  dsimp only at hstep
  rw [withIpc_of_restarted (restarted_settled s.ipc endpoint none m.delivery), hheld] at hstep
  obtain rfl := Option.some.inj hstep
  exact .receives hcap hm hendpoint hstopped.badge_ne hreceived hheld

theorem Handled.moves_reply {held : HeldFault} (hs : Handled h s)
    (hstep : s.step h (.reply held) = some s') : Moves h s (.reply held) s' := by
  dsimp only [step] at hstep
  by_cases hmem : held ∈ s.held
  · rw [if_pos hmem] at hstep
    have hheld := eq_singleton_of_mem hmem hs.single
    obtain ⟨buffer, hrun⟩ := ReceivedMessage.reply_empty (ε := FaultReceiveError) held.received.received s.ipc
    have hreply : FaultEndpoint.reply held.received s.ipc = _ := hrun
    have hrestarted := restarted_answered s.ipc held.received.received.endpoint buffer
    rw [hreply] at hstep
    dsimp only at hstep
    have herase : s.held.erase held = [] := by
      rw [hheld]
      simp
    rw [herase] at hstep
    cases hcaller : s.ipc.kernel.caller with
    | none =>
        rw [hcaller] at hrestarted
        rw [withIpc_of_restarted hrestarted] at hstep
        obtain rfl := Option.some.inj hstep
        exact .expires hheld hcaller
    | some c =>
        obtain ⟨hfault, -, ⟨held', hmem', hthread⟩, x, endpoint, badge, registers, hstopped⟩ := hs.caller c hcaller
        rw [hheld] at hmem'
        obtain rfl := List.mem_singleton.mp hmem'
        obtain ⟨client, isFault⟩ := c
        obtain rfl : isFault = true := hfault
        obtain rfl : held'.thread = client := hthread
        rw [hcaller] at hrestarted
        rw [withIpc_of_cons hrestarted] at hstep
        obtain rfl := Option.some.inj hstep
        exact .answers hheld hcaller hstopped.task hstopped.thread hstopped.blocked
          (Supervisor.step_wake hstopped.thread hstopped.blocked)
  · rw [if_neg hmem] at hstep
    cases hstep

/-- **Every orderly step is one of the moves.** -/
theorem Handled.moves {op : FaultOp} (hs : Handled h s) (ha : s.Orderly op) (hstep : s.step h op = some s') :
    Moves h s op s' := by
  cases op with
  | supervise op =>
      obtain ⟨observed, hobserved, hstep⟩ := Option.bind_eq_some_iff.mp hstep
      obtain ⟨w, hw, hstep⟩ := Option.bind_eq_some_iff.mp hstep
      obtain rfl := Option.some.inj hstep
      exact .supervises hobserved hw
  | fault task fault =>
      obtain ⟨x, hx, rfl⟩ := List.mem_map.mp ha
      exact hs.moves_fault hx hstep
  | receive endpoint thread => exact hs.moves_receive ha.2 hstep
  | reply held => exact hs.moves_reply hstep

/-! ## What every move keeps -/

/-- An event leaves the faults alone, or it resumes or suspends a thread, whose fault is forgotten. -/
theorem observe_cases {event : Option (Nat × ThreadEvent)} {s₁ : FaultSystem} (hs : s.observe event = some s₁) :
    (s₁ = s ∧ ∀ slot cap e, event = some (slot, e) → s.kernel.root slot = some cap →
      e ≠ .resume ∧ e ≠ .suspend ∧ ∀ r, e = .wake r → ¬ s.Faulted cap.object) ∨
    (∃ slot cap e, event = some (slot, e) ∧ (e = .resume ∨ e = .suspend) ∧ s.kernel.root slot = some cap ∧
      s₁ = s.cancel cap.object) := by
  unfold observe at hs
  cases event with
  | none => exact Or.inl ⟨(Option.some.inj hs).symm, by nofun⟩
  | some p =>
      obtain ⟨slot, e⟩ := p
      dsimp only at hs
      cases hcap : s.kernel.root slot with
      | none =>
          rw [hcap] at hs
          refine Or.inl ⟨(Option.some.inj hs).symm, ?_⟩
          rintro slot' cap' e' ⟨⟩ hcap'
          cases hcap.symm.trans hcap'
      | some cap =>
          rw [hcap] at hs
          dsimp only at hs
          cases e with
          | resume => exact Or.inr ⟨slot, cap, _, rfl, Or.inl rfl, hcap, (Option.some.inj hs).symm⟩
          | suspend => exact Or.inr ⟨slot, cap, _, rfl, Or.inr rfl, hcap, (Option.some.inj hs).symm⟩
          | wake r =>
              dsimp only at hs
              by_cases hfaulted : s.Faulted cap.object
              · rw [if_pos hfaulted] at hs
                cases hs
              · rw [if_neg hfaulted] at hs
                refine Or.inl ⟨(Option.some.inj hs).symm, ?_⟩
                rintro slot' cap' e' ⟨⟩ hcap'
                obtain rfl := Option.some.inj (hcap.symm.trans hcap')
                exact ⟨nofun, nofun, fun _ _ => hfaulted⟩
          | writeRegisters r | execute r | block =>
              refine Or.inl ⟨(Option.some.inj hs).symm, ?_⟩
              rintro slot' cap' e' ⟨⟩ hcap'
              exact ⟨nofun, nofun, nofun⟩

/-- Forgetting a fault leaves those of other threads. -/
theorem faulted_cancel {thread t : Nat} (hf : (s.cancel thread).Faulted t) : s.Faulted t ∧ t ≠ thread := by
  rcases hf with hwaiting | hcaller
  · obtain ⟨m, hm, rfl⟩ := List.mem_map.mp hwaiting
    obtain ⟨hmem, hne⟩ := List.mem_filter.mp hm
    exact ⟨Or.inl (List.mem_map_of_mem hmem), of_decide_eq_true hne⟩
  · obtain ⟨hcaller, hne⟩ := Option.filter_eq_some_iff.mp hcaller
    exact ⟨Or.inr hcaller, of_decide_eq_true hne⟩

/-- An event that leaves a fault where it is neither resumes, suspends nor wakes its thread. -/
theorem quiet_of_observe {op : SupervisorOp} {s₁ : FaultSystem} {x : HeldTask} {t : Nat}
    (hs : s.observe op.event = some s₁) (ht : x.task.HasPart s.kernel .tcb t) (hf : s₁.Faulted t) :
    s.Faulted t ∧ ∀ e ∈ op.eventsAt x.task.thread.tcb, e ≠ .resume ∧ e ≠ .suspend ∧ ∀ r, e ≠ .wake r := by
  obtain ⟨-, -, cap, hcap, rfl, -⟩ := ht
  have hevent : ∀ e ∈ op.eventsAt x.task.thread.tcb, op.event = some (x.task.thread.tcb, e) := by
    intro e hmem
    unfold SupervisorOp.eventsAt at hmem
    cases hop : op.event with
    | none =>
        rw [hop] at hmem
        cases hmem
    | some p =>
        obtain ⟨slot, e'⟩ := p
        rw [hop] at hmem
        dsimp only at hmem
        by_cases hslot : slot = x.task.thread.tcb
        · rw [if_pos hslot] at hmem
          rw [List.mem_singleton.mp hmem, hslot]
        · rw [if_neg hslot] at hmem
          cases hmem
  rcases observe_cases hs with ⟨rfl, hquiet⟩ | ⟨slot, cap', e', hop, -, hcap', rfl⟩
  · refine ⟨hf, fun e hmem => ?_⟩
    obtain ⟨hresume, hsuspend, hwake⟩ := hquiet _ cap e (hevent e hmem) hcap
    exact ⟨hresume, hsuspend, fun r heq => hwake r heq hf⟩
  · obtain ⟨hfaulted, hne⟩ := faulted_cancel hf
    refine ⟨hfaulted, fun e hmem => ?_⟩
    -- the event would be at this thread, whose fault is then forgotten
    obtain ⟨hslot, -⟩ := Prod.mk.inj (Option.some.inj (hop.symm.trans (hevent e hmem)))
    rw [hslot] at hcap'
    exact absurd (congrArg Cap.object (Option.some.inj (hcap.symm.trans hcap'))) hne

theorem observe_fields {event : Option (Nat × ThreadEvent)} {s₁ : FaultSystem} (hs : s.observe event = some s₁) :
    s₁.waiting.Sublist s.waiting ∧ s₁.held = s.held ∧ s₁.ipc.pending = s.ipc.pending ∧
    ∀ c, s₁.ipc.kernel.caller = some c → s.ipc.kernel.caller = some c := by
  rcases observe_cases hs with ⟨rfl, -⟩ | ⟨slot, cap, e, -, -, -, rfl⟩
  · exact ⟨List.Sublist.refl _, rfl, rfl, fun _ hc => hc⟩
  · exact ⟨List.filter_sublist, rfl, rfl, fun _ hc => (Option.filter_eq_some_iff.mp hc).1⟩

/-- Nothing happens at a TCB in another slot. -/
theorem eventsAt_of_ne {op : SupervisorOp} {slot slot' : Nat} {event : ThreadEvent}
    (hop : op.event = some (slot, event)) (hne : slot ≠ slot') : op.eventsAt slot' = [] := by
  simp [SupervisorOp.eventsAt, hop, hne]

/-- What the root task holds, when the supervisor goes on. -/
theorem Handled.held_supervise {w : Supervisor} {op : SupervisorOp} (hs : Handled h s)
    (ha : s.supervisor.Owned op) (hstep : Supervisor.step h s.supervisor op = some w) {held : HeldFault}
    (hmem : held ∈ s.held) :
    ∃ x ∈ w.tasks, ∃ endpoint, x.task.HasPart w.root.state.kernel .tcb held.thread ∧
      w.root.state.kernel.faultHandler x.task.thread.tcb = some (endpoint, held.received.source.raw) := by
  have hw := hs.reporting
  have hc := hw.intact.change ha hstep
  have hretains := hc.retains hw.intact
  obtain ⟨-, x, hx, endpoint, ht, hhandler⟩ := hs.held held hmem
  refine ⟨x, hc.mem_tasks hx, endpoint, ?_, (hw.faultHandler_eq hx hretains).trans hhandler⟩
  exact (Task.hasPart_retained hretains (hw.intact.alive x hx).slots_le).mpr ht

/-- Threads that have stopped and threads that run are different ones. -/
theorem Handled.ne_of_running {x y : HeldTask} {t t' endpoint : Nat} {badge : Word}
    {registers registers' : RegisterFile}
    (hs : Handled h s) (hst : s.supervisor.Stopped y t' endpoint badge registers') (hx : x ∈ s.tasks)
    (ht : x.task.HasPart s.kernel .tcb t) (he : x.execution s.supervisor = some ⟨.running, registers⟩) : t' ≠ t := by
  rintro rfl
  obtain rfl := hs.reporting.intact.eq_of_tcb hst.task hx hst.thread ht
  cases hst.blocked.symm.trans he

theorem Handled.supervises {op : SupervisorOp} {s₁ : FaultSystem} {w : Supervisor} (hs : Handled h s)
    (ha : s.supervisor.Owned op) (hroute : ∀ route ∈ op.faultRoute, s.supervisor.Routable route)
    (hobserved : s.observe op.event = some s₁) (hstep : Supervisor.step h s.supervisor op = some w) :
    Handled h { s₁ with supervisor := w } := by
  obtain ⟨hsub, hheld, hpending, hcaller⟩ := observe_fields hobserved
  -- a fault that was not forgotten has its thread stopped still
  have hstays : ∀ {x t endpoint badge registers}, s.supervisor.Stopped x t endpoint badge registers →
      s₁.Faulted t → ∃ registers, w.Stopped x t endpoint badge registers := by
    intro x t endpoint badge registers hst hf
    exact ⟨_, hst.step hs.reporting ha hstep (quiet_of_observe hobserved hst.thread hf).2⟩
  constructor
  case reporting => exact hs.reporting.step ha hroute hstep
  case distinct => exact hs.distinct.sublist (hsub.map _)
  case waiting =>
    intro m hm
    obtain ⟨x, registers, hst⟩ := hs.waiting m (hsub.subset hm)
    exact ⟨x, hstays hst (Or.inl (List.mem_map_of_mem hm))⟩
  case caller =>
    intro c hc
    obtain ⟨hfault, hnot, hmem, x, endpoint, badge, registers, hst⟩ := hs.caller c (hcaller c hc)
    refine ⟨hfault, fun hin => hnot ((hsub.map _).subset hin), hheld ▸ hmem, x, endpoint, badge, hstays hst ?_⟩
    obtain ⟨client, isFault⟩ := c
    obtain rfl : isFault = true := hfault
    exact Or.inr hc
  case single => exact hheld ▸ hs.single
  case held =>
    intro held hmem
    have hmem' : held ∈ s.held := hheld ▸ hmem
    exact ⟨hpending ▸ (hs.held held hmem').1, hs.held_supervise ha hstep hmem'⟩
  case pending =>
    intro e he
    have he' : s.ipc.pending e = true := hpending ▸ he
    obtain ⟨held, hmem, hendpoint⟩ := hs.pending e he'
    exact ⟨held, hheld ▸ hmem, hendpoint⟩

/-- A thread that has stopped stays so while another one goes on. -/
theorem Handled.others {x y : HeldTask} {op : SupervisorOp} {event : ThreadEvent} {w : Supervisor}
    {t t' endpoint : Nat} {badge : Word} {registers : RegisterFile} (hs : Handled h s)
    (ha : s.supervisor.Owned op) (hop : op.event = some (x.task.thread.tcb, event))
    (hstep : Supervisor.step h s.supervisor op = some w) (ht : x.task.HasPart s.kernel .tcb t)
    (hst : s.supervisor.Stopped y t' endpoint badge registers) (hne : t' ≠ t) :
    w.Stopped y t' endpoint badge registers := by
  have hnone : op.eventsAt y.task.thread.tcb = [] := by
    apply eventsAt_of_ne hop
    exact Supervisor.Intact.tcb_ne ht hst.thread hne.symm
  have hno : ∀ e ∈ op.eventsAt y.task.thread.tcb, e ≠ .resume ∧ e ≠ .suspend ∧ ∀ r, e ≠ .wake r := by
    simp [hnone]
  have hafter := hst.step hs.reporting ha hstep hno
  rw [hnone] at hafter
  exact hafter

/-- A running thread that is blocked has stopped. -/
theorem Handled.stopped_of_block {x : HeldTask} {w : Supervisor} {t endpoint : Nat} {badge : Word}
    {registers : RegisterFile} (hs : Handled h s) (hx : x ∈ s.tasks) (ht : x.task.HasPart s.kernel .tcb t)
    (he : x.execution s.supervisor = some ⟨.running, registers⟩)
    (hhandler : s.kernel.faultHandler x.task.thread.tcb = some (endpoint, badge))
    (hstep : Supervisor.step h s.supervisor (.runs x.task .block) = some w) :
    w.Stopped x t endpoint badge registers := by
  have hw := hs.reporting
  have ha : s.supervisor.Owned (.runs x.task .block) := List.mem_map_of_mem hx
  have hc := hw.intact.change ha hstep
  have hretains := hc.retains hw.intact
  obtain ⟨e, hevents, he'⟩ := hw.intact.execution_step ha hstep hx he
  have hat : SupervisorOp.eventsAt x.task.thread.tcb (.runs x.task .block) = [.block] := by
    simp [SupervisorOp.eventsAt, SupervisorOp.event]
  rw [hat] at hevents
  obtain rfl := Option.some.inj hevents
  constructor
  case task => exact hc.mem_tasks hx
  case thread => exact (Task.hasPart_retained hretains (hw.intact.alive x hx).slots_le).mpr ht
  case handler => exact (hw.faultHandler_eq hx hretains).trans hhandler
  case badge_ne => exact hw.badge_ne hx hhandler
  case blocked => exact he'

/-- What becomes of a fault that waits for an answer, when a thread that has not stopped goes on. -/
theorem Handled.caller_others {x : HeldTask} {op : SupervisorOp} {event : ThreadEvent} {w : Supervisor}
    {t : Nat} {registers : RegisterFile} (hs : Handled h s) (hx : x ∈ s.tasks)
    (ht : x.task.HasPart s.kernel .tcb t) (he : x.execution s.supervisor = some ⟨.running, registers⟩)
    (ha : s.supervisor.Owned op) (hop : op.event = some (x.task.thread.tcb, event))
    (hstep : Supervisor.step h s.supervisor op = some w) {c : Caller} (hc : s.ipc.kernel.caller = some c) :
    c.fault = true ∧ c.client ∉ s.waiting.map (·.thread) ∧ c.client ≠ t ∧
      (∃ held ∈ s.held, held.thread = c.client) ∧
      ∃ x endpoint badge registers, w.Stopped x c.client endpoint badge registers := by
  obtain ⟨hfault, hnot, hheld, y, endpoint, badge, registers', hst⟩ := hs.caller c hc
  have hne := hs.ne_of_running hst hx ht he
  exact ⟨hfault, hnot, hne, hheld, y, endpoint, badge, registers', hs.others ha hop hstep ht hst hne⟩

theorem Handled.sends {x : HeldTask} {fault : Fault} {t endpoint : Nat} {badge : Word} {registers : RegisterFile}
    {w : Supervisor} (hs : Handled h s) (hx : x ∈ s.tasks) (ht : x.task.HasPart s.kernel .tcb t)
    (he : x.execution s.supervisor = some ⟨.running, registers⟩)
    (hhandler : s.kernel.faultHandler x.task.thread.tcb = some (endpoint, badge))
    (hstep : Supervisor.step h s.supervisor (.runs x.task .block) = some w) :
    Handled h { s with supervisor := w, waiting := s.waiting ++ [⟨endpoint, badge, t, fault⟩] } := by
  have ha : s.supervisor.Owned (.runs x.task .block) := List.mem_map_of_mem hx
  have hne : t ∉ s.waiting.map (·.thread) := by
    intro hmem
    obtain ⟨m, hm, hthread⟩ := List.mem_map.mp hmem
    obtain ⟨y, registers', hst⟩ := hs.waiting m hm
    exact hs.ne_of_running hst hx ht he hthread
  constructor
  case reporting => exact hs.reporting.step ha (by simp [SupervisorOp.faultRoute]) hstep
  case distinct =>
    rw [List.map_append, List.nodup_append]
    refine ⟨hs.distinct, by simp, fun a hmem b hlast heq => hne ?_⟩
    obtain rfl := List.mem_singleton.mp hlast
    exact heq ▸ hmem
  case waiting =>
    intro m hm
    rcases List.mem_append.mp hm with hold | hlast
    · obtain ⟨y, registers', hst⟩ := hs.waiting m hold
      exact ⟨y, registers', hs.others ha rfl hstep ht hst (hs.ne_of_running hst hx ht he)⟩
    · obtain rfl := List.mem_singleton.mp hlast
      exact ⟨x, registers, hs.stopped_of_block hx ht he hhandler hstep⟩
  case caller =>
    intro c hc
    obtain ⟨hfault, hnot, hother, hheld, hst⟩ := hs.caller_others hx ht he ha rfl hstep hc
    refine ⟨hfault, ?_, hheld, hst⟩
    rw [List.map_append]
    exact fun hmem => (List.mem_append.mp hmem).elim hnot fun hlast => hother (List.mem_singleton.mp hlast)
  case single => exact hs.single
  case held => exact fun held hmem => ⟨(hs.held held hmem).1, hs.held_supervise ha hstep hmem⟩
  case pending => exact hs.pending

theorem Handled.stops {x : HeldTask} {t : Nat} {registers : RegisterFile} {w : Supervisor} (hs : Handled h s)
    (hx : x ∈ s.tasks) (ht : x.task.HasPart s.kernel .tcb t)
    (he : x.execution s.supervisor = some ⟨.running, registers⟩)
    (hstep : Supervisor.step h s.supervisor (.suspend x.task none) = some w) :
    Handled h { s with supervisor := w } := by
  have ha : s.supervisor.Owned (.suspend x.task none) := List.mem_map_of_mem hx
  constructor
  case reporting => exact hs.reporting.step ha (by simp [SupervisorOp.faultRoute]) hstep
  case distinct => exact hs.distinct
  case waiting =>
    intro m hm
    obtain ⟨y, registers', hst⟩ := hs.waiting m hm
    exact ⟨y, registers', hs.others ha rfl hstep ht hst (hs.ne_of_running hst hx ht he)⟩
  case caller =>
    intro c hc
    obtain ⟨hfault, hnot, -, hrest⟩ := hs.caller_others hx ht he ha rfl hstep hc
    exact ⟨hfault, hnot, hrest⟩
  case single => exact hs.single
  case held => exact fun held hmem => ⟨(hs.held held hmem).1, hs.held_supervise ha hstep hmem⟩
  case pending => exact hs.pending

theorem Handled.receives {endpoint : Nat} {m : FaultMessage} {received : ReceivedMessage} (hs : Handled h s)
    (hm : m ∈ s.waiting) (hbadge : m.badge ≠ 0) (hreceived : received.endpoint = endpoint) (hheld : s.held = []) :
    Handled h { s with
      ipc := s.ipc.settled endpoint none (.message m.delivery)
      waiting := s.waiting.erase m
      held := [⟨⟨⟨m.badge, hbadge⟩, m.fault, received⟩, m.thread⟩] } := by
  obtain ⟨x, registers, hst⟩ := hs.waiting m hm
  have hnotin : m.thread ∉ (s.waiting.erase m).map (·.thread) := by
    have hperm := (List.perm_cons_erase hm).map (·.thread)
    have hnodup := hperm.nodup_iff.mp hs.distinct
    exact (List.nodup_cons.mp hnodup).1
  have hpending : ∀ e, (s.ipc.settled endpoint none (.message m.delivery)).pending e = true → endpoint = e := by
    intro e he
    rw [World.pending_settled] at he
    by_contra hne
    rw [Function.update_of_ne (Ne.symm hne)] at he
    obtain ⟨held, hmem, -⟩ := hs.pending e he
    rw [hheld] at hmem
    cases hmem
  constructor
  case reporting => exact hs.reporting
  case distinct => exact hs.distinct.sublist (List.erase_sublist.map _)
  case waiting => exact fun m' hm' => hs.waiting m' (List.mem_of_mem_erase hm')
  case caller =>
    rintro c hc
    obtain rfl := Option.some.inj hc
    exact ⟨rfl, hnotin, ⟨_, List.mem_singleton_self _, rfl⟩, x, m.endpoint, m.badge, registers, hst⟩
  case single => exact Nat.le_refl 1
  case held =>
    intro held hmem
    obtain rfl := List.mem_singleton.mp hmem
    refine ⟨?_, x, hst.task, m.endpoint, hst.thread, hst.handler⟩
    show (s.ipc.settled endpoint none (.message m.delivery)).pending received.endpoint = true
    rw [World.pending_settled, hreceived, Function.update_self]
  case pending => exact fun e he => ⟨_, List.mem_singleton_self _, hreceived.trans (hpending e he)⟩

/-- After the reply no endpoint owes one. -/
theorem Handled.pending_answered {held : HeldFault} (hs : Handled h s) (hheld : s.held = [held])
    (buffer : IpcBuffer) (info : MessageInfo) (e : Nat) :
    (s.ipc.answered held.received.received.endpoint buffer info).pending e = false := by
  show Function.update s.ipc.pending held.received.received.endpoint false e = false
  by_cases he : e = held.received.received.endpoint
  · rw [he, Function.update_self]
  · rw [Function.update_of_ne he]
    by_contra hpending
    obtain ⟨held', hmem, hendpoint⟩ := hs.pending e (Bool.eq_true_of_not_eq_false hpending)
    rw [hheld] at hmem
    obtain rfl := List.mem_singleton.mp hmem
    exact he hendpoint.symm

/-- Nothing is held, and only the waiting faults are left. -/
theorem Handled.of_answered {held : HeldFault} {w : Supervisor} {buffer : IpcBuffer} (hs : Handled h s)
    (hheld : s.held = [held]) (hw : Supervisor.Reporting h w)
    (hwaiting : ∀ m ∈ s.waiting, ∃ x registers, w.Stopped x m.thread m.endpoint m.badge registers) :
    Handled h { s with
      supervisor := w
      ipc := s.ipc.answered held.received.received.endpoint buffer (MessageInfo.build 0 0 0 0)
      held := [] } := by
  have hpending := hs.pending_answered hheld buffer (MessageInfo.build 0 0 0 0)
  have hcaller : (s.ipc.answered held.received.received.endpoint buffer (MessageInfo.build 0 0 0 0)).kernel.caller =
      none := Kernel.caller_reply { s.ipc.kernel with buffer } _
  constructor
  case reporting => exact hw
  case distinct => exact hs.distinct
  case waiting => exact hwaiting
  case caller => exact fun c hc => nomatch hcaller.symm.trans hc
  case single => exact Nat.zero_le 1
  case held => exact fun held hmem => nomatch hmem
  case pending => exact fun e he => nomatch (hpending e).symm.trans he

/-- **What is known of faults is kept by every orderly step.** -/
theorem Handled.step {op : FaultOp} (hs : Handled h s) (ha : s.Orderly op) (hstep : s.step h op = some s') :
    Handled h s' := by
  cases hs.moves ha hstep with
  | supervises hobserved hw => exact hs.supervises ha.1 ha.2 hobserved hw
  | sends htask hx ht he hat hhandler hw => exact hs.sends hx ht he hhandler hw
  | stops htask hx he hat hhandler hw =>
      obtain ⟨t, context, registers, ht, htcb⟩ := (hs.reporting.intact.alive _ hx).tcb
      exact hs.stops hx ht he hw
  | receives hcap hm hendpoint hbadge hreceived hheld => exact hs.receives hm hbadge hreceived hheld
  | @answers held x registers buffer w hheld hcaller hx ht he hw =>
      have hown : s.supervisor.Owned (.runs x.task (.wake registers)) := List.mem_map_of_mem hx
      refine hs.of_answered hheld (hs.reporting.step hown (by simp [SupervisorOp.faultRoute]) hw) ?_
      intro m hm
      obtain ⟨y, registers', hst⟩ := hs.waiting m hm
      refine ⟨y, registers', hs.others hown rfl hw ht hst ?_⟩
      -- the thread that waits for the answer does not wait to be received
      intro heq
      exact (hs.caller _ hcaller).2.1 (heq ▸ List.mem_map_of_mem hm)
  | expires hheld hcaller => exact hs.of_answered hheld hs.reporting hs.waiting

theorem handled_initial (hs : s.Initial h) : Handled h s := by
  have hhandles : s.supervisor.root.handles = [] := hs.supervisor.root.handles
  have htasks : s.supervisor.tasks = [] := by
    show List.filterMap Handle.held s.supervisor.root.handles = []
    rw [hhandles]
    rfl
  constructor
  case reporting =>
    refine ⟨Supervisor.Initial.intact hs.supervisor, fun i hi => ?_, by simp [htasks], by simp [htasks]⟩
    rw [Supervisor.mem_endpoints, hhandles] at hi
    cases hi
  case distinct =>
    rw [hs.waiting]
    exact List.nodup_nil
  case waiting => simp [hs.waiting]
  case caller => simp [hs.caller]
  case single => simp [hs.held]
  case held => simp [hs.held]
  case pending => simp [hs.pending]

theorem handled_reachable (hr : Reachable (step h) (Initial h) Orderly s) : Handled h s :=
  hr.invariant (fun _ hs => handled_initial hs) fun _ _ _ hs ha hstep => hs.step ha hstep

end FaultSystem
end Ricoq
