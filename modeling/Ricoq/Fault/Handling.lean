import Ricoq.Boot.Supervisor
import Ricoq.Fault.Correctness.Resume

/-!
# `Fault.Handling` — threads that fault, and the root task that answers

The two halves of the root task together: it supervises its tasks, and it receives their faults and answers
them. A thread that faults stops. The kernel looks up the fault endpoint in the CSpace of the thread and sends
it a message with the badge of the capability found there; without one the thread is suspended for good.

* The faults are those of the supported classes, which say where the thread stands. What becomes of others
  is in `Fault.Correctness.Resume`.
* A task does not use the capability for its faults itself, to send something of its own.
* Which of the waiting threads a receive gets is up to the environment.
* A thread that is resumed or suspended by the root task no longer waits for an answer, and an answer that
  comes too late reaches nobody.
-/

namespace Ricoq

open Sel4 Bootstrap

/-- Where the thread stands. -/
def Fault.instructionPointer : Fault → Word
  | .capabilityFault f => f.instructionPointer
  | .unknownSyscall f  => f.instructionPointer
  | .vmFault f         => f.instructionPointer

/-! ## The kernel's part -/

namespace Sel4

/-- The endpoint object and the badge a fault is sent with through a capability. The thread must be allowed to
    send, and to grant the authority to reply. -/
def Cap.faultTarget (cap : Cap) : Option (Nat × Word) :=
  if cap.blueprint = .endpoint ∧ cap.rights.write ∧ (cap.rights.grant ∨ cap.rights.grantReply) then
    some (cap.object, cap.badge)
  else
    none

/-- The capability in a slot of a CNode. -/
def ObjectStore.capIn (k : ObjectStore) (object slot : Nat) : Option Cap :=
  match k.objects object with
  | .cnode cnode => cnode.slots slot
  | _            => none

/-- Where the faults of the thread behind a root slot go. -/
def ObjectStore.faultHandler (k : ObjectStore) (tcb : Nat) : Option (Nat × Word) :=
  match k.tcbAt tcb with
  | .ok (_, ⟨some context, _⟩) =>
    match k.lookupSlot tcb context.faultEndpoint with
    | .ok (object, slot) => (k.capIn object slot).bind Cap.faultTarget
    | .error _           => none
  | _ => none

/-- A blocked thread runs on, with its registers as they are. -/
def Live.wake (k : Live) (object : Nat) : Live :=
  match k.execution object with
  | some e => (k.advance object (.wake e.registers)).getD k
  | none   => k

/-- The authority to reply to a thread is gone. -/
def Kernel.cancel (k : Kernel) (thread : Nat) : Kernel :=
  { k with caller := k.caller.filter fun c => c.client ≠ thread }

end Sel4

/-- A fault on its way: the endpoint it goes to, the badge it comes with, and the thread it is from. -/
structure FaultMessage where
  endpoint : Nat
  badge : Word
  thread : Nat
  fault : Fault
deriving DecidableEq

/-- The message the kernel makes of a fault. -/
def FaultMessage.delivery (m : FaultMessage) : Delivery :=
  ⟨m.fault.encode.1, m.fault.encode.2.length, m.fault.encode.2, [], m.badge, some ⟨m.thread, true⟩⟩

/-! ## The system -/

/-- A received fault that has not been answered, and the thread it is from, of which the code knows nothing but
    the badge. -/
structure HeldFault where
  received : ReceivedFault
  thread : Nat
deriving DecidableEq

structure FaultSystem where
  supervisor : Supervisor
  ipc : IpcState
  waiting : List FaultMessage
  held : List HeldFault

/-- An operation of the root task or its threads; a fault; `FaultEndpoint::receive`, which gets the fault of one of
    the waiting threads; and `FaultEndpoint::reply`. -/
inductive FaultOp where
  | supervise (op : SupervisorOp)
  | fault (task : Task) (fault : Fault)
  | receive (endpoint thread : Nat)
  | reply (held : HeldFault)

namespace Supervisor

variable (w : Supervisor)

/-- The endpoints that were returned. -/
def endpoints : List Nat := w.root.handles.filterMap fun handle =>
  match handle with
  | .endpoint i => some i
  | _           => none

/-- What `FaultRoute::new` makes of an endpoint that was returned. -/
def Routable (route : FaultRoute) : Prop :=
  route.delegation.source ∈ w.endpoints ∧ route.delegation.badge ≠ 0 ∧
    route.delegation.rights = ⟨false, true, true, false⟩

instance : DecidablePred w.Routable := fun route =>
  inferInstanceAs (Decidable (route.delegation.source ∈ w.endpoints ∧ route.delegation.badge ≠ 0 ∧
    route.delegation.rights = ⟨false, true, true, false⟩))

end Supervisor

/-- The fault route of the task an operation creates. -/
def SupervisorOp.faultRoute : SupervisorOp → Option FaultRoute
  | .root (.createTask config) => config.faultRoute
  | _                          => none

namespace FaultSystem

variable (h : Host) (s : FaultSystem)

def kernel : ObjectStore := s.supervisor.root.state.kernel

def tasks : List HeldTask := s.supervisor.tasks

/-- A thread has stopped at a fault that nobody has answered yet. -/
def Faulted (thread : Nat) : Prop :=
  thread ∈ s.waiting.map (·.thread) ∨ s.ipc.kernel.caller = some ⟨thread, true⟩

instance : DecidablePred s.Faulted := fun thread =>
  inferInstanceAs (Decidable (thread ∈ s.waiting.map (·.thread) ∨ s.ipc.kernel.caller = some ⟨thread, true⟩))

/-- The fault of a thread is forgotten. -/
def cancel (thread : Nat) : FaultSystem :=
  { s with
    ipc := { s.ipc with kernel := s.ipc.kernel.cancel thread }
    waiting := s.waiting.filter fun m => m.thread ≠ thread }

/-- What an event at a TCB does to the faults: resuming and suspending a thread take it away from its fault. A
    thread that waits for an answer does not wake for another reason. -/
def observe (event : Option (Nat × ThreadEvent)) : Option FaultSystem :=
  match event with
  | none => some s
  | some (slot, event) =>
    match s.kernel.root slot with
    | none => some s
    | some cap =>
      match event with
      | .resume | .suspend => some (s.cancel cap.object)
      | .wake _            => if s.Faulted cap.object then none else some s
      | _                  => some s

/-- After an operation of the IPC layer: the threads that replies have restarted run on. -/
def withIpc (ipc : IpcState) : FaultSystem :=
  let woken := ipc.kernel.restarted.take (ipc.kernel.restarted.length - s.ipc.kernel.restarted.length)
  { s with
    ipc
    supervisor := s.supervisor.withLive (woken.foldl (fun k c => k.wake c.client) s.supervisor.live) }

/-- A thread faults: it is blocked and its fault is on the way, or it is suspended. -/
def raise (task : Task) (fault : Fault) : Option FaultSystem :=
  match s.kernel.tcbAt task.thread.tcb, s.supervisor.live.advanceAt task.thread.tcb .block with
  | .ok (object, tcb), .ok blocked =>
    if fault.instructionPointer.toNat = tcb.file.pc then
      match s.kernel.faultHandler task.thread.tcb with
      | some (endpoint, badge) =>
        some { s with
          supervisor := s.supervisor.withLive blocked
          waiting := s.waiting ++ [⟨endpoint, badge, object, fault⟩] }
      | none =>
        match s.supervisor.live.advanceAt task.thread.tcb .suspend with
        | .ok stopped => some { s with supervisor := s.supervisor.withLive stopped }
        | .error _    => none
    else
      none
  | _, _ => none

def step (s : FaultSystem) : FaultOp → Option FaultSystem
  | .supervise op => do
      let observed ← s.observe op.event
      let supervisor ← Supervisor.step h s.supervisor op
      return { observed with supervisor }
  | .fault task fault => s.raise task fault
  | .receive endpoint thread => do
      let cap ← s.kernel.root endpoint
      let m ← s.waiting.find? fun m => m.endpoint = cap.object ∧ m.thread = thread
      match FaultEndpoint.receive endpoint m.delivery s.ipc with
      | (.ok received, ipc) =>
          some { s.withIpc ipc with waiting := s.waiting.erase m, held := ⟨received, thread⟩ :: s.held }
      -- a refused receive leaves the message where it is, any other error has consumed it
      | (.err (.ipc .replyPending), ipc) => some (s.withIpc ipc)
      | (.err _, ipc) => some { s.withIpc ipc with waiting := s.waiting.erase m }
      | (.panic, _)   => none
  | .reply held =>
      if held ∈ s.held then
        match FaultEndpoint.reply held.received s.ipc with
        | (.ok _, ipc)  => some { s.withIpc ipc with held := s.held.erase held }
        | (.err _, ipc) => some { s.withIpc ipc with held := s.held.erase held }
        | (.panic, _)   => none
      else
        none

/-- Where runs start: nothing has been received yet. -/
structure Initial (s : FaultSystem) : Prop where
  supervisor : s.supervisor.Initial h
  pending : ∀ e, s.ipc.pending e = false
  caller : s.ipc.kernel.caller = none
  waiting : s.waiting = []
  held : s.held = []

/-- Operations are called on what was returned before, and a received fault is replied to before another one is
    received. -/
def Orderly (s : FaultSystem) : FaultOp → Prop
  | .supervise op        => s.supervisor.Owned op ∧ ∀ route ∈ op.faultRoute, s.supervisor.Routable route
  | .fault task _        => task ∈ s.tasks.map HeldTask.task
  | .receive endpoint _  => endpoint ∈ s.supervisor.endpoints ∧ s.held = []
  | .reply _             => True

instance : DecidablePred s.Orderly
  | .supervise op       => inferInstanceAs (Decidable (s.supervisor.Owned op ∧ ∀ route ∈ op.faultRoute, _))
  | .fault task _       => inferInstanceAs (Decidable (task ∈ s.tasks.map HeldTask.task))
  | .receive endpoint _ => inferInstanceAs (Decidable (endpoint ∈ s.supervisor.endpoints ∧ s.held = []))
  | .reply _            => .isTrue trivial

/-- A supervisor that has received nothing yet. -/
def start : FaultSystem := ⟨Supervisor.start, World.start.state, [], []⟩

theorem start_initial : Initial RootTask.host start where
  supervisor := Supervisor.start_initial
  pending _ := rfl
  caller := rfl
  waiting := rfl
  held := rfl

end FaultSystem
end Ricoq
