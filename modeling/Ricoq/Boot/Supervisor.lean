import Ricoq.Sel4.Control
import Ricoq.Boot.RootTask

/-!
# `Boot.Supervisor` — the root task in charge of its tasks

Once a task exists, the root task starts, suspends and resumes it, reads and writes its registers, maps frames
into it and unmaps them again, and maps frames into its own address space. `Supervisor` has these operations
together with those of `RootTask`, in any order, and the steps of the threads themselves between them.

What tasks do with the capabilities delegated to them is not part of this: a task changes its own registers
here, and nothing else.
-/

namespace Ricoq

open Sel4 Bootstrap

/-- The failures of the operations modelled here. -/
inductive ControlError where
  | invalidImageRegion
  | frameMappingFailed
  | frameUnmappingFailed
  | threadControlFailed
  | registerReadFailed
  | registerWriteFailed
  | invalidRegister
deriving DecidableEq, Repr

/-- An operation on frames and threads that exist. -/
abbrev Control (α : Type) : Type := Prog ControlError Live α

/-! ## Registers -/

/-- A task user-register context. -/
structure Registers where
  context : RegisterFile
deriving DecidableEq

namespace Registers

def instructionPointer (r : Registers) : Nat := r.context.pc

def setInstructionPointer (r : Registers) (value : Nat) : Registers := ⟨{ r.context with pc := value }⟩

def stackPointer (r : Registers) : Nat := r.context.sp

def setStackPointer (r : Registers) (value : Nat) : Registers := ⟨{ r.context with sp := value }⟩

/-- General-purpose register X0 through X30. -/
def generalRegister (r : Registers) (index : Nat) : Except ControlError Nat :=
  if h : index ≥ 31 then
    .error .invalidRegister
  else
    .ok (r.context.gpr.get ⟨index, Nat.not_le.mp h⟩)

def setGeneralRegister (r : Registers) (index value : Nat) : Except ControlError Registers :=
  if h : index ≥ 31 then
    .error .invalidRegister
  else
    .ok ⟨{ r.context with gpr := r.context.gpr.set index value (Nat.not_le.mp h) }⟩

end Registers

/-! ## Frames -/

/-- The slot of the initial thread's own VSpace. -/
def initVspace : Nat := 3

variable (h : Host)

/-- Maps this frame as read/write normal RAM in the initial address space. -/
def Bootstrap.Frame.map (answer : Option Sel4Error) (frame : Frame) (address : Nat) : Control Unit :=
  if address % h.machine.pageBytes ≠ 0 then
    Prog.throw .invalidImageRegion
  else
    (invokeControl h.machine.toPlatform answer (.frameMap frame.cap initVspace address .readWrite)).mapErr
      fun _ => .frameMappingFailed

/-- Removes the mapping held by this capability. -/
def Bootstrap.Frame.unmap (answer : Option Sel4Error) (frame : Frame) : Control Unit :=
  (invokeControl h.machine.toPlatform answer (.frameUnmap frame.cap)).mapErr fun _ => .frameUnmappingFailed

/-- Removes this mapping from the task VSpace. -/
def TaskMapping.unmap (answer : Option Sel4Error) (mapping : TaskMapping) : Control Unit :=
  (invokeControl h.machine.toPlatform answer (.frameUnmap mapping.mapping)).mapErr fun _ => .frameUnmappingFailed

/-! ## Threads and tasks -/

namespace Thread

/-- Makes only this configured TCB runnable. -/
def start (answer : Option Sel4Error) (thread : Thread) : Control Unit :=
  (invokeControl h.machine.toPlatform answer (.tcbResume thread.tcb)).mapErr fun _ => .threadControlFailed

/-- Stops only this TCB. -/
def suspend (answer : Option Sel4Error) (thread : Thread) : Control Unit :=
  (invokeControl h.machine.toPlatform answer (.tcbSuspend thread.tcb)).mapErr fun _ => .threadControlFailed

/-- Reads all registers. -/
def readRegisters (answer : Option Sel4Error) (thread : Thread) : Control Registers := do
  return ⟨← (readControl answer thread.tcb).mapErr fun _ => .registerReadFailed⟩

/-- Writes all registers. -/
def writeRegisters (answer : Option Sel4Error) (thread : Thread) (registers : Registers) : Control Unit :=
  (invokeControl h.machine.toPlatform answer (.tcbWriteAllRegisters thread.tcb registers.context)).mapErr
    fun _ => .registerWriteFailed

end Thread

namespace Task

def start (answer : Option Sel4Error) (task : Task) : Control Unit := task.thread.start h answer

def suspend (answer : Option Sel4Error) (task : Task) : Control Unit := task.thread.suspend h answer

def resume (answer : Option Sel4Error) (task : Task) : Control Unit := task.thread.start h answer

def readRegisters (answer : Option Sel4Error) (task : Task) : Control Registers :=
  task.thread.readRegisters answer

/-- Writes the task's complete register state without resuming it. -/
def writeRegisters (answer : Option Sel4Error) (task : Task) (registers : Registers) : Control Unit :=
  task.thread.writeRegisters h answer registers

end Task

/-! ## The machine -/

structure Supervisor where
  root : RootTask
  threads : Nat → ThreadState

/-- The operations of the root task, each with the kernel's answer, and the steps of the threads. Reading
    registers changes nothing and is not among them. -/
inductive SupervisorOp where
  | root (op : RootOp)
  | start (task : Task) (answer : Option Sel4Error)
  | suspend (task : Task) (answer : Option Sel4Error)
  | resume (task : Task) (answer : Option Sel4Error)
  | writeRegisters (task : Task) (registers : Registers) (answer : Option Sel4Error)
  | map (frame : Frame) (address : Nat) (answer : Option Sel4Error)
  | unmap (frame : Frame) (answer : Option Sel4Error)
  | unmapMapping (mapping : TaskMapping) (answer : Option Sel4Error)
  | runs (task : Task) (event : ThreadEvent)

/-- The slot of the TCB at which an operation has something happen, and what, if the kernel goes along. -/
def SupervisorOp.event : SupervisorOp → Option (Nat × ThreadEvent)
  | .start task none                    => some (task.thread.tcb, .resume)
  | .suspend task none                  => some (task.thread.tcb, .suspend)
  | .resume task none                   => some (task.thread.tcb, .resume)
  | .writeRegisters task registers none => some (task.thread.tcb, .writeRegisters registers.context)
  | .runs task event                    => some (task.thread.tcb, event)
  | _                                   => none

/-- The task and the address that an operation maps a recovery frame at. -/
def SupervisorOp.target : SupervisorOp → Option (Task × Nat)
  | .root (.mapRecoveryFrame task _ address) => some (task, address)
  | _                                        => none

namespace Supervisor

variable (w : Supervisor)

/-- The objects and threads. -/
def live : Live := ⟨w.root.state.kernel, w.threads⟩

/-- The same handles and slots, over other objects and threads. -/
def withLive (k : Live) : Supervisor :=
  { root := { w.root with state := { w.root.state with kernel := k.store } }, threads := k.threads }

def tasks : List HeldTask := w.root.tasks

/-- The recovery mappings that were returned. -/
def mappings : List TaskMapping := w.root.handles.filterMap fun handle =>
  match handle with
  | .mapping m => some m
  | _          => none

/-- Run an operation; nothing of what it returns is kept. -/
def perform (x : Control Unit) : Option Supervisor :=
  match x w.live with
  | (.ok _, k)  => some (w.withLive k)
  | (.err _, k) => some (w.withLive k)
  | (.panic, _) => none

def step (w : Supervisor) : SupervisorOp → Option Supervisor
  | .root op                              => (RootTask.step h w.root op).map fun root => { w with root }
  | .start task answer                    => w.perform (task.start h answer)
  | .suspend task answer                  => w.perform (task.suspend h answer)
  | .resume task answer                   => w.perform (task.resume h answer)
  | .writeRegisters task registers answer => w.perform (task.writeRegisters h answer registers)
  | .map frame address answer             => w.perform (frame.map h answer address)
  | .unmap frame answer                   => w.perform (frame.unmap h answer)
  | .unmapMapping mapping answer          => w.perform (mapping.unmap h answer)
  | .runs task event =>
      if event.Spontaneous then
        match w.live.advanceAt task.thread.tcb event with
        | .ok k    => some (w.withLive k)
        | .error _ => none
      else
        none

/-- Where runs start: no capability in use is mapped into an object that is yet to be made, the initial
    thread's VSpace is not in the range the allocator gives out, and no thread runs that is yet to be made. -/
structure Initial (w : Supervisor) : Prop where
  root : RootTask.Initial h w.root
  mapped : ∀ i cap object address, w.root.state.kernel.root i = some cap →
    cap.mapping = some (object, address) → object < w.root.state.kernel.nextObject
  initVspace : initVspace < h.bootinfo.empty.start
  threads : ∀ object, w.root.state.kernel.nextObject ≤ object → w.threads object = .inactive

/-! ## What operations may be called with -/

/-- Operations are called on tasks, frames and mappings that were returned before. -/
def Owned (w : Supervisor) : SupervisorOp → Prop
  | .root (.createTask config)            => w.root.Obtainable config.code.frame.cap
  | .root (.mapRecoveryFrame task frame _) => task ∈ w.tasks.map HeldTask.task ∧ w.root.Obtainable frame.cap
  | .root _                               => True
  | .start task _ | .suspend task _ | .resume task _ | .writeRegisters task _ _ | .runs task _ =>
      task ∈ w.tasks.map HeldTask.task
  | .map frame _ _ | .unmap frame _       => w.root.Obtainable frame.cap
  | .unmapMapping mapping _               => mapping ∈ w.mappings

/-- And recovery frames go to addresses that are not mapped, as their safety condition asks. -/
def Careful (w : Supervisor) (op : SupervisorOp) : Prop :=
  w.Owned op ∧ ∀ target ∈ op.target, w.root.state.kernel.pageAt target.1.vspace.root target.2 = none

instance : DecidablePred w.Owned
  | .root (.createTask config)             => inferInstanceAs (Decidable (w.root.Obtainable config.code.frame.cap))
  | .root (.mapRecoveryFrame task frame _) => inferInstanceAs (Decidable (task ∈ _ ∧ w.root.Obtainable frame.cap))
  | .root .allocateFrame                   => .isTrue trivial
  | .root .allocateEndpoint                => .isTrue trivial
  | .root .allocateNotification            => .isTrue trivial
  | .root .allocateFaultEndpoint           => .isTrue trivial
  | .root (.allocateReplyPool _)           => .isTrue trivial
  | .start task _                          => inferInstanceAs (Decidable (task ∈ w.tasks.map HeldTask.task))
  | .suspend task _                        => inferInstanceAs (Decidable (task ∈ w.tasks.map HeldTask.task))
  | .resume task _                         => inferInstanceAs (Decidable (task ∈ w.tasks.map HeldTask.task))
  | .writeRegisters task _ _               => inferInstanceAs (Decidable (task ∈ w.tasks.map HeldTask.task))
  | .runs task _                           => inferInstanceAs (Decidable (task ∈ w.tasks.map HeldTask.task))
  | .map frame _ _                         => inferInstanceAs (Decidable (w.root.Obtainable frame.cap))
  | .unmap frame _                         => inferInstanceAs (Decidable (w.root.Obtainable frame.cap))
  | .unmapMapping mapping _                => inferInstanceAs (Decidable (mapping ∈ w.mappings))

instance : DecidablePred w.Careful := fun op => inferInstanceAs (Decidable (w.Owned op ∧ ∀ target ∈ op.target, _))

/-! ## A supervisor at work -/

/-- The root task before the first allocation, with no thread running but its own. -/
def start : Supervisor := ⟨RootTask.start, fun _ => .inactive⟩

theorem start_initial : Initial RootTask.host start where
  root := RootTask.start_initial
  mapped i cap object address hcap hmapping := by
    have hroot : (if i < 50 then some (⟨i, .granule, .all, 0, none⟩ : Cap) else none) = some cap := hcap
    by_cases hi : i < 50
    · rw [if_pos hi] at hroot
      obtain rfl := Option.some.inj hroot
      cases hmapping
    · rw [if_neg hi] at hroot
      cases hroot
  initVspace := by decide
  threads _ _ := rfl

end Supervisor
end Ricoq
