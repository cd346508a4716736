import Ricoq.Lib.Run
import Ricoq.Boot.Task

/-!
# `Boot.RootTask` — the root task allocating and constructing

The root task holds one `Bootstrap` and the handles it has got from it. Its operations may come in any order
and with any arguments, and the kernel may refuse any of the system calls they make; what a refused operation
leaves behind stays there. Handles are kept in the order in which they were returned.

The numbers in `HeldTask` are no data of the code: they record which objects were made during the call.
-/

namespace Ricoq

open Sel4 Bootstrap

/-- A task, with the configuration it was made from and the range of the numbers of the objects made for it. -/
structure HeldTask where
  task : Task
  config : TaskConfig
  objects : Nat × Nat

inductive Handle where
  | frame (frame : Frame)
  | endpoint (slot : Nat)
  | notification (slot : Nat)
  | replyPool (pool : ReplyPool)
  | task (held : HeldTask)
  | mapping (mapping : TaskMapping)

namespace Handle

/-- The root slots that belong to a handle. -/
def slots : Handle → Nat × Nat
  | .frame f        => (f.cap, f.cap + 1)
  | .endpoint i     => (i, i + 1)
  | .notification i => (i, i + 1)
  | .replyPool pool => (pool.start, pool.stop)
  | .task held      => held.task.rootSlots
  | .mapping m      => (m.rootSlot, m.rootSlot + 1)

def Owns (handle : Handle) (slot : Nat) : Prop := handle.slots.1 ≤ slot ∧ slot < handle.slots.2

/-- The task a handle stands for. -/
def held : Handle → Option HeldTask
  | .task held => some held
  | _          => none

/-- The slot of the frame a handle stands for. -/
def frameCap : Handle → Option Nat
  | .frame f => some f.cap
  | _        => none

end Handle

structure RootTask where
  state : BootState
  handles : List Handle

namespace RootTask

/-- The tasks made so far. -/
def tasks (w : RootTask) : List HeldTask := w.handles.filterMap Handle.held

/-- The slots of the frames that belong to tasks. -/
def taskFrames (w : RootTask) : List Nat :=
  w.tasks.flatMap fun x => [x.task.privateMemory.cap, x.task.stack.cap, x.task.ipcBuffer.cap]

/-- The slots a `Frame` can name: that of an allocated frame, of one a task lends out (`private_memory`,
    `stack`, `ipc_buffer`), or of a frame of the initial image (`image_frame`), which is not in the range. -/
def Obtainable (w : RootTask) (slot : Nat) : Prop :=
  slot ∈ w.handles.filterMap Handle.frameCap ∨ slot ∈ w.taskFrames ∨
    slot < w.state.slots.first ∨ w.state.slots.stop ≤ slot

instance (w : RootTask) : DecidablePred w.Obtainable := fun slot =>
  inferInstanceAs (Decidable (slot ∈ w.handles.filterMap Handle.frameCap ∨ slot ∈ w.taskFrames ∨
    slot < w.state.slots.first ∨ w.state.slots.stop ≤ slot))

end RootTask

/-- The operations of the root task. -/
inductive RootOp where
  | allocateFrame
  | allocateEndpoint
  | allocateNotification
  | allocateFaultEndpoint
  | allocateReplyPool (capacity : Nat)
  | createTask (config : TaskConfig)
  | mapRecoveryFrame (task : Task) (frame : Frame) (address : Nat)

namespace RootTask

variable (h : Host)

/-- Run an operation; `keep` is the handle for what it returns. -/
def perform {α : Type} (w : RootTask) (x : Boot α) (keep : α → BootState → Handle) : Option RootTask :=
  match x w.state with
  | (.ok a, s)  => some ⟨s, w.handles ++ [keep a s]⟩
  | (.err _, s) => some { w with state := s }
  | (.panic, _) => none

/-- What an operation ensures holds of the state after it; a returned handle comes last. -/
theorem perform_cases {α : Type} {w w' : RootTask} {x : Boot α} {keep : α → BootState → Handle}
    {D : α → BootState → Prop} {E : BootstrapError → BootState → Prop} (hx : Prog.Ensures x w.state D E)
    (hs : w.perform x keep = some w') :
    (∃ a s, x w.state = (.ok a, s) ∧ D a s ∧ w' = ⟨s, w.handles ++ [keep a s]⟩) ∨
    (∃ e s, x w.state = (.err e, s) ∧ E e s ∧ w' = { w with state := s }) := by
  unfold perform at hs
  rcases hx.cases with ⟨a, s, hrun, hD⟩ | ⟨e, s, hrun, hE⟩
  · rw [hrun] at hs
    exact Or.inl ⟨a, s, hrun, hD, (Option.some.inj hs).symm⟩
  · rw [hrun] at hs
    exact Or.inr ⟨e, s, hrun, hE, (Option.some.inj hs).symm⟩

def step (w : RootTask) : RootOp → Option RootTask
  | .allocateFrame              => w.perform (allocateFrame h) fun frame _ => .frame frame
  | .allocateEndpoint           => w.perform (allocateEndpoint h) fun slot _ => .endpoint slot
  | .allocateNotification       => w.perform (allocateNotification h) fun slot _ => .notification slot
  | .allocateFaultEndpoint      => w.perform (allocateFaultEndpoint h) fun slot _ => .endpoint slot
  | .allocateReplyPool capacity => w.perform (allocateReplyPool capacity) fun pool _ => .replyPool pool
  | .createTask config          => w.perform (createTask h config) fun task s =>
      .task ⟨task, config, (w.state.kernel.nextObject, s.kernel.nextObject)⟩
  | .mapRecoveryFrame task frame address =>
      w.perform (mapRecoveryFrame h task frame address) fun mapping _ => .mapping mapping

/-- Where runs start: a `Bootstrap` over a range of empty slots, and no handle. The objects behind the other
    root slots have numbers that will not be used again. -/
structure Initial (w : RootTask) : Prop where
  slots : Bootstrap.new h.bootinfo = .ok w.state.slots
  empty : ∀ i, h.bootinfo.empty.start ≤ i → i < h.bootinfo.empty.stop → w.state.kernel.root i = none
  numbered : ∀ i cap, w.state.kernel.root i = some cap → cap.object < w.state.kernel.nextObject
  handles : w.handles = []

/-! ## A root task at work -/

/-- A platform with four levels of translation, and a kernel that refuses nothing. -/
def host : Host where
  machine :=
    { pageBytes := 4096
      numLevels := 4
      spanBits := fun level => 12 + 9 * (4 - level)
      fromLevel := fun level => if level < 4 then some ⟨level⟩ else none
      physicalSizeBits := fun _ => 12
      pageBytes_pow := ⟨12, rfl⟩
      pageBytes_mul := ⟨256, rfl⟩
      refuses := fun _ _ => none }
  bootinfo :=
    { empty := ⟨100, 200, by decide, by decide⟩
      untyped := ⟨50, 51, by decide, by decide⟩
      untypedList := [⟨false, 24⟩] }

/-- Its root task before the first allocation. -/
def start : RootTask where
  state :=
    { slots := FreeSlots.new host.bootinfo.empty
      kernel :=
        { nextObject := 100
          root := fun i => if i < 50 then some ⟨i, .granule, .all, 0, none⟩ else none
          objects := fun _ => .plain
          log := [] } }
  handles := []

theorem start_initial : Initial host start where
  slots := rfl
  empty i hlo _ := by
    have hi : 100 ≤ i := hlo
    exact if_neg (by omega)
  numbered i cap hcap := by
    have hroot : (if i < 50 then some (⟨i, .granule, .all, 0, none⟩ : Cap) else none) = some cap := hcap
    by_cases hi : i < 50
    · rw [if_pos hi] at hroot
      obtain rfl := Option.some.inj hroot
      show i < 100
      omega
    · rw [if_neg hi] at hroot
      exact nomatch hroot
  handles := rfl

/-- A task that runs the frame in slot 100 and holds the capability in slot 101. -/
def taskConfig : TaskConfig where
  cspaceSizeBits := 4
  code := ⟨⟨100⟩, 0x400000, 0x400010⟩
  privateMemoryAddress := 0x401000
  stackAddress := 0x402000
  ipcBufferAddress := 0x403000
  reservedPages := [0x600000]
  initialArguments := Vector.replicate 4 0
  delegatedCapabilities := [⟨101, 1, .readWrite, 7⟩]
  faultRoute := none

/-- A task that runs a frame of the initial image, holds a capability of it, and reports faults through
    another one. -/
def imageTask : TaskConfig :=
  { taskConfig with
    code := ⟨⟨10⟩, 0x400000, 0x400010⟩
    delegatedCapabilities := [⟨11, 1, .readWrite, 7⟩]
    faultRoute := some ⟨⟨12, 3, .all, 9⟩⟩ }

theorem imageTask_created : ∃ task s', createTask host imageTask start.state = (.ok task, s') := by
  have hok : (match createTask host imageTask start.state with | (.ok _, _) => true | _ => false) = true := by
    decide +kernel
  match hrun : createTask host imageTask start.state with
  | (.ok task, s') => exact ⟨task, s', rfl⟩
  | (.err e, s') =>
      rw [hrun] at hok
      exact nomatch hok
  | (.panic, s') =>
      rw [hrun] at hok
      exact nomatch hok

end RootTask
end Ricoq
