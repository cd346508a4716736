import Ricoq.Boot.CSpace
import Ricoq.Boot.VSpace

/-!
# `Boot.Task` — composition of CSpace, VSpace, memory and TCB into a task

`createTask` validates the layout, constructs the task step by step, and on any failure deletes everything it
had put into root slots. `mapRecoveryFrame` maps one more frame into a task, in the same all-or-nothing way.
-/

namespace Ricoq

open Sel4 Bootstrap

/-! ## Layout -/

inductive LayoutError where
  | invalidPageSize
  | unalignedAddress
  | addressOverflow
  | overlappingPages
  | invalidEntry
deriving DecidableEq, Repr

structure TaskLayout where
  stackPointer : Nat
deriving DecidableEq, Repr

namespace TaskLayout

/-- Each address is page-aligned, ends without overflow and differs from those before it; `prior` are the
    addresses already checked. -/
def checkPages (pageSize : Nat) (prior : List Nat) : List Nat → Except LayoutError Unit
  | [] => .ok ()
  | address :: rest =>
      if address % pageSize ≠ 0 then
        .error .unalignedAddress
      else if (checkedAdd address pageSize).isNone then
        .error .addressOverflow
      else if address ∈ prior then
        .error .overlappingPages
      else
        checkPages pageSize (prior ++ [address]) rest

/-- Validates the fixed page roles before any kernel object is allocated. -/
def validate (pageSize codeAddress entry privateMemoryAddress stackAddress ipcBufferAddress : Nat)
    (reservedPages : List Nat) : Except LayoutError TaskLayout :=
  if pageSize = 0 ∨ ¬ isPowerOfTwo pageSize then
    .error .invalidPageSize
  else do
    let addresses := [codeAddress, privateMemoryAddress, stackAddress, ipcBufferAddress]
    checkPages pageSize [] addresses
    checkPages pageSize addresses reservedPages
    match checkedAdd codeAddress pageSize with
    | none => .error .addressOverflow
    | some codeEnd =>
        if entry < codeAddress ∨ entry ≥ codeEnd ∨ entry % 4 ≠ 0 then
          .error .invalidEntry
        else
          match checkedAdd stackAddress pageSize with
          | none => .error .addressOverflow
          | some stackPointer => .ok ⟨stackPointer⟩

end TaskLayout

/-! ## Threads -/

structure Thread where
  tcb : Nat
deriving DecidableEq, Repr

structure ThreadConfig where
  ipcBufferAddress : Nat
  ipcBufferMapping : Nat
  entry : Nat
  stackPointer : Nat
  arguments : Vector Nat 4
  faultEndpoint : Nat

/-- Configures a suspended TCB with validated space and register state. The addresses and arguments it puts
    into registers are words already. -/
def Thread.create (h : Host) (cspace : CSpace) (vspace : VSpace) (config : ThreadConfig) : Boot Thread := do
  let tcb ← allocateBlueprint h .tcb
  let (guard, guardBits) := cspace.rootData
  kernelOp (invoke h.machine (.tcbConfigure tcb config.faultEndpoint cspace.root guard guardBits vspace.root
    config.ipcBufferAddress config.ipcBufferMapping)) .threadConfigurationFailed
  kernelOp (invoke h.machine (.tcbWriteAllRegisters tcb
    ⟨config.entry, config.stackPointer, config.arguments.toList⟩)) .threadConfigurationFailed
  return ⟨tcb⟩

/-! ## Tasks -/

/-- One read-only executable page shared with a task. -/
structure SharedCode where
  frame : Frame
  address : Nat
  entry : Nat

/-- Complete fixed-footprint resource description for one isolated task. -/
structure TaskConfig where
  cspaceSizeBits : Nat
  code : SharedCode
  privateMemoryAddress : Nat
  stackAddress : Nat
  ipcBufferAddress : Nat
  reservedPages : List Nat
  initialArguments : Vector Nat 4
  delegatedCapabilities : List DelegatedCapability
  faultRoute : Option FaultRoute

/-- Parent-owned handles for one constructed protection domain. -/
structure Task where
  thread : Thread
  cspace : CSpace
  vspace : VSpace
  privateMemory : Frame
  stack : Frame
  ipcBuffer : Frame
  rootSlots : Nat × Nat
deriving DecidableEq

variable (h : Host)

/-- Allocates a frame and maps it read/write. -/
def allocateMapped (vspace : VSpace) (address : Nat) : Boot (Frame × Nat) := do
  let frame ← allocateFrame h
  let mapping ← vspace.mapFrame h frame address .readWrite
  return (frame, mapping)

/-- Performs construction after layout validation establishes safety. -/
def createTaskInner (config : TaskConfig) (layout : TaskLayout) (checkpoint : Nat) : Boot Task := do
  let cspace ← CSpace.create h config.cspaceSizeBits config.delegatedCapabilities config.faultRoute
  let pageAddresses :=
    [config.code.address, config.privateMemoryAddress, config.stackAddress, config.ipcBufferAddress]
  let vspace ← VSpace.create h pageAddresses config.reservedPages
  let _ ← vspace.mapFrame h config.code.frame config.code.address .readOnly
  let (privateMemory, _) ← allocateMapped h vspace config.privateMemoryAddress
  let (stack, _) ← allocateMapped h vspace config.stackAddress
  let (ipcBuffer, ipcBufferMapping) ← allocateMapped h vspace config.ipcBufferAddress
  let thread ← Thread.create h cspace vspace
    { ipcBufferAddress := config.ipcBufferAddress
      ipcBufferMapping
      entry := config.code.entry
      stackPointer := layout.stackPointer
      arguments := config.initialArguments
      faultEndpoint := (config.faultRoute.map FaultRoute.childSlot).getD 0 }
  let rootSlots ← committedSlots checkpoint
  return { thread, cspace, vspace, privateMemory, stack, ipcBuffer, rootSlots }

/-- The next slot of the allocator, before the construction starts. -/
def getCheckpoint : Boot Nat := Prog.modifyGet fun s => (s.slots.checkpoint, s)

/-- The layout of a configuration. -/
def TaskConfig.layout (config : TaskConfig) : Except LayoutError TaskLayout :=
  TaskLayout.validate h.machine.pageBytes config.code.address config.code.entry config.privateMemoryAddress
    config.stackAddress config.ipcBufferAddress config.reservedPages

/-- Constructs a suspended task, rolling back root slots on failure. -/
def createTask (config : TaskConfig) : Boot Task :=
  match config.layout h with
  | .error _ => Prog.throw .invalidTaskConfiguration
  | .ok layout => do
      let checkpoint ← getCheckpoint
      match ← Prog.attempt (createTaskInner h config layout checkpoint) with
      | .ok task => return task
      | .error error =>
          match ← Prog.attempt (rollback h checkpoint) with
          | .ok ()   => Prog.throw error
          | .error _ => Prog.throw .rollbackFailed

/-- Maps a recovery frame into a previously prepared task address. -/
def mapRecoveryFrame (task : Task) (frame : Frame) (address : Nat) : Boot TaskMapping := do
  let checkpoint ← getCheckpoint
  match ← Prog.attempt (task.vspace.mapFrame h frame address .readWrite) with
  | .error error =>
      rollback h checkpoint
      Prog.throw error
  | .ok mapping =>
      let slots ← committedSlots checkpoint
      -- the first slot of the range, provided it is the only one
      if slots.1 < slots.2 ∧ slots.2 - slots.1 = 1 then
        return ⟨mapping, slots.1⟩
      else
        Prog.throw .rollbackFailed

end Ricoq
