import Ricoq.Boot.FreeSlots
import Ricoq.Ipc.ReplyPool
import Ricoq.Sel4.Objects

/-!
# `Boot.Bootstrap` — boot-time resources

`Bootstrap` owns the free slots of the root CNode. Every capability the root task makes goes into the next
free slot: a retyped object (`allocateBlueprint`) or a copy of a capability (`copyCap`). A multi-object
construction takes a `checkpoint` first; `rollback` deletes what came after it, the last slot first, and only
then moves the allocator back.

The state is the allocator together with the kernel; the boot information and the machine do not change and
are parameters (`Host`).
-/

namespace Ricoq

open Sel4

/-- Bootstrap failures, as far as the functions modelled here return them. -/
inductive BootstrapError where
  | noFreeSlots
  | noKernelMemory
  | kernelAllocationFailed
  | frameMappingFailed
  | invalidTaskConfiguration
  | vspaceCreationFailed
  | cspaceCreationFailed
  | threadConfigurationFailed
  | rollbackFailed
deriving DecidableEq, Repr

structure UntypedDescriptor where
  isDevice : Bool
  sizeBits : Nat
deriving DecidableEq, Repr

/-- The boot information: the empty root slots, and the Untypeds with their descriptors. -/
structure BootInfo where
  empty : SlotRange
  untyped : SlotRange
  untypedList : List UntypedDescriptor

/-- What does not change: the machine and its boot information. -/
structure Host where
  machine : Machine
  bootinfo : BootInfo

structure BootState where
  slots : FreeSlots
  kernel : ObjectStore

/-- A bootstrap operation. -/
abbrev Boot (α : Type) : Type := Prog BootstrapError BootState α

namespace Bootstrap

/-- Initializes free-slot accounting from the boot information. -/
def new (bootinfo : BootInfo) : Except BootstrapError FreeSlots :=
  if bootinfo.empty.stop - bootinfo.empty.start = 0 then
    .error .noFreeSlots
  else
    .ok (FreeSlots.new bootinfo.empty)

/-- Run a kernel operation, reporting any failure as `error`. -/
def kernelOp {α : Type} (x : Prog Sel4Error ObjectStore α) (error : BootstrapError) : Boot α := fun s =>
  match x s.kernel with
  | (.ok a, kernel)  => (.ok a, { s with kernel })
  | (.err _, kernel) => (.err error, { s with kernel })
  | (.panic, kernel) => (.panic, { s with kernel })

/-- `self.slots.try_allocate(create)`. -/
def tryAllocate {α : Type} (create : Nat → Prog BootstrapError ObjectStore α) : Boot (Option α) := fun s =>
  match s.slots.tryAllocate create s.kernel with
  | (.ok (value, slots), kernel) => (.ok value, ⟨slots, kernel⟩)
  | (.err e, kernel)             => (.err e, { s with kernel })
  | (.panic, kernel)             => (.panic, { s with kernel })

variable (h : Host)

/-! ## Allocation -/

/-- Retype the first suitable Untyped of the list into `slot`. A failed retype for lack of memory leaves the
    slot empty, so that the next candidate may be tried. -/
def retypeFirst (blueprint : ObjectBlueprint) (slot : Nat) :
    List (UntypedDescriptor × Nat) → Prog BootstrapError ObjectStore Nat
  | [] => Prog.throw .noKernelMemory
  | (descriptor, index) :: rest =>
      if descriptor.isDevice ∨ descriptor.sizeBits < h.machine.physicalSizeBits blueprint then
        retypeFirst blueprint slot rest
      else do
        let retype := Invocation.untypedRetype (h.bootinfo.untyped.start + index) blueprint slot
        match ← Prog.attempt (invoke h.machine retype) with
        | .ok ()                  => return slot
        | .error .notEnoughMemory => retypeFirst blueprint slot rest
        | .error _                => Prog.throw .kernelAllocationFailed

/-- The descriptors within the range of Untyped slots, with their indices. -/
def candidates : List (UntypedDescriptor × Nat) :=
  h.bootinfo.untypedList.zipIdx.take (h.bootinfo.untyped.stop - h.bootinfo.untyped.start)

/-- Retypes the first suitable Untyped without committing a failed slot. The result is the slot of the new
    capability. -/
def allocateBlueprint (blueprint : ObjectBlueprint) : Boot Nat := do
  match ← tryAllocate fun slot => retypeFirst h blueprint slot (candidates h) with
  | some slot => return slot
  | none      => Prog.throw .noFreeSlots

/-- A frame capability owned through its root slot. -/
structure Frame where
  cap : Nat
deriving DecidableEq, Repr

def allocateFrame : Boot Frame := do return ⟨← allocateBlueprint h .granule⟩

def allocateEndpoint : Boot Nat := allocateBlueprint h .endpoint

def allocateFaultEndpoint : Boot Nat := allocateEndpoint h

def allocateNotification : Boot Nat := allocateBlueprint h .notification

/-- Reserves reusable root slots for independently retained replies. -/
def allocateReplyPool (capacity : Nat) : Boot ReplyPool := fun s =>
  if hcap : capacity = 0 ∨ capacity > maxDeferredReplies then
    (.err .invalidTaskConfiguration, s)
  else
    match hr : s.slots.reserve capacity with
    | none => (.err .noFreeSlots, s)
    | some (range, slots) =>
        have hspec := FreeSlots.reserve_eq_some.mp hr
        (.ok
          { start := range.1, stop := range.2, occupied := 0
            start_le := by rw [hspec.2.1]; exact Nat.le_add_right _ _
            stop_le := by rw [hspec.2.1]; exact Nat.le_trans hspec.1 s.slots.stop_le
            len_le := by rw [hspec.2.1]; simp only [not_or] at hcap; omega },
        { s with slots })

/-- Copy a capability into a given slot. -/
def copyInto (source : Nat) (rights : CapRights) (index : Nat) : Prog BootstrapError ObjectStore Nat := do
  (invoke h.machine (.copy index source rights)).mapErr fun _ => .cspaceCreationFailed
  return index

/-- Copies a capability into the next tracked root slot. -/
def copyToRoot (source : Nat) (rights : CapRights) : Boot Nat := do
  match ← tryAllocate (copyInto h source rights) with
  | some slot => return slot
  | none      => Prog.throw .noFreeSlots

/-! ## Rollback -/

/-- Deletes `count` slots from `start` on, in reverse order. -/
def deleteRootSlots (start : Nat) : Nat → Boot Unit
  | 0 => return ()
  | count + 1 => do
      kernelOp (invoke h.machine (.delete (start + count))) .rollbackFailed
      deleteRootSlots start count

/-- The slots retained since a checkpoint. -/
def committedSlots (checkpoint : Nat) : Boot (Nat × Nat) := fun s =>
  match s.slots.allocatedSince checkpoint with
  | some range => (.ok range, s)
  | none       => (.err .rollbackFailed, s)

/-- Deletes a failed allocation suffix before making its slots reusable. -/
def rollback (checkpoint : Nat) : Boot Unit := do
  let slots ← committedSlots checkpoint
  deleteRootSlots h slots.1 (slots.2 - slots.1)
  if ← Prog.modifyGet fun s =>
      ((s.slots.rewind checkpoint).1, { s with slots := (s.slots.rewind checkpoint).2 }) then
    return ()
  else
    Prog.throw .rollbackFailed

end Bootstrap
end Ricoq
