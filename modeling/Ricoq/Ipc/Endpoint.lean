import Ricoq.Lib.Prog
import Ricoq.Sel4.Ipc
import Ricoq.Ipc.Message
import Ricoq.Ipc.SlotTracker
import Ricoq.Ipc.ReplyPool

/-!
# `Ipc.Endpoint` — receiving, replying and deferring

The state of the IPC layer and the operations on it. An endpoint is a number; its one mutable field is the
flag `implicitReplyPending`. A child CSpace is named by its root capability, and holds the slot tracker of
the task. Handles that Rust moves by value (`ReceivedMessage`, `DeferredReply`, `ReceiveSlot`) are plain
structures here; who still holds one is the business of `Ipc.World`.

The kernel's part of a system call is the corresponding `Sel4.Kernel` function, applied to the argument in
which the environment says what happens.
-/

namespace Ricoq

open Sel4

/-! ## State -/

/-- The part of a task's CSpace that IPC uses. -/
structure CSpaceSlots where
  sizeBits : Nat
  slots : SlotTracker

/-- The state of the IPC layer: the kernel, the pending flag of each endpoint, the reply pools, and the
    child CSpaces by root capability. -/
structure IpcState where
  kernel : Kernel
  pending : Nat → Bool
  pools : Nat → ReplyPool
  cspaces : Nat → CSpaceSlots

/-- An IPC operation. -/
abbrev Ipc (α : Type) : Type := Prog IpcError IpcState α

namespace IpcState

def setPending (s : IpcState) (endpoint : Nat) (value : Bool) : IpcState :=
  { s with pending := Function.update s.pending endpoint value }

def setPool (s : IpcState) (pool : Nat) (value : ReplyPool) : IpcState :=
  { s with pools := Function.update s.pools pool value }

def setSlots (s : IpcState) (root : Nat) (slots : SlotTracker) : IpcState :=
  { s with cspaces := Function.update s.cspaces root { s.cspaces root with slots } }

end IpcState

/-! ## Handles -/

/-- A validated nonzero badge. -/
structure Badge where
  raw : Word
  raw_ne : raw ≠ 0
deriving DecidableEq

/-- `Badge::new(raw).ok()`. -/
def Badge.new (raw : Word) : Option Badge := if h : raw = 0 then none else some ⟨raw, h⟩

/-- A received message tied to the endpoint's current reply authority. -/
structure ReceivedMessage where
  endpoint : Nat
  badge : Option Badge
  message : Message
deriving DecidableEq

/-- One explicitly saved reply capability. -/
structure DeferredReply where
  pool : Nat
  slot : Nat
deriving DecidableEq

/-- A validated one-shot destination for at most one transferred capability. -/
structure ReceiveSlot where
  root : Nat
  sizeBits : Nat
  reservation : SlotReservation
deriving DecidableEq

namespace ReceiveSlot

def absolute (slot : ReceiveSlot) : AbsoluteCPtr := ⟨slot.root, slot.reservation.slot, slot.sizeBits⟩

/-- Settles the reservation once the receive is over. -/
def finish (slot : ReceiveSlot) (received : Bool) : Ipc Unit := fun s =>
  let slots := (s.cspaces slot.root).slots
  let result := if received then slots.commit slot.reservation else slots.cancel slot.reservation
  match result with
  | .ok slots'  => (.ok (), s.setSlots slot.root slots')
  | .error _    => (.err .invalidReceivePath, s)

end ReceiveSlot

/-- `Task::receive_slot`, through `CSpace::receive_slot`. -/
def receiveSlot (root index : Nat) : Ipc ReceiveSlot := fun s =>
  match (s.cspaces root).slots.reserve index with
  | .ok (reservation, slots') =>
      (.ok ⟨root, (s.cspaces root).sizeBits, reservation⟩, s.setSlots root slots')
  | .error _ => (.err .invalidReceiveSlot, s)

/-! ## Steps shared by the operations -/

/-- `message.prepare()` on the root thread's IPC buffer. -/
def prepare {ε : Type} (message : Message) : Prog ε IpcState MessageInfo := fun s =>
  match (message.prepare s.kernel.buffer : Outcome ε (IpcBuffer × MessageInfo)) with
  | .ok (buffer, info) => (.ok info, { s with kernel := { s.kernel with buffer } })
  | .err e             => (.err e, s)
  | .panic             => (.panic, s)

/-- `Message::received(&info)` on the root thread's IPC buffer. -/
def received (info : MessageInfo) : Ipc Message := fun s => (Message.received s.kernel.buffer info, s)

/-- `implicit_reply_pending.replace(true)`. -/
def replacePending {ε : Type} (endpoint : Nat) : Prog ε IpcState Bool :=
  Prog.modifyGet fun s => (s.pending endpoint, s.setPending endpoint true)

/-- The receive path for a receive slot, or the one that accepts nothing. -/
def receivePath : Option ReceiveSlot → AbsoluteCPtr
  | some slot => slot.absolute
  | none      => .null

def configureReceivePath {ε : Type} (slot : Option ReceiveSlot) : Prog ε IpcState Unit :=
  Prog.modify fun s => { s with kernel := s.kernel.setRecvSlot (receivePath slot) }

/-- A system call that answers the root thread. -/
def kernelCall {ε α : Type} (call : Kernel → α × Kernel) : Prog ε IpcState α :=
  Prog.modifyGet fun s => ((call s.kernel).1, { s with kernel := (call s.kernel).2 })

/-- A system call without an answer. -/
def kernelDo {ε : Type} (call : Kernel → Kernel) : Prog ε IpcState Unit :=
  Prog.modify fun s => { s with kernel := call s.kernel }

namespace Endpoint

def clearImplicitReply {ε : Type} (endpoint : Nat) : Prog ε IpcState Unit := do
  kernelDo fun k => k.reply (MessageInfo.build 0 0 0 0)
  Prog.modify fun s => s.setPending endpoint false

/-- What `receive` and `try_receive` do once the kernel has delivered a message: settle the receive slot,
    then check the capability count and the shape of the message. -/
def complete (endpoint : Nat) (slot : Option ReceiveSlot) (info : MessageInfo) (rawBadge : Word) :
    Ipc ReceivedMessage := do
  let capacity := if slot.isSome then 1 else 0
  match slot with
  | some slot => slot.finish (info.extraCaps != 0)
  | none      => pure ()
  if info.extraCaps > capacity then
    clearImplicitReply endpoint
    Prog.throw (.receiveCapacityExceeded info.extraCaps capacity)
  else
    match ← Prog.attempt (received info) with
    | .ok message => return { endpoint, badge := Badge.new rawBadge, message }
    | .error error =>
        clearImplicitReply endpoint
        Prog.throw error

/-- Receives one message, optionally accepting one transferred capability. -/
def receive (endpoint : Nat) (slot : Option ReceiveSlot) (delivery : Delivery) : Ipc ReceivedMessage := do
  if ← replacePending endpoint then
    Prog.throw .replyPending
  else
    configureReceivePath slot
    let (info, rawBadge) ← kernelCall fun k => k.recv delivery
    complete endpoint slot info rawBadge

/-- Receives without blocking when no sender is waiting. -/
def tryReceive (endpoint : Nat) (slot : Option ReceiveSlot) (outcome : NbOutcome) :
    Ipc (Option ReceivedMessage) := do
  if ← replacePending endpoint then
    Prog.throw .replyPending
  else
    configureReceivePath slot
    let (info, rawBadge) ← kernelCall fun k => k.nbRecv outcome
    if rawBadge = 0 ∧ info.length = 0 ∧ info.extraCaps = 0 then
      Prog.modify fun s => s.setPending endpoint false
      match slot with
      | some slot => slot.finish false
      | none      => pure ()
      return none
    else
      let message ← complete endpoint slot info rawBadge
      return some message

/-- Sends one message; nothing comes back to the root thread. -/
def send (message : Message) : Ipc Unit := do
  let _ ← prepare message
  return ()

/-- `nb_send` differs from `send` only in whether the kernel waits for a receiver. -/
def trySend (message : Message) : Ipc Unit := send message

/-- Performs a synchronous request and copies the bounded reply. -/
def call (message : Message) (answer : Delivery) : Ipc Message := do
  let _ ← prepare message
  let info ← kernelCall fun k => (k.deliveredInfo answer, k.deliver answer)
  received info

end Endpoint

namespace ReceivedMessage

/-- Uses the current implicit authority to reply exactly once. -/
def reply {ε : Type} (self : ReceivedMessage) (message : Message) : Prog ε IpcState Unit := do
  let info ← prepare message
  kernelDo fun k => k.reply info
  Prog.modify fun s => s.setPending self.endpoint false

/-- Completes a one-way receive and clears any possible implicit authority. -/
def finish {ε : Type} (self : ReceivedMessage) : Prog ε IpcState Unit :=
  Endpoint.clearImplicitReply self.endpoint

/-- Preserves the current reply capability in a bounded root slot. -/
def defer (self : ReceivedMessage) (pool : Nat) (refused : Bool) : Ipc DeferredReply := do
  match ← Prog.modifyGet fun s => ((s.pools pool).reserve.1, s.setPool pool (s.pools pool).reserve.2) with
  | none =>
      Endpoint.clearImplicitReply self.endpoint
      Prog.throw .noReplySlots
  | some slot =>
      if ← kernelCall fun k => k.saveCaller slot refused then
        Prog.modify fun s => s.setPending self.endpoint false
        return { pool, slot }
      else
        Prog.modify fun s => s.setPool pool ((s.pools pool).release slot)
        Endpoint.clearImplicitReply self.endpoint
        Prog.throw .noReplyAuthority

end ReceivedMessage

namespace DeferredReply

/-- Replies to the blocked caller identified by this capability. -/
def reply (self : DeferredReply) (message : Message) : Ipc Unit := do
  let info ← prepare message
  kernelDo fun k => k.sendReplyCap self.slot info
  Prog.modify fun s => s.setPool self.pool ((s.pools self.pool).release self.slot)

/-- Deletes an unused reply capability and releases its bounded slot. -/
def discard (self : DeferredReply) (refused : Bool) : Ipc Unit := do
  if ← kernelCall fun k => k.deleteRootSlot self.slot refused then
    Prog.modify fun s => s.setPool self.pool ((s.pools self.pool).release self.slot)
  else
    Prog.throw .replyCapabilityOperationFailed

end DeferredReply
end Ricoq
