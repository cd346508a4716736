import Ricoq.Lib.Run
import Ricoq.Lib.Table
import Ricoq.Fault.Endpoint

/-!
# `Ipc.World` — interleaved use of the IPC layer

The Rust types make every handle one-shot: `reply`, `finish`, `defer` and `discard` take their handle by
value, and a `ReceiveSlot` is moved into the receive. `World` adds to the state of the layer the handles
that have been returned and not yet consumed, each under its own number; a label of `World.step` names the
handle it consumes, so a handle is used at most once. Any number of endpoints, pools, tasks and clients
may take part, and the labels may come in any order.

Next to each message and each deferred reply stands the client whose request produced it. The code keeps
no such record; it is what the reply is compared with.

An operation that panics has no step: the root task is gone.
-/

namespace Ricoq

open Sel4

/-- An outstanding message, with the client whose request produced it. -/
structure HeldMessage where
  received : ReceivedMessage
  caller : Option Caller

/-- An outstanding deferred reply, with the client whose request produced it. -/
structure HeldReply where
  reply : DeferredReply
  caller : Option Caller

/-- The IPC layer together with the outstanding handles; `next` is the number of the next handle. -/
structure World where
  state : IpcState
  messages : Nat → Option HeldMessage
  deferred : Nat → Option HeldReply
  slots : Nat → Option ReceiveSlot
  next : Nat

/-- The operations of the layer. A handle is named by its number. -/
inductive Op where
  | receive (endpoint : Nat) (slot : Option Nat) (delivery : Delivery)
  | tryReceive (endpoint : Nat) (slot : Option Nat) (outcome : NbOutcome)
  | faultReceive (endpoint : Nat) (delivery : Delivery)
  | reply (handle : Nat) (message : Message)
  | faultReply (handle : Nat)
  | finish (handle : Nat)
  | defer (handle pool : Nat) (refused : Bool)
  | deferredReply (handle : Nat) (message : Message)
  | discard (handle : Nat) (refused : Bool)
  | call (message : Message) (answer : Delivery)
  | send (message : Message)
  | receiveSlot (root index : Nat)

/-- The client of the message a non-blocking receive finds. -/
def Sel4.NbOutcome.caller : NbOutcome → Option Caller
  | .message d  => d.caller
  | .noSender _ => none

namespace World

def addMessage (w : World) (m : HeldMessage) : World :=
  { w with messages := Function.update w.messages w.next (some m), next := w.next + 1 }

def addDeferred (w : World) (d : HeldReply) : World :=
  { w with deferred := Function.update w.deferred w.next (some d), next := w.next + 1 }

def addSlot (w : World) (slot : ReceiveSlot) : World :=
  { w with slots := Function.update w.slots w.next (some slot), next := w.next + 1 }

def dropMessage (w : World) (handle : Nat) : World :=
  { w with messages := Function.update w.messages handle none }

def dropDeferred (w : World) (handle : Nat) : World :=
  { w with deferred := Function.update w.deferred handle none }

def dropSlot (w : World) (handle : Nat) : World :=
  { w with slots := Function.update w.slots handle none }

/-- The receive slot an operation is given, and the world in which it has been moved out. -/
def takeSlot (w : World) : Option Nat → Option (Option ReceiveSlot × World)
  | none        => some (none, w)
  | some handle => (w.slots handle).map fun slot => (some slot, w.dropSlot handle)

/-- Run an operation of the layer; `keep` says what a returned value adds to the handles. -/
def perform {ε α : Type} (w : World) (x : Prog ε IpcState α) (keep : World → α → World) : Option World :=
  match x w.state with
  | (.ok a, s)   => some (keep { w with state := s } a)
  | (.err _, s)  => some { w with state := s }
  | (.panic, _)  => none

def step (w : World) : Op → Option World
  | .receive endpoint slot delivery => do
      let (slot, w) ← w.takeSlot slot
      w.perform (Endpoint.receive endpoint slot delivery) fun w received =>
        w.addMessage ⟨received, delivery.caller⟩
  | .tryReceive endpoint slot outcome => do
      let (slot, w) ← w.takeSlot slot
      w.perform (Endpoint.tryReceive endpoint slot outcome) fun w received =>
        match received with
        | some received => w.addMessage ⟨received, outcome.caller⟩
        | none          => w
  | .faultReceive endpoint delivery =>
      w.perform (FaultEndpoint.receive endpoint delivery) fun w fault =>
        w.addMessage ⟨fault.received, delivery.caller⟩
  | .reply handle message => do
      let m ← w.messages handle
      (w.dropMessage handle).perform (m.received.reply message : Ipc Unit) fun w _ => w
  | .faultReply handle => do
      let m ← w.messages handle
      (w.dropMessage handle).perform (m.received.reply Message.emptyReply : Ipc Unit) fun w _ => w
  | .finish handle => do
      let m ← w.messages handle
      (w.dropMessage handle).perform (m.received.finish : Ipc Unit) fun w _ => w
  | .defer handle pool refused => do
      let m ← w.messages handle
      (w.dropMessage handle).perform (m.received.defer pool refused) fun w reply =>
        w.addDeferred ⟨reply, m.caller⟩
  | .deferredReply handle message => do
      let d ← w.deferred handle
      (w.dropDeferred handle).perform (d.reply.reply message) fun w _ => w
  | .discard handle refused => do
      let d ← w.deferred handle
      (w.dropDeferred handle).perform (d.reply.discard refused) fun w _ => w
  | .call message answer => w.perform (Endpoint.call message answer) fun w _ => w
  | .send message => w.perform (Endpoint.send message) fun w _ => w
  | .receiveSlot root index => w.perform (receiveSlot root index) fun w slot => w.addSlot slot

/-- Where runs start: no handle is outstanding, the pools are disjoint, no entry is reserved, and a child
    slot its tracker calls free is empty. -/
structure Initial (w : World) : Prop where
  pending : ∀ e, w.state.pending e = false
  messages : ∀ h, w.messages h = none
  deferred : ∀ h, w.deferred h = none
  slots : ∀ h, w.slots h = none
  disjoint : ∀ p q slot, (w.state.pools p).Owns slot → (w.state.pools q).Owns slot → p = q
  settled : ∀ root i, (w.state.cspaces root).slots.stateOf i ≠ .reserved
  tracked : ∀ root i, (w.state.cspaces root).slots.stateOf i = .free →
    w.state.kernel.children root i = none

/-- A world as bootstrap leaves it: one reply pool, and children whose CNodes have sixteen empty slots. -/
def start : World where
  state :=
    { kernel := ⟨none, fun _ => none, fun _ _ => none,
        ⟨Vector.replicate _ 0, Vector.replicate _ 0, .null⟩, []⟩
      pending := fun _ => false
      pools := fun p => if p = 0 then ⟨100, 104, 0, by decide, by decide, by decide⟩ else .none
      cspaces := fun _ => ⟨4, ⟨16, Vector.replicate _ .free, by decide⟩⟩ }
  messages := fun _ => none
  deferred := fun _ => none
  slots := fun _ => none
  next := 0

theorem initial_start : start.Initial where
  pending _ := rfl
  messages _ := rfl
  deferred _ := rfl
  slots _ := rfl
  disjoint p q slot hp hq := by
    have hzero : ∀ p, (start.state.pools p).Owns slot → p = 0 := by
      intro p hp
      apply Decidable.byContradiction
      intro hne
      have : start.state.pools p = .none := if_neg hne
      rw [this] at hp
      exact Nat.not_lt_zero _ hp.2
    rw [hzero p hp, hzero q hq]
  settled root i := by
    show (start.state.cspaces root).slots.stateOf i ≠ .reserved
    unfold SlotTracker.stateOf
    cases h : (start.state.cspaces root).slots.states[i]? with
    | none => nofun
    | some state =>
        obtain ⟨hi, rfl⟩ := Vector.getElem?_eq_some_iff.mp h
        simp [start]
  tracked _ _ _ := rfl

/-- An empty badged Call from a client, with the capabilities it offers. -/
def request (client : Nat) (caps : List OfferedCap) : Delivery := ⟨0, 0, [], caps, 1, some ⟨client, false⟩⟩

end World
end Ricoq
