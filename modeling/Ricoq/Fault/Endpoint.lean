import Ricoq.Ipc.Endpoint
import Ricoq.Fault.Decode

/-!
# `Fault.Endpoint` — the fault-handling adapter of an endpoint

A fault endpoint is a generic endpoint whose messages must be well-formed fault IPC. `receive` accepts
what `Fault.decode` accepts and finishes every other message; `reply` answers a fault with the empty
message.
-/

namespace Ricoq

open Sel4

/-- Failure to validate or decode received fault IPC. -/
inductive FaultReceiveError where
  | missingSourceBadge
  | unexpectedCapabilities (capsUnwrapped extraCaps : Nat)
  | messageTooLong (length capacity : Nat)
  | ipc (error : IpcError)
  | decode (error : Fault.FaultDecodeError)
deriving DecidableEq, Repr

/-- One decoded fault retaining its reply authority. -/
structure ReceivedFault where
  source : Badge
  fault : Fault
  received : ReceivedMessage
deriving DecidableEq

namespace FaultEndpoint

/-- How a failure of the generic receive is reported. -/
def receiveError : IpcError → FaultReceiveError
  | .messageTooLong length capacity => .messageTooLong length capacity
  | .receiveCapacityExceeded count _ => .unexpectedCapabilities 0 count
  | other => .ipc other

/-- Blocks until seL4 delivers and validates one fault. -/
def receive (endpoint : Nat) (delivery : Delivery) : Prog FaultReceiveError IpcState ReceivedFault := do
  let received ← (Endpoint.receive endpoint none delivery).mapErr receiveError
  match received.badge with
  | none =>
      received.finish
      Prog.throw .missingSourceBadge
  | some source =>
      let message := received.message
      if message.capsUnwrapped ≠ 0 ∨ message.extraCaps ≠ 0 then
        received.finish
        Prog.throw (.unexpectedCapabilities message.capsUnwrapped message.extraCaps)
      else
        let words ← Prog.lift message.words
        match ← Prog.attempt (Prog.lift (Fault.decode message.label words)) with
        | .ok fault => return { source, fault, received }
        | .error error =>
            received.finish
            Prog.throw (.decode error)

/-- Replies through the authority retained by this exact received fault. -/
def reply (fault : ReceivedFault) : Prog FaultReceiveError IpcState Unit :=
  fault.received.reply Message.emptyReply

end FaultEndpoint
end Ricoq
