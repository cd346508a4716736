import Ricoq.Boot.Bootstrap
import Ricoq.Ipc.Endpoint

/-!
# `Boot.CSpace` — creation and explicit population of child capability spaces

A child CSpace is one CNode. It is populated with the delegated capabilities and the optional fault route,
each minted at its own destination, and the destinations are marked in the slot tracker. `validate` rejects
null, out-of-range and duplicate destinations before anything is allocated.
-/

namespace Ricoq

open Sel4

/-- A capability to install explicitly in a task's CSpace. -/
structure DelegatedCapability where
  source : Nat
  destination : Nat
  rights : CapRights
  badge : Word
deriving DecidableEq, Repr

namespace DelegatedCapability

/-- Delegates only signalling authority for a notification. -/
def notification (source destination : Nat) : DelegatedCapability :=
  ⟨source, destination, .writeOnly, 0⟩

/-- Delegates signalling authority with a distinguishable badge. -/
def badgedNotification (source destination : Nat) (badge : Badge) : DelegatedCapability :=
  ⟨source, destination, .writeOnly, badge.raw⟩

/-- Delegates call and send authority to a shared endpoint with a source badge. -/
def badgedEndpoint (source destination : Nat) (badge : Badge) : DelegatedCapability :=
  ⟨source, destination, ⟨false, true, true, false⟩, badge.raw⟩

end DelegatedCapability

/-- A task's badged capability route to a shared fault endpoint. -/
structure FaultRoute where
  delegation : DelegatedCapability
deriving DecidableEq, Repr

namespace FaultRoute

def new (endpoint : Nat) (badge : Badge) (childSlot : Nat) : FaultRoute :=
  ⟨.badgedEndpoint endpoint childSlot badge⟩

def childSlot (route : FaultRoute) : Nat := route.delegation.destination

end FaultRoute

/-- A single-level CSpace held by the parent: the root slot of its CNode, and the slot tracker. -/
structure CSpace where
  root : Nat
  sizeBits : Nat
  slots : SlotTracker
deriving DecidableEq

namespace CSpace

/-- The number of slots, `1 << size_bits`. -/
def capacity (sizeBits : Nat) : Except BootstrapError Nat :=
  if sizeBits = 0 ∨ sizeBits ≥ wordBits then
    .error .invalidTaskConfiguration
  else
    match (tryFromU32 sizeBits).bind (checkedShl 1) with
    | some capacity => .ok capacity
    | none          => .error .invalidTaskConfiguration

/-- Reject null, out-of-range or duplicate destinations and null sources; `prior` are those before. -/
def validateCapabilities (capacity : Nat) (prior : List DelegatedCapability) :
    List DelegatedCapability → Except BootstrapError Unit
  | [] => .ok ()
  | capability :: rest =>
      if capability.destination = 0 ∨ capability.destination ≥ capacity ∨ capability.source = 0 ∨
          (∃ c ∈ prior, c.destination = capability.destination) then
        .error .invalidTaskConfiguration
      else
        validateCapabilities capacity (prior ++ [capability]) rest

/-- Rejects invalid, null, out-of-range, or duplicate destinations. -/
def validate (sizeBits : Nat) (capabilities : List DelegatedCapability) (faultRoute : Option FaultRoute) :
    Except BootstrapError Unit := do
  let capacity ← capacity sizeBits
  if sizeBits = 0 ∨ sizeBits ≥ wordBits then
    .error .invalidTaskConfiguration
  else
    validateCapabilities capacity [] capabilities
    match faultRoute with
    | none => .ok ()
    | some route =>
        if route.delegation.destination = 0 ∨ route.delegation.destination ≥ capacity ∨
            route.delegation.source = 0 ∨
            (∃ c ∈ capabilities, c.destination = route.delegation.destination) then
          .error .invalidTaskConfiguration
        else
          .ok ()

variable (h : Host)

/-- Mint one capability and record its destination, which is a word already. -/
def install (cspace : CSpace) (capability : DelegatedCapability) : Boot CSpace := do
  Bootstrap.kernelOp
    (invoke h.machine (.mint cspace.root capability.destination cspace.sizeBits capability.source
      capability.rights capability.badge)) .cspaceCreationFailed
  match cspace.slots.markOccupied capability.destination with
  | .ok slots => return { cspace with slots }
  | .error _  => Prog.throw .invalidTaskConfiguration

/-- Creates an empty CNode and installs only explicit delegations. -/
def create (sizeBits : Nat) (capabilities : List DelegatedCapability) (faultRoute : Option FaultRoute) :
    Boot CSpace := do
  Prog.ofExcept (validate sizeBits capabilities faultRoute)
  let root ← Bootstrap.allocateBlueprint h (.cnode sizeBits)
  let capacity ← Prog.ofExcept (capacity sizeBits)
  match SlotTracker.tryNew capacity with
  | .error _ => Prog.throw .invalidTaskConfiguration
  | .ok slots =>
      let cspace ← capabilities.foldlM (install h) ⟨root, sizeBits, slots⟩
      match faultRoute with
      | some route => install h cspace route.delegation
      | none       => return cspace

/-- The guard required for this single-level CSpace: its value and its width. -/
def rootData (cspace : CSpace) : Nat × Nat := (0, wordBits - cspace.sizeBits)

end CSpace
end Ricoq
