import Ricoq.Lib.Word
import Ricoq.Lib.Slice

/-!
# `Fault.Decode` — decoding of the fault IPC ABI

The decoder turns a message label and its registers into a structured `Fault`. The format is nested: the
length of a capability fault depends on a discriminator found inside the message, and two fields must be
exactly 0 or 1. Register accesses are bounds-checked (`index`), so an access the length checks do not
cover shows up as `Outcome.panic` rather than being assumed away.

`encode` is the *reference layout* of each fault class; `Fault.Correctness.Exact` compares the two.
-/

namespace Ricoq

namespace Fault

/-- Context for an AArch64 VM fault. -/
structure VmFault where
  instructionPointer : Word
  address : Word
  instructionFault : Bool
  syndrome : Word
deriving DecidableEq, Repr

/-- Context for an AArch64 unknown-syscall fault; `argumentRegisters` are X0 through X7. -/
structure UnknownSyscallFault where
  argumentRegisters : Vector Word 8
  instructionPointer : Word
  stackPointer : Word
  linkRegister : Word
  statusRegister : Word
  syscallNumber : Word
deriving DecidableEq, Repr

/-- The variable-length lookup details carried by a capability fault. -/
inductive CapabilityLookupFailure where
  | invalidRoot
  | missingCapability (bitsLeft : Word)
  | depthMismatch (bitsLeft bitsFound : Word)
  | guardMismatch (bitsLeft guardFound bitsFound : Word)
deriving DecidableEq, Repr

/-- Context for a capability fault. -/
structure CapabilityFault where
  instructionPointer : Word
  capabilityAddress : Word
  inReceivePhase : Bool
  lookupFailure : CapabilityLookupFailure
deriving DecidableEq, Repr

/-- Failure to decode a fault message. -/
inductive FaultDecodeError where
  | unsupportedLabel (label : Word)
  | unexpectedLength (label : Word) (expected actual : Nat)
  | invalidBoolean (label : Word) (index : Nat) (value : Word)
  | invalidLookupFailureType (type : Word)
deriving DecidableEq, Repr

end Fault

/-- A decoded fault supported by the pinned kernel configuration. -/
inductive Fault where
  | capabilityFault (fault : Fault.CapabilityFault)
  | unknownSyscall (fault : Fault.UnknownSyscallFault)
  | vmFault (fault : Fault.VmFault)
deriving DecidableEq, Repr

namespace Fault

/-! ## The decoder -/

def expectLength (label : Word) (registers : List Word) (expected : Nat) :
    Outcome FaultDecodeError Unit :=
  if registers.length ≠ expected then
    .err (.unexpectedLength label expected registers.length)
  else
    .ok ()

def decodeBoolean (label : Word) (index : Nat) (value : Word) : Outcome FaultDecodeError Bool :=
  if value = 0 then .ok false
  else if value = 1 then .ok true
  else .err (.invalidBoolean label index value)

def decodeVmFault (registers : List Word) : Outcome FaultDecodeError VmFault := do
  expectLength 5 registers 4
  let instructionPointer ← index registers 0
  let address ← index registers 1
  let instructionFault ← decodeBoolean 5 2 (← index registers 2)
  let syndrome ← index registers 3
  return { instructionPointer, address, instructionFault, syndrome }

/-- `[0; 8].copy_from_slice(&registers[..8])`: aborts unless the slice has eight registers. -/
def copyArgumentRegisters (registers : List Word) : Outcome FaultDecodeError (Vector Word 8) :=
  if h : (registers.take 8).toArray.size = 8 then .ok ⟨(registers.take 8).toArray, h⟩ else .panic

def decodeUnknownSyscall (registers : List Word) : Outcome FaultDecodeError UnknownSyscallFault := do
  expectLength 2 registers 13
  let argumentRegisters ← copyArgumentRegisters registers
  let instructionPointer ← index registers 8
  let stackPointer ← index registers 9
  let linkRegister ← index registers 10
  let statusRegister ← index registers 11
  let syscallNumber ← index registers 12
  return { argumentRegisters, instructionPointer, stackPointer, linkRegister, statusRegister,
           syscallNumber }

/-- The discriminator in register 3 selects both the shape and the exact length of the message. -/
def decodeLookupFailure (registers : List Word) (type : Word) :
    Outcome FaultDecodeError CapabilityLookupFailure := do
  if type = 1 then
    expectLength 1 registers 4
    return .invalidRoot
  else if type = 2 then
    expectLength 1 registers 5
    return .missingCapability (← index registers 4)
  else if type = 3 then
    expectLength 1 registers 6
    return .depthMismatch (← index registers 4) (← index registers 5)
  else if type = 4 then
    expectLength 1 registers 7
    return .guardMismatch (← index registers 4) (← index registers 5) (← index registers 6)
  else
    .err (.invalidLookupFailureType type)

def decodeCapabilityFault (registers : List Word) : Outcome FaultDecodeError CapabilityFault := do
  if registers.length < 4 then
    .err (.unexpectedLength 1 4 registers.length)
  else
    let lookupFailure ← decodeLookupFailure registers (← index registers 3)
    let instructionPointer ← index registers 0
    let capabilityAddress ← index registers 1
    let inReceivePhase ← decodeBoolean 1 2 (← index registers 2)
    return { instructionPointer, capabilityAddress, inReceivePhase, lookupFailure }

/-- Decodes a complete fault message after validating its exact shape. -/
def decode (label : Word) (registers : List Word) : Outcome FaultDecodeError Fault :=
  if label = 1 then (decodeCapabilityFault registers).map .capabilityFault
  else if label = 2 then (decodeUnknownSyscall registers).map .unknownSyscall
  else if label = 5 then (decodeVmFault registers).map .vmFault
  else .err (.unsupportedLabel label)

/-! ## The reference layout -/

/-- The register holding a boolean field. -/
def boolWord (b : Bool) : Word := if b then 1 else 0

/-- The discriminator and the detail registers of a lookup failure. -/
def CapabilityLookupFailure.encode : CapabilityLookupFailure → Word × List Word
  | .invalidRoot                                 => (1, [])
  | .missingCapability bitsLeft                  => (2, [bitsLeft])
  | .depthMismatch bitsLeft bitsFound            => (3, [bitsLeft, bitsFound])
  | .guardMismatch bitsLeft guardFound bitsFound => (4, [bitsLeft, guardFound, bitsFound])

/-- The label and the registers the kernel sends for a fault. -/
def encode : Fault → Word × List Word
  | .capabilityFault f =>
      (1, f.instructionPointer :: f.capabilityAddress :: boolWord f.inReceivePhase ::
          f.lookupFailure.encode.1 :: f.lookupFailure.encode.2)
  | .unknownSyscall f =>
      (2, f.argumentRegisters.toList ++
          [f.instructionPointer, f.stackPointer, f.linkRegister, f.statusRegister, f.syscallNumber])
  | .vmFault f => (5, [f.instructionPointer, f.address, boolWord f.instructionFault, f.syndrome])

end Fault

end Ricoq
