import Ricoq.Fault.Decode

/-!
# `Fault.Correctness.Exact` — the fault decoder against its reference layout

`Fault.decode` and `Fault.encode` are inverse to each other, and everything `encode` does not produce is
rejected with an error that names a real defect of the input:

* `decode_encode` — every fault survives the trip through its reference layout;
* `decode_cases` — every label and register list is *either* the layout of the fault that is returned *or*
  has the defect that the error reports. No third outcome exists, so in particular no register access is
  out of bounds;
* `decode_exact` — the two combined, over all labels and register lists.

The per-class lemmas (`decodeVmFault_cases`, …) do the case analysis once, over the shape of the list.
-/

namespace Ricoq
namespace Fault

/-! ## What an error may claim -/

/-- The number of registers the fault class requires. A capability fault needs four registers before its
    discriminator can be read, and `3 + type` with it. -/
def requiredLength (label : Word) (registers : List Word) : Option Nat :=
  if label = 1 then
    match registers[3]? with
    | none      => some 4
    | some type => if type ∈ [1, 2, 3, 4] then some (3 + type.toNat) else none
  else if label = 2 then some 13
  else if label = 5 then some 4
  else none

/-- `Defect label registers e`: the input really has the defect that `e` names. -/
def Defect (label : Word) (registers : List Word) : FaultDecodeError → Prop
  | .unsupportedLabel l => l = label ∧ label ∉ [1, 2, 5]
  | .unexpectedLength l expected actual =>
      l = label ∧ actual = registers.length ∧ requiredLength label registers = some expected ∧
      actual ≠ expected
  | .invalidBoolean l i value =>
      l = label ∧ label ∈ [1, 5] ∧ i = 2 ∧ registers[i]? = some value ∧ value ∉ [0, 1]
  | .invalidLookupFailureType type =>
      label = 1 ∧ registers[3]? = some type ∧ type ∉ [1, 2, 3, 4]

/-! ## Field decoders -/

theorem expectLength_of_ne {label : Word} {registers : List Word} {n : Nat}
    (h : registers.length ≠ n) :
    expectLength label registers n = .err (.unexpectedLength label n registers.length) := by
  simp [expectLength, h]

@[simp] theorem decodeBoolean_boolWord (label : Word) (i : Nat) (b : Bool) :
    decodeBoolean label i (boolWord b) = .ok b := by
  cases b <;> rfl

/-- A register is the encoding of a boolean, or it is reported with its value. -/
theorem decodeBoolean_cases (label : Word) (i : Nat) (value : Word) :
    (∃ b, value = boolWord b) ∨
    (value ∉ [0, 1] ∧ decodeBoolean label i value = .err (.invalidBoolean label i value)) := by
  by_cases h0 : value = 0#64
  · exact Or.inl ⟨false, h0⟩
  · by_cases h1 : value = 1#64
    · exact Or.inl ⟨true, h1⟩
    · exact Or.inr ⟨by simp [h0, h1], by simp [decodeBoolean, h0, h1]⟩

/-! ## The three fault classes -/

theorem decodeVmFault_encode (f : VmFault) : decodeVmFault (encode (.vmFault f)).2 = .ok f := by
  simp [decodeVmFault, encode, expectLength]

theorem decodeVmFault_cases (registers : List Word) :
    (∃ f, encode (.vmFault f) = (5, registers) ∧ decodeVmFault registers = .ok f) ∨
    (∃ e, Defect 5 registers e ∧ decodeVmFault registers = .err e) := by
  by_cases hlen : registers.length = 4
  · match registers, hlen with
    | [ip, addr, value, syndrome], _ =>
      rcases decodeBoolean_cases 5#64 2 value with ⟨b, hb⟩ | ⟨hbad, herr⟩
      · refine Or.inl ⟨⟨ip, addr, b, syndrome⟩, by rw [hb]; rfl, ?_⟩
        rw [hb]
        exact decodeVmFault_encode ⟨ip, addr, b, syndrome⟩
      · refine Or.inr ⟨.invalidBoolean 5 2 value, ⟨rfl, by decide, rfl, rfl, hbad⟩, ?_⟩
        simp [decodeVmFault, expectLength, herr]
  · refine Or.inr ⟨.unexpectedLength 5 4 registers.length, ⟨rfl, rfl, rfl, hlen⟩, ?_⟩
    simp [decodeVmFault, expectLength_of_ne hlen]

theorem decodeUnknownSyscall_encode (f : UnknownSyscallFault) :
    decodeUnknownSyscall (encode (.unknownSyscall f)).2 = .ok f := by
  obtain ⟨⟨args, hargs⟩, ip, sp, lr, spsr, syscall⟩ := f
  obtain ⟨args⟩ := args
  match args, hargs with
  | [_, _, _, _, _, _, _, _], _ => rfl

theorem decodeUnknownSyscall_cases (registers : List Word) :
    (∃ f, encode (.unknownSyscall f) = (2, registers) ∧ decodeUnknownSyscall registers = .ok f) ∨
    (∃ e, Defect 2 registers e ∧ decodeUnknownSyscall registers = .err e) := by
  by_cases hlen : registers.length = 13
  · match registers, hlen with
    | [x0, x1, x2, x3, x4, x5, x6, x7, ip, sp, lr, spsr, syscall], _ =>
      exact Or.inl ⟨⟨#v[x0, x1, x2, x3, x4, x5, x6, x7], ip, sp, lr, spsr, syscall⟩, rfl, rfl⟩
  · refine Or.inr ⟨.unexpectedLength 2 13 registers.length, ⟨rfl, rfl, rfl, hlen⟩, ?_⟩
    simp [decodeUnknownSyscall, expectLength_of_ne hlen]

theorem decodeCapabilityFault_encode (f : CapabilityFault) :
    decodeCapabilityFault (encode (.capabilityFault f)).2 = .ok f := by
  obtain ⟨ip, addr, phase, failure⟩ := f
  cases failure <;>
    simp [decodeCapabilityFault, decodeLookupFailure, encode, CapabilityLookupFailure.encode, expectLength]

/-- A lookup type fixes the number of registers; any other number is reported. -/
theorem decodeLookupFailure_length {ip addr phase type : Word} {rest : List Word} (htype : type ∈ [1, 2, 3, 4])
    (hlen : rest.length + 1 ≠ type.toNat) :
    ∃ e, Defect 1 (ip :: addr :: phase :: type :: rest) e ∧
      decodeLookupFailure (ip :: addr :: phase :: type :: rest) type = .err e := by
  have hexpect : expectLength 1 (ip :: addr :: phase :: type :: rest) (3 + type.toNat) =
      .err (.unexpectedLength 1 (3 + type.toNat) (rest.length + 4)) :=
    expectLength_of_ne (by simp only [List.length_cons]; omega)
  refine ⟨.unexpectedLength 1 (3 + type.toNat) (rest.length + 4), ⟨rfl, rfl, ?_, by omega⟩, ?_⟩
  · show (if type ∈ [1, 2, 3, 4] then some (3 + type.toNat) else none) = _
    rw [if_pos htype]
  · simp only [List.mem_cons, List.not_mem_nil, or_false] at htype
    rcases htype with rfl | rfl | rfl | rfl <;> exact congrArg (· >>= _) hexpect

/-- The lookup details against their layout: `rest` is what follows the discriminator. -/
theorem decodeLookupFailure_cases (ip addr phase type : Word) (rest : List Word) :
    (∃ failure : CapabilityLookupFailure, failure.encode = (type, rest) ∧
        decodeLookupFailure (ip :: addr :: phase :: type :: rest) type = .ok failure) ∨
    (∃ e, Defect 1 (ip :: addr :: phase :: type :: rest) e ∧
        decodeLookupFailure (ip :: addr :: phase :: type :: rest) type = .err e) := by
  by_cases htype : type ∈ [1, 2, 3, 4]
  · by_cases hlen : rest.length + 1 = type.toNat
    · simp only [List.mem_cons, List.not_mem_nil, or_false] at htype
      left
      rcases htype with rfl | rfl | rfl | rfl
      · have hrest : rest.length = 0 := Nat.succ.inj hlen
        match rest, hrest with
        | [], _ => exact ⟨.invalidRoot, rfl, rfl⟩
      · have hrest : rest.length = 1 := Nat.succ.inj hlen
        match rest, hrest with
        | [bitsLeft], _ => exact ⟨.missingCapability bitsLeft, rfl, rfl⟩
      · have hrest : rest.length = 2 := Nat.succ.inj hlen
        match rest, hrest with
        | [bitsLeft, bitsFound], _ => exact ⟨.depthMismatch bitsLeft bitsFound, rfl, rfl⟩
      · have hrest : rest.length = 3 := Nat.succ.inj hlen
        match rest, hrest with
        | [bitsLeft, guardFound, bitsFound], _ =>
          exact ⟨.guardMismatch bitsLeft guardFound bitsFound, rfl, rfl⟩
    · exact Or.inr (decodeLookupFailure_length htype hlen)
  · refine Or.inr ⟨.invalidLookupFailureType type, ⟨rfl, rfl, htype⟩, ?_⟩
    simp only [List.mem_cons, List.not_mem_nil, or_false, not_or] at htype
    obtain ⟨h1, h2, h3, h4⟩ := htype
    rw [decodeLookupFailure, if_neg h1, if_neg h2, if_neg h3, if_neg h4]

/-- With four registers present the length check passes and the discriminator is decoded first. -/
theorem decodeCapabilityFault_cons (ip addr phase type : Word) (rest : List Word) :
    decodeCapabilityFault (ip :: addr :: phase :: type :: rest) = (do
      let lookupFailure ← decodeLookupFailure (ip :: addr :: phase :: type :: rest) type
      let inReceivePhase ← decodeBoolean 1 2 phase
      return ⟨ip, addr, inReceivePhase, lookupFailure⟩) := by
  have hlen : ¬ (ip :: addr :: phase :: type :: rest).length < 4 := by simp only [List.length_cons]; omega
  unfold decodeCapabilityFault
  rw [if_neg hlen]
  rfl

theorem exists_four_cons {registers : List Word} (h : ¬ registers.length < 4) :
    ∃ a b c d rest, registers = a :: b :: c :: d :: rest := by
  match registers with
  | a :: b :: c :: d :: rest => exact ⟨a, b, c, d, rest, rfl⟩
  | [] | [_] | [_, _] | [_, _, _] => simp at h

theorem decodeCapabilityFault_cases (registers : List Word) :
    (∃ f, encode (.capabilityFault f) = (1, registers) ∧ decodeCapabilityFault registers = .ok f) ∨
    (∃ e, Defect 1 registers e ∧ decodeCapabilityFault registers = .err e) := by
  by_cases hlen : registers.length < 4
  · refine Or.inr ⟨.unexpectedLength 1 4 registers.length, ⟨rfl, rfl, ?_, by omega⟩, ?_⟩
    · simp [requiredLength, List.getElem?_eq_none (Nat.le_of_lt_succ hlen)]
    · simp [decodeCapabilityFault, hlen]
  · obtain ⟨ip, addr, phase, type, rest, rfl⟩ := exists_four_cons hlen
    rw [decodeCapabilityFault_cons]
    rcases decodeLookupFailure_cases ip addr phase type rest with ⟨failure, henc, hok⟩ | ⟨e, hdef, herr⟩
    · rcases decodeBoolean_cases 1#64 2 phase with ⟨b, hb⟩ | ⟨hbad, herr⟩
      · refine Or.inl ⟨⟨ip, addr, b, failure⟩, by simp [encode, henc, hb], ?_⟩
        rw [hok, hb]
        simp
      · exact Or.inr ⟨.invalidBoolean 1 2 phase, ⟨rfl, by decide, rfl, rfl, hbad⟩, by simp [hok, herr]⟩
    · exact Or.inr ⟨e, hdef, by simp [herr]⟩

/-! ## The decoder -/

/-- **Encoding loses nothing.** -/
theorem decode_encode (f : Fault) : decode f.encode.1 f.encode.2 = .ok f := by
  cases f with
  | capabilityFault f => exact Outcome.map_eq_ok.mpr ⟨f, decodeCapabilityFault_encode f, rfl⟩
  | unknownSyscall f => exact Outcome.map_eq_ok.mpr ⟨f, decodeUnknownSyscall_encode f, rfl⟩
  | vmFault f => exact Outcome.map_eq_ok.mpr ⟨f, decodeVmFault_encode f, rfl⟩

/-- **Every input is accepted for what it is, or rejected for a defect it has.** -/
theorem decode_cases (label : Word) (registers : List Word) :
    (∃ f, encode f = (label, registers) ∧ decode label registers = .ok f) ∨
    (∃ e, Defect label registers e ∧ decode label registers = .err e) := by
  by_cases h1 : label = 1#64
  · subst h1
    rcases decodeCapabilityFault_cases registers with ⟨f, henc, hok⟩ | ⟨e, hdef, herr⟩
    · exact Or.inl ⟨_, henc, by simp [decode, hok]⟩
    · exact Or.inr ⟨e, hdef, by simp [decode, herr]⟩
  by_cases h2 : label = 2#64
  · subst h2
    rcases decodeUnknownSyscall_cases registers with ⟨f, henc, hok⟩ | ⟨e, hdef, herr⟩
    · exact Or.inl ⟨_, henc, by simp [decode, hok]⟩
    · exact Or.inr ⟨e, hdef, by simp [decode, herr]⟩
  by_cases h5 : label = 5#64
  · subst h5
    rcases decodeVmFault_cases registers with ⟨f, henc, hok⟩ | ⟨e, hdef, herr⟩
    · exact Or.inl ⟨_, henc, by simp [decode, hok]⟩
    · exact Or.inr ⟨e, hdef, by simp [decode, herr]⟩
  · exact Or.inr ⟨.unsupportedLabel label, ⟨rfl, by simp [h1, h2, h5]⟩, by simp [decode, h1, h2, h5]⟩

/-- What is accepted is the reference layout of what is returned. -/
theorem encode_of_decode {label : Word} {registers : List Word} {f : Fault}
    (h : decode label registers = .ok f) : encode f = (label, registers) := by
  rcases decode_cases label registers with ⟨g, henc, hok⟩ | ⟨e, _, herr⟩
  · rw [h] at hok
    injection hok with hfg
    rw [hfg, henc]
  · rw [h] at herr
    injection herr

/-- **Fault decoding is exact.** Decoding inverts the reference layout on every fault, accepts nothing
    else, never aborts, and every error names a defect the input really has. -/
theorem decode_exact :
    (∀ f : Fault, decode f.encode.1 f.encode.2 = .ok f) ∧
    (∀ label registers f, decode label registers = .ok f → encode f = (label, registers)) ∧
    (∀ label registers, (∀ f : Fault, f.encode ≠ (label, registers)) →
        ∃ e, decode label registers = .err e) ∧
    (∀ label registers, decode label registers ≠ .panic) ∧
    (∀ label registers e, decode label registers = .err e → Defect label registers e) := by
  refine ⟨decode_encode, fun _ _ _ h => encode_of_decode h, ?_, ?_, ?_⟩
  · intro label registers hne
    rcases decode_cases label registers with ⟨f, henc, _⟩ | ⟨e, _, herr⟩
    · exact absurd henc (hne f)
    · exact ⟨e, herr⟩
  · intro label registers hp
    rcases decode_cases label registers with ⟨f, _, hok⟩ | ⟨e, _, herr⟩
    · rw [hp] at hok; injection hok
    · rw [hp] at herr; injection herr
  · intro label registers e he
    rcases decode_cases label registers with ⟨f, _, hok⟩ | ⟨e', hdef, herr⟩
    · rw [he] at hok; injection hok
    · rw [he] at herr
      injection herr with hee
      exact hee ▸ hdef

end Fault
end Ricoq
