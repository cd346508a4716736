import Ricoq.Lib.Slice
import Ricoq.Sel4.MessageInfo

/-!
# `Ipc.Message` — bounded messages and their transfer through the IPC buffer

`Message` is an allocation-free copy of a message: two fixed arrays with the number of elements in use.
The constructors (`Message.new`, `Message.withCapabilities`, `Message.received`) check the counts against
the crate's own capacities; `Message.prepare` later copies the used prefixes into the IPC buffer, whose
arrays have the sizes of the seL4 ABI. Every slice access is bounds-checked, so a disagreement between
the two sets of sizes is a `panic` of `prepare`.
-/

namespace Ricoq

open Sel4

/-- `MESSAGE_CAPACITY`. -/
abbrev messageCapacity : Nat := numMessageRegisters

/-- `EXTRA_CAPACITY`. -/
def extraCapacity : Nat := 4

/-- Recoverable IPC validation or ownership failure. -/
inductive IpcError where
  | messageTooLong (length capacity : Nat)
  | tooManyCapabilities (count capacity : Nat)
  | invalidMessageIndex (index length : Nat)
  | receiveCapacityExceeded (count capacity : Nat)
  | invalidReceiveSlot
  | invalidReceivePath
  | replyPending
  | noReplySlots
  | noReplyAuthority
  | replyCapabilityOperationFailed
deriving DecidableEq, Repr

/-- A fixed-capacity message and its outgoing capability slots. The two bounds are what every
    constructor checks. -/
structure Message where
  label : Word
  storage : Vector Word messageCapacity
  length : Nat
  capabilities : Vector Word extraCapacity
  extraCaps : Nat
  capsUnwrapped : Nat
  length_le : length ≤ messageCapacity
  extraCaps_le : extraCaps ≤ extraCapacity
deriving DecidableEq

namespace Message

def empty (label : Word) : Message where
  label := label
  storage := Vector.replicate _ 0
  length := 0
  capabilities := Vector.replicate _ 0
  extraCaps := 0
  capsUnwrapped := 0
  length_le := Nat.zero_le _
  extraCaps_le := Nat.zero_le _

def emptyReply : Message := empty 0

/-- `for (destination, capability) in dst.iter_mut().zip(src)`: elements without a partner stay. -/
def assignZip {α : Type} {n : Nat} (dst : Vector α n) (src : List α) : Vector α n :=
  Vector.ofFn fun i => src[i.val]?.getD dst[i]

def withCapabilities (label : Word) (words capabilities : List Word) : Outcome IpcError Message :=
  if hw : words.length > messageCapacity then
    .err (.messageTooLong words.length messageCapacity)
  else if hc : capabilities.length > extraCapacity then
    .err (.tooManyCapabilities capabilities.length extraCapacity)
  else do
    let message := empty label
    let storage ← copyPrefix message.storage words.length words
    return { message with
      storage
      length := words.length
      capabilities := assignZip message.capabilities capabilities
      extraCaps := capabilities.length
      length_le := Nat.not_lt.mp hw
      extraCaps_le := Nat.not_lt.mp hc }

def new (label : Word) (words : List Word) : Outcome IpcError Message :=
  withCapabilities label words []

/-- The payload reported for the message, `&self.words[..self.length]`. -/
def words {ε : Type} (message : Message) : Outcome ε (List Word) :=
  slicePrefix message.storage message.length

/-- Reads one reported message word after explicit bounds validation. -/
def word (message : Message) (index : Nat) : Outcome IpcError Word :=
  if index ≥ message.length then
    .err (.invalidMessageIndex index message.length)
  else
    match message.storage[index]? with
    | some w => .ok w
    | none   => .err (.invalidMessageIndex index message.length)

/-- Copies the message into the IPC buffer and builds its info word. -/
def prepare {ε : Type} (message : Message) (buffer : IpcBuffer) : Outcome ε (IpcBuffer × MessageInfo) := do
  let msgRegs ← copyPrefix buffer.msgRegs message.length (← message.words)
  let capabilities ← slicePrefix message.capabilities message.extraCaps
  let capsOrBadges ← copyPrefix buffer.capsOrBadges message.extraCaps capabilities
  return ({ buffer with msgRegs, capsOrBadges },
          MessageInfo.build message.label 0 message.extraCaps message.length)

/-- Copies a received message out of the IPC buffer. -/
def received (buffer : IpcBuffer) (info : MessageInfo) : Outcome IpcError Message :=
  if hl : info.length > messageCapacity then
    .err (.messageTooLong info.length messageCapacity)
  else if hc : info.extraCaps > extraCapacity then
    .err (.tooManyCapabilities info.extraCaps extraCapacity)
  else do
    let message := empty info.label
    let storage ← copyPrefix message.storage info.length (← slicePrefix buffer.msgRegs info.length)
    return { message with
      storage
      length := info.length
      extraCaps := info.extraCaps
      capsUnwrapped := info.capsUnwrapped
      length_le := Nat.not_lt.mp hl
      extraCaps_le := Nat.not_lt.mp hc }

/-! ## What the functions return

The payload of a message as a plain list, and each function in closed form. -/

/-- The words in use. -/
def payload (message : Message) : List Word := message.storage.toList.take message.length

@[simp] theorem length_payload (message : Message) : message.payload.length = message.length := by
  have := message.length_le
  simp [payload]; omega

@[simp] theorem words_eq {ε : Type} (message : Message) :
    (message.words : Outcome ε (List Word)) = .ok message.payload := slicePrefix_of_le message.length_le

theorem word_of_lt {message : Message} {i : Nat} (h : i < message.payload.length) :
    message.word i = .ok message.payload[i] := by
  have hlen : i < message.length := by simpa using h
  have hcap : i < messageCapacity := Nat.lt_of_lt_of_le hlen message.length_le
  rw [word, if_neg (Nat.not_le.mpr hlen), Vector.getElem?_eq_getElem hcap]
  simp [payload]

theorem word_of_ge {message : Message} {i : Nat} (h : message.length ≤ i) :
    message.word i = .err (.invalidMessageIndex i message.length) := if_pos h

/-- A message is determined by its data, the two bounds follow. -/
theorem mk_eq_iff {label : Word} {storage length capabilities extraCaps capsUnwrapped length_le extraCaps_le}
    {message : Message} :
    Message.mk label storage length capabilities extraCaps capsUnwrapped length_le extraCaps_le = message ↔
      message.label = label ∧ message.storage = storage ∧ message.length = length ∧
      message.capabilities = capabilities ∧ message.extraCaps = extraCaps ∧
      message.capsUnwrapped = capsUnwrapped := by
  constructor
  · rintro rfl
    exact ⟨rfl, rfl, rfl, rfl, rfl, rfl⟩
  · intro h
    obtain ⟨l, s, n, cs, e, u, _, _⟩ := message
    obtain ⟨rfl, rfl, rfl, rfl, rfl, rfl⟩ := h
    rfl

/-- Construction succeeds exactly within the two capacities, and stores what it was given. -/
theorem withCapabilities_eq_ok {label : Word} {words capabilities : List Word} {message : Message} :
    withCapabilities label words capabilities = .ok message ↔
      words.length ≤ messageCapacity ∧ capabilities.length ≤ extraCapacity ∧
      message.label = label ∧ message.storage = overwrite (Vector.replicate _ 0) words ∧
      message.length = words.length ∧
      message.capabilities = assignZip (Vector.replicate _ 0) capabilities ∧
      message.extraCaps = capabilities.length ∧ message.capsUnwrapped = 0 := by
  unfold withCapabilities
  by_cases hw : words.length > messageCapacity
  · simp [hw, Nat.not_le.mpr hw]
  by_cases hc : capabilities.length > extraCapacity
  · simp [hw, hc, Nat.not_le.mpr hc]
  · have hw' := Nat.not_lt.mp hw
    have hc' := Nat.not_lt.mp hc
    simp only [hw, hc, dif_neg, not_false_eq_true, copyPrefix_of_le hw' rfl, Outcome.ok_bind,
      Outcome.pure_eq, Outcome.ok.injEq]
    rw [mk_eq_iff]
    simp only [empty, hw', hc', true_and]

/-- The payload of a new message is the word list it was made from. -/
theorem payload_of_withCapabilities {label : Word} {words capabilities : List Word} {message : Message}
    (h : withCapabilities label words capabilities = .ok message) : message.payload = words := by
  obtain ⟨hw, -, -, hs, hl, -⟩ := withCapabilities_eq_ok.mp h
  rw [payload, hs, hl]
  exact take_overwrite hw

/-- The capability words in use. -/
def outgoing (message : Message) : List Word := message.capabilities.toList.take message.extraCaps

theorem length_outgoing (message : Message) : message.outgoing.length = message.extraCaps := by
  have := message.extraCaps_le
  simp [outgoing]; omega

theorem slice_capabilities {ε : Type} (message : Message) :
    (slicePrefix message.capabilities message.extraCaps : Outcome ε (List Word)) = .ok message.outgoing :=
  slicePrefix_of_le message.extraCaps_le

/-- **When `prepare` returns, and what.** The message fits the buffer's registers by construction, so the
    only access that can abort is the one to the extra-capability words. -/
theorem prepare_of_le {ε : Type} {message : Message} (h : message.extraCaps ≤ msgMaxExtraCaps)
    (buffer : IpcBuffer) :
    (message.prepare buffer : Outcome ε _) = .ok
      ({ buffer with
          msgRegs := overwrite buffer.msgRegs message.payload
          capsOrBadges := overwrite buffer.capsOrBadges message.outgoing },
        MessageInfo.build message.label 0 message.extraCaps message.length) := by
  simp only [prepare, words_eq, Outcome.ok_bind, slice_capabilities]
  rw [copyPrefix_of_le message.length_le message.length_payload, Outcome.ok_bind,
    copyPrefix_of_le h message.length_outgoing]
  rfl

theorem prepare_of_gt {ε : Type} {message : Message} (h : msgMaxExtraCaps < message.extraCaps)
    (buffer : IpcBuffer) : (message.prepare buffer : Outcome ε _) = .panic := by
  simp only [prepare, words_eq, Outcome.ok_bind, slice_capabilities]
  rw [copyPrefix_of_le message.length_le message.length_payload, Outcome.ok_bind, copyPrefix_of_lt h]
  rfl

/-- A received message carries the fields of its info word and the registers it reports. -/
theorem received_eq_ok {buffer : IpcBuffer} {info : MessageInfo} {message : Message} :
    received buffer info = .ok message ↔
      info.length ≤ messageCapacity ∧ message.label = info.label ∧
      message.storage = overwrite (Vector.replicate _ 0) (buffer.msgRegs.toList.take info.length) ∧
      message.length = info.length ∧ message.capabilities = Vector.replicate _ 0 ∧
      message.extraCaps = info.extraCaps ∧ message.capsUnwrapped = info.capsUnwrapped := by
  have hc : ¬ info.extraCaps > extraCapacity := by
    have := info.extraCaps_le
    simp only [msgMaxExtraCaps, extraCapacity] at *
    omega
  unfold received
  by_cases hl : info.length > messageCapacity
  · simp [hl, Nat.not_le.mpr hl]
  · have hl' : info.length ≤ numMessageRegisters := Nat.not_lt.mp hl
    have hlen : (buffer.msgRegs.toList.take info.length).length = info.length := by simp; omega
    simp only [hl, hc, dif_neg, not_false_eq_true, slicePrefix_of_le hl', Outcome.ok_bind,
      copyPrefix_of_le hl' hlen, Outcome.pure_eq, Outcome.ok.injEq]
    have hl'' : info.length ≤ messageCapacity := hl'
    rw [mk_eq_iff]
    simp only [empty, hl'', true_and]

/-- The payload of a received message is what the registers in use hold. -/
theorem payload_of_received {buffer : IpcBuffer} {info : MessageInfo} {message : Message}
    (h : received buffer info = .ok message) :
    message.payload = buffer.msgRegs.toList.take info.length := by
  obtain ⟨hlen, -, hstorage, hlength, -⟩ := received_eq_ok.mp h
  have htake : (buffer.msgRegs.toList.take info.length).length = info.length := by
    rw [List.length_take, Vector.length_toList]
    exact Nat.min_eq_left hlen
  have hfits : (buffer.msgRegs.toList.take info.length).length ≤ messageCapacity :=
    Nat.le_trans (Nat.le_of_eq htake) hlen
  rw [payload, hstorage, hlength]
  have hread : (overwrite (Vector.replicate messageCapacity (0 : Word))
      (buffer.msgRegs.toList.take info.length)).toList.take _ = _ := take_overwrite hfits
  rwa [htake] at hread

/-- Decoding fails only on a length beyond the message registers. -/
theorem received_cases (buffer : IpcBuffer) (info : MessageInfo) :
    (∃ message, received buffer info = .ok message) ∨
    (messageCapacity < info.length ∧
      received buffer info = .err (.messageTooLong info.length messageCapacity)) := by
  by_cases hl : info.length > messageCapacity
  · exact Or.inr ⟨hl, by simp [received, hl]⟩
  · have hc : info.extraCaps ≤ extraCapacity := by
      have := info.extraCaps_le
      simp only [msgMaxExtraCaps, extraCapacity] at *
      omega
    exact Or.inl ⟨⟨info.label, _, info.length, _, info.extraCaps, info.capsUnwrapped,
      Nat.not_lt.mp hl, hc⟩, received_eq_ok.mpr ⟨Nat.not_lt.mp hl, rfl, rfl, rfl, rfl, rfl, rfl⟩⟩

end Message
end Ricoq
