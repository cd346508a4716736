import Ricoq.Ipc.Message

/-!
# `Ipc.Correctness.Transfer` — what survives the way through the IPC buffer

Two questions about messages as data, before any endpoint is involved:

* **can it be sent?** A message is `Sendable` when `prepare` returns for every buffer and the info word
  carries its counts. The constructors accept up to `extraCapacity = 4` capabilities while the buffer has
  `msgMaxExtraCaps = 3` words for them, so this holds exactly up to three (`sendable_iff`).
* **does it come back?** `roundTrip` prepares a message on one side, lets the kernel copy the reported
  registers, and decodes on the other side. Everything comes back except the bits of the label above the
  52 the info word has room for (`roundTrip_of_new`).
-/

namespace Ricoq
namespace Message

open Sel4

/-! ## Sending -/

/-- `prepare` performs no access out of bounds, and the info word carries the message's counts. -/
def Sendable (message : Message) : Prop :=
  ∀ buffer : IpcBuffer, ∃ buffer' info, (message.prepare buffer : Outcome Empty _) = .ok (buffer', info) ∧
    info.length = message.length ∧ info.extraCaps = message.extraCaps

/-- The blank buffer; a message that cannot be prepared fails on every buffer, so on this one. -/
def blankBuffer : IpcBuffer := ⟨Vector.replicate _ 0, Vector.replicate _ 0, .null⟩

/-- **A message can be sent exactly when its capabilities fit the buffer.** -/
theorem sendable_iff (message : Message) : message.Sendable ↔ message.extraCaps ≤ msgMaxExtraCaps := by
  constructor
  · intro h
    obtain ⟨buffer', info, hprep, _⟩ := h blankBuffer
    apply Nat.le_of_not_lt
    intro hgt
    rw [prepare_of_gt hgt] at hprep
    injection hprep
  · intro h buffer
    have hlen := message.length_le
    refine ⟨_, _, prepare_of_le h buffer, ?_, ?_⟩
    · rw [MessageInfo.build_length]
      simp only [messageCapacity, numMessageRegisters] at hlen
      omega
    · rw [MessageInfo.build_extraCaps]
      simp only [msgMaxExtraCaps] at h
      omega

/-- **Which constructible messages can be sent.** Messages without capabilities and received messages
    always; a message made with capabilities exactly when there are at most three of them. -/
theorem constructed_sendable (label : Word) (words capabilities : List Word) (buffer : IpcBuffer)
    (info : MessageInfo) (message : Message) :
    (Message.new label words = .ok message → message.Sendable) ∧
    (Message.withCapabilities label words capabilities = .ok message →
        (message.Sendable ↔ capabilities.length ≤ msgMaxExtraCaps)) ∧
    (Message.received buffer info = .ok message → message.Sendable) := by
  refine ⟨?_, ?_, ?_⟩
  · intro h
    obtain ⟨-, -, -, -, -, -, hextra, -⟩ := withCapabilities_eq_ok.mp h
    rw [sendable_iff, hextra]
    exact Nat.zero_le _
  · intro h
    obtain ⟨-, -, -, -, -, -, hextra, -⟩ := withCapabilities_eq_ok.mp h
    rw [sendable_iff, hextra]
  · intro h
    obtain ⟨-, -, -, -, -, hextra, -⟩ := received_eq_ok.mp h
    rw [sendable_iff, hextra]
    exact info.extraCaps_le

/-- The constructor accepts a fourth capability, and preparing that message aborts. -/
theorem fourth_capability_panics :
    ∃ message, Message.withCapabilities 0 [] [1, 2, 3, 4] = .ok message ∧
      (∀ buffer, (message.prepare buffer : Outcome Empty _) = .panic) ∧ ¬ message.Sendable := by
  obtain ⟨message, h⟩ : ∃ message, Message.withCapabilities 0 [] [1, 2, 3, 4] = .ok message := ⟨_, rfl⟩
  obtain ⟨-, -, -, -, -, -, hextra, -⟩ := withCapabilities_eq_ok.mp h
  have hgt : msgMaxExtraCaps < message.extraCaps := by rw [hextra]; decide
  exact ⟨message, h, prepare_of_gt hgt, fun hs => Nat.not_le.mpr hgt ((sendable_iff message).mp hs)⟩

theorem three_capabilities_sendable :
    ∃ message, Message.withCapabilities 0 [] [1, 2, 3] = .ok message ∧ message.Sendable := by
  obtain ⟨message, h⟩ : ∃ message, Message.withCapabilities 0 [] [1, 2, 3] = .ok message := ⟨_, rfl⟩
  have hiff := (constructed_sendable 0 [] [1, 2, 3] blankBuffer (MessageInfo.build 0 0 0 0) message).2.1 h
  exact ⟨message, h, hiff.mpr (by decide)⟩

/-! ## The round trip -/

/-- The kernel copies the registers the info word reports; the receiver's other registers stay. -/
def transfer (sender receiver : IpcBuffer) (info : MessageInfo) : IpcBuffer :=
  { receiver with msgRegs := overwrite receiver.msgRegs (sender.msgRegs.toList.take info.length) }

/-- `prepare` on the sender's buffer, the kernel's copy, `received` on the receiver's buffer. -/
def roundTrip (message : Message) (sender receiver : IpcBuffer) : Outcome IpcError Message := do
  let (sender', info) ← message.prepare sender
  received (transfer sender' receiver info) info

/-- What a received copy of a new message must look like: the same label and words, no capability, and
    zero in every register beyond the payload. -/
def SameMessage (label : Word) (words : List Word) (copy : Message) : Prop :=
  copy.label = label ∧ copy.words = (.ok words : Outcome IpcError _) ∧
  (∀ i (h : i < words.length), copy.word i = .ok words[i]) ∧
  (∀ i, words.length ≤ i → copy.word i = .err (.invalidMessageIndex i words.length)) ∧
  copy.extraCaps = 0 ∧
  copy.storage.toList = words ++ List.replicate (messageCapacity - words.length) 0

/-- **The round trip, exactly.** Whatever the two buffers held before, the copy carries the low 52 bits of
    the label, the payload, and nothing else. -/
theorem roundTrip_of_new {label : Word} {words : List Word} {message : Message}
    (h : Message.new label words = .ok message) (sender receiver : IpcBuffer) :
    ∃ copy, message.roundTrip sender receiver = .ok copy ∧
      copy.label = (MessageInfo.build label 0 0 words.length).label ∧
      copy.storage = overwrite (Vector.replicate _ 0) words ∧ copy.length = words.length ∧
      copy.extraCaps = 0 := by
  obtain ⟨hwords, -, hlabel, -, hlength, -, hextra, -⟩ := withCapabilities_eq_ok.mp h
  have hpayload : message.payload = words := payload_of_withCapabilities h
  have hfit : message.extraCaps ≤ msgMaxExtraCaps := by rw [hextra]; exact Nat.zero_le _
  have hinfo : (MessageInfo.build label 0 0 words.length).length = words.length := by
    rw [MessageInfo.build_length]
    simp only [messageCapacity, numMessageRegisters] at hwords
    omega
  have hregs : ∀ dst : Vector Word numMessageRegisters,
      (overwrite dst words).toList.take words.length = words := fun _ => take_overwrite hwords
  rw [roundTrip, prepare_of_le hfit, Outcome.ok_bind, hlabel, hextra, hlength, hpayload]
  -- both copies of the registers are `words`, once written by the sender and once by the kernel
  have hcopy := received_cases
    (transfer { sender with
        msgRegs := overwrite sender.msgRegs words
        capsOrBadges := overwrite sender.capsOrBadges message.outgoing } receiver
      (MessageInfo.build label 0 0 words.length)) (MessageInfo.build label 0 0 words.length)
  rcases hcopy with ⟨copy, hcopy⟩ | ⟨hlong, _⟩
  · obtain ⟨-, hl, hs, hn, -, he, -⟩ := received_eq_ok.mp hcopy
    refine ⟨copy, hcopy, hl, ?_, hn.trans hinfo, by rw [he]; simp⟩
    rw [hs, hinfo]
    simp only [transfer, hinfo, hregs]
  · rw [hinfo] at hlong
    exact absurd hlong (Nat.not_lt.mpr hwords)

/-- **The round trip preserves a message exactly when its label fits the info word.** -/
theorem roundTrip_same_iff {label : Word} {words : List Word} {message : Message}
    (h : Message.new label words = .ok message) :
    (∀ sender receiver, ∃ copy, message.roundTrip sender receiver = .ok copy ∧
      SameMessage label words copy) ↔ label.toNat < 2 ^ 52 := by
  have hwords := (withCapabilities_eq_ok.mp h).1
  constructor
  · intro hsame
    obtain ⟨copy, hrun, hlabel, -⟩ := hsame blankBuffer blankBuffer
    obtain ⟨copy', hrun', hlabel', -⟩ := roundTrip_of_new h blankBuffer blankBuffer
    have heq : copy = copy' := by rw [hrun] at hrun'; exact (Outcome.ok.inj hrun')
    rw [← MessageInfo.build_label_eq_iff label 0 0 words.length, ← hlabel', ← heq]
    exact hlabel
  · intro hlt sender receiver
    obtain ⟨copy, hrun, hlabel, hstorage, hlength, hextra⟩ := roundTrip_of_new h sender receiver
    have hpayload : copy.payload = words := by
      rw [payload, hstorage, hlength]
      exact take_overwrite hwords
    refine ⟨copy, hrun, ?_, by rw [words_eq, hpayload], ?_, ?_, hextra, ?_⟩
    · rw [hlabel]
      exact (MessageInfo.build_label_eq_iff label 0 0 words.length).mpr hlt
    · intro i hi
      have hi' : i < copy.payload.length := by rw [hpayload]; exact hi
      rw [word_of_lt hi']
      simp only [hpayload]
    · intro i hi
      rw [word_of_ge (hlength ▸ hi), hlength]
    · rw [hstorage, toList_overwrite, List.take_of_length_le hwords]
      simp

/-- A label of exactly 2^52 is accepted by the constructor and comes back as zero. -/
theorem wide_label_is_truncated :
    ∃ message, Message.new (BitVec.ofNat 64 (2 ^ 52)) [] = .ok message ∧
      ∀ sender receiver, ∃ copy, message.roundTrip sender receiver = .ok copy ∧ copy.label = 0 ∧
        ¬ SameMessage (BitVec.ofNat 64 (2 ^ 52)) [] copy := by
  obtain ⟨message, h⟩ : ∃ message, Message.new (BitVec.ofNat 64 (2 ^ 52)) [] = .ok message := ⟨_, rfl⟩
  refine ⟨message, h, fun sender receiver => ?_⟩
  obtain ⟨copy, hrun, hlabel, -⟩ := roundTrip_of_new h sender receiver
  have hzero : copy.label = 0 := by rw [hlabel]; decide
  exact ⟨copy, hrun, hzero, fun hsame => absurd (hzero.symm.trans hsame.1) (by decide)⟩

theorem narrow_label_round_trips :
    ∃ message, Message.new 7 [1, 2] = .ok message ∧
      ∀ sender receiver, ∃ copy, message.roundTrip sender receiver = .ok copy ∧
        SameMessage 7 [1, 2] copy := by
  obtain ⟨message, h⟩ : ∃ message, Message.new 7 [1, 2] = .ok message := ⟨_, rfl⟩
  exact ⟨message, h, (roundTrip_same_iff h).mpr (by decide)⟩

end Message
end Ricoq
