import Ricoq.Fault.Handling

/-!
# `Fault.Correctness.Delivery` — a fault arrives as it was raised

What the kernel makes of a fault is well formed, so `FaultEndpoint.receive` accepts it, and what it returns is
this fault and the badge it was sent with (`receive_delivery`).
-/

namespace Ricoq

open Sel4

namespace Fault

/-- The labels of the supported classes fit the info word. -/
theorem encode_label_lt (f : Fault) : f.encode.1.toNat < 2 ^ 52 := by
  cases f with
  | capabilityFault f =>
      show (1#64).toNat < 2 ^ 52
      decide
  | unknownSyscall f =>
      show (2#64).toNat < 2 ^ 52
      decide
  | vmFault f =>
      show (5#64).toNat < 2 ^ 52
      decide

theorem encode_length_le (f : Fault) : f.encode.2.length ≤ 13 := by
  cases f with
  | capabilityFault f => cases hlookup : f.lookupFailure <;> simp [encode, CapabilityLookupFailure.encode, hlookup]
  | unknownSyscall f => simp [encode]
  | vmFault f => simp [encode]

end Fault

namespace FaultMessage

variable (m : FaultMessage) (k : Kernel)

/-- A fault transfers no capability. -/
theorem transferred_delivery : k.transferred m.delivery = ([], none) := by
  show transferCaps k.destAvailable ([].take msgMaxExtraCaps) = _
  rw [List.take_nil]
  rfl

theorem length_delivery : (k.deliveredInfo m.delivery).length = m.fault.encode.2.length := by
  have hle := m.fault.encode_length_le
  rw [Kernel.deliveredInfo, MessageInfo.build_length]
  exact Nat.mod_eq_of_lt (by show m.fault.encode.2.length < _; omega)

theorem label_delivery : (k.deliveredInfo m.delivery).label = m.fault.encode.1 :=
  MessageInfo.build_label_eq_iff _ _ _ _ |>.mpr m.fault.encode_label_lt

theorem extraCaps_delivery : (k.deliveredInfo m.delivery).extraCaps = 0 := by
  rw [(k.deliveredInfo_fields m.delivery).1, m.transferred_delivery k]
  rfl

theorem capsUnwrapped_delivery : (k.deliveredInfo m.delivery).capsUnwrapped = 0 := by
  rw [(k.deliveredInfo_fields m.delivery).2, m.transferred_delivery k]
  rfl

/-- The registers of the fault are at the front of the buffer. -/
theorem msgRegs_delivery :
    (k.recv m.delivery).2.buffer.msgRegs.toList.take (k.deliveredInfo m.delivery).length = m.fault.encode.2 := by
  have hle := m.fault.encode_length_le
  rw [m.length_delivery k]
  show (overwrite _ (m.fault.encode.2.take (k.deliveredInfo m.delivery).length)).toList.take _ = _
  rw [m.length_delivery k, List.take_length]
  apply take_overwrite
  show m.fault.encode.2.length ≤ numMessageRegisters
  have hnum : 13 ≤ numMessageRegisters := by decide
  omega

end FaultMessage

/-- **A fault arrives as it was raised.** The endpoint returns the fault of a waiting thread, with the badge of
    its fault endpoint. -/
theorem FaultEndpoint.receive_delivery {e : Nat} {s : IpcState} (hready : s.pending e = false)
    (m : FaultMessage) (hbadge : m.badge ≠ 0) :
    ∃ received : ReceivedMessage, received.endpoint = e ∧
      FaultEndpoint.receive e m.delivery s =
        (.ok ⟨⟨m.badge, hbadge⟩, m.fault, received⟩, s.settled e none (.message m.delivery)) := by
  have hle := m.fault.encode_length_le
  have hnone : s.Reserved none := trivial
  rcases Endpoint.receive_cases hready hnone m.delivery with ⟨-, received, hrun, hendpoint, hnew, hread⟩ | ⟨hfits, -⟩
  · refine ⟨received, hendpoint, ?_⟩
    obtain ⟨-, hlabel, -, -, -, hextra, hunwrapped⟩ := Message.received_eq_ok.mp hread
    have hpayload := Message.payload_of_received hread
    have hsource : received.badge = some ⟨m.badge, hbadge⟩ := by
      rw [hnew]
      exact dif_neg hbadge
    have hnocaps : ¬ (received.message.capsUnwrapped ≠ 0 ∨ received.message.extraCaps ≠ 0) := by
      rw [hextra, hunwrapped]
      exact not_or.mpr ⟨not_not.mpr (m.capsUnwrapped_delivery _), not_not.mpr (m.extraCaps_delivery _)⟩
    have hdecode : Fault.decode received.message.label received.message.payload = .ok m.fault := by
      rw [hlabel, hpayload]
      have hlabel' := m.label_delivery (s.configured e none).kernel
      have hregs := m.msgRegs_delivery (s.configured e none).kernel
      refine Eq.trans ?_ m.fault.decode_encode
      exact congrArg₂ _ hlabel' hregs
    unfold FaultEndpoint.receive
    rw [Prog.run_bind_ok (Prog.run_mapErr_ok hrun), hsource]
    dsimp only
    rw [if_neg hnocaps, Message.words_eq, Prog.run_bind_ok (Prog.run_lift _ _), hdecode]
    rfl
  · refine absurd ⟨?_, ?_⟩ hfits
    · exact Nat.le_of_eq (m.extraCaps_delivery _)
    · have hlength := m.length_delivery (s.configured e none).kernel
      have hcap : 13 ≤ messageCapacity := by decide
      show (Endpoint.nbReport s e none (.message m.delivery)).1.length ≤ messageCapacity
      exact hlength ▸ (by omega)

end Ricoq
