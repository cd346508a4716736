import Ricoq.Ipc.World

/-!
# `Ipc.Correctness.Step` — what each operation can do

One inversion lemma per operation of the layer. It gives the state after the operation as one of a few
explicit transformations of the state before it, so that no later proof unfolds an operation:

* `IpcState.afterRecv` — the flag is set, the receive path is configured and the kernel has delivered;
* `IpcState.settleSlot` — the reservation of the receive slot has been settled;
* `IpcState.answered` — a reply went to the caller slot and the flag is cleared;
* `IpcState.deferred`, `IpcState.released` — a saved reply capability comes and goes.

A receive slot that is still held is still reserved (`World.SlotsReserved`), so settling it never fails: the
early return of a failed `ReceiveSlot::finish` does not occur.
-/

namespace Ricoq

open Sel4

/-! ## Kernel calls, field by field -/

namespace Sel4.Kernel

variable (k : Kernel) (info : MessageInfo) (slot : Nat) (d : Delivery)

@[simp] theorem replyCaps_reply : (k.reply info).replyCaps = k.replyCaps := by
  unfold reply
  cases k.caller <;> rfl

@[simp] theorem children_reply : (k.reply info).children = k.children := by
  unfold reply
  cases k.caller <;> rfl

/-- `reply` reaches the client in the caller slot, if there is one, and nobody else. -/
theorem replies_reply : (k.reply info).replies = k.caller.toList.map (k.replyTo · info) ++ k.replies := by
  unfold reply
  cases k.caller <;> rfl

@[simp] theorem caller_sendReplyCap : (k.sendReplyCap slot info).caller = k.caller := by
  unfold sendReplyCap
  cases k.replyCaps slot <;> rfl

@[simp] theorem children_sendReplyCap : (k.sendReplyCap slot info).children = k.children := by
  unfold sendReplyCap
  cases k.replyCaps slot <;> rfl

/-- Invoking a saved reply capability uses it up. -/
theorem replyCaps_sendReplyCap :
    (k.sendReplyCap slot info).replyCaps = Function.update k.replyCaps slot none := by
  cases h : k.replyCaps slot with
  | none =>
      have hself : Function.update k.replyCaps slot none = k.replyCaps := by
        rw [← h, Function.update_eq_self]
      simp only [sendReplyCap, h, hself]
  | some c => simp only [sendReplyCap, h]

theorem replies_sendReplyCap :
    (k.sendReplyCap slot info).replies =
      (k.replyCaps slot).toList.map (k.replyTo · info) ++ k.replies := by
  unfold sendReplyCap
  cases k.replyCaps slot <;> rfl

@[simp] theorem caller_deliver : (k.deliver d).caller = k.caller := by
  unfold deliver install
  cases (k.transferred d).2 <;> rfl

@[simp] theorem replyCaps_deliver : (k.deliver d).replyCaps = k.replyCaps := by
  unfold deliver install
  cases (k.transferred d).2 <;> rfl

@[simp] theorem replies_deliver : (k.deliver d).replies = k.replies := by
  unfold deliver install
  cases (k.transferred d).2 <;> rfl

/-- `saveCaller` fails and changes nothing, if the kernel refuses or the slot is taken; otherwise it moves the
    caller slot into the empty root slot. -/
theorem saveCaller_cases (refused : Bool) :
    ((refused || (k.replyCaps slot).isSome) = true ∧ k.saveCaller slot refused = (false, k)) ∨
    (refused = false ∧ k.replyCaps slot = none ∧ k.saveCaller slot refused =
      (true, { k with caller := none, replyCaps := Function.update k.replyCaps slot k.caller })) := by
  unfold saveCaller
  by_cases h : (refused || (k.replyCaps slot).isSome) = true
  · exact Or.inl ⟨h, if_pos h⟩
  · obtain ⟨hrefused, hslot⟩ := Bool.or_eq_false_iff.mp (Bool.eq_false_iff.mpr h)
    have hempty : k.replyCaps slot = none := Option.isNone_iff_eq_none.mp (Option.isSome_eq_false_iff.mp hslot)
    refine Or.inr ⟨hrefused, hempty, ?_⟩
    rw [if_neg h]
    have hself : Function.update k.replyCaps slot none = k.replyCaps := by
      rw [← hempty, Function.update_eq_self]
    cases hc : k.caller with
    | none =>
        simp only [hself]
        rw [← hc]
    | some c => rfl

end Sel4.Kernel

/-! ## The state transformations -/

namespace IpcState

/-- The receive slot, if there is one, is still reserved. -/
def Reserved (s : IpcState) : Option ReceiveSlot → Prop
  | none      => True
  | some slot => (s.cspaces slot.root).slots.stateOf slot.reservation.slot = .reserved

/-- The tracker entry of a receive slot takes a new value. -/
def markSlot (s : IpcState) (slot : ReceiveSlot) (state : SlotState) : IpcState :=
  s.setSlots slot.root ((s.cspaces slot.root).slots.setState slot.reservation.slot state)

/-- The reservation settled: `received` says whether the tracker is told of a capability. -/
def settleSlot (s : IpcState) (slot : Option ReceiveSlot) (received : Bool) : IpcState :=
  match slot with
  | none      => s
  | some slot => s.markSlot slot (if received then .occupied else .free)

/-- The receive path of the receive is configured. -/
def configured (s : IpcState) (endpoint : Nat) (slot : Option ReceiveSlot) : IpcState :=
  { s.setPending endpoint true with kernel := s.kernel.setRecvSlot (receivePath slot) }

/-- The kernel's answer to the receive, and the state after it. -/
def afterRecv (s : IpcState) (endpoint : Nat) (slot : Option ReceiveSlot) (d : Delivery) : IpcState :=
  { s.configured endpoint slot with kernel := ((s.configured endpoint slot).kernel.recv d).2 }

/-- The same for a non-blocking receive. -/
def afterNbRecv (s : IpcState) (endpoint : Nat) (slot : Option ReceiveSlot) (o : NbOutcome) : IpcState :=
  { s.configured endpoint slot with kernel := ((s.configured endpoint slot).kernel.nbRecv o).2 }

/-- A reply went out from `buffer`, and the flag of the endpoint is cleared. -/
def answered (s : IpcState) (endpoint : Nat) (buffer : IpcBuffer) (info : MessageInfo) : IpcState :=
  { s.setPending endpoint false with kernel := { s.kernel with buffer }.reply info }

/-- The caller slot was saved to `slot` of the pool, which has become `pool'`. -/
def deferred (s : IpcState) (endpoint pool slot : Nat) (pool' : ReplyPool) : IpcState :=
  { (s.setPool pool pool').setPending endpoint false with
    kernel := { s.kernel with
      caller := none, replyCaps := Function.update s.kernel.replyCaps slot s.kernel.caller } }

/-- A saved reply was used or deleted: `kernel` is the kernel after that, and the slot is free again. -/
def released (s : IpcState) (d : DeferredReply) (kernel : Kernel) : IpcState :=
  { s.setPool d.pool ((s.pools d.pool).release d.slot) with kernel }

/-- The empty reply of `clear_implicit_reply`. -/
def cleared (s : IpcState) (endpoint : Nat) : IpcState :=
  s.answered endpoint s.kernel.buffer (MessageInfo.build 0 0 0 0)

section Fields

variable (s : IpcState) (e p root : Nat) (slot : Option ReceiveSlot) (b : Bool) (d : Delivery) (o : NbOutcome)

@[simp] theorem kernel_settleSlot : (s.settleSlot slot b).kernel = s.kernel := by
  cases slot <;> rfl

@[simp] theorem pending_settleSlot : (s.settleSlot slot b).pending = s.pending := by
  cases slot <;> rfl

@[simp] theorem pools_settleSlot : (s.settleSlot slot b).pools = s.pools := by
  cases slot <;> rfl

@[simp] theorem replyCaps_afterRecv : (s.afterRecv e slot d).kernel.replyCaps = s.kernel.replyCaps :=
  Kernel.replyCaps_deliver _ d

@[simp] theorem pending_afterNbRecv :
    (s.afterNbRecv e slot o).pending = Function.update s.pending e true := rfl
@[simp] theorem caller_afterNbRecv : (s.afterNbRecv e slot o).kernel.caller = o.caller := by
  cases o <;> rfl

@[simp] theorem replyCaps_afterNbRecv : (s.afterNbRecv e slot o).kernel.replyCaps = s.kernel.replyCaps := by
  cases o with
  | message d => exact replyCaps_afterRecv s e slot d
  | noSender info => rfl

variable (buffer : IpcBuffer) (info : MessageInfo)

@[simp] theorem replyCaps_answered : (s.answered e buffer info).kernel.replyCaps = s.kernel.replyCaps :=
  Kernel.replyCaps_reply _ info

@[simp] theorem children_answered : (s.answered e buffer info).kernel.children = s.kernel.children :=
  Kernel.children_reply _ info

theorem replies_answered : ∃ new : List Reply,
    (s.answered e buffer info).kernel.replies = new ++ s.kernel.replies ∧
      new.map (·.recipient) = s.kernel.caller.toList := by
  refine ⟨_, Kernel.replies_reply _ info, ?_⟩
  cases s.kernel.caller <;> rfl

end Fields

/-! ### The slots of the pools -/

section Pools

variable {s : IpcState} {p slot : Nat} {pool' : ReplyPool}

/-- Changing one pool without moving its range. -/
theorem owns_setPool (hrange : ∀ i, pool'.Owns i ↔ (s.pools p).Owns i) (q i : Nat) :
    ((s.setPool p pool').pools q).Owns i ↔ (s.pools q).Owns i := by
  by_cases hq : q = p
  · subst hq
    simpa [setPool] using hrange i
  · simp [setPool, hq]

/-- Changing one pool within its bounds. -/
theorem bounded_setPool (hpool : pool'.Bounded) (hb : ∀ q, (s.pools q).Bounded) (q : Nat) :
    ((s.setPool p pool').pools q).Bounded := by
  by_cases hq : q = p
  · subst hq
    simpa [setPool] using hpool
  · simpa [setPool, hq] using hb q

variable {d : DeferredReply} {kernel : Kernel}

theorem owns_released (q i : Nat) : ((s.released d kernel).pools q).Owns i ↔ (s.pools q).Owns i :=
  owns_setPool (fun _ => ReplyPool.owns_release) q i

/-- Releasing a reply takes its slot out of use, and no other. -/
theorem inUse_released (hd : (s.pools d.pool).Owns d.slot) {q i : Nat} (hi : (s.pools q).Owns i) :
    ((s.released d kernel).pools q).InUse i ↔ (s.pools q).InUse i ∧ d ≠ ⟨q, i⟩ := by
  show (Function.update s.pools d.pool _ q).InUse i ↔ _
  obtain ⟨pool, slot⟩ := d
  by_cases hq : q = pool
  · subst hq
    rw [Function.update_self, ReplyPool.inUse_release hd hi]
    simp [eq_comm]
  · rw [Function.update_of_ne hq]
    simp [Ne.symm hq]

theorem bounded_released (hd : (s.pools d.pool).Owns d.slot) (hb : ∀ q, (s.pools q).Bounded) (q : Nat) :
    ((s.released d kernel).pools q).Bounded :=
  bounded_setPool (ReplyPool.bounded_release (hb d.pool) hd) hb q

variable (hreserve : (s.pools p).reserve = (some slot, pool')) (e : Nat)
include hreserve

theorem owns_deferred (q i : Nat) : ((s.deferred e p slot pool').pools q).Owns i ↔ (s.pools q).Owns i :=
  owns_setPool (ReplyPool.reserve_some hreserve).2.2.1 q i

/-- Saving a reply puts one slot into use. -/
theorem inUse_deferred {q i : Nat} (hi : (s.pools q).Owns i) :
    ((s.deferred e p slot pool').pools q).InUse i ↔ (s.pools q).InUse i ∨ (q = p ∧ i = slot) := by
  obtain ⟨-, -, -, huse, -⟩ := ReplyPool.reserve_some hreserve
  show (Function.update s.pools p pool' q).InUse i ↔ _
  by_cases hq : q = p
  · subst hq
    rw [Function.update_self, huse i hi]
    simp
  · rw [Function.update_of_ne hq]
    simp [hq]

theorem bounded_deferred (hb : ∀ q, (s.pools q).Bounded) (q : Nat) :
    ((s.deferred e p slot pool').pools q).Bounded := by
  obtain ⟨-, -, -, -, hbound⟩ := ReplyPool.reserve_some hreserve
  exact bounded_setPool (hbound (hb p)) hb q

end Pools

/-- Marking changes the one entry of the slot. -/
theorem stateOf_markSlot (s : IpcState) (slot : ReceiveSlot) (state : SlotState) (root i : Nat) :
    ((s.markSlot slot state).cspaces root).slots.stateOf i =
      if root = slot.root ∧ i = slot.reservation.slot then state
      else (s.cspaces root).slots.stateOf i := by
  unfold markSlot setSlots
  by_cases hr : root = slot.root
  · subst hr
    simp only [Function.update_self, SlotTracker.stateOf_setState, true_and]
  · simp only [Function.update_of_ne hr, hr, false_and, if_false]

@[simp] theorem capacity_markSlot (s : IpcState) (slot : ReceiveSlot) (state : SlotState) (root : Nat) :
    ((s.markSlot slot state).cspaces root).slots.capacity = (s.cspaces root).slots.capacity := by
  unfold markSlot setSlots
  by_cases hr : root = slot.root
  · subst hr
    simp only [Function.update_self, SlotTracker.capacity_setState]
  · simp only [Function.update_of_ne hr]

@[simp] theorem capacity_settleSlot (s : IpcState) (slot : Option ReceiveSlot) (b : Bool) (root : Nat) :
    ((s.settleSlot slot b).cspaces root).slots.capacity = (s.cspaces root).slots.capacity := by
  cases slot with
  | none => rfl
  | some slot => exact s.capacity_markSlot slot _ root

end IpcState

/-! ## The operations -/

theorem ReceiveSlot.finish_of_reserved {slot : ReceiveSlot} {s : IpcState} (h : s.Reserved (some slot))
    (received : Bool) : slot.finish received s = (.ok (), s.settleSlot (some slot) received) := by
  have hs := SlotTracker.settle_of_reserved h
  unfold ReceiveSlot.finish SlotTracker.commit SlotTracker.cancel
  cases received <;> simp [hs, IpcState.settleSlot, IpcState.markSlot]

/-- Preparing a message panics or changes only the IPC buffer, and not the receive path in it. -/
theorem prepare_cases {ε : Type} (message : Message) (s : IpcState) :
    ((prepare message : Prog ε IpcState MessageInfo) s = (.panic, s)) ∨
    (∃ buffer info, buffer.recvSlot = s.kernel.buffer.recvSlot ∧
      (prepare message : Prog ε IpcState MessageInfo) s =
        (.ok info, { s with kernel := { s.kernel with buffer } })) := by
  by_cases h : message.extraCaps ≤ msgMaxExtraCaps
  · refine Or.inr ⟨{ s.kernel.buffer with
        msgRegs := overwrite s.kernel.buffer.msgRegs message.payload
        capsOrBadges := overwrite s.kernel.buffer.capsOrBadges message.outgoing },
      MessageInfo.build message.label 0 message.extraCaps message.length, rfl, ?_⟩
    rw [prepare, Message.prepare_of_le h]
  · refine Or.inl ?_
    rw [prepare, Message.prepare_of_gt (Nat.not_le.mp h)]

namespace Endpoint

theorem clearImplicitReply_run {ε : Type} (endpoint : Nat) (s : IpcState) :
    (clearImplicitReply endpoint : Prog ε IpcState Unit) s = (.ok (), s.cleared endpoint) := rfl

/-- The reported message has no more capabilities than the receive accepts, and no more words than a
    message holds. -/
def Fits (slot : Option ReceiveSlot) (info : MessageInfo) : Prop :=
  info.extraCaps ≤ (if slot.isSome then 1 else 0) ∧ info.length ≤ messageCapacity

/-- After the kernel has delivered, the slot is settled; then a message that fits is returned, and one that
    does not is answered and an error is returned. -/
theorem complete_cases (endpoint : Nat) {slot : Option ReceiveSlot} (info : MessageInfo) (badge : Word)
    {s : IpcState} (hres : s.Reserved slot) :
    (Fits slot info ∧ ∃ m,
      complete endpoint slot info badge s = (.ok m, s.settleSlot slot (info.extraCaps != 0)) ∧
      m.endpoint = endpoint ∧ m.badge = Badge.new badge ∧
      Message.received s.kernel.buffer info = .ok m.message) ∨
    (¬ Fits slot info ∧ ∃ err, complete endpoint slot info badge s =
        (.err err, (s.settleSlot slot (info.extraCaps != 0)).cleared endpoint) ∧
      err ≠ .replyPending ∧ err ≠ .invalidReceivePath) := by
  -- the part after the receive slot has been settled, from a state with the same kernel
  have tail : ∀ s' : IpcState, s'.kernel = s.kernel →
      ∀ (x : Ipc ReceivedMessage) (finish : Except IpcError Message → Ipc ReceivedMessage),
      (∀ message, finish (.ok message) = pure { endpoint, badge := Badge.new badge, message }) →
      (∀ error, finish (.error error) = do
        clearImplicitReply endpoint
        Prog.throw error) →
      x = (if info.extraCaps > (if slot.isSome then 1 else 0) then do
            clearImplicitReply endpoint
            Prog.throw (.receiveCapacityExceeded info.extraCaps (if slot.isSome then 1 else 0))
          else
            Prog.attempt (received info) >>= finish) →
      (Fits slot info ∧ ∃ m, x s' = (.ok m, s') ∧ m.endpoint = endpoint ∧ m.badge = Badge.new badge ∧
        Message.received s.kernel.buffer info = .ok m.message) ∨
      (¬ Fits slot info ∧ ∃ err, x s' = (.err err, s'.cleared endpoint) ∧
        err ≠ .replyPending ∧ err ≠ .invalidReceivePath) := by
    intro s' hk x finish hok herror hx
    subst hx
    by_cases hcap : info.extraCaps > (if slot.isSome then 1 else 0)
    · rw [if_pos hcap]
      exact Or.inr ⟨fun hfits => Nat.not_le.mpr hcap hfits.1, _, rfl, by simp, by simp⟩
    · rw [if_neg hcap]
      rcases Message.received_cases s'.kernel.buffer info with ⟨message, hm⟩ | ⟨hlong, herr⟩
      · have hlen : info.length ≤ messageCapacity := (Message.received_eq_ok.mp hm).1
        refine Or.inl ⟨⟨Nat.not_lt.mp hcap, hlen⟩, ⟨endpoint, Badge.new badge, message⟩, ?_, rfl, rfl, hk ▸ hm⟩
        have hread : (Prog.attempt (received info) : Ipc (Except IpcError Message)) s' =
            (.ok (.ok message), s') := by
          rw [Prog.attempt, received, hm]
        rw [Prog.run_bind_ok hread, hok]
        rfl
      · refine Or.inr ⟨fun hfits => Nat.not_le.mpr hlong hfits.2,
          .messageTooLong info.length messageCapacity, ?_, by simp, by simp⟩
        have hread : (Prog.attempt (received info) : Ipc (Except IpcError Message)) s' =
            (.ok (.error (.messageTooLong info.length messageCapacity)), s') := by
          rw [Prog.attempt, received, herr]
        rw [Prog.run_bind_ok hread, herror]
        rfl
  unfold complete
  cases slot with
  | none => exact tail s rfl _ _ (fun _ => rfl) (fun _ => rfl) rfl
  | some slot =>
      have hfinish := ReceiveSlot.finish_of_reserved hres (info.extraCaps != 0)
      dsimp only
      rw [Prog.run_bind_ok hfinish]
      exact tail _ (s.kernel_settleSlot (some slot) _) _ _ (fun _ => rfl) (fun _ => rfl) rfl

theorem replacePending_of_pending {ε : Type} {endpoint : Nat} {s : IpcState}
    (h : s.pending endpoint = true) :
    (replacePending endpoint : Prog ε IpcState Bool) s = (.ok true, s) := by
  have hs : s.setPending endpoint true = s := by
    rw [IpcState.setPending, ← h, Function.update_eq_self]
  rw [replacePending, Prog.run_modifyGet, h, hs]

theorem replacePending_of_ready {ε : Type} {endpoint : Nat} {s : IpcState}
    (h : s.pending endpoint = false) :
    (replacePending endpoint : Prog ε IpcState Bool) s = (.ok false, s.setPending endpoint true) := by
  rw [replacePending, Prog.run_modifyGet, h]

/-- While its flag is set, an endpoint refuses to receive and nothing changes. -/
theorem receive_of_pending {endpoint : Nat} {s : IpcState} (h : s.pending endpoint = true)
    (slot : Option ReceiveSlot) (d : Delivery) :
    receive endpoint slot d s = (.err .replyPending, s) := by
  unfold receive
  rw [Prog.run_bind_ok (replacePending_of_pending h)]
  rfl

theorem receive_of_ready {endpoint : Nat} {s : IpcState} (h : s.pending endpoint = false)
    (slot : Option ReceiveSlot) (d : Delivery) :
    receive endpoint slot d s =
      complete endpoint slot ((s.configured endpoint slot).kernel.deliveredInfo d) d.badge
        (s.afterRecv endpoint slot d) := by
  unfold receive
  rw [Prog.run_bind_ok (replacePending_of_ready h)]
  rfl

theorem tryReceive_of_pending {endpoint : Nat} {s : IpcState} (h : s.pending endpoint = true)
    (slot : Option ReceiveSlot) (o : NbOutcome) :
    tryReceive endpoint slot o s = (.err .replyPending, s) := by
  unfold tryReceive
  rw [Prog.run_bind_ok (replacePending_of_pending h)]
  rfl

/-- What the kernel reports to a non-blocking receive. -/
def nbReport (s : IpcState) (endpoint : Nat) (slot : Option ReceiveSlot) (o : NbOutcome) :
    MessageInfo × Word := ((s.configured endpoint slot).kernel.nbRecv o).1

/-- A report that `try_receive` takes for "no sender": badge, length and capability count all zero. -/
def LooksEmpty (report : MessageInfo × Word) : Prop :=
  report.2 = 0 ∧ report.1.length = 0 ∧ report.1.extraCaps = 0

instance (report : MessageInfo × Word) : Decidable (LooksEmpty report) :=
  inferInstanceAs (Decidable (_ ∧ _ ∧ _))

theorem tryReceive_of_empty {endpoint : Nat} {s : IpcState} (h : s.pending endpoint = false)
    {slot : Option ReceiveSlot} {o : NbOutcome} (hres : s.Reserved slot)
    (hempty : LooksEmpty (nbReport s endpoint slot o)) :
    tryReceive endpoint slot o s =
      (.ok none, ((s.afterNbRecv endpoint slot o).setPending endpoint false).settleSlot slot false) := by
  unfold tryReceive
  rw [Prog.run_bind_ok (replacePending_of_ready h)]
  change (if LooksEmpty (nbReport s endpoint slot o) then _ else _ : Ipc (Option ReceivedMessage))
    (s.afterNbRecv endpoint slot o) = _
  rw [if_pos hempty]
  cases slot with
  | none => rfl
  | some slot =>
      have hres' : ((s.afterNbRecv endpoint (some slot) o).setPending endpoint false).Reserved
          (some slot) := hres
      exact Prog.run_bind_ok (ReceiveSlot.finish_of_reserved hres' false)

theorem tryReceive_of_message {endpoint : Nat} {s : IpcState} (h : s.pending endpoint = false)
    {slot : Option ReceiveSlot} {o : NbOutcome}
    (hmsg : ¬ LooksEmpty (nbReport s endpoint slot o)) :
    tryReceive endpoint slot o s =
      (do let message ← complete endpoint slot (nbReport s endpoint slot o).1 (nbReport s endpoint slot o).2
          return some message) (s.afterNbRecv endpoint slot o) := by
  unfold tryReceive
  rw [Prog.run_bind_ok (replacePending_of_ready h)]
  change (if LooksEmpty (nbReport s endpoint slot o) then _ else _ : Ipc (Option ReceivedMessage))
    (s.afterNbRecv endpoint slot o) = _
  rw [if_neg hmsg]
  rfl

/-- A call panics while preparing its message, or delivers the answer and touches nothing but the kernel. -/
theorem call_cases (message : Message) (answer : Delivery) (s : IpcState) :
    (call message answer s = (.panic, s)) ∨
    (∃ buffer result, buffer.recvSlot = s.kernel.buffer.recvSlot ∧ result ≠ .panic ∧
      call message answer s =
        (result, { s with kernel := { s.kernel with buffer }.deliver answer })) := by
  rcases prepare_cases (ε := IpcError) message s with hp | ⟨buffer, info, hpath, hp⟩
  · exact Or.inl (Prog.run_bind_panic hp)
  · refine Or.inr ⟨buffer, _, hpath, ?_, Prog.run_bind_ok hp⟩
    rcases Message.received_cases ({ s.kernel with buffer }.deliver answer).buffer
      ({ s.kernel with buffer }.deliveredInfo answer) with ⟨m, hm⟩ | ⟨_, herr⟩
    · rw [hm]
      nofun
    · rw [herr]
      nofun

theorem send_cases (message : Message) (s : IpcState) :
    (send message s = (.panic, s)) ∨
    (∃ buffer, buffer.recvSlot = s.kernel.buffer.recvSlot ∧
      send message s = (.ok (), { s with kernel := { s.kernel with buffer } })) := by
  rcases prepare_cases (ε := IpcError) message s with hp | ⟨buffer, info, hpath, hp⟩
  · exact Or.inl (Prog.run_bind_panic hp)
  · exact Or.inr ⟨buffer, hpath, Prog.run_bind_ok hp⟩

end Endpoint

namespace ReceivedMessage

theorem reply_cases {ε : Type} (m : ReceivedMessage) (message : Message) (s : IpcState) :
    ((m.reply message : Prog ε IpcState Unit) s = (.panic, s)) ∨
    (∃ buffer info, buffer.recvSlot = s.kernel.buffer.recvSlot ∧
      (m.reply message : Prog ε IpcState Unit) s = (.ok (), s.answered m.endpoint buffer info)) := by
  rcases prepare_cases (ε := ε) message s with hp | ⟨buffer, info, hpath, hp⟩
  · exact Or.inl (Prog.run_bind_panic hp)
  · exact Or.inr ⟨buffer, info, hpath, Prog.run_bind_ok hp⟩

/-- `defer` finds no slot, or cannot save into the one it found, and answers with an empty reply and an error;
    otherwise it moves the caller slot into a slot of the pool that was not in use. -/
theorem defer_cases (m : ReceivedMessage) (pool : Nat) (refused : Bool) (s : IpcState) :
    ((s.pools pool).reserve = (none, s.pools pool) ∧
      m.defer pool refused s = (.err .noReplySlots, s.cleared m.endpoint)) ∨
    (∃ slot pool', (s.pools pool).reserve = (some slot, pool') ∧
      (refused || (s.kernel.replyCaps slot).isSome) = true ∧
      m.defer pool refused s = (.err .noReplyAuthority, s.cleared m.endpoint)) ∨
    (∃ slot pool', (s.pools pool).reserve = (some slot, pool') ∧ refused = false ∧
      s.kernel.replyCaps slot = none ∧
      m.defer pool refused s = (.ok ⟨pool, slot⟩, s.deferred m.endpoint pool slot pool')) := by
  rcases hr : (s.pools pool).reserve with ⟨found, pool'⟩
  have hfirst : (Prog.modifyGet fun s : IpcState =>
      ((s.pools pool).reserve.1, s.setPool pool (s.pools pool).reserve.2) : Ipc (Option Nat)) s =
      (.ok found, s.setPool pool pool') := by
    rw [Prog.run_modifyGet, hr]
  unfold defer
  rw [Prog.run_bind_ok hfirst]
  cases found with
  | none =>
      have hsame : pool' = s.pools pool := by
        rcases (s.pools pool).reserve_cases with ⟨hnone, _⟩ | ⟨_, _, hsome, _⟩
        · exact (Prod.mk.inj (hr.symm.trans hnone)).2
        · exact nomatch (Prod.mk.inj (hr.symm.trans hsome)).1
      have hself : s.setPool pool pool' = s := by
        rw [IpcState.setPool, hsame, Function.update_eq_self]
      rw [hself]
      exact Or.inl ⟨by rw [hsame], rfl⟩
  | some slot =>
      have hsecond : ∀ ok k, s.kernel.saveCaller slot refused = (ok, k) →
          (kernelCall fun k => k.saveCaller slot refused : Ipc Bool) (s.setPool pool pool') =
            (.ok ok, { s.setPool pool pool' with kernel := k }) := by
        intro ok k hk
        change (Outcome.ok (s.kernel.saveCaller slot refused).1,
          { s.setPool pool pool' with kernel := (s.kernel.saveCaller slot refused).2 }) = _
        rw [hk]
      rcases s.kernel.saveCaller_cases slot refused with ⟨hfails, hk⟩ | ⟨hgoes, hempty, hk⟩
      · -- the kernel refused: the pool slot is given back
        refine Or.inr (Or.inl ⟨slot, pool', rfl, hfails, ?_⟩)
        have hback : ((s.setPool pool pool').pools pool).release slot = s.pools pool := by
          show (Function.update s.pools pool pool' pool).release slot = _
          rw [Function.update_self]
          exact ReplyPool.release_reserve hr
        have hself : (s.setPool pool pool').setPool pool (s.pools pool) = s := by
          simp only [IpcState.setPool, Function.update_idem, Function.update_eq_self]
        show (kernelCall (fun k => k.saveCaller slot refused) >>= _ : Ipc DeferredReply)
          (s.setPool pool pool') = _
        rw [Prog.run_bind_ok (hsecond _ _ hk)]
        show (Prog.modify (fun s' : IpcState => s'.setPool pool ((s'.pools pool).release slot)) >>= _ :
          Ipc DeferredReply) (s.setPool pool pool') = _
        rw [Prog.run_bind_ok (Prog.run_modify _ _), hback, hself]
        rfl
      · refine Or.inr (Or.inr ⟨slot, pool', rfl, hgoes, hempty, ?_⟩)
        show (kernelCall (fun k => k.saveCaller slot refused) >>= _ : Ipc DeferredReply)
          (s.setPool pool pool') = _
        rw [Prog.run_bind_ok (hsecond _ _ hk)]
        rfl

end ReceivedMessage

namespace DeferredReply

theorem reply_cases (d : DeferredReply) (message : Message) (s : IpcState) :
    (d.reply message s = (.panic, s)) ∨
    (∃ buffer info, buffer.recvSlot = s.kernel.buffer.recvSlot ∧
      d.reply message s = (.ok (), s.released d ({ s.kernel with buffer }.sendReplyCap d.slot info))) := by
  rcases prepare_cases (ε := IpcError) message s with hp | ⟨buffer, info, hpath, hp⟩
  · exact Or.inl (Prog.run_bind_panic hp)
  · exact Or.inr ⟨buffer, info, hpath, Prog.run_bind_ok hp⟩

theorem discard_refused (d : DeferredReply) (s : IpcState) :
    d.discard true s = (.err .replyCapabilityOperationFailed, s) := rfl

theorem discard_done (d : DeferredReply) (s : IpcState) :
    d.discard false s = (.ok (),
      s.released d { s.kernel with replyCaps := Function.update s.kernel.replyCaps d.slot none }) := rfl

end DeferredReply

/-- A receive slot is granted for a free, in-range entry, which becomes reserved; or nothing changes. -/
theorem receiveSlot_cases (root index : Nat) (s : IpcState) :
    (receiveSlot root index s = (.err .invalidReceiveSlot, s)) ∨
    (∃ slot : ReceiveSlot, slot.root = root ∧ slot.reservation.slot.val = index ∧ index ≠ 0 ∧
      index < (s.cspaces root).slots.capacity ∧ (s.cspaces root).slots.stateOf index = .free ∧
      receiveSlot root index s = (.ok slot, s.markSlot slot .reserved)) := by
  unfold receiveSlot
  cases hr : (s.cspaces root).slots.reserve index with
  | error e => exact Or.inl rfl
  | ok p =>
      obtain ⟨reservation, slots'⟩ := p
      obtain ⟨h0, hlt, hslot, hfree, rfl⟩ := SlotTracker.reserve_eq_ok.mp hr
      exact Or.inr ⟨⟨root, (s.cspaces root).sizeBits, reservation⟩, rfl, hslot, h0, hlt, hfree, rfl⟩

end Ricoq
