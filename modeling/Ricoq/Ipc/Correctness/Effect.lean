import Ricoq.Fault.Correctness.Exact
import Ricoq.Ipc.Correctness.Step

/-!
# `Ipc.Correctness.Effect` — what each label can do to a world

`World.Effect w op w'` lists every way a step with label `op` can change a world, in terms of the state
transformations of `Ipc.Correctness.Step`. The three kinds of receive share their cases. Every invariant is
proved by cases on `Effect`; `World.step` itself is unfolded only in `effect_of_step`.

The lemma needs to know that a held receive slot is still reserved. That is the invariant `SlotsReserved`,
proved here from `Effect` as well.
-/

namespace Ricoq

open Sel4

/-- The endpoint of a receive of any kind, the receive slot it is given, and what the kernel finds. -/
def Op.receives : Op → Option (Nat × Option Nat × NbOutcome)
  | .receive e slot d    => some (e, slot, .message d)
  | .tryReceive e slot o => some (e, slot, o)
  | .faultReceive e d    => some (e, none, .message d)
  | _                    => none

/-- The message an operation consumes. -/
def Op.consumes : Op → Option Nat
  | .reply handle _   => some handle
  | .faultReply handle => some handle
  | .finish handle    => some handle
  | .defer handle _ _ => some handle
  | _                 => none

theorem Op.consumes_of_receives {op : Op} {r : Nat × Option Nat × NbOutcome} (h : op.receives = some r) :
    op.consumes = none := by
  cases op with
  | receive | tryReceive | faultReceive => rfl
  | reply | faultReply | finish | defer | deferredReply | discard | call | send | receiveSlot => exact nomatch h

/-- The kernel has answered a receive, and the receive slot has been settled by the count it reported. -/
def IpcState.settled (s : IpcState) (e : Nat) (slot : Option ReceiveSlot) (o : NbOutcome) : IpcState :=
  (s.afterNbRecv e slot o).settleSlot slot ((Endpoint.nbReport s e slot o).1.extraCaps != 0)

/-! ## The receives, from a ready endpoint -/

section Receives

variable {e : Nat} {s : IpcState} (hready : s.pending e = false)
include hready

theorem Endpoint.receive_cases {slot : Option ReceiveSlot} (hres : s.Reserved slot) (d : Delivery) :
    (Fits slot (nbReport s e slot (.message d)).1 ∧ ∃ m,
      receive e slot d s = (.ok m, s.settled e slot (.message d)) ∧ m.endpoint = e ∧
      m.badge = Badge.new d.badge ∧
      Message.received (s.afterRecv e slot d).kernel.buffer (nbReport s e slot (.message d)).1 =
        .ok m.message) ∨
    (¬ Fits slot (nbReport s e slot (.message d)).1 ∧ ∃ err,
      receive e slot d s = (.err err, (s.settled e slot (.message d)).cleared e) ∧
      err ≠ .replyPending ∧ err ≠ .invalidReceivePath) := by
  have hres' : (s.afterRecv e slot d).Reserved slot := by
    cases slot with
    | none => trivial
    | some slot => exact hres
  rw [receive_of_ready hready]
  exact complete_cases e ((s.configured e slot).kernel.deliveredInfo d) d.badge hres'

/-- A report that looks empty returns no message; any other one is treated as `receive` treats it. -/
theorem Endpoint.tryReceive_cases {slot : Option ReceiveSlot} (hres : s.Reserved slot) (o : NbOutcome) :
    (¬ LooksEmpty (nbReport s e slot o) ∧ Fits slot (nbReport s e slot o).1 ∧ ∃ m,
      tryReceive e slot o s = (.ok (some m), s.settled e slot o) ∧ m.endpoint = e ∧
      m.badge = Badge.new (nbReport s e slot o).2 ∧
      Message.received (s.afterNbRecv e slot o).kernel.buffer (nbReport s e slot o).1 = .ok m.message) ∨
    (¬ LooksEmpty (nbReport s e slot o) ∧ ¬ Fits slot (nbReport s e slot o).1 ∧ ∃ err,
      tryReceive e slot o s = (.err err, (s.settled e slot o).cleared e) ∧
      err ≠ .replyPending ∧ err ≠ .invalidReceivePath) ∨
    (LooksEmpty (nbReport s e slot o) ∧
      tryReceive e slot o s = (.ok none, (s.settled e slot o).setPending e false)) := by
  by_cases hempty : LooksEmpty (nbReport s e slot o)
  · refine Or.inr (Or.inr ⟨hempty, ?_⟩)
    have hzero : ((nbReport s e slot o).1.extraCaps != 0) = false := by
      rw [hempty.2.2]
      rfl
    rw [tryReceive_of_empty hready hres hempty, IpcState.settled, hzero]
    cases slot <;> rfl
  · have hres' : (s.afterNbRecv e slot o).Reserved slot := by
      cases slot with
      | none => trivial
      | some slot => exact hres
    rw [tryReceive_of_message hready hempty]
    rcases complete_cases e (nbReport s e slot o).1 (nbReport s e slot o).2 hres' with
      ⟨hfits, m, hrun, hm⟩ | ⟨hfits, err, hrun, herr⟩
    · exact Or.inl ⟨hempty, hfits, m, Prog.run_bind_ok hrun, hm⟩
    · exact Or.inr (Or.inl ⟨hempty, hfits, err, Prog.run_bind_err hrun, herr⟩)

/-- What the kernel reports is a fault message: badged, without capabilities, within the buffer, and laid out
    as one of the supported classes. -/
structure FaultEndpoint.WellFormed (s : IpcState) (e : Nat) (d : Delivery) : Prop where
  badged : d.badge ≠ 0
  noCaps : ((s.configured e none).kernel.deliveredInfo d).extraCaps = 0
  fits : ((s.configured e none).kernel.deliveredInfo d).length ≤ messageCapacity
  layout : ∃ f : Fault, f.encode = (((s.configured e none).kernel.deliveredInfo d).label,
    (s.afterRecv e none d).kernel.buffer.msgRegs.toList.take
      ((s.configured e none).kernel.deliveredInfo d).length)

/-- A fault receive keeps a well-formed message and answers any other one; nothing else happens. -/
theorem FaultEndpoint.receive_cases (d : Delivery) :
    (WellFormed s e d ∧ ∃ f, receive e d s = (.ok f, s.settled e none (.message d)) ∧
      f.received.endpoint = e) ∨
    (¬ WellFormed s e d ∧ ∃ err, receive e d s = (.err err, (s.settled e none (.message d)).cleared e) ∧
      err ≠ .ipc .replyPending ∧ err ≠ .ipc .invalidReceivePath) := by
  unfold receive
  have hnone : s.Reserved none := trivial
  rcases Endpoint.receive_cases hready hnone d with
    ⟨hfits, m, hrun, hm, hbadge, hread⟩ | ⟨hfits, err, hrun, hpending, hpath⟩
  · rw [Prog.run_bind_ok (Prog.run_mapErr_ok hrun)]
    have hfinish : ∀ err : FaultReceiveError,
        (do m.finish; Prog.throw err : Prog FaultReceiveError IpcState ReceivedFault)
          (s.settled e none (.message d)) = (.err err, (s.settled e none (.message d)).cleared e) := by
      intro err
      rw [ReceivedMessage.finish, Prog.run_bind_ok (Endpoint.clearImplicitReply_run _ _), hm]
      rfl
    obtain ⟨-, hlabel, -, -, -, hextra, hunwrapped⟩ := Message.received_eq_ok.mp hread
    have hpayload := Message.payload_of_received hread
    by_cases hzero : d.badge = 0
    · have hnobadge : m.badge = none := by
        rw [hbadge, Badge.new, dif_pos hzero]
      rw [hnobadge]
      exact Or.inr ⟨fun hw => hw.badged hzero, _, hfinish _, nofun, nofun⟩
    · have hsource : m.badge = some ⟨d.badge, hzero⟩ := by
        rw [hbadge, Badge.new, dif_neg hzero]
      rw [hsource]
      dsimp only
      by_cases hcaps : m.message.capsUnwrapped ≠ 0 ∨ m.message.extraCaps ≠ 0
      · rw [if_pos hcaps]
        refine Or.inr ⟨fun hw => ?_, _, hfinish _, nofun, nofun⟩
        -- without capabilities the mask is zero as well
        obtain ⟨hcount, hmask⟩ := (s.configured e none).kernel.deliveredInfo_fields d
        have htransferred : ((s.configured e none).kernel.transferred d).1 = [] :=
          List.eq_nil_of_length_eq_zero (hcount.symm.trans hw.noCaps)
        rw [htransferred] at hmask
        rcases hcaps with hne | hne
        · exact hne (hunwrapped.trans hmask)
        · exact hne (hextra.trans hw.noCaps)
      · rw [if_neg hcaps, Message.words_eq, Prog.run_bind_ok (Prog.run_lift _ _)]
        obtain ⟨-, hcount⟩ := not_or.mp hcaps
        rcases Fault.decode_cases m.message.label m.message.payload with ⟨fault, henc, hok⟩ | ⟨error, -, herr⟩
        · rw [hok]
          rw [hlabel, hpayload] at henc
          refine Or.inl ⟨⟨hzero, ?_, hfits.2, fault, henc⟩, ⟨⟨d.badge, hzero⟩, fault, m⟩, rfl, hm⟩
          exact hextra.symm.trans (Decidable.not_not.mp hcount)
        · rw [herr]
          refine Or.inr ⟨fun hw => ?_, _, hfinish _, nofun, nofun⟩
          obtain ⟨fault, henc⟩ := hw.layout
          have hdecode := Fault.decode_encode fault
          rw [henc] at hdecode
          rw [hlabel, hpayload] at herr
          exact nomatch hdecode.symm.trans herr
  · refine Or.inr ⟨?_, _, Prog.run_bind_err (Prog.run_mapErr_err hrun), ?_, ?_⟩
    · exact fun hw => hfits ⟨Nat.le_of_eq hw.noCaps, hw.fits⟩
    · cases err <;> simp_all [receiveError]
    · cases err <;> simp_all [receiveError]

end Receives

theorem FaultEndpoint.receive_of_pending {e : Nat} {s : IpcState} (h : s.pending e = true) (d : Delivery) :
    receive e d s = (.err (.ipc .replyPending), s) :=
  Prog.run_bind_err (Prog.run_mapErr_err (Endpoint.receive_of_pending h none d))

/-! ## Effects -/

namespace World

/-- Every way a step can change a world. -/
inductive Effect (w : World) : Op → World → Prop where
  /-- The endpoint still owes a reply; the receive slot, if any, has been given away. -/
  | refused {op e h o slot w₀} (hop : op.receives = some (e, h, o))
      (htake : w.takeSlot h = some (slot, w₀)) (hpending : w.state.pending e = true) :
      Effect w op w₀
  /-- A message was received and is now held. -/
  | kept {op e h o slot w₀} (m : ReceivedMessage) (hop : op.receives = some (e, h, o))
      (htake : w.takeSlot h = some (slot, w₀)) (hready : w.state.pending e = false)
      (hm : m.endpoint = e) :
      Effect w op ({ w₀ with state := w.state.settled e slot o }.addMessage ⟨m, o.caller⟩)
  /-- A message was received, found unacceptable and answered. -/
  | rejected {op e h o slot w₀} (hop : op.receives = some (e, h, o))
      (htake : w.takeSlot h = some (slot, w₀)) (hready : w.state.pending e = false) :
      Effect w op { w₀ with state := (w.state.settled e slot o).cleared e }
  /-- A non-blocking receive reported that nobody was waiting. -/
  | empty {op e h o slot w₀} (hop : op.receives = some (e, h, o))
      (htake : w.takeSlot h = some (slot, w₀)) (hready : w.state.pending e = false) :
      Effect w op { w₀ with state := (w.state.settled e slot o).setPending e false }
  /-- A held message was answered: by a reply, or by the empty reply of `finish` and of a failed `defer`. -/
  | answered {op h m buffer info} (hop : op.consumes = some h) (hm : w.messages h = some m)
      (hpath : buffer.recvSlot = w.state.kernel.buffer.recvSlot) :
      Effect w op { w.dropMessage h with
        state := w.state.answered m.received.endpoint buffer info }
  /-- The reply authority of a held message was saved. -/
  | deferred {h pool refused m slot pool'} (hm : w.messages h = some m)
      (hreserve : (w.state.pools pool).reserve = (some slot, pool')) :
      Effect w (.defer h pool refused)
        ({ w.dropMessage h with
          state := w.state.deferred m.received.endpoint pool slot pool' }.addDeferred
            ⟨⟨pool, slot⟩, m.caller⟩)
  /-- A saved reply was used. -/
  | replied {h message d buffer info} (hd : w.deferred h = some d)
      (hpath : buffer.recvSlot = w.state.kernel.buffer.recvSlot) :
      Effect w (.deferredReply h message) { w.dropDeferred h with
        state := w.state.released d.reply
          ({ w.state.kernel with buffer }.sendReplyCap d.reply.slot info) }
  /-- A saved reply was deleted. -/
  | discarded {h refused d} (hd : w.deferred h = some d) :
      Effect w (.discard h refused) { w.dropDeferred h with
        state := w.state.released d.reply { w.state.kernel with
          replyCaps := Function.update w.state.kernel.replyCaps d.reply.slot none } }
  /-- The kernel refused to delete a saved reply. -/
  | discardRefused {h refused d} (hd : w.deferred h = some d) :
      Effect w (.discard h refused) (w.dropDeferred h)
  | called {message answer buffer} (hpath : buffer.recvSlot = w.state.kernel.buffer.recvSlot) :
      Effect w (.call message answer) { w with
        state := { w.state with kernel := { w.state.kernel with buffer }.deliver answer } }
  | sent {message buffer} (hpath : buffer.recvSlot = w.state.kernel.buffer.recvSlot) :
      Effect w (.send message) { w with
        state := { w.state with kernel := { w.state.kernel with buffer } } }
  /-- A receive slot was granted for a free entry. -/
  | granted {root index} (slot : ReceiveSlot) (hroot : slot.root = root)
      (hindex : slot.reservation.slot.val = index) (hne : index ≠ 0)
      (hlt : index < (w.state.cspaces root).slots.capacity)
      (hfree : (w.state.cspaces root).slots.stateOf index = .free) :
      Effect w (.receiveSlot root index)
        ({ w with state := w.state.markSlot slot .reserved }.addSlot slot)
  | denied {root index} : Effect w (.receiveSlot root index) w

/-! ### Moving a receive slot out -/

/-- Taking a receive slot gives the slot held under that number, which is no longer held. -/
theorem takeSlot_cases {w w₀ : World} {h : Option Nat} {slot : Option ReceiveSlot}
    (htake : w.takeSlot h = some (slot, w₀)) :
    (h = none ∧ slot = none ∧ w₀ = w) ∨
    (∃ i r, h = some i ∧ slot = some r ∧ w.slots i = some r ∧ w₀ = w.dropSlot i) := by
  cases h with
  | none =>
      injection htake with hpair
      obtain ⟨rfl, rfl⟩ := Prod.mk.inj hpair
      exact Or.inl ⟨rfl, rfl, rfl⟩
  | some i =>
      obtain ⟨r, hr, hpair⟩ := Option.map_eq_some_iff.mp htake
      obtain ⟨rfl, rfl⟩ := Prod.mk.inj hpair
      exact Or.inr ⟨i, r, rfl, rfl, hr, rfl⟩

section Take

variable {w w₀ : World} {h : Option Nat} {slot : Option ReceiveSlot}
  (htake : w.takeSlot h = some (slot, w₀))
include htake

theorem state_of_takeSlot : w₀.state = w.state := by
  rcases takeSlot_cases htake with ⟨-, -, rfl⟩ | ⟨i, r, -, -, -, rfl⟩ <;> rfl

theorem messages_of_takeSlot : w₀.messages = w.messages := by
  rcases takeSlot_cases htake with ⟨-, -, rfl⟩ | ⟨i, r, -, -, -, rfl⟩ <;> rfl

theorem deferred_of_takeSlot : w₀.deferred = w.deferred := by
  rcases takeSlot_cases htake with ⟨-, -, rfl⟩ | ⟨i, r, -, -, -, rfl⟩ <;> rfl

theorem next_of_takeSlot : w₀.next = w.next := by
  rcases takeSlot_cases htake with ⟨-, -, rfl⟩ | ⟨i, r, -, -, -, rfl⟩ <;> rfl

/-- What is still held after the move was held before, and is not the slot that was moved. -/
theorem slots_of_takeSlot {j : Nat} {r : ReceiveSlot} (hj : w₀.slots j = some r) :
    w.slots j = some r ∧ h ≠ some j := by
  rcases takeSlot_cases htake with ⟨rfl, -, rfl⟩ | ⟨i, r', rfl, -, -, rfl⟩
  · exact ⟨hj, nofun⟩
  · obtain ⟨hne, hj⟩ := update_none_eq_some.mp hj
    exact ⟨hj, fun he => hne (Option.some.inj he).symm⟩

end Take

/-! ### The invariant of receive slots -/

/-- Every receive slot that is held owns a reserved entry within its CSpace, and no other held slot owns
    the same entry. -/
structure SlotsReserved (w : World) : Prop where
  fresh : ∀ i, w.next ≤ i → w.slots i = none
  reserved : ∀ i slot, w.slots i = some slot → w.state.Reserved (some slot)
  inRange : ∀ i slot, w.slots i = some slot →
    slot.reservation.slot.val ≠ 0 ∧
      slot.reservation.slot.val < (w.state.cspaces slot.root).slots.capacity
  distinct : ∀ i j slot slot', w.slots i = some slot → w.slots j = some slot' →
    slot.root = slot'.root → slot.reservation.slot = slot'.reservation.slot → i = j

/-- A slot that is taken out of the world is reserved, so that settling it succeeds. -/
theorem SlotsReserved.take {w w₀ : World} {h : Option Nat} {slot : Option ReceiveSlot}
    (hw : w.SlotsReserved) (htake : w.takeSlot h = some (slot, w₀)) : w.state.Reserved slot := by
  rcases takeSlot_cases htake with ⟨-, rfl, -⟩ | ⟨i, r, -, rfl, hr, -⟩
  · trivial
  · exact hw.reserved i r hr

section Perform

variable {ε α : Type} {w w' : World} {x : Prog ε IpcState α} {keep : World → α → World} {s₀ s : IpcState}
  (h : w.perform x keep = some w') (hs : w.state = s₀)
include h hs

theorem perform_ok {a : α} (hx : x s₀ = (.ok a, s)) : w' = keep { w with state := s } a := by
  rw [perform, hs, hx] at h
  exact (Option.some.inj h).symm

theorem perform_err {e : ε} (hx : x s₀ = (.err e, s)) : w' = { w with state := s } := by
  rw [perform, hs, hx] at h
  exact (Option.some.inj h).symm

theorem perform_panic (hx : x s₀ = (.panic, s)) : False := by
  rw [perform, hs, hx] at h
  exact nomatch h

end Perform

/-- Answering a held message, with any reply. -/
theorem effect_of_reply {ε : Type} {w w' : World} {op : Op} {h : Nat} {m : HeldMessage} {message : Message}
    (hop : op.consumes = some h) (hm : w.messages h = some m)
    (hstep : (w.dropMessage h).perform (m.received.reply message : Prog ε IpcState Unit)
      (fun w _ => w) = some w') : Effect w op w' := by
  rcases ReceivedMessage.reply_cases (ε := ε) m.received message w.state with
    hrun | ⟨buffer, info, hpath, hrun⟩
  · exact (perform_panic hstep rfl hrun).elim
  · rw [perform_ok hstep rfl hrun]
    exact Effect.answered hop hm hpath

/-- **Every step has one of the listed effects.** -/
theorem effect_of_step {w w' : World} {op : Op} (hw : w.SlotsReserved) (hstep : w.step op = some w') :
    Effect w op w' := by
  cases op with
  | receive e h d =>
      obtain ⟨⟨slot, w₀⟩, htake, hrest⟩ := Option.bind_eq_some_iff.mp hstep
      have hstate := state_of_takeSlot htake
      by_cases hp : w.state.pending e = true
      · rw [perform_err hrest hstate (Endpoint.receive_of_pending hp slot d), ← hstate]
        exact Effect.refused (o := .message d) rfl htake hp
      · have hready : w.state.pending e = false := Bool.eq_false_iff.mpr hp
        rcases Endpoint.receive_cases hready (hw.take htake) d with
          ⟨-, m, hrun, hm, -⟩ | ⟨-, err, hrun, -⟩
        · rw [perform_ok hrest hstate hrun]
          exact Effect.kept (o := .message d) m rfl htake hready hm
        · rw [perform_err hrest hstate hrun]
          exact Effect.rejected (o := .message d) rfl htake hready
  | tryReceive e h o =>
      obtain ⟨⟨slot, w₀⟩, htake, hrest⟩ := Option.bind_eq_some_iff.mp hstep
      have hstate := state_of_takeSlot htake
      by_cases hp : w.state.pending e = true
      · rw [perform_err hrest hstate (Endpoint.tryReceive_of_pending hp slot o), ← hstate]
        exact Effect.refused rfl htake hp
      · have hready : w.state.pending e = false := Bool.eq_false_iff.mpr hp
        rcases Endpoint.tryReceive_cases hready (hw.take htake) o with
          ⟨-, -, m, hrun, hm, -⟩ | ⟨-, -, err, hrun, -⟩ | ⟨-, hrun⟩
        · rw [perform_ok hrest hstate hrun]
          exact Effect.kept m rfl htake hready hm
        · rw [perform_err hrest hstate hrun]
          exact Effect.rejected rfl htake hready
        · rw [perform_ok hrest hstate hrun]
          exact Effect.empty rfl htake hready
  | faultReceive e d =>
      rw [step] at hstep
      by_cases hp : w.state.pending e = true
      · rw [perform_err hstep rfl (FaultEndpoint.receive_of_pending hp d)]
        exact Effect.refused (o := .message d) rfl rfl hp
      · have hready : w.state.pending e = false := Bool.eq_false_iff.mpr hp
        rcases FaultEndpoint.receive_cases hready d with ⟨-, f, hrun, hf⟩ | ⟨-, err, hrun, -⟩
        · rw [perform_ok hstep rfl hrun]
          exact Effect.kept (o := .message d) f.received rfl rfl hready hf
        · rw [perform_err hstep rfl hrun]
          exact Effect.rejected (o := .message d) rfl rfl hready
  | reply h message =>
      obtain ⟨m, hm, hrest⟩ := Option.bind_eq_some_iff.mp hstep
      exact effect_of_reply rfl hm hrest
  | faultReply h =>
      obtain ⟨m, hm, hrest⟩ := Option.bind_eq_some_iff.mp hstep
      exact effect_of_reply rfl hm hrest
  | finish h =>
      obtain ⟨m, hm, hrest⟩ := Option.bind_eq_some_iff.mp hstep
      rw [perform_ok hrest rfl (Endpoint.clearImplicitReply_run _ _)]
      exact Effect.answered rfl hm rfl
  | defer h pool refused =>
      obtain ⟨m, hm, hrest⟩ := Option.bind_eq_some_iff.mp hstep
      rcases m.received.defer_cases pool refused w.state with
        ⟨-, hrun⟩ | ⟨slot, pool', -, -, hrun⟩ | ⟨slot, pool', hres, -, -, hrun⟩
      · rw [perform_err hrest rfl hrun]
        exact Effect.answered rfl hm rfl
      · rw [perform_err hrest rfl hrun]
        exact Effect.answered rfl hm rfl
      · rw [perform_ok hrest rfl hrun]
        exact Effect.deferred hm hres
  | deferredReply h message =>
      obtain ⟨d, hd, hrest⟩ := Option.bind_eq_some_iff.mp hstep
      rcases d.reply.reply_cases message w.state with hrun | ⟨buffer, info, hpath, hrun⟩
      · exact (perform_panic hrest rfl hrun).elim
      · rw [perform_ok hrest rfl hrun]
        exact Effect.replied hd hpath
  | discard h refused =>
      obtain ⟨d, hd, hrest⟩ := Option.bind_eq_some_iff.mp hstep
      cases refused with
      | true =>
          rw [perform_err hrest rfl (d.reply.discard_refused w.state)]
          exact Effect.discardRefused hd
      | false =>
          rw [perform_ok hrest rfl (d.reply.discard_done w.state)]
          exact Effect.discarded hd
  | call message answer =>
      rw [step] at hstep
      rcases Endpoint.call_cases message answer w.state with hrun | ⟨buffer, result, hpath, hne, hrun⟩
      · exact (perform_panic hstep rfl hrun).elim
      · cases result with
        | ok a =>
            rw [perform_ok hstep rfl hrun]
            exact Effect.called hpath
        | err e =>
            rw [perform_err hstep rfl hrun]
            exact Effect.called hpath
        | panic => exact absurd rfl hne
  | send message =>
      rw [step] at hstep
      rcases Endpoint.send_cases message w.state with hrun | ⟨buffer, hpath, hrun⟩
      · exact (perform_panic hstep rfl hrun).elim
      · rw [perform_ok hstep rfl hrun]
        exact Effect.sent hpath
  | receiveSlot root index =>
      rw [step] at hstep
      rcases receiveSlot_cases root index w.state with
        hrun | ⟨slot, hroot, hindex, hne, hlt, hfree, hrun⟩
      · rw [perform_err hstep rfl hrun]
        exact Effect.denied
      · rw [perform_ok hstep rfl hrun]
        exact Effect.granted slot hroot hindex hne hlt hfree

/-! ### The invariant holds -/

/-- The invariant only looks at the held slots and the trackers. -/
theorem SlotsReserved.of_eq {w w' : World} (hw : w.SlotsReserved) (hslots : w'.slots = w.slots)
    (hcspaces : w'.state.cspaces = w.state.cspaces) (hnext : w.next ≤ w'.next) : w'.SlotsReserved where
  fresh i hi := by
    rw [hslots]
    exact hw.fresh i (Nat.le_trans hnext hi)
  reserved i slot hi := by
    show (w'.state.cspaces _).slots.stateOf _ = _
    rw [hcspaces]
    exact hw.reserved i slot (hslots ▸ hi)
  inRange i slot hi := by
    rw [hcspaces]
    exact hw.inRange i slot (hslots ▸ hi)
  distinct i j slot slot' hi hj := hw.distinct i j slot slot' (hslots ▸ hi) (hslots ▸ hj)

/-- Once a slot has been moved out, its entry may change. -/
theorem SlotsReserved.of_take {w w₀ : World} {h : Option Nat} {slot : Option ReceiveSlot}
    (hw : w.SlotsReserved) (htake : w.takeSlot h = some (slot, w₀)) {s : IpcState}
    (hother : ∀ (root i : Nat), (∀ r, slot = some r → ¬ (root = r.root ∧ i = r.reservation.slot)) →
      (s.cspaces root).slots.stateOf i = (w.state.cspaces root).slots.stateOf i)
    (hcap : ∀ root, (s.cspaces root).slots.capacity = (w.state.cspaces root).slots.capacity) :
    World.SlotsReserved { w₀ with state := s } where
  fresh i hi := by
    rw [next_of_takeSlot htake] at hi
    cases hj : w₀.slots i with
    | none => rfl
    | some r => exact absurd (slots_of_takeSlot htake hj).1 (by rw [hw.fresh i hi]; nofun)
  reserved i r hi := by
    obtain ⟨hheld, hne⟩ := slots_of_takeSlot htake hi
    have hsame := hother r.root r.reservation.slot (by
      rintro r' rfl ⟨hroot, hslot⟩
      rcases takeSlot_cases htake with ⟨-, hnone, -⟩ | ⟨j, r'', rfl, hsome, hj, -⟩
      · exact nomatch hnone
      · have heq : r' = r'' := Option.some.inj hsome
        subst heq
        exact hne (congrArg some (hw.distinct j i _ _ hj hheld hroot.symm (Fin.ext hslot).symm)))
    exact hsame.trans (hw.reserved i r hheld)
  inRange i r hi := by
    rw [hcap]
    exact hw.inRange i r (slots_of_takeSlot htake hi).1
  distinct i j r r' hi hj :=
    hw.distinct i j r r' (slots_of_takeSlot htake hi).1 (slots_of_takeSlot htake hj).1

/-- Settling a receive touches the entry of its slot only. -/
theorem stateOf_settled (s : IpcState) (e : Nat) (slot : Option ReceiveSlot) (o : NbOutcome) (root i : Nat)
    (h : ∀ r, slot = some r → ¬ (root = r.root ∧ i = r.reservation.slot)) :
    ((s.settled e slot o).cspaces root).slots.stateOf i = (s.cspaces root).slots.stateOf i := by
  cases slot with
  | none => rfl
  | some r => exact (IpcState.stateOf_markSlot _ r _ root i).trans (if_neg (h r rfl))

theorem capacity_settled (s : IpcState) (e : Nat) (slot : Option ReceiveSlot) (o : NbOutcome) (root : Nat) :
    ((s.settled e slot o).cspaces root).slots.capacity = (s.cspaces root).slots.capacity :=
  IpcState.capacity_settleSlot _ slot _ root

theorem pools_settled (s : IpcState) (e : Nat) (slot : Option ReceiveSlot) (o : NbOutcome) :
    (s.settled e slot o).pools = s.pools := IpcState.pools_settleSlot _ slot _

theorem replyCaps_settled (s : IpcState) (e : Nat) (slot : Option ReceiveSlot) (o : NbOutcome) :
    (s.settled e slot o).kernel.replyCaps = s.kernel.replyCaps := by
  rw [IpcState.settled, IpcState.kernel_settleSlot, IpcState.replyCaps_afterNbRecv]

theorem slotsReserved_step {w w' : World} {op : Op} (hw : w.SlotsReserved) (h : Effect w op w') :
    w'.SlotsReserved := by
  cases h with
  | refused hop htake hp =>
      have := hw.of_take htake (s := w.state) (fun _ _ _ => rfl) fun _ => rfl
      rwa [← state_of_takeSlot htake] at this
  | @kept _ e _ o slot _ m hop htake hready hm =>
      have := hw.of_take htake (stateOf_settled w.state e slot o) (capacity_settled w.state e slot o)
      exact this.of_eq rfl rfl (Nat.le_succ _)
  | rejected hop htake hready =>
      exact hw.of_take htake (stateOf_settled w.state _ _ _) (capacity_settled w.state _ _ _)
  | empty hop htake hready =>
      exact hw.of_take htake (stateOf_settled w.state _ _ _) (capacity_settled w.state _ _ _)
  | deferred hm hres => exact hw.of_eq rfl rfl (Nat.le_succ _)
  | granted slot hroot hindex hne hlt hfree =>
      -- the entry was free, so no held slot owned it
      have hnew : ∀ i r, w.slots i = some r →
          ¬ (r.root = slot.root ∧ r.reservation.slot.val = slot.reservation.slot.val) := by
        rintro i r hi ⟨hr, hs⟩
        have := hw.reserved i r hi
        rw [IpcState.Reserved, hr, hroot, hs, hindex, hfree] at this
        exact nomatch this
      refine ⟨?_, ?_, ?_, ?_⟩
      · intro i hi
        have hne : i ≠ w.next := Nat.ne_of_gt hi
        exact (Function.update_of_ne hne _ _).trans (hw.fresh i (Nat.le_of_lt hi))
      · intro i r hi
        rw [IpcState.Reserved]
        refine (IpcState.stateOf_markSlot w.state slot _ _ _).trans ?_
        rcases update_some_eq_some.mp hi with ⟨-, rfl⟩ | ⟨-, hi'⟩
        · exact if_pos ⟨rfl, rfl⟩
        · rw [if_neg (hnew i r hi')]
          exact hw.reserved i r hi'
      · intro i r hi
        refine ⟨?_, Nat.lt_of_lt_of_eq ?_ (IpcState.capacity_markSlot w.state slot _ _).symm⟩
        · rcases update_some_eq_some.mp hi with ⟨-, rfl⟩ | ⟨-, hi'⟩
          · exact hindex ▸ hne
          · exact (hw.inRange i r hi').1
        · rcases update_some_eq_some.mp hi with ⟨-, rfl⟩ | ⟨-, hi'⟩
          · rw [hroot, hindex]
            exact hlt
          · exact (hw.inRange i r hi').2
      · intro i j r r' hi hj hroots hslots
        rcases update_some_eq_some.mp hi with ⟨hin, rfl⟩ | ⟨-, hi'⟩ <;>
          rcases update_some_eq_some.mp hj with ⟨hjn, rfl⟩ | ⟨-, hj'⟩
        · exact hin.trans hjn.symm
        · exact absurd ⟨hroots.symm, congrArg Fin.val hslots.symm⟩ (hnew j r' hj')
        · exact absurd ⟨hroots, congrArg Fin.val hslots⟩ (hnew i r hi')
        · exact hw.distinct i j r r' hi' hj' hroots hslots
  | denied => exact hw
  | answered | replied | discarded | discardRefused | called | sent => exact hw.of_eq rfl rfl (Nat.le_refl _)

theorem slotsReserved_initial {w : World} (h : w.Initial) : w.SlotsReserved where
  fresh i _ := h.slots i
  reserved i slot hi := absurd hi (by rw [h.slots]; nofun)
  inRange i slot hi := absurd hi (by rw [h.slots]; nofun)
  distinct i _ slot _ hi := absurd hi (by rw [h.slots]; nofun)

/-- **The invariant of receive slots** holds in every reachable world. -/
theorem slotsReserved_reachable {C : World → Op → Prop} {w : World}
    (h : Reachable World.step World.Initial C w) : w.SlotsReserved :=
  h.invariant (fun _ => slotsReserved_initial) fun _ _ _ hw _ hs => slotsReserved_step hw (effect_of_step hw hs)

/-- A further invariant of runs may be proved from the effects. -/
theorem invariant_of_effect {C : World → Op → Prop} {I : World → Prop} {w : World}
    (h0 : ∀ w, w.Initial → I w)
    (hstep : ∀ w op w', w.SlotsReserved → I w → C w op → Effect w op w' → I w')
    (h : Reachable World.step World.Initial C w) : I w := by
  have hboth := h.invariant (I := fun w => w.SlotsReserved ∧ I w)
    (fun w hw => ⟨slotsReserved_initial hw, h0 w hw⟩) (fun w op w' ⟨hw, hi⟩ hC hs =>
      have he := effect_of_step hw hs
      ⟨slotsReserved_step hw he, hstep w op w' hw hi hC he⟩)
  exact hboth.2

end World
end Ricoq
