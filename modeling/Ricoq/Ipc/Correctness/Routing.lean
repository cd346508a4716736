import Ricoq.Ipc.Correctness.Effect

/-!
# `Ipc.Correctness.Routing` — whose request a reply answers

`implicitReplyPending` is one flag per endpoint; the caller slot it stands for is one per thread. A receive
on a second endpoint therefore empties the caller slot although the message of the first endpoint is still
held, and the reply to that message goes to the wrong client (`second_endpoint_misroutes`).

In runs where that does not happen (`Unshared`: a receive runs only while every flag is clear, or is refused
by its own flag) the slot and the flags agree. `Routed` is the invariant: at most one message is held, its
endpoint's flag is set, the caller slot holds its client, and each deferred reply's root slot holds the client
of that reply. From it, every reply goes to the client whose request it answers (`replies_routed`).
-/

namespace Ricoq
namespace World

open Sel4

/-- The condition on a step: a receive that is not refused finds every flag clear. -/
def Unshared (w : World) (op : Op) : Prop :=
  ∀ e slot o, op.receives = some (e, slot, o) → w.state.pending e = false →
    ∀ e', w.state.pending e' = false

/-- The replies delivered by a step are one to `client`, or none when there is no client to answer. -/
def Delivers (w w' : World) (client : Option Caller) : Prop :=
  ∃ new : List Reply, w'.state.kernel.replies = new ++ w.state.kernel.replies ∧
    new.map (·.recipient) = client.toList

/-! ## The invariant -/

/-- A deferred reply owns a slot of its pool, in use, and that slot holds its client. -/
structure Saved (s : IpcState) (d : HeldReply) : Prop where
  owns : (s.pools d.reply.pool).Owns d.reply.slot
  inUse : (s.pools d.reply.pool).InUse d.reply.slot
  client : s.kernel.replyCaps d.reply.slot = d.caller

/-- That depends on the pools and the reply capabilities alone. -/
theorem Saved.of_eq {s s' : IpcState} {d : HeldReply} (hd : Saved s d) (hpools : s'.pools = s.pools)
    (hcaps : s'.kernel.replyCaps = s.kernel.replyCaps) : Saved s' d := by
  obtain ⟨howns, huse, hclient⟩ := hd
  exact ⟨hpools ▸ howns, hpools ▸ huse, hcaps ▸ hclient⟩

structure Routed (w : World) : Prop where
  pending : ∀ i m, w.messages i = some m → w.state.pending m.received.endpoint = true
  client : ∀ i m, w.messages i = some m → w.state.kernel.caller = m.caller
  unique : ∀ i j m m', w.messages i = some m → w.messages j = some m' → i = j
  disjoint : ∀ p q slot, (w.state.pools p).Owns slot → (w.state.pools q).Owns slot → p = q
  saved : ∀ i d, w.deferred i = some d → Saved w.state d
  distinct : ∀ i j d d', w.deferred i = some d → w.deferred j = some d' →
    d.reply.slot = d'.reply.slot → i = j

theorem routed_initial {w : World} (h : w.Initial) : w.Routed where
  pending i m hm := absurd hm (by rw [h.messages]; nofun)
  client i m hm := absurd hm (by rw [h.messages]; nofun)
  unique i j m m' hm := absurd hm (by rw [h.messages]; nofun)
  disjoint := h.disjoint
  saved i d hd := absurd hd (by rw [h.deferred]; nofun)
  distinct i j d d' hd := absurd hd (by rw [h.deferred]; nofun)

/-- While every flag is clear, no message is held. -/
theorem Routed.no_messages {w : World} (hw : w.Routed) (hclear : ∀ e, w.state.pending e = false) (i : Nat)
    (m : HeldMessage) : w.messages i ≠ some m := by
  intro hm
  exact absurd (hw.pending i m hm) (by rw [hclear]; nofun)

/-- Once the one held message is consumed, none is held. -/
theorem Routed.no_others {w : World} (hw : w.Routed) {h : Nat} {m : HeldMessage} (hm : w.messages h = some m)
    (i : Nat) (m' : HeldMessage) : (w.dropMessage h).messages i ≠ some m' := by
  intro hi
  obtain ⟨hne, hm'⟩ := update_none_eq_some.mp hi
  exact hne (hw.unique i h m' m hm' hm)

/-- The deferred replies are untouched, and no message is held. -/
theorem Routed.of_no_messages {w w' : World} (hw : w.Routed) (hmessages : ∀ i m, w'.messages i ≠ some m)
    (hdeferred : w'.deferred = w.deferred) (hpools : w'.state.pools = w.state.pools)
    (hcaps : w'.state.kernel.replyCaps = w.state.kernel.replyCaps) : w'.Routed where
  pending i m hm := absurd hm (hmessages i m)
  client i m hm := absurd hm (hmessages i m)
  unique i j m m' hm := absurd hm (hmessages i m)
  disjoint := by
    rw [hpools]
    exact hw.disjoint
  saved i d hd := (hw.saved i d (hdeferred ▸ hd)).of_eq hpools hcaps
  distinct i j d d' hd hd' := hw.distinct i j d d' (hdeferred ▸ hd) (hdeferred ▸ hd')

/-- One message is received into a world without any. -/
theorem Routed.addMessage {w : World} {m : HeldMessage} (hw : w.Routed) (hnone : ∀ i m', w.messages i ≠ some m')
    (hpending : w.state.pending m.received.endpoint = true) (hclient : w.state.kernel.caller = m.caller) :
    (w.addMessage m).Routed := by
  have honly : ∀ i m', (w.addMessage m).messages i = some m' → i = w.next ∧ m' = m := by
    intro i m' hi
    rcases update_some_eq_some.mp hi with hnew | ⟨-, hold⟩
    · exact hnew
    · exact absurd hold (hnone i m')
  refine ⟨?_, ?_, ?_, hw.disjoint, hw.saved, hw.distinct⟩
  · intro i m' hi
    rw [(honly i m' hi).2]
    exact hpending
  · intro i m' hi
    rw [(honly i m' hi).2]
    exact hclient
  · intro i j m' m'' hi hj
    exact (honly i m' hi).1.trans (honly j m'' hj).1.symm

/-- Nothing that the invariant looks at has changed. -/
theorem Routed.of_eq {w w' : World} (hw : w.Routed) (hmessages : w'.messages = w.messages)
    (hdeferred : w'.deferred = w.deferred) (hpending : w'.state.pending = w.state.pending)
    (hpools : w'.state.pools = w.state.pools) (hcaller : w'.state.kernel.caller = w.state.kernel.caller)
    (hcaps : w'.state.kernel.replyCaps = w.state.kernel.replyCaps) : w'.Routed where
  pending i m hm := by
    rw [hpending]
    exact hw.pending i m (hmessages ▸ hm)
  client i m hm := by
    rw [hcaller]
    exact hw.client i m (hmessages ▸ hm)
  unique i j m m' hm hm' := hw.unique i j m m' (hmessages ▸ hm) (hmessages ▸ hm')
  disjoint := by
    rw [hpools]
    exact hw.disjoint
  saved i d hd := (hw.saved i d (hdeferred ▸ hd)).of_eq hpools hcaps
  distinct i j d d' hd hd' := hw.distinct i j d d' (hdeferred ▸ hd) (hdeferred ▸ hd')

/-! ## Pools -/

/-- Dropping a deferred reply and releasing its slot leaves every other deferred reply in place. -/
theorem Routed.release {w : World} (hw : w.Routed) {h : Nat} {d : HeldReply} (hd : w.deferred h = some d)
    {kernel : Kernel} (hcaller : kernel.caller = w.state.kernel.caller)
    (hcaps : kernel.replyCaps = Function.update w.state.kernel.replyCaps d.reply.slot none) :
    World.Routed { w.dropDeferred h with state := w.state.released d.reply kernel } := by
  have hold : ∀ i d', (w.dropDeferred h).deferred i = some d' →
      w.deferred i = some d' ∧ d'.reply.slot ≠ d.reply.slot := by
    intro i d' hi
    obtain ⟨hne, hi'⟩ := update_none_eq_some.mp hi
    exact ⟨hi', fun hslot => hne (hw.distinct i h d' d hi' hd hslot)⟩
  refine ⟨hw.pending, ?_, hw.unique, ?_, ?_, ?_⟩
  · intro i m hm
    exact hcaller.trans (hw.client i m hm)
  · intro p q slot hp hq
    exact hw.disjoint p q slot ((IpcState.owns_released p slot).mp hp) ((IpcState.owns_released q slot).mp hq)
  · intro i d' hi
    obtain ⟨hi', hslot⟩ := hold i d' hi
    have hsaved := hw.saved i d' hi'
    refine ⟨(IpcState.owns_released _ _).mpr hsaved.owns, ?_, ?_⟩
    · refine (IpcState.inUse_released (hw.saved h d hd).owns hsaved.owns).mpr ⟨hsaved.inUse, ?_⟩
      exact fun heq => hslot (congrArg DeferredReply.slot heq).symm
    · show kernel.replyCaps d'.reply.slot = d'.caller
      rw [hcaps, Function.update_of_ne hslot]
      exact hsaved.client
  · intro i j d₁ d₂ hi hj
    exact hw.distinct i j d₁ d₂ (hold i d₁ hi).1 (hold j d₂ hj).1

/-- Saving the reply authority of the held message takes a slot no other deferred reply has. -/
theorem Routed.defer {w : World} (hw : w.Routed) {h pool slot : Nat} {m : HeldMessage} {pool' : ReplyPool}
    (hm : w.messages h = some m) (hreserve : (w.state.pools pool).reserve = (some slot, pool')) :
    World.Routed ({ w.dropMessage h with
      state := w.state.deferred m.received.endpoint pool slot pool' }.addDeferred
        ⟨⟨pool, slot⟩, m.caller⟩) := by
  obtain ⟨hown, hfree, -⟩ := ReplyPool.reserve_some hreserve
  -- no deferred reply that is already held has this slot
  have hnew : ∀ i d, w.deferred i = some d → d.reply.slot ≠ slot := by
    intro i d hd hs
    have hsaved := hw.saved i d hd
    have hp : d.reply.pool = pool := hw.disjoint _ _ slot (hs ▸ hsaved.owns) hown
    have hused := hsaved.inUse
    rw [hs, hp] at hused
    exact hfree hused
  have howns := IpcState.owns_deferred hreserve m.received.endpoint
  refine ⟨?_, ?_, ?_, ?_, ?_, ?_⟩
  · intro i m' hi
    exact absurd hi (hw.no_others hm i m')
  · intro i m' hi
    exact absurd hi (hw.no_others hm i m')
  · intro i j m' m'' hi
    exact absurd hi (hw.no_others hm i m')
  · intro p q s hp hq
    exact hw.disjoint p q s ((howns p s).mp hp) ((howns q s).mp hq)
  · intro i d hi
    rcases update_some_eq_some.mp hi with ⟨-, rfl⟩ | ⟨-, hd⟩
    · refine ⟨(howns pool slot).mpr hown, ?_, ?_⟩
      · exact (IpcState.inUse_deferred hreserve m.received.endpoint hown).mpr (Or.inr ⟨rfl, rfl⟩)
      · show Function.update w.state.kernel.replyCaps slot w.state.kernel.caller slot = m.caller
        rw [Function.update_self]
        exact hw.client h m hm
    · have hsaved := hw.saved i d hd
      refine ⟨(howns _ _).mpr hsaved.owns, ?_, ?_⟩
      · exact (IpcState.inUse_deferred hreserve m.received.endpoint hsaved.owns).mpr (Or.inl hsaved.inUse)
      · show Function.update w.state.kernel.replyCaps slot w.state.kernel.caller d.reply.slot = d.caller
        rw [Function.update_of_ne (hnew i d hd)]
        exact hsaved.client
  · intro i j d d' hi hj hs
    rcases update_some_eq_some.mp hi with ⟨hin, rfl⟩ | ⟨-, hd⟩ <;>
      rcases update_some_eq_some.mp hj with ⟨hjn, rfl⟩ | ⟨-, hd'⟩
    · exact hin.trans hjn.symm
    · exact absurd hs.symm (hnew j d' hd')
    · exact absurd hs (hnew i d hd)
    · exact hw.distinct i j d d' hd hd' hs

/-! ## Steps and runs -/

/-- A receive that runs while every flag is clear finds no held message, and keeps the deferred replies. -/
theorem Routed.received {w w₀ : World} {h : Option Nat} {slot : Option ReceiveSlot} {s : IpcState}
    (hw : w.Routed) (hclear : ∀ e, w.state.pending e = false) (htake : w.takeSlot h = some (slot, w₀))
    (hcaps : s.kernel.replyCaps = w.state.kernel.replyCaps) (hpools : s.pools = w.state.pools) :
    (∀ i m, w₀.messages i ≠ some m) ∧ World.Routed { w₀ with state := s } := by
  have hnone : ∀ i m, w₀.messages i ≠ some m := by
    rw [messages_of_takeSlot htake]
    exact hw.no_messages hclear
  have hdeferred := deferred_of_takeSlot htake
  exact ⟨hnone, hw.of_no_messages hnone hdeferred hpools hcaps⟩

theorem routed_step {w w' : World} {op : Op} (hw : w.Routed) (hC : Unshared w op) (h : Effect w op w') :
    w'.Routed := by
  cases h with
  | refused hop htake hp =>
      have hstate := state_of_takeSlot htake
      exact hw.of_eq (messages_of_takeSlot htake) (deferred_of_takeSlot htake) (by rw [hstate])
        (by rw [hstate]) (by rw [hstate]) (by rw [hstate])
  | @kept _ e _ o slot w₀ m hop htake hready hm =>
      obtain ⟨hnone, hbase⟩ := hw.received (hC _ _ _ hop hready) htake
        (replyCaps_settled w.state e slot o) (pools_settled w.state e slot o)
      refine hbase.addMessage hnone ?_ ?_
      · show (w.state.settled e slot o).pending m.endpoint = true
        rw [hm, IpcState.settled, IpcState.pending_settleSlot, IpcState.pending_afterNbRecv,
          Function.update_self]
      · show (w.state.settled e slot o).kernel.caller = o.caller
        rw [IpcState.settled, IpcState.kernel_settleSlot, IpcState.caller_afterNbRecv]
  | @rejected _ e _ o slot _ hop htake hready =>
      have hcaps : ((w.state.settled e slot o).cleared e).kernel.replyCaps = w.state.kernel.replyCaps :=
        (IpcState.replyCaps_answered ..).trans (replyCaps_settled ..)
      exact (hw.received (hC _ _ _ hop hready) htake hcaps (pools_settled w.state e slot o)).2
  | @empty _ e _ o slot _ hop htake hready =>
      have hcaps : ((w.state.settled e slot o).setPending e false).kernel.replyCaps =
          w.state.kernel.replyCaps := replyCaps_settled ..
      exact (hw.received (hC _ _ _ hop hready) htake hcaps (pools_settled w.state e slot o)).2
  | answered hop hm hpath =>
      exact hw.of_no_messages (hw.no_others hm) rfl rfl (IpcState.replyCaps_answered ..)
  | deferred hm hreserve => exact hw.defer hm hreserve
  | replied hd hpath =>
      exact hw.release hd (Kernel.caller_sendReplyCap ..) (Kernel.replyCaps_sendReplyCap ..)
  | discarded hd => exact hw.release hd rfl rfl
  | @discardRefused h _ d hd =>
      have hold : ∀ i d', (w.dropDeferred h).deferred i = some d' → w.deferred i = some d' :=
        fun i d' hi => (update_none_eq_some.mp hi).2
      exact ⟨hw.pending, hw.client, hw.unique, hw.disjoint, fun i d' hi => hw.saved i d' (hold i d' hi),
        fun i j d₁ d₂ hi hj => hw.distinct i j d₁ d₂ (hold i d₁ hi) (hold j d₂ hj)⟩
  | called hpath => exact hw.of_eq rfl rfl rfl rfl (Kernel.caller_deliver ..) (Kernel.replyCaps_deliver ..)
  | sent hpath => exact hw.of_eq rfl rfl rfl rfl rfl rfl
  | granted slot => exact hw.of_eq rfl rfl rfl rfl rfl rfl
  | denied => exact hw

theorem routed_reachable {w : World} (h : Reachable World.step World.Initial Unshared w) : w.Routed :=
  invariant_of_effect (fun _ => routed_initial) (fun _ _ _ _ hw hC he => routed_step hw hC he) h

/-! ## Who receives the reply -/

/-- A step that consumes a message without deferring it answers the client in the caller slot. -/
theorem delivers_of_consumes {w w' : World} {op : Op} {h : Nat} {m : HeldMessage} (hw : w.Routed)
    (hop : op.consumes = some h) (hm : w.messages h = some m) (he : Effect w op w')
    (hdefer : ∀ h p r, op ≠ .defer h p r) : Delivers w w' m.caller := by
  cases he with
  | answered hop' hm' hpath =>
      obtain ⟨new, hnew, hto⟩ := IpcState.replies_answered w.state _ _ _
      refine ⟨new, hnew, ?_⟩
      rw [hto, hw.client h m hm]
  | deferred => exact absurd rfl (hdefer _ _ _)
  | refused hop' | kept _ hop' | rejected hop' | empty hop' =>
      exact nomatch hop.symm.trans (Op.consumes_of_receives hop')
  | replied | discarded | discardRefused | called | sent | granted | denied => exact nomatch hop

/-- Using a deferred reply answers the client that was saved with it. -/
theorem delivers_of_deferredReply {w w' : World} {h : Nat} {d : HeldReply} {message : Message}
    (hw : w.Routed) (hd : w.deferred h = some d) (he : Effect w (.deferredReply h message) w') :
    Delivers w w' d.caller := by
  cases he with
  | replied hd' hpath =>
      obtain rfl : d = _ := Option.some.inj (hd.symm.trans hd')
      refine ⟨_, Kernel.replies_sendReplyCap _ _ _, ?_⟩
      rw [← (hw.saved h d hd).client]
      show List.map _ (List.map _ (w.state.kernel.replyCaps d.reply.slot).toList) = _
      cases w.state.kernel.replyCaps d.reply.slot <;> rfl
  | refused hop => exact nomatch hop
  | kept _ hop => exact nomatch hop
  | rejected hop => exact nomatch hop
  | empty hop => exact nomatch hop
  | answered hop => exact nomatch hop

/-- **Reply routing.** In every run whose receives find every other flag clear, in every state it reaches:
    the reply authority of each held message and of each deferred reply is still there, and a reply through
    either goes to the client whose request produced it, and to nobody else. -/
theorem replies_routed {w : World} (h : Reachable World.step World.Initial Unshared w) :
    (∀ i m, w.messages i = some m → w.state.kernel.caller = m.caller) ∧
    (∀ i d, w.deferred i = some d → w.state.kernel.replyCaps d.reply.slot = d.caller) ∧
    (∀ i m op w', w.messages i = some m →
      (∃ message, op = .reply i message) ∨ op = .faultReply i ∨ op = .finish i →
      w.step op = some w' → Delivers w w' m.caller) ∧
    (∀ i d message w', w.deferred i = some d → w.step (.deferredReply i message) = some w' →
      Delivers w w' d.caller) := by
  have hw := routed_reachable h
  have hslots := slotsReserved_reachable h
  refine ⟨hw.client, fun i d hd => (hw.saved i d hd).client, ?_, ?_⟩
  · intro i m op w' hm hop hstep
    have he := effect_of_step hslots hstep
    rcases hop with ⟨message, rfl⟩ | rfl | rfl
    · exact delivers_of_consumes hw rfl hm he nofun
    · exact delivers_of_consumes hw rfl hm he nofun
    · exact delivers_of_consumes hw rfl hm he nofun
  · intro i d message w' hd hstep
    exact delivers_of_deferredReply hw hd (effect_of_step hslots hstep)

/-- One request received and answered, from the start. -/
theorem replies_routed_request :
    ∃ w w', start.step (.receive 0 none (request 1 [])) = some w ∧
      w.step (.reply 0 Message.emptyReply) = some w' ∧ Delivers w w' (some ⟨1, false⟩) := by
  have hready : Unshared start (.receive 0 none (request 1 [])) := fun _ _ _ _ _ _ => rfl
  refine ⟨_, _, rfl, rfl, ?_⟩
  exact (replies_routed ((Reachable.refl initial_start).tail hready rfl)).2.2.1 0 _ _ _ rfl
    (Or.inl ⟨Message.emptyReply, rfl⟩) rfl

/-- Client 1 calls endpoint 0 and client 2 calls endpoint 1. The authority to answer client 1 is gone while
    its message is held, and the reply to that message is delivered to client 2. -/
theorem second_endpoint_misroutes :
    ∃ w w' m, Reachable World.step World.Initial (@anyStep World Op) w ∧
      w.messages 0 = some m ∧ m.caller = some ⟨1, false⟩ ∧ w.state.kernel.caller = some ⟨2, false⟩ ∧
      w.step (.reply 0 Message.emptyReply) = some w' ∧
      w'.state.kernel.replies.map (·.recipient) = [⟨2, false⟩] ∧ ¬ Delivers w w' m.caller := by
  have hrun : Reachable World.step World.Initial (@anyStep World Op) _ :=
    (Reachable.refl initial_start).foldlM
      [.receive 0 none (request 1 []), .receive 1 none (request 2 [])] rfl
  refine ⟨_, _, _, hrun, rfl, rfl, rfl, rfl, rfl, ?_⟩
  rintro ⟨new, hnew, hto⟩
  have hall := congrArg (List.map (·.recipient)) (hnew.trans (List.append_nil new))
  have hwrong : [(⟨2, false⟩ : Caller)] = [⟨1, false⟩] := hall.trans hto
  exact absurd hwrong (by decide)

end World
end Ricoq
