import Mathlib.Tactic.Abel
import Ricoq.Lib.Tally
import Ricoq.Ipc.Correctness.Polling
import Ricoq.Ipc.Correctness.Routing

/-!
# `Ipc.Correctness.Accounting` — every request has one answer to come

A client that has called, or a thread that has faulted, is blocked until it is answered. `Account` keeps the
books next to the world. They are kept in two ways.

By authority: the kernel answers a client through the caller slot or a saved reply capability, and each operation
moves that authority, uses it, or lets it go (`authority_step`). This holds in every run, and so nobody is ever
answered more often than it asked (`answered_at_most_once`).

By handle: in runs where replies are routed (`Unshared`) the requests are those that were answered, those whose
handle is outstanding, and those that a poll overlooked or a discard gave up (`requests_accounted`).
-/

namespace Ricoq

open Sel4

/-- The client behind a message or a reply, if there is one. -/
def clients (caller : Option Caller) : Multiset Caller := caller.toList

namespace World

variable {w w' : World} {op : Op}

/-- The clients whose requests were answered. -/
def answered (w : World) : Multiset Caller := w.state.kernel.replies.map (·.recipient)

/-- The clients behind the handles that are outstanding. -/
def outstanding (w : World) : Multiset Caller :=
  tally (fun m => clients m.caller) w.messages w.next + tally (fun d => clients d.caller) w.deferred w.next

/-- The client whose request an operation receives. -/
def asks (w : World) (op : Op) : List Caller :=
  match op.receives with
  | some (e, _, o) => if w.state.pending e then [] else o.caller.toList
  | none           => []

/-- The client whose request a poll takes for nothing. -/
def overlooks (w : World) : Op → List Caller
  | .tryReceive e h o =>
    match w.takeSlot h with
    | some (slot, _) =>
        if w.state.pending e = false ∧ Endpoint.LooksEmpty (Endpoint.nbReport w.state e slot o) then
          o.caller.toList
        else
          []
    | none => []
  | _ => []

/-- The client whose deferred reply an operation discards. -/
def givesUp (w : World) : Op → List Caller
  | .discard h _ => ((w.deferred h).bind HeldReply.caller).toList
  | _            => []

/-- Handles are numbered as they are made. -/
structure Numbered (w : World) : Prop where
  messages : ∀ i, w.next ≤ i → w.messages i = none
  deferred : ∀ i, w.next ≤ i → w.deferred i = none

theorem Numbered.lt_of_message {i : Nat} {m : HeldMessage} (hw : w.Numbered) (hm : w.messages i = some m) :
    i < w.next := by
  by_contra hle
  cases hm.symm.trans (hw.messages i (Nat.not_lt.mp hle))

theorem Numbered.lt_of_deferred {i : Nat} {d : HeldReply} (hw : w.Numbered) (hd : w.deferred i = some d) :
    i < w.next := by
  by_contra hle
  cases hd.symm.trans (hw.deferred i (Nat.not_lt.mp hle))

/-! ## Handles come and go -/

theorem outstanding_addMessage {m : HeldMessage} (hw : w.Numbered) :
    (w.addMessage m).outstanding = w.outstanding + clients m.caller := by
  unfold outstanding addMessage
  dsimp only
  rw [tally_succ_update, tally_succ_of_none (hw.deferred w.next (Nat.le_refl _)), add_right_comm]

theorem outstanding_addDeferred {d : HeldReply} (hw : w.Numbered) :
    (w.addDeferred d).outstanding = w.outstanding + clients d.caller := by
  unfold outstanding addDeferred
  dsimp only
  rw [tally_succ_update, tally_succ_of_none (hw.messages w.next (Nat.le_refl _)), add_assoc]

theorem outstanding_addSlot {slot : ReceiveSlot} (hw : w.Numbered) :
    (w.addSlot slot).outstanding = w.outstanding := by
  unfold outstanding addSlot
  dsimp only
  rw [tally_succ_of_none (hw.messages w.next (Nat.le_refl _)),
    tally_succ_of_none (hw.deferred w.next (Nat.le_refl _))]

theorem outstanding_dropMessage {i : Nat} {m : HeldMessage} (hw : w.Numbered) (hm : w.messages i = some m) :
    w.outstanding = clients m.caller + (w.dropMessage i).outstanding := by
  unfold outstanding dropMessage
  dsimp only
  rw [tally_eq_add_update hm (hw.lt_of_message hm), add_assoc]

theorem outstanding_dropDeferred {i : Nat} {d : HeldReply} (hw : w.Numbered) (hd : w.deferred i = some d) :
    w.outstanding = clients d.caller + (w.dropDeferred i).outstanding := by
  unfold outstanding dropDeferred
  dsimp only
  rw [tally_eq_add_update hd (hw.lt_of_deferred hd), add_left_comm]

theorem Numbered.of_eq (hw : w.Numbered) (hmessages : w'.messages = w.messages)
    (hdeferred : w'.deferred = w.deferred) (hnext : w'.next = w.next) : w'.Numbered where
  messages i hi := (congrFun hmessages i).trans (hw.messages i (hnext ▸ hi))
  deferred i hi := (congrFun hdeferred i).trans (hw.deferred i (hnext ▸ hi))

theorem Numbered.addMessage (hw : w.Numbered) (m : HeldMessage) : (w.addMessage m).Numbered where
  messages i hi := by
    have hlt : w.next < i := hi
    show Function.update w.messages w.next (some m) i = none
    rw [Function.update_of_ne (by omega), hw.messages i (by omega)]
  deferred i hi := hw.deferred i (Nat.le_of_lt hi)

theorem Numbered.addDeferred (hw : w.Numbered) (d : HeldReply) : (w.addDeferred d).Numbered where
  messages i hi := hw.messages i (Nat.le_of_lt hi)
  deferred i hi := by
    have hlt : w.next < i := hi
    show Function.update w.deferred w.next (some d) i = none
    rw [Function.update_of_ne (by omega), hw.deferred i (by omega)]

theorem Numbered.addSlot (hw : w.Numbered) (slot : ReceiveSlot) : (w.addSlot slot).Numbered where
  messages i hi := hw.messages i (Nat.le_of_lt hi)
  deferred i hi := hw.deferred i (Nat.le_of_lt hi)

theorem Numbered.dropMessage (hw : w.Numbered) (h : Nat) : (w.dropMessage h).Numbered where
  messages i hi := by
    apply Option.eq_none_iff_forall_ne_some.mpr
    intro m hm
    cases (hw.messages i hi).symm.trans (update_none_eq_some.mp hm).2
  deferred := hw.deferred

theorem Numbered.dropDeferred (hw : w.Numbered) (h : Nat) : (w.dropDeferred h).Numbered where
  messages := hw.messages
  deferred i hi := by
    apply Option.eq_none_iff_forall_ne_some.mpr
    intro d hd
    cases (hw.deferred i hi).symm.trans (update_none_eq_some.mp hd).2

theorem Numbered.take {w₀ : World} {h : Option Nat} {slot : Option ReceiveSlot} (hw : w.Numbered)
    (htake : w.takeSlot h = some (slot, w₀)) : w₀.Numbered :=
  hw.of_eq (messages_of_takeSlot htake) (deferred_of_takeSlot htake) (next_of_takeSlot htake)

theorem Numbered.step (hw : w.Numbered) (he : Effect w op w') : w'.Numbered := by
  cases he with
  | refused hop htake hp => exact hw.take htake
  | kept m hop htake hready hm =>
      apply Numbered.addMessage
      exact (hw.take htake).of_eq rfl rfl rfl
  | rejected hop htake hready => exact (hw.take htake).of_eq rfl rfl rfl
  | empty hop htake hready => exact (hw.take htake).of_eq rfl rfl rfl
  | answered hop hm hpath => exact (hw.dropMessage _).of_eq rfl rfl rfl
  | deferred hm hreserve =>
      apply Numbered.addDeferred
      exact (hw.dropMessage _).of_eq rfl rfl rfl
  | replied hd hpath => exact (hw.dropDeferred _).of_eq rfl rfl rfl
  | discarded hd => exact (hw.dropDeferred _).of_eq rfl rfl rfl
  | discardRefused hd => exact hw.dropDeferred _
  | called hpath => exact hw.of_eq rfl rfl rfl
  | sent hpath => exact hw.of_eq rfl rfl rfl
  | granted slot =>
      apply Numbered.addSlot
      exact hw.of_eq rfl rfl rfl
  | denied => exact hw

/-! ## The books balance -/

/-- Whose requests were answered, when some more were. -/
theorem answered_of_append {new : List Reply} {caller : Option Caller}
    (hnew : w'.state.kernel.replies = new ++ w.state.kernel.replies)
    (hto : new.map (·.recipient) = caller.toList) : w'.answered = clients caller + w.answered := by
  rw [answered, hnew, List.map_append, hto]
  rfl

theorem answered_of_eq (hsame : w'.state.kernel.replies = w.state.kernel.replies) : w'.answered = w.answered :=
  congrArg (fun replies : List Reply => (replies.map (·.recipient) : Multiset Caller)) hsame

/-- The ways a receive of any kind can go: refused, kept, rejected, or a poll that found nothing or took it for
    nothing. -/
theorem received_cases {e : Nat} {h : Option Nat} {o : NbOutcome} (hw : w.SlotsReserved)
    (hop : op.receives = some (e, h, o)) (hstep : w.step op = some w') :
    ∃ slot w₀, w.takeSlot h = some (slot, w₀) ∧
      ((w.state.pending e = true ∧ w.overlooks op = [] ∧ w' = w₀) ∨
        (w.state.pending e = false ∧ w.overlooks op = [] ∧
          ∃ m, w' = { w₀ with state := w.state.settled e slot o }.addMessage ⟨m, o.caller⟩) ∨
        (w.state.pending e = false ∧ w.overlooks op = [] ∧
          w' = { w₀ with state := (w.state.settled e slot o).cleared e }) ∨
        (w.state.pending e = false ∧ w.overlooks op = o.caller.toList ∧
          w' = { w₀ with state := (w.state.settled e slot o).setPending e false })) := by
  cases op with
  | receive e' h' d =>
      obtain ⟨⟨slot, w₀⟩, htake, hrest⟩ := Option.bind_eq_some_iff.mp hstep
      obtain ⟨rfl, rfl, rfl⟩ : e' = e ∧ h' = h ∧ NbOutcome.message d = o := by
        simpa [Op.receives] using hop
      refine ⟨slot, w₀, htake, ?_⟩
      have hstate := state_of_takeSlot htake
      by_cases hp : w.state.pending e' = true
      · have hrun := perform_err hrest hstate (Endpoint.receive_of_pending hp slot d)
        exact Or.inl ⟨hp, rfl, hrun.trans (by rw [← hstate])⟩
      · have hready : w.state.pending e' = false := Bool.eq_false_iff.mpr hp
        rcases Endpoint.receive_cases hready (hw.take htake) d with ⟨-, m, hrun, -⟩ | ⟨-, err, hrun, -⟩
        · exact Or.inr (Or.inl ⟨hready, rfl, m, perform_ok hrest hstate hrun⟩)
        · exact Or.inr (Or.inr (Or.inl ⟨hready, rfl, perform_err hrest hstate hrun⟩))
  | tryReceive e' h' o' =>
      obtain ⟨⟨slot, w₀⟩, htake, hrest⟩ := Option.bind_eq_some_iff.mp hstep
      obtain ⟨rfl, rfl, rfl⟩ : e' = e ∧ h' = h ∧ o' = o := by simpa [Op.receives] using hop
      refine ⟨slot, w₀, htake, ?_⟩
      have hstate := state_of_takeSlot htake
      by_cases hp : w.state.pending e' = true
      · have hrun := perform_err hrest hstate (Endpoint.tryReceive_of_pending hp slot o')
        have hnone : w.overlooks (.tryReceive e' h' o') = [] := by simp [overlooks, htake, hp]
        exact Or.inl ⟨hp, hnone, hrun.trans (by rw [← hstate])⟩
      · have hready : w.state.pending e' = false := Bool.eq_false_iff.mpr hp
        rcases Endpoint.tryReceive_cases hready (hw.take htake) o' with
          ⟨hmsg, -, m, hrun, -⟩ | ⟨hmsg, -, err, hrun, -⟩ | ⟨hempty, hrun⟩
        · have hnone : w.overlooks (.tryReceive e' h' o') = [] := by simp [overlooks, htake, hmsg]
          exact Or.inr (Or.inl ⟨hready, hnone, m, perform_ok hrest hstate hrun⟩)
        · have hnone : w.overlooks (.tryReceive e' h' o') = [] := by simp [overlooks, htake, hmsg]
          exact Or.inr (Or.inr (Or.inl ⟨hready, hnone, perform_err hrest hstate hrun⟩))
        · have hlost : w.overlooks (.tryReceive e' h' o') = o'.caller.toList := by
            simp [overlooks, htake, hready, hempty]
          exact Or.inr (Or.inr (Or.inr ⟨hready, hlost, perform_ok hrest hstate hrun⟩))
  | faultReceive e' d =>
      obtain ⟨rfl, rfl, rfl⟩ : e' = e ∧ none = h ∧ NbOutcome.message d = o := by
        simpa [Op.receives] using hop
      refine ⟨none, w, rfl, ?_⟩
      rw [World.step] at hstep
      by_cases hp : w.state.pending e' = true
      · exact Or.inl ⟨hp, rfl, perform_err hstep rfl (FaultEndpoint.receive_of_pending hp d)⟩
      · have hready : w.state.pending e' = false := Bool.eq_false_iff.mpr hp
        rcases FaultEndpoint.receive_cases hready d with ⟨-, f, hrun, -⟩ | ⟨-, err, hrun, -⟩
        · exact Or.inr (Or.inl ⟨hready, rfl, f.received, perform_ok hstep rfl hrun⟩)
        · exact Or.inr (Or.inr (Or.inl ⟨hready, rfl, perform_err hstep rfl hrun⟩))
  | _ => cases hop

theorem replies_settled (s : IpcState) (e : Nat) (slot : Option ReceiveSlot) (o : NbOutcome) :
    (s.settled e slot o).kernel.replies = s.kernel.replies := by
  rw [IpcState.settled, IpcState.kernel_settleSlot]
  cases o with
  | message d => exact Kernel.replies_deliver _ d
  | noSender info => rfl

theorem caller_settled (s : IpcState) (e : Nat) (slot : Option ReceiveSlot) (o : NbOutcome) :
    (s.settled e slot o).kernel.caller = o.caller := by
  rw [IpcState.settled, IpcState.kernel_settleSlot, IpcState.caller_afterNbRecv]

theorem outstanding_of_eq (hmessages : w'.messages = w.messages) (hdeferred : w'.deferred = w.deferred)
    (hnext : w'.next = w.next) : w'.outstanding = w.outstanding := by
  rw [outstanding, hmessages, hdeferred, hnext]
  rfl

theorem outstanding_of_take {w₀ : World} {h : Option Nat} {slot : Option ReceiveSlot} {s : IpcState}
    (htake : w.takeSlot h = some (slot, w₀)) : World.outstanding { w₀ with state := s } = w.outstanding := by
  show w₀.outstanding = w.outstanding
  exact outstanding_of_eq (messages_of_takeSlot htake) (deferred_of_takeSlot htake) (next_of_takeSlot htake)

/-- What a receive asks for is answered, outstanding or overlooked afterwards. -/
theorem balance_of_receives {r : Nat × Option Nat × NbOutcome} (hw : w.SlotsReserved) (hn : w.Numbered)
    (hop : op.receives = some r) (hstep : w.step op = some w') :
    w'.answered + w'.outstanding + w.overlooks op = w.asks op + (w.answered + w.outstanding) := by
  obtain ⟨e, h, o⟩ := r
  obtain ⟨slot, w₀, htake, hcases⟩ := received_cases hw hop hstep
  have hsame : World.answered { w₀ with state := w.state.settled e slot o } = w.answered :=
    answered_of_eq (replies_settled w.state e slot o)
  have hasks : w.asks op = if w.state.pending e then [] else o.caller.toList := by
    rw [asks, hop]
  rcases hcases with ⟨hp, hnone, rfl⟩ | ⟨hready, hnone, m, rfl⟩ | ⟨hready, hnone, rfl⟩ | ⟨hready, hlost, rfl⟩
  · have houtstanding : w'.outstanding = w.outstanding :=
      outstanding_of_eq (messages_of_takeSlot htake) (deferred_of_takeSlot htake) (next_of_takeSlot htake)
    have hanswered : w'.answered = w.answered := by rw [answered, state_of_takeSlot htake]; rfl
    rw [houtstanding, hanswered, hasks, hnone, if_pos hp]
    exact add_comm _ _
  · have hn' : World.Numbered { w₀ with state := w.state.settled e slot o } := (hn.take htake).of_eq rfl rfl rfl
    have hanswered : (World.addMessage { w₀ with state := w.state.settled e slot o } ⟨m, o.caller⟩).answered =
        w.answered := hsame
    rw [outstanding_addMessage hn', hanswered, outstanding_of_take htake, hasks, hnone, hready]
    show w.answered + (w.outstanding + clients o.caller) + 0 = clients o.caller + _
    rw [add_zero, ← add_assoc, add_comm]
  · obtain ⟨new, hnew, hto⟩ := IpcState.replies_answered (w.state.settled e slot o) e
      (w.state.settled e slot o).kernel.buffer (MessageInfo.build 0 0 0 0)
    rw [caller_settled] at hto
    have hanswered : World.answered { w₀ with state := (w.state.settled e slot o).cleared e } =
        clients o.caller + World.answered { w₀ with state := w.state.settled e slot o } :=
      answered_of_append hnew hto
    rw [hanswered, hsame, outstanding_of_take htake, hasks, hnone, hready]
    show clients o.caller + w.answered + w.outstanding + 0 = clients o.caller + _
    rw [add_zero, add_assoc]
  · have hanswered : World.answered { w₀ with state := (w.state.settled e slot o).setPending e false } =
        w.answered := hsame
    rw [hanswered, outstanding_of_take htake, hasks, hlost, hready]
    exact add_comm _ _

theorem givesUp_discard {h : Nat} {refused : Bool} {d : HeldReply} (hd : w.deferred h = some d) :
    w.givesUp (.discard h refused) = d.caller.toList := by
  simp [givesUp, hd]

/-- **One operation keeps the books balanced.** -/
theorem balance_step (hw : w.SlotsReserved) (hr : w.Routed) (hn : w.Numbered) (hstep : w.step op = some w') :
    w'.answered + w'.outstanding + (w.overlooks op + w.givesUp op : Multiset Caller) =
      w.asks op + (w.answered + w.outstanding) := by
  cases hop : op.receives with
  | some r =>
      have hnone : w.givesUp op = [] := by
        cases op with
        | discard h refused => cases hop
        | _ => rfl
      rw [hnone, Multiset.coe_nil, add_zero]
      exact balance_of_receives hw hn hop hstep
  | none =>
      have hasks : w.asks op = [] := by rw [asks, hop]
      have hlooks : w.overlooks op = [] := by
        cases op with
        | tryReceive e h o => cases hop
        | _ => rfl
      rw [hasks, hlooks, Multiset.coe_nil, zero_add, zero_add]
      have he := effect_of_step hw hstep
      cases effect_of_step hw hstep with
      | refused hop' | kept _ hop' | rejected hop' | empty hop' => cases hop.symm.trans hop'
      | @answered _ h m buffer info hconsumes hm hpath =>
          have hnone : w.givesUp op = [] := by
            cases op with
            | discard h refused => cases hconsumes
            | _ => rfl
          obtain ⟨new, hnew, hto⟩ := IpcState.replies_answered w.state m.received.endpoint buffer info
          rw [hr.client h m hm] at hto
          rw [answered_of_append hnew hto, hnone, outstanding_dropMessage hn hm]
          show clients m.caller + w.answered + (w.dropMessage h).outstanding + 0 = _
          rw [add_zero, add_left_comm, add_assoc]
      | @deferred h pool refused m slot pool' hm hreserve =>
          have hn' : World.Numbered { w.dropMessage h with
              state := w.state.deferred m.received.endpoint pool slot pool' } := (hn.dropMessage h).of_eq rfl rfl rfl
          rw [outstanding_addDeferred hn', outstanding_dropMessage hn hm]
          show w.answered + ((w.dropMessage h).outstanding + clients m.caller) + 0 = _
          rw [add_zero, add_comm (clients m.caller)]
      | @replied h message d buffer info hd hpath =>
          obtain ⟨new, hnew, hto⟩ := delivers_of_deferredReply hr hd he
          rw [answered_of_append hnew hto, outstanding_dropDeferred hn hd]
          show clients d.caller + w.answered + (w.dropDeferred h).outstanding + 0 = _
          rw [add_zero, add_left_comm, add_assoc]
      | @discarded h refused d hd =>
          rw [givesUp_discard hd, outstanding_dropDeferred hn hd]
          show w.answered + (w.dropDeferred h).outstanding + clients d.caller = _
          rw [add_assoc, add_comm (clients d.caller)]
      | @discardRefused h refused d hd =>
          rw [givesUp_discard hd, outstanding_dropDeferred hn hd]
          show w.answered + (w.dropDeferred h).outstanding + clients d.caller = _
          rw [add_assoc, add_comm (clients d.caller)]
      | @called message answer buffer hpath =>
          have hsame := Kernel.replies_deliver { w.state.kernel with buffer } answer
          rw [answered_of_eq hsame]
          exact add_zero _
      | sent hpath => exact add_zero _
      | granted slot =>
          have hn' : World.Numbered { w with state := w.state.markSlot slot .reserved } := hn.of_eq rfl rfl rfl
          rw [outstanding_addSlot hn']
          exact add_zero _
      | denied => exact add_zero _

/-! ## Authority -/

/-- Every deferred reply that is outstanding has a slot of its own, in use. -/
structure Slotted (w : World) : Prop where
  disjoint : ∀ p q slot, (w.state.pools p).Owns slot → (w.state.pools q).Owns slot → p = q
  owns : ∀ i d, w.deferred i = some d → (w.state.pools d.reply.pool).Owns d.reply.slot
  inUse : ∀ i d, w.deferred i = some d → (w.state.pools d.reply.pool).InUse d.reply.slot
  distinct : ∀ i j d d', w.deferred i = some d → w.deferred j = some d' →
    d.reply.slot = d'.reply.slot → i = j

theorem slotted_initial (h : w.Initial) : w.Slotted where
  disjoint := h.disjoint
  owns i d hd := absurd hd (by simp [h.deferred])
  inUse i d hd := absurd hd (by simp [h.deferred])
  distinct i j d d' hd := absurd hd (by simp [h.deferred])

theorem Slotted.of_eq (hw : w.Slotted) (hdeferred : ∀ i d, w'.deferred i = some d → w.deferred i = some d)
    (hpools : w'.state.pools = w.state.pools) : w'.Slotted := by
  constructor
  case disjoint =>
    rw [hpools]
    exact hw.disjoint
  case owns =>
    rw [hpools]
    exact fun i d hd => hw.owns i d (hdeferred i d hd)
  case inUse =>
    rw [hpools]
    exact fun i d hd => hw.inUse i d (hdeferred i d hd)
  case distinct => exact fun i j d d' hd hd' => hw.distinct i j d d' (hdeferred i d hd) (hdeferred j d' hd')

/-- A slot that is reserved is that of no deferred reply. -/
theorem Slotted.slot_ne (hw : w.Slotted) {pool slot i : Nat} {pool' : ReplyPool} {d : HeldReply}
    (hreserve : (w.state.pools pool).reserve = (some slot, pool')) (hd : w.deferred i = some d) :
    d.reply.slot ≠ slot := by
  rintro rfl
  obtain ⟨hown, hfree, -⟩ := ReplyPool.reserve_some hreserve
  have hpool := hw.disjoint _ _ _ (hw.owns i d hd) hown
  exact hfree (hpool ▸ hw.inUse i d hd)

theorem Slotted.defer (hw : w.Slotted) {h e pool slot : Nat} {pool' : ReplyPool} {caller : Option Caller}
    (hreserve : (w.state.pools pool).reserve = (some slot, pool')) :
    World.Slotted ({ w.dropMessage h with
      state := w.state.deferred e pool slot pool' }.addDeferred ⟨⟨pool, slot⟩, caller⟩) := by
  obtain ⟨hown, -⟩ := ReplyPool.reserve_some hreserve
  have howns := IpcState.owns_deferred hreserve e
  constructor
  case disjoint => exact fun p q s hp hq => hw.disjoint p q s ((howns p s).mp hp) ((howns q s).mp hq)
  case owns =>
    intro i d hi
    apply (howns _ _).mpr
    rcases update_some_eq_some.mp hi with ⟨-, rfl⟩ | ⟨-, hd⟩
    · exact hown
    · exact hw.owns i d hd
  case inUse =>
    intro i d hi
    rcases update_some_eq_some.mp hi with ⟨-, rfl⟩ | ⟨-, hd⟩
    · exact (IpcState.inUse_deferred hreserve e hown).mpr (Or.inr ⟨rfl, rfl⟩)
    · exact (IpcState.inUse_deferred hreserve e (hw.owns i d hd)).mpr (Or.inl (hw.inUse i d hd))
  case distinct =>
    intro i j d d' hi hj hs
    rcases update_some_eq_some.mp hi with ⟨hin, rfl⟩ | ⟨-, hd⟩ <;>
      rcases update_some_eq_some.mp hj with ⟨hjn, rfl⟩ | ⟨-, hd'⟩
    · exact hin.trans hjn.symm
    · exact absurd hs.symm (hw.slot_ne hreserve hd')
    · exact absurd hs (hw.slot_ne hreserve hd)
    · exact hw.distinct i j d d' hd hd' hs

theorem Slotted.release (hw : w.Slotted) {h : Nat} {d : HeldReply} (hd : w.deferred h = some d)
    {kernel : Kernel} : World.Slotted { w.dropDeferred h with state := w.state.released d.reply kernel } := by
  have hold : ∀ i d', (w.dropDeferred h).deferred i = some d' → w.deferred i = some d' ∧ i ≠ h := by
    intro i d' hi
    obtain ⟨hne, hi'⟩ := update_none_eq_some.mp hi
    exact ⟨hi', hne⟩
  constructor
  case disjoint =>
    intro p q slot hp hq
    exact hw.disjoint p q slot ((IpcState.owns_released p slot).mp hp) ((IpcState.owns_released q slot).mp hq)
  case owns => exact fun i d' hi => (IpcState.owns_released _ _).mpr (hw.owns i d' (hold i d' hi).1)
  case inUse =>
    intro i d' hi
    obtain ⟨hd', hne⟩ := hold i d' hi
    refine (IpcState.inUse_released (hw.owns h d hd) (hw.owns i d' hd')).mpr ⟨hw.inUse i d' hd', fun heq => hne ?_⟩
    exact hw.distinct i h d' d hd' hd (congrArg DeferredReply.slot heq).symm
  case distinct => exact fun i j d₁ d₂ hi hj => hw.distinct i j d₁ d₂ (hold i d₁ hi).1 (hold j d₂ hj).1

theorem Slotted.step (hw : w.Slotted) (he : Effect w op w') : w'.Slotted := by
  have htaken : ∀ {h slot w₀}, w.takeSlot h = some (slot, w₀) → ∀ i d, w₀.deferred i = some d →
      w.deferred i = some d := fun htake i d hd => deferred_of_takeSlot htake ▸ hd
  cases he with
  | refused hop htake hp => exact hw.of_eq (htaken htake) (by rw [state_of_takeSlot htake])
  | @kept _ e _ o slot _ m hop htake hready hm =>
      exact hw.of_eq (fun i d hd => htaken htake i d hd) (pools_settled w.state e slot o)
  | @rejected _ e _ o slot _ hop htake hready =>
      exact hw.of_eq (fun i d hd => htaken htake i d hd) (pools_settled w.state e slot o)
  | @empty _ e _ o slot _ hop htake hready =>
      exact hw.of_eq (fun i d hd => htaken htake i d hd) (pools_settled w.state e slot o)
  | answered hop hm hpath => exact hw.of_eq (fun _ _ hd => hd) rfl
  | deferred hm hreserve => exact hw.defer hreserve
  | replied hd hpath => exact hw.release hd
  | discarded hd => exact hw.release hd
  | discardRefused hd => exact hw.of_eq (fun _ _ hi => (update_none_eq_some.mp hi).2) rfl
  | called hpath => exact hw.of_eq (fun _ _ hd => hd) rfl
  | sent hpath => exact hw.of_eq (fun _ _ hd => hd) rfl
  | granted slot => exact hw.of_eq (fun _ _ hd => hd) rfl
  | denied => exact hw


/-- The authority to answer clients: in the caller slot, and in the slots of deferred replies. -/
def authority (w : World) : Multiset Caller :=
  clients w.state.kernel.caller +
    tally (fun d => clients (w.state.kernel.replyCaps d.reply.slot)) w.deferred w.next

/-- The client whose authority a receive overwrites. -/
def overwrites (w : World) (op : Op) : List Caller :=
  match op.receives with
  | some (e, _, _) => if w.state.pending e then [] else w.state.kernel.caller.toList
  | none           => []

/-- The client whose authority is given up with a deferred reply. -/
def drops (w : World) : Op → List Caller
  | .discard h _ =>
    match w.deferred h with
    | some d => (w.state.kernel.replyCaps d.reply.slot).toList
    | none   => []
  | _ => []

theorem authority_of_eq (hcaller : w'.state.kernel.caller = w.state.kernel.caller)
    (hcaps : w'.state.kernel.replyCaps = w.state.kernel.replyCaps) (hdeferred : w'.deferred = w.deferred)
    (hnext : w'.next = w.next) : w'.authority = w.authority := by
  rw [authority, hcaller, hcaps, hdeferred, hnext]
  rfl

/-- What is saved, once the reply in one slot is gone. -/
theorem Slotted.saved_release (hw : w.Slotted) (hn : w.Numbered) {h : Nat} {d : HeldReply}
    (hd : w.deferred h = some d) {caps : Nat → Option Caller}
    (hcaps : ∀ slot, slot ≠ d.reply.slot → caps slot = w.state.kernel.replyCaps slot) :
    tally (fun d => clients (w.state.kernel.replyCaps d.reply.slot)) w.deferred w.next =
      clients (w.state.kernel.replyCaps d.reply.slot) +
        tally (fun d => clients (caps d.reply.slot)) (w.dropDeferred h).deferred w.next := by
  rw [tally_eq_add_update hd (hn.lt_of_deferred hd)]
  congr 1
  apply tally_congr
  intro i d' hd'
  obtain ⟨hne, hi⟩ := update_none_eq_some.mp hd'
  rw [hcaps _ fun heq => hne (hw.distinct i h d' d hi hd heq)]

theorem Slotted.authority_release (hw : w.Slotted) (hn : w.Numbered) {h : Nat} {d : HeldReply} (kernel : Kernel)
    (hd : w.deferred h = some d) (hcaller : kernel.caller = w.state.kernel.caller)
    (hcaps : kernel.replyCaps = Function.update w.state.kernel.replyCaps d.reply.slot none) :
    w.authority = clients (w.state.kernel.replyCaps d.reply.slot) +
      World.authority { w.dropDeferred h with state := w.state.released d.reply kernel } := by
  have hother : ∀ slot, slot ≠ d.reply.slot → kernel.replyCaps slot = w.state.kernel.replyCaps slot := by
    intro slot hne
    rw [hcaps, Function.update_of_ne hne]
  show _ = _ + (clients kernel.caller +
    tally (fun d => clients (kernel.replyCaps d.reply.slot)) (w.dropDeferred h).deferred w.next)
  rw [authority, hw.saved_release hn hd hother, hcaller, add_left_comm]

/-- Saving a reply moves the authority from the caller slot to that of the deferred reply. -/
theorem Slotted.authority_defer (hw : w.Slotted) {h e pool slot : Nat} {pool' : ReplyPool}
    {caller : Option Caller} (hreserve : (w.state.pools pool).reserve = (some slot, pool')) :
    World.authority ({ w.dropMessage h with
      state := w.state.deferred e pool slot pool' }.addDeferred ⟨⟨pool, slot⟩, caller⟩) = w.authority := by
  show clients none + tally (fun d => clients (Function.update w.state.kernel.replyCaps slot
    w.state.kernel.caller d.reply.slot)) (Function.update w.deferred w.next (some ⟨⟨pool, slot⟩, caller⟩))
      (w.next + 1) = _
  rw [tally_succ_update, Function.update_self]
  have hsame : tally (fun d => clients (Function.update w.state.kernel.replyCaps slot
      w.state.kernel.caller d.reply.slot)) w.deferred w.next =
      tally (fun d => clients (w.state.kernel.replyCaps d.reply.slot)) w.deferred w.next := by
    apply tally_congr
    intro i d hd
    rw [Function.update_of_ne (hw.slot_ne hreserve hd)]
  rw [hsame, authority, add_comm (tally _ _ _)]
  exact zero_add _

theorem authority_of_take {w₀ : World} {h : Option Nat} {slot : Option ReceiveSlot} {s : IpcState}
    (htake : w.takeSlot h = some (slot, w₀)) (hcaps : s.kernel.replyCaps = w.state.kernel.replyCaps) :
    World.authority { w₀ with state := s } = clients s.kernel.caller +
      tally (fun d => clients (w.state.kernel.replyCaps d.reply.slot)) w.deferred w.next := by
  show _ + tally _ w₀.deferred w₀.next = _
  rw [deferred_of_takeSlot htake, next_of_takeSlot htake, hcaps]

theorem authority_addMessage (hn : w.Numbered) (m : HeldMessage) : (w.addMessage m).authority = w.authority := by
  unfold authority addMessage
  dsimp only
  rw [tally_succ_of_none (hn.deferred w.next (Nat.le_refl _))]

theorem authority_addSlot (hn : w.Numbered) (slot : ReceiveSlot) : (w.addSlot slot).authority = w.authority := by
  unfold authority addSlot
  dsimp only
  rw [tally_succ_of_none (hn.deferred w.next (Nat.le_refl _))]

/-- **No operation makes or loses authority**, but for what is overwritten and given up. -/
theorem authority_step (hw : w.Slotted) (hn : w.Numbered) (he : Effect w op w') :
    w'.answered + w'.authority + (w.overwrites op + w.drops op : Multiset Caller) =
      w.asks op + (w.answered + w.authority) := by
  have hdrops : ∀ {r}, op.receives = some r → w.drops op = [] := by
    intro r hop
    cases op with
    | discard h refused => cases hop
    | _ => rfl
  cases he with
  | @refused _ e h o slot _ hop htake hp =>
      have hstate := state_of_takeSlot htake
      have hauthority : w'.authority = w.authority :=
        authority_of_eq (by rw [hstate]) (by rw [hstate]) (deferred_of_takeSlot htake) (next_of_takeSlot htake)
      have hanswered : w'.answered = w.answered := answered_of_eq (by rw [hstate])
      simp only [asks, overwrites, hop, hdrops hop, hp, if_pos, hauthority, hanswered, Multiset.coe_nil]
      abel
  | @kept _ e h o slot w₀ m hop htake hready hm =>
      have hn' : World.Numbered { w₀ with state := w.state.settled e slot o } := (hn.take htake).of_eq rfl rfl rfl
      have hanswered : (World.addMessage { w₀ with state := w.state.settled e slot o } ⟨m, o.caller⟩).answered =
          w.answered := answered_of_eq (replies_settled w.state e slot o)
      rw [authority_addMessage hn', hanswered, authority_of_take htake (replyCaps_settled w.state e slot o),
        caller_settled]
      simp [asks, overwrites, hop, hdrops hop, hready, authority, clients]
      abel
  | @rejected _ e h o slot w₀ hop htake hready =>
      obtain ⟨new, hnew, hto⟩ := IpcState.replies_answered (w.state.settled e slot o) e
        (w.state.settled e slot o).kernel.buffer (MessageInfo.build 0 0 0 0)
      rw [caller_settled] at hto
      have hanswered : World.answered { w₀ with state := (w.state.settled e slot o).cleared e } =
          clients o.caller + World.answered { w₀ with state := w.state.settled e slot o } :=
        answered_of_append hnew hto
      have hsame : World.answered { w₀ with state := w.state.settled e slot o } = w.answered :=
        answered_of_eq (replies_settled w.state e slot o)
      have hcaps : ((w.state.settled e slot o).cleared e).kernel.replyCaps = w.state.kernel.replyCaps :=
        (IpcState.replyCaps_answered ..).trans (replyCaps_settled ..)
      have hcaller : ((w.state.settled e slot o).cleared e).kernel.caller = none := Kernel.caller_reply _ _
      rw [hanswered, hsame, authority_of_take htake hcaps, hcaller]
      simp [asks, overwrites, hop, hdrops hop, hready, authority, clients]
      abel
  | @empty _ e h o slot w₀ hop htake hready =>
      have hanswered : World.answered { w₀ with state := (w.state.settled e slot o).setPending e false } =
          w.answered := answered_of_eq (replies_settled w.state e slot o)
      have hcaps : ((w.state.settled e slot o).setPending e false).kernel.replyCaps = w.state.kernel.replyCaps :=
        replyCaps_settled ..
      have hcaller : ((w.state.settled e slot o).setPending e false).kernel.caller = o.caller :=
        caller_settled ..
      rw [hanswered, authority_of_take htake hcaps, hcaller]
      simp [asks, overwrites, hop, hdrops hop, hready, authority, clients]
      abel
  | @answered _ h m buffer info hop hm hpath =>
      have hnone : op.receives = none := by
        apply Option.eq_none_iff_forall_ne_some.mpr
        intro r hr
        cases (Op.consumes_of_receives hr).symm.trans hop
      have hkeeps : w.drops op = [] := by
        cases op with
        | discard h refused => cases hop
        | _ => rfl
      obtain ⟨new, hnew, hto⟩ := IpcState.replies_answered w.state m.received.endpoint buffer info
      have hcaps := IpcState.replyCaps_answered w.state m.received.endpoint buffer info
      have hcaller : (w.state.answered m.received.endpoint buffer info).kernel.caller = none :=
        Kernel.caller_reply _ _
      rw [answered_of_append hnew hto]
      show clients w.state.kernel.caller + w.answered + (clients _ + tally _ w.deferred w.next) + _ = _
      rw [hcaller, hcaps]
      simp [asks, overwrites, hnone, hkeeps, authority, clients]
      abel
  | @deferred h pool refused m slot pool' hm hreserve =>
      rw [hw.authority_defer hreserve]
      exact add_comm _ _
  | @replied h message d buffer info hd hpath =>
      have hto : ((w.state.kernel.replyCaps d.reply.slot).toList.map
          ({ w.state.kernel with buffer }.replyTo · info)).map (·.recipient) =
            (w.state.kernel.replyCaps d.reply.slot).toList := by
        cases w.state.kernel.replyCaps d.reply.slot <;> rfl
      have hauthority := hw.authority_release hn ({ w.state.kernel with buffer }.sendReplyCap d.reply.slot info) hd
        (Kernel.caller_sendReplyCap ..) (Kernel.replyCaps_sendReplyCap ..)
      rw [answered_of_append (Kernel.replies_sendReplyCap _ _ _) hto, hauthority]
      simp [asks, overwrites, drops, Op.receives]
      abel
  | @discarded h refused d hd =>
      rw [hw.authority_release hn { w.state.kernel with
        replyCaps := Function.update w.state.kernel.replyCaps d.reply.slot none } hd rfl rfl]
      simp [asks, overwrites, drops, Op.receives, hd, clients, answered, IpcState.released]
      abel
  | @discardRefused h refused d hd =>
      have hauthority : w.authority =
          clients (w.state.kernel.replyCaps d.reply.slot) + (w.dropDeferred h).authority := by
        rw [authority, hw.saved_release hn hd fun _ _ => rfl, add_left_comm]
        rfl
      rw [hauthority]
      simp [asks, overwrites, drops, Op.receives, hd, clients, answered, dropDeferred]
      abel
  | @called message answer buffer hpath =>
      have hsame := Kernel.replies_deliver { w.state.kernel with buffer } answer
      have hauthority : World.authority { w with
          state := { w.state with kernel := { w.state.kernel with buffer }.deliver answer } } = w.authority :=
        authority_of_eq (Kernel.caller_deliver ..) (Kernel.replyCaps_deliver ..) rfl rfl
      rw [answered_of_eq hsame, hauthority]
      exact add_comm _ _
  | sent hpath => exact add_comm _ _
  | granted slot =>
      have hn' : World.Numbered { w with state := w.state.markSlot slot .reserved } := hn.of_eq rfl rfl rfl
      rw [authority_addSlot hn']
      exact add_comm _ _
  | denied => exact add_comm _ _

end World

/-! ## Runs -/

/-- A world with its books: whose requests were received, whose authority a later receive overwrote and whose was
    given up with a deferred reply, whose request a poll took for nothing, and whose deferred reply was discarded;
    the last one first. -/
structure Account where
  world : World
  asked : List Caller
  overwritten : List Caller
  dropped : List Caller
  overlooked : List Caller
  givenUp : List Caller

namespace Account

variable {x x' : Account} {op : Op}

def step (x : Account) (op : Op) : Option Account := do
  let world ← x.world.step op
  return ⟨world, x.world.asks op ++ x.asked, x.world.overwrites op ++ x.overwritten, x.world.drops op ++ x.dropped,
    x.world.overlooks op ++ x.overlooked, x.world.givesUp op ++ x.givenUp⟩

structure Initial (x : Account) : Prop where
  world : x.world.Initial
  caller : x.world.state.kernel.caller = none
  replies : x.world.state.kernel.replies = []
  asked : x.asked = []
  overwritten : x.overwritten = []
  dropped : x.dropped = []
  overlooked : x.overlooked = []
  givenUp : x.givenUp = []

/-- The world of `World.start`, with empty books. -/
def start : Account := ⟨World.start, [], [], [], [], []⟩

theorem initial_start : start.Initial := ⟨World.initial_start, rfl, rfl, rfl, rfl, rfl, rfl, rfl⟩

/-- The condition of `World.Unshared`. -/
def Unshared (x : Account) (op : Op) : Prop := x.world.Unshared op

/-- What holds of the books in every run. -/
structure Kept (x : Account) : Prop where
  slots : x.world.SlotsReserved
  numbered : x.world.Numbered
  slotted : x.world.Slotted
  authority : x.world.answered + x.world.authority + (x.overwritten + x.dropped : Multiset Caller) = x.asked

theorem numbered_initial {w : World} (hw : w.Initial) : w.Numbered :=
  ⟨fun i _ => hw.messages i, fun i _ => hw.deferred i⟩

theorem kept_initial (hx : x.Initial) : x.Kept := by
  refine ⟨World.slotsReserved_initial hx.world, numbered_initial hx.world, World.slotted_initial hx.world, ?_⟩
  rw [World.answered, World.authority, tally_of_none hx.world.deferred, hx.caller, hx.replies, hx.asked,
    hx.overwritten, hx.dropped]
  rfl

theorem Kept.step (hx : x.Kept) (hs : x.step op = some x') : x'.Kept := by
  obtain ⟨w', hstep, hrest⟩ := Option.bind_eq_some_iff.mp hs
  obtain rfl := Option.some.inj hrest
  have he := World.effect_of_step hx.slots hstep
  refine ⟨World.slotsReserved_step hx.slots he, hx.numbered.step he, hx.slotted.step he, ?_⟩
  exact balance_append (World.authority_step hx.slotted hx.numbered he) hx.authority

/-- **Nobody is answered more often than it asked.** In every run, whatever is received on how many endpoints and
    whatever is done with the handles, every request that was received is answered, or the authority to answer it
    is in the caller slot or with a deferred reply, or it was overwritten by a later receive, or given up with a
    deferred reply. -/
theorem answered_at_most_once (hr : Reachable step Initial anyStep x) :
    x.world.answered + x.world.authority + (x.overwritten + x.dropped : Multiset Caller) = x.asked ∧
    ∀ c, x.world.answered.count c ≤ x.asked.count c := by
  have hx : x.Kept := hr.invariant (fun _ => kept_initial) fun _ _ _ hx _ hs => hx.step hs
  refine ⟨hx.authority, fun c => ?_⟩
  have hcount := congrArg (Multiset.count c) hx.authority
  rw [Multiset.count_add, Multiset.count_add, Multiset.coe_count] at hcount
  omega

/-- Client 1 calls endpoint 0 and client 2 calls endpoint 1: the authority to answer client 1 is overwritten, and
    client 2 is answered once. -/
theorem answered_at_most_once_misrouted : ∃ x : Account, x.asked = [⟨2, false⟩, ⟨1, false⟩] ∧
    x.overwritten = [⟨1, false⟩] ∧ x.world.answered.count ⟨2, false⟩ ≤ x.asked.count ⟨2, false⟩ := by
  have hrun : ([.receive 0 none (World.request 1 []), .receive 1 none (World.request 2 []),
      .reply 0 Message.emptyReply].foldlM step start).map (fun x => (x.asked, x.overwritten)) =
      some ([⟨2, false⟩, ⟨1, false⟩], [⟨1, false⟩]) := by
    decide +kernel
  obtain ⟨x, hx, hbooks⟩ := Option.map_eq_some_iff.mp hrun
  obtain ⟨hasked, hoverwritten⟩ := Prod.mk.inj hbooks
  refine ⟨x, hasked, hoverwritten, ?_⟩
  exact (answered_at_most_once ((Reachable.refl initial_start).foldlM _ hx)).2 _

/-- The books of handles, in runs where replies are routed. -/
structure Balanced (x : Account) : Prop where
  kept : x.Kept
  routed : x.world.Routed
  balance : x.world.answered + x.world.outstanding + (x.overlooked + x.givenUp : Multiset Caller) = x.asked

theorem balanced_initial (hx : x.Initial) : x.Balanced := by
  refine ⟨kept_initial hx, World.routed_initial hx.world, ?_⟩
  rw [World.answered, World.outstanding, tally_of_none hx.world.messages, tally_of_none hx.world.deferred,
    hx.replies, hx.asked, hx.overlooked, hx.givenUp]
  rfl

theorem Balanced.step (hx : x.Balanced) (hC : x.Unshared op) (hs : x.step op = some x') : x'.Balanced := by
  have hkept := hx.kept.step hs
  obtain ⟨w', hstep, hrest⟩ := Option.bind_eq_some_iff.mp hs
  obtain rfl := Option.some.inj hrest
  refine ⟨hkept, World.routed_step hx.routed hC (World.effect_of_step hx.kept.slots hstep), ?_⟩
  exact balance_append (World.balance_step hx.kept.slots hx.routed hx.kept.numbered hstep) hx.balance

theorem mem_outstanding {w : World} {c : Caller} (hmem : c ∈ w.outstanding) :
    (∃ i m, w.messages i = some m ∧ m.caller = some c) ∨ ∃ i d, w.deferred i = some d ∧ d.caller = some c := by
  have hclients : ∀ {caller}, c ∈ clients caller → caller = some c := fun hc => Option.mem_toList.mp hc
  rcases Multiset.mem_add.mp hmem with hmessage | hdeferred
  · obtain ⟨i, -, m, hm, hc⟩ := mem_tally.mp hmessage
    exact Or.inl ⟨i, m, hm, hclients hc⟩
  · obtain ⟨i, -, d, hd, hc⟩ := mem_tally.mp hdeferred
    exact Or.inr ⟨i, d, hd, hclients hc⟩

/-- **Every request is answered, or its handle is outstanding.** In every run in which a receive that is not refused
    finds every flag clear, the requests that were received are those that were answered, those whose handle is
    outstanding, those that a poll took for nothing, and those whose deferred reply was discarded. So a client
    that is owed an answer is behind a handle, or overlooked, or given up, and no request is answered twice. -/
theorem requests_accounted (hr : Reachable step Initial Unshared x) :
    x.world.answered + x.world.outstanding + (x.overlooked + x.givenUp : Multiset Caller) = x.asked ∧
    (∀ c, x.world.answered.count c < x.asked.count c →
      (∃ i m, x.world.messages i = some m ∧ m.caller = some c) ∨
      (∃ i d, x.world.deferred i = some d ∧ d.caller = some c) ∨ c ∈ x.overlooked ∨ c ∈ x.givenUp) ∧
    ((∀ i, x.world.messages i = none) → (∀ i, x.world.deferred i = none) →
      ∀ c, c ∉ x.overlooked → c ∉ x.givenUp → x.world.answered.count c = x.asked.count c) := by
  have hx : x.Balanced :=
    hr.invariant (fun _ => balanced_initial) fun _ _ _ hx hC hs => hx.step hC hs
  have hcount : ∀ c, x.world.answered.count c + x.world.outstanding.count c +
      (x.overlooked.count c + x.givenUp.count c) = x.asked.count c := by
    intro c
    have hcount := congrArg (Multiset.count c) hx.balance
    simpa only [Multiset.count_add, Multiset.coe_count] using hcount
  refine ⟨hx.balance, fun c hlt => ?_, fun hmessages hdeferred c hseen hkept => ?_⟩
  · have hc := hcount c
    by_cases houtstanding : c ∈ x.world.outstanding
    · rcases mem_outstanding houtstanding with hmessage | hdeferred
      · exact Or.inl hmessage
      · exact Or.inr (Or.inl hdeferred)
    · rw [Multiset.count_eq_zero.mpr houtstanding] at hc
      by_cases hseen : c ∈ x.overlooked
      · exact Or.inr (Or.inr (Or.inl hseen))
      · rw [List.count_eq_zero.mpr hseen] at hc
        refine Or.inr (Or.inr (Or.inr (List.count_pos_iff.mp ?_)))
        omega
  · have hc := hcount c
    have hnone : x.world.outstanding = 0 := by
      rw [World.outstanding, tally_of_none hmessages, tally_of_none hdeferred]
      rfl
    rw [hnone, List.count_eq_zero.mpr hseen, List.count_eq_zero.mpr hkept] at hc
    exact hc

/-- Client 1 calls, and its reply is deferred and used. -/
theorem requests_accounted_deferred : ∃ x : Account,
    x.world.answered + x.world.outstanding = ([⟨1, false⟩] : List Caller) := by
  have hrun : ((start.step (.receive 0 none (World.request 1 []))).bind fun x =>
      (x.step (.defer 0 0 false)).bind fun y => (y.step (.deferredReply 1 Message.emptyReply)).map fun z =>
        (z.asked, z.overlooked, z.givenUp)) = some ([⟨1, false⟩], [], []) := by
    decide +kernel
  obtain ⟨x, hx, hrest⟩ := Option.bind_eq_some_iff.mp hrun
  obtain ⟨y, hy, hrest⟩ := Option.bind_eq_some_iff.mp hrest
  obtain ⟨z, hz, hbooks⟩ := Option.map_eq_some_iff.mp hrest
  simp only [Prod.mk.injEq] at hbooks
  obtain ⟨hasked, hoverlooked, hgivenUp⟩ := hbooks
  have hfirst : start.Unshared (.receive 0 none (World.request 1 [])) := fun _ _ _ _ _ _ => rfl
  have hsecond : x.Unshared (.defer 0 0 false) := fun _ _ _ hop => by cases hop
  have hthird : y.Unshared (.deferredReply 1 Message.emptyReply) := fun _ _ _ hop => by cases hop
  have hbalance := (requests_accounted
    ((((Reachable.refl initial_start).tail hfirst hx).tail hsecond hy).tail hthird hz)).1
  rw [hasked, hoverlooked, hgivenUp] at hbalance
  exact ⟨z, by simpa using hbalance⟩

end Account
end Ricoq
