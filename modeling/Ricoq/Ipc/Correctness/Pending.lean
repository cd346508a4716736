import Ricoq.Ipc.Correctness.Effect

/-!
# `Ipc.Correctness.Pending` — what the pending flag of an endpoint stands for

`implicitReplyPending` is set before the kernel is asked for a message and cleared again on every way out that
hands no message to the caller; a message that was handed out clears it when it is consumed. So between
operations the flag of an endpoint is set exactly while one of its messages is outstanding, and there is never
a second one (`Flagged`).

One exit sets the flag and clears nothing: the early return when `ReceiveSlot::finish` fails. It is not taken,
because a receive slot that is still held is still reserved (`SlotsReserved`), and settling it succeeds.
-/

namespace Ricoq
namespace World

open Sel4

/-- The message held under the handle `i` is one of the endpoint. -/
def Outstanding (w : World) (e i : Nat) : Prop := ∃ m, w.messages i = some m ∧ m.received.endpoint = e

/-- The flags say which endpoints have an outstanding message, and none has two. -/
structure Flagged (w : World) : Prop where
  fresh : ∀ i, w.next ≤ i → w.messages i = none
  flag : ∀ e, w.state.pending e = true ↔ ∃ i, w.Outstanding e i
  unique : ∀ e i j, w.Outstanding e i → w.Outstanding e j → i = j

theorem flagged_initial {w : World} (h : w.Initial) : w.Flagged where
  fresh i _ := h.messages i
  flag e := by
    rw [h.pending]
    constructor
    · exact nofun
    · rintro ⟨i, m, hm, -⟩
      exact nomatch (h.messages i).symm.trans hm
  unique e i j hi := by
    obtain ⟨m, hm, -⟩ := hi
    exact nomatch (h.messages i).symm.trans hm

/-! ## What a step does to flags and messages -/

section Changes

variable {w w' : World}

/-- Neither flags nor messages change. -/
theorem Flagged.of_eq (hw : w.Flagged) (hmessages : w'.messages = w.messages)
    (hpending : w'.state.pending = w.state.pending) (hnext : w.next ≤ w'.next) : w'.Flagged where
  fresh i hi := by
    rw [hmessages]
    exact hw.fresh i (Nat.le_trans hnext hi)
  flag e := by
    show _ ↔ ∃ i m, w'.messages i = some m ∧ _
    rw [hpending, hmessages]
    exact hw.flag e
  unique e i j hi hj := by
    rw [Outstanding, hmessages] at hi hj
    exact hw.unique e i j hi hj

/-- Consuming a message clears the flag of its endpoint. -/
theorem Flagged.consume {h : Nat} {m : HeldMessage} (hw : w.Flagged) (hm : w.messages h = some m)
    (hmessages : w'.messages = (w.dropMessage h).messages)
    (hpending : w'.state.pending = Function.update w.state.pending m.received.endpoint false)
    (hnext : w.next ≤ w'.next) : w'.Flagged := by
  have hmine : w.Outstanding m.received.endpoint h := ⟨m, hm, rfl⟩
  have hold : ∀ e i, w'.Outstanding e i ↔ i ≠ h ∧ w.Outstanding e i := by
    intro e i
    rw [Outstanding, hmessages]
    constructor
    · rintro ⟨m', hm', he⟩
      obtain ⟨hne, hm'⟩ := update_none_eq_some.mp hm'
      exact ⟨hne, m', hm', he⟩
    · rintro ⟨hne, m', hm', he⟩
      exact ⟨m', update_none_eq_some.mpr ⟨hne, hm'⟩, he⟩
  refine ⟨?_, ?_, ?_⟩
  · intro i hi
    rw [hmessages]
    cases hi' : (w.dropMessage h).messages i with
    | none => rfl
    | some m' => exact nomatch (hw.fresh i (Nat.le_trans hnext hi)).symm.trans (update_none_eq_some.mp hi').2
  · intro e
    rw [hpending]
    by_cases he : e = m.received.endpoint
    · -- its only message is gone
      subst he
      rw [Function.update_self]
      constructor
      · exact nofun
      · rintro ⟨i, hi⟩
        obtain ⟨hne, hi⟩ := (hold _ i).mp hi
        exact absurd (hw.unique _ i h hi hmine) hne
    · rw [Function.update_of_ne he, hw.flag e]
      constructor
      · rintro ⟨i, m', hm', he'⟩
        refine ⟨i, (hold e i).mpr ⟨?_, m', hm', he'⟩⟩
        rintro rfl
        obtain rfl := Option.some.inj (hm.symm.trans hm')
        exact he he'.symm
      · rintro ⟨i, hi⟩
        exact ⟨i, ((hold e i).mp hi).2⟩
  · intro e i j hi hj
    exact hw.unique e i j ((hold e i).mp hi).2 ((hold e j).mp hj).2

/-- A message that is handed out on an endpoint without one sets its flag. -/
theorem Flagged.addMessage {m : HeldMessage} (hw : w.Flagged)
    (hready : w.state.pending m.received.endpoint = false)
    (hmessages : w'.messages = (w.addMessage m).messages) (hnext : w'.next = w.next + 1)
    (hpending : w'.state.pending = Function.update w.state.pending m.received.endpoint true) :
    w'.Flagged := by
  have hnone : ∀ i, ¬ w.Outstanding m.received.endpoint i := by
    intro i hi
    exact nomatch hready.symm.trans ((hw.flag _).mpr ⟨i, hi⟩)
  have hold : ∀ e i, w'.Outstanding e i ↔
      (i = w.next ∧ m.received.endpoint = e) ∨ (i ≠ w.next ∧ w.Outstanding e i) := by
    intro e i
    rw [Outstanding, hmessages]
    constructor
    · rintro ⟨m', hm', he⟩
      rcases update_some_eq_some.mp hm' with ⟨hi, rfl⟩ | ⟨hne, hm'⟩
      · exact Or.inl ⟨hi, he⟩
      · exact Or.inr ⟨hne, m', hm', he⟩
    · rintro (⟨hi, he⟩ | ⟨hne, m', hm', he⟩)
      · exact ⟨m, update_some_eq_some.mpr (Or.inl ⟨hi, rfl⟩), he⟩
      · exact ⟨m', update_some_eq_some.mpr (Or.inr ⟨hne, hm'⟩), he⟩
  refine ⟨?_, ?_, ?_⟩
  · intro i hi
    have hne : i ≠ w.next := by omega
    rw [hmessages]
    exact (Function.update_of_ne hne _ _).trans (hw.fresh i (by omega))
  · intro e
    rw [hpending]
    by_cases he : e = m.received.endpoint
    · rw [he, Function.update_self]
      exact ⟨fun _ => ⟨w.next, (hold _ _).mpr (Or.inl ⟨rfl, rfl⟩)⟩, fun _ => rfl⟩
    · rw [Function.update_of_ne he, hw.flag e]
      constructor
      · rintro ⟨i, m', hm', he'⟩
        refine ⟨i, (hold e i).mpr (Or.inr ⟨?_, m', hm', he'⟩)⟩
        rintro rfl
        exact nomatch (hw.fresh _ (Nat.le_refl _)).symm.trans hm'
      · rintro ⟨i, hi⟩
        rcases (hold e i).mp hi with ⟨-, he'⟩ | ⟨-, hi⟩
        · exact absurd he'.symm he
        · exact ⟨i, hi⟩
  · intro e i j hi hj
    rcases (hold e i).mp hi with ⟨rfl, rfl⟩ | ⟨-, hi⟩ <;> rcases (hold _ j).mp hj with ⟨rfl, he⟩ | ⟨-, hj⟩
    · rfl
    · exact absurd hj (hnone j)
    · exact absurd hi (he ▸ hnone i)
    · exact hw.unique e i j hi hj

end Changes

/-! ## Steps and runs -/

theorem pending_settled (s : IpcState) (e : Nat) (slot : Option ReceiveSlot) (o : NbOutcome) :
    (s.settled e slot o).pending = Function.update s.pending e true := by
  rw [IpcState.settled, IpcState.pending_settleSlot, IpcState.pending_afterNbRecv]

/-- A receive that hands out no message leaves the flag as it was. -/
theorem pending_unsettled {s : IpcState} {e : Nat} (hready : s.pending e = false) (slot : Option ReceiveSlot)
    (o : NbOutcome) : Function.update (s.settled e slot o).pending e false = s.pending := by
  rw [pending_settled, Function.update_idem, ← hready, Function.update_eq_self]

theorem flagged_step {w w' : World} {op : Op} (hw : w.Flagged) (h : Effect w op w') : w'.Flagged := by
  cases h with
  | refused hop htake hp =>
      have hstate := state_of_takeSlot htake
      exact hw.of_eq (messages_of_takeSlot htake) (by rw [hstate]) (Nat.le_of_eq (next_of_takeSlot htake).symm)
  | @kept _ e _ o slot w₀ m hop htake hready hm =>
      subst hm
      refine hw.addMessage (m := ⟨m, o.caller⟩) hready ?_ ?_ (pending_settled w.state m.endpoint slot o)
      · show Function.update w₀.messages w₀.next _ = Function.update w.messages w.next _
        rw [messages_of_takeSlot htake, next_of_takeSlot htake]
      · show w₀.next + 1 = _
        rw [next_of_takeSlot htake]
  | rejected hop htake hready =>
      have hmessages := messages_of_takeSlot htake
      have hnext := next_of_takeSlot htake
      exact hw.of_eq hmessages (pending_unsettled hready _ _) (Nat.le_of_eq hnext.symm)
  | empty hop htake hready =>
      have hmessages := messages_of_takeSlot htake
      have hnext := next_of_takeSlot htake
      exact hw.of_eq hmessages (pending_unsettled hready _ _) (Nat.le_of_eq hnext.symm)
  | answered hop hm hpath => exact hw.consume hm rfl rfl (Nat.le_refl _)
  | deferred hm hreserve => exact hw.consume hm rfl rfl (Nat.le_succ _)
  | granted slot => exact hw.of_eq rfl rfl (Nat.le_succ _)
  | denied => exact hw
  | replied | discarded | discardRefused | called | sent => exact hw.of_eq rfl rfl (Nat.le_refl _)

theorem flagged_reachable {C : World → Op → Prop} {w : World}
    (h : Reachable World.step World.Initial C w) : w.Flagged :=
  invariant_of_effect (fun _ => flagged_initial) (fun _ _ _ _ hw _ he => flagged_step hw he) h

/-! ## What the operations report -/

/-- The endpoint can receive: its flag is clear, and a receive on it is not refused. -/
def CanReceive (s : IpcState) (e : Nat) : Prop :=
  s.pending e = false ∧ ∀ d, (Endpoint.receive e none d s).1 ≠ .err .replyPending

theorem canReceive_of_ready {s : IpcState} {e : Nat} (hready : s.pending e = false) : CanReceive s e := by
  refine ⟨hready, fun d => ?_⟩
  have hnone : s.Reserved none := trivial
  rcases Endpoint.receive_cases hready hnone d with ⟨-, m, hrun, -⟩ | ⟨-, err, hrun, hne, -⟩
  · rw [hrun]
    nofun
  · rw [hrun]
    exact fun he => hne (Outcome.err.inj he)

/-- The errors of a receive: `pending` exactly while a message is outstanding, never `path`, and any other
    leaves the endpoint able to receive. -/
structure ErrorsOf {ε α : Type} (w : World) (e : Nat) (x : Prog ε IpcState α) (pending path : ε) : Prop where
  refused : (x w.state).1 = .err pending ↔ ∃ i, w.Outstanding e i
  recovers : ∀ err s, x w.state = (.err err, s) → err ≠ pending → CanReceive s e
  unreachable : (x w.state).1 ≠ .err path

/-- A receive that is refused while the flag is set, and clears it with every error it returns otherwise. -/
theorem errorsOf {ε α : Type} {w : World} {e : Nat} {x : Prog ε IpcState α} {pending path : ε}
    (hw : w.Flagged) (hne : pending ≠ path)
    (hrefused : w.state.pending e = true → x w.state = (.err pending, w.state))
    (hready : w.state.pending e = false → (∃ a s, x w.state = (.ok a, s)) ∨
      ∃ err s, x w.state = (.err err, s) ∧ s.pending e = false ∧ err ≠ pending ∧ err ≠ path) :
    ErrorsOf w e x pending path := by
  by_cases hp : w.state.pending e = true
  · have hrun := hrefused hp
    refine ⟨?_, ?_, ?_⟩
    · rw [hrun]
      exact ⟨fun _ => (hw.flag e).mp hp, fun _ => rfl⟩
    · intro err s herr hother
      rw [hrun] at herr
      exact absurd (Outcome.err.inj (Prod.mk.inj herr).1).symm hother
    · rw [hrun]
      exact fun he => hne (Outcome.err.inj he)
  · have hnone : ¬ ∃ i, w.Outstanding e i := fun hi => hp ((hw.flag e).mpr hi)
    rcases hready (Bool.eq_false_iff.mpr hp) with ⟨a, s, hrun⟩ | ⟨err, s, hrun, hclear, herr, hpath⟩
    · refine ⟨?_, ?_, ?_⟩
      · rw [hrun]
        exact ⟨nofun, fun hi => absurd hi hnone⟩
      · intro err s' herr
        exact nomatch (Prod.mk.inj (hrun.symm.trans herr)).1
      · rw [hrun]
        nofun
    · refine ⟨?_, ?_, ?_⟩
      · rw [hrun]
        exact ⟨fun he => absurd (Outcome.err.inj he) herr, fun hi => absurd hi hnone⟩
      · intro err' s' herr' _
        obtain ⟨-, rfl⟩ := Prod.mk.inj (hrun.symm.trans herr')
        exact canReceive_of_ready hclear
      · rw [hrun]
        exact fun he => hpath (Outcome.err.inj he)

/-- The empty reply clears the flag. -/
theorem pending_cleared (s : IpcState) (e : Nat) : (s.cleared e).pending e = false := Function.update_self _ _ _

/-- **The pending flag.** In every state that can be reached, whatever messages the kernel delivered and
    whatever it refused: the flag of an endpoint is set if and only if exactly one of its messages is
    outstanding, and there are never two; `ReplyPending` is returned exactly while there is one; and after any
    other error the endpoint can receive again. A receive never fails to settle its slot. -/
theorem pending_iff_outstanding {w : World}
    (h : Reachable World.step World.Initial (@anyStep World Op) w) :
    (∀ e, w.state.pending e = true ↔ ∃! i, w.Outstanding e i) ∧
    (∀ e i j, w.Outstanding e i → w.Outstanding e j → i = j) ∧
    (∀ e handle slot w₀ d, w.takeSlot handle = some (slot, w₀) →
      ErrorsOf w e (Endpoint.receive e slot d) .replyPending .invalidReceivePath) ∧
    (∀ e handle slot w₀ o, w.takeSlot handle = some (slot, w₀) →
      ErrorsOf w e (Endpoint.tryReceive e slot o) .replyPending .invalidReceivePath) ∧
    (∀ e d, ErrorsOf w e (FaultEndpoint.receive e d) (.ipc .replyPending) (.ipc .invalidReceivePath)) ∧
    (∀ i m pool refused err s, w.messages i = some m →
      m.received.defer pool refused w.state = (.err err, s) → CanReceive s m.received.endpoint) := by
  have hw := flagged_reachable h
  have hslots := slotsReserved_reachable h
  refine ⟨?_, hw.unique, ?_, ?_, ?_, ?_⟩
  · intro e
    rw [hw.flag e]
    constructor
    · rintro ⟨i, hi⟩
      exact ⟨i, hi, fun j hj => hw.unique e j i hj hi⟩
    · rintro ⟨i, hi, -⟩
      exact ⟨i, hi⟩
  · intro e handle slot w₀ d htake
    refine errorsOf hw nofun (fun hp => Endpoint.receive_of_pending hp slot d) fun hready => ?_
    rcases Endpoint.receive_cases hready (hslots.take htake) d with
      ⟨-, m, hrun, -⟩ | ⟨-, err, hrun, herr⟩
    · exact Or.inl ⟨m, _, hrun⟩
    · exact Or.inr ⟨err, _, hrun, pending_cleared _ e, herr⟩
  · intro e handle slot w₀ o htake
    refine errorsOf hw nofun (fun hp => Endpoint.tryReceive_of_pending hp slot o) fun hready => ?_
    rcases Endpoint.tryReceive_cases hready (hslots.take htake) o with
      ⟨-, -, m, hrun, -⟩ | ⟨-, -, err, hrun, herr⟩ | ⟨-, hrun⟩
    · exact Or.inl ⟨some m, _, hrun⟩
    · exact Or.inr ⟨err, _, hrun, pending_cleared _ e, herr⟩
    · exact Or.inl ⟨none, _, hrun⟩
  · intro e d
    refine errorsOf hw nofun (fun hp => FaultEndpoint.receive_of_pending hp d) fun hready => ?_
    rcases FaultEndpoint.receive_cases hready d with ⟨-, f, hrun, -⟩ | ⟨-, err, hrun, herr⟩
    · exact Or.inl ⟨f, _, hrun⟩
    · exact Or.inr ⟨err, _, hrun, pending_cleared _ e, herr⟩
  · intro i m pool refused err s _ hrun
    -- whether no slot was free or saving failed, the empty reply went out
    rcases m.received.defer_cases pool refused w.state with
      ⟨-, hrun'⟩ | ⟨slot, pool', -, -, hrun'⟩ | ⟨slot, pool', -, -, -, hrun'⟩
    · obtain ⟨-, rfl⟩ := Prod.mk.inj (hrun.symm.trans hrun')
      exact canReceive_of_ready (pending_cleared _ _)
    · obtain ⟨-, rfl⟩ := Prod.mk.inj (hrun.symm.trans hrun')
      exact canReceive_of_ready (pending_cleared _ _)
    · exact nomatch (Prod.mk.inj (hrun.symm.trans hrun')).1

/-- After one receive there is one outstanding message. -/
theorem pending_iff_outstanding_request :
    ∃ w, start.step (.receive 0 none (request 1 [])) = some w ∧ ∃! i, w.Outstanding 0 i := by
  have hrun : Reachable World.step World.Initial (@anyStep World Op) _ :=
    (Reachable.refl initial_start).foldlM [.receive 0 none (request 1 [])] rfl
  exact ⟨_, rfl, ((pending_iff_outstanding hrun).1 0).mp rfl⟩

end World
end Ricoq
