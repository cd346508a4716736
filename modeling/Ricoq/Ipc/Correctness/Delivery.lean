import Ricoq.Ipc.Correctness.Receive

/-!
# `Ipc.Correctness.Delivery` — where capabilities may arrive

The receive path lives in the IPC buffer and outlives the receive that configured it. `receive` and
`try_receive` overwrite it every time, with the null path when no slot is given; `call` leaves it alone. The
reply to a call is therefore delivered along the path of an earlier receive, and a capability it carries ends
up in a child slot that the tracker calls free (`call_installs_untracked`).

In runs where no call can do that (`Guarded`), child slots are filled only by receives that were given the
slot, and a slot the tracker calls free is empty (`no_untracked_delivery`). The invariant behind it is
`Tracked`: every child slot whose entry is not occupied is empty, reserved ones included.
-/

namespace Ricoq

open Sel4

/-- No capability is installed when the receive path names no empty slot, or when every one that is offered
    is unwrapped. -/
theorem Sel4.Kernel.transferred_eq_none {k : Kernel} {d : Delivery}
    (h : k.destAvailable = false ∨ ∀ c ∈ d.caps.take msgMaxExtraCaps, c.sameEndpoint = true) :
    (k.transferred d).2 = none := by
  rw [Kernel.transferred]
  cases hdest : k.destAvailable with
  | false => exact transferCaps_false_snd _
  | true =>
      rcases h with h | h
      · rw [h] at hdest
        cases hdest
      · apply Decidable.byContradiction
        intro hsome
        obtain ⟨c, hc, hne⟩ := (transferCaps_true_installed_iff _).mp hsome
        rw [h c hc] at hne
        cases hne

namespace World

/-- The condition on a step: a call is made while the receive path names no empty child slot, or its reply
    offers nothing the kernel would install. -/
def Guarded (w : World) (op : Op) : Prop :=
  ∀ message answer, op = .call message answer →
    w.state.kernel.destAvailable = false ∨
    ∀ c ∈ answer.caps.take msgMaxExtraCaps, c.sameEndpoint = true

/-- A child slot whose entry is not occupied is empty. -/
def Tracked (w : World) : Prop :=
  ∀ root i, (w.state.cspaces root).slots.stateOf i ≠ .occupied → w.state.kernel.children root i = none

theorem tracked_initial {w : World} (h : w.Initial) : w.Tracked := by
  intro root i hne
  cases hs : (w.state.cspaces root).slots.stateOf i with
  | free => exact h.tracked root i hs
  | reserved => exact absurd hs (h.settled root i)
  | occupied => exact absurd hs hne

/-! ## Which child slots change -/

/-- A receive that is given no slot installs nothing. -/
theorem children_settled_none (s : IpcState) (e : Nat) (o : NbOutcome) (root i : Nat) :
    (s.settled e none o).kernel.children root i = s.kernel.children root i := by
  rw [IpcState.settled, IpcState.kernel_settleSlot]
  cases o with
  | message d =>
      apply Decidable.byContradiction
      intro hne
      obtain ⟨-, -, hsome⟩ := (Kernel.children_deliver_ne_iff (s.configured e none).kernel d root i).mp hne
      exact Bool.false_ne_true (Kernel.destAvailable_of_transferred hsome)
  | noSender info => rfl

/-- A receive changes at most the child slot of the receive slot it is given. -/
theorem children_settled (s : IpcState) (e : Nat) (slot : Option ReceiveSlot) (o : NbOutcome) (root i : Nat)
    (h : ∀ r, slot = some r → ¬ (root = r.root ∧ i = r.reservation.slot)) :
    (s.settled e slot o).kernel.children root i = s.kernel.children root i := by
  cases slot with
  | none => exact children_settled_none s e o root i
  | some r =>
      apply Decidable.byContradiction
      intro hne
      exact h r rfl ((installed_settled s e r o root i).mp hne).1

/-- A guarded call changes no child slot. -/
theorem children_call {w : World} {message : Message} {answer : Delivery} {buffer : IpcBuffer}
    (hC : Guarded w (.call message answer)) (hpath : buffer.recvSlot = w.state.kernel.buffer.recvSlot) :
    ({ w.state.kernel with buffer }.deliver answer).children = w.state.kernel.children := by
  have hdest : ({ w.state.kernel with buffer } : Kernel).destAvailable = w.state.kernel.destAvailable := by
    rw [Kernel.destAvailable, Kernel.destAvailable, hpath]
  have hnone : (({ w.state.kernel with buffer } : Kernel).transferred answer).2 = none := by
    apply Kernel.transferred_eq_none
    rw [hdest]
    exact hC message answer rfl
  funext root i
  refine (Kernel.children_deliver _ answer root i).trans (if_neg ?_)
  rintro ⟨-, -, hsome⟩
  exact hsome hnone

/-! ## The invariant -/

/-- A receive keeps the invariant: an entry that ends up not occupied had nothing reported for it. -/
theorem Tracked.settled {w : World} (hw : w.Tracked) {e : Nat} {slot : Option ReceiveSlot} {o : NbOutcome}
    (hres : w.state.Reserved slot) (root i : Nat)
    (hne : ((w.state.settled e slot o).cspaces root).slots.stateOf i ≠ .occupied) :
    (w.state.settled e slot o).kernel.children root i = none := by
  by_cases hmine : ∃ r, slot = some r ∧ root = r.root ∧ i = r.reservation.slot
  · obtain ⟨r, rfl, rfl, rfl⟩ := hmine
    have hentry : ((w.state.settled e (some r) o).cspaces r.root).slots.stateOf r.reservation.slot =
        if (Endpoint.nbReport w.state e (some r) o).1.extraCaps != 0 then .occupied else .free :=
      (IpcState.stateOf_markSlot _ r _ r.root r.reservation.slot).trans (if_pos ⟨rfl, rfl⟩)
    have hzero : (Endpoint.nbReport w.state e (some r) o).1.extraCaps = 0 := by
      apply Decidable.byContradiction
      intro hcount
      rw [if_pos (bne_iff_ne.mpr hcount)] at hentry
      exact hne hentry
    have hempty : w.state.kernel.children r.root r.reservation.slot = none := by
      apply hw
      rw [show (w.state.cspaces r.root).slots.stateOf r.reservation.slot = .reserved from hres]
      nofun
    rw [← hempty]
    apply Decidable.byContradiction
    intro hchanged
    obtain ⟨-, -, k, hk, -⟩ := (installed_settled w.state e r o _ _).mp hchanged
    rw [hzero] at hk
    exact Nat.not_lt_zero k hk
  · have hother : ∀ r, slot = some r → ¬ (root = r.root ∧ i = r.reservation.slot) :=
      fun r hr hri => hmine ⟨r, hr, hri⟩
    rw [stateOf_settled w.state e slot o root i hother] at hne
    rw [children_settled w.state e slot o root i hother]
    exact hw root i hne

theorem tracked_step {w w' : World} {op : Op} (hslots : w.SlotsReserved) (hw : w.Tracked)
    (hC : Guarded w op) (h : Effect w op w') : w'.Tracked := by
  cases h with
  | refused hop htake hp =>
      rw [Tracked, state_of_takeSlot htake]
      exact hw
  | kept m hop htake hready hm => exact hw.settled (hslots.take htake)
  | rejected hop htake hready =>
      intro root i hne
      exact (congrFun (congrFun (IpcState.children_answered ..) root) i).trans
        (hw.settled (hslots.take htake) root i hne)
  | empty hop htake hready => exact hw.settled (hslots.take htake)
  | answered hop hm hpath =>
      intro root i hne
      exact (congrFun (congrFun (IpcState.children_answered ..) root) i).trans (hw root i hne)
  | deferred hm hres => exact hw
  | replied hd hpath =>
      intro root i hne
      exact (congrFun (congrFun (Kernel.children_sendReplyCap ..) root) i).trans (hw root i hne)
  | discarded hd => exact hw
  | discardRefused hd => exact hw
  | called hpath =>
      intro root i hne
      exact (congrFun (congrFun (children_call hC hpath) root) i).trans (hw root i hne)
  | sent hpath => exact hw
  | granted slot hroot hindex hne hlt hfree =>
      intro root i hnocc
      by_cases hmine : root = slot.root ∧ i = slot.reservation.slot.val
      · obtain ⟨rfl, rfl⟩ := hmine
        apply hw
        rw [hroot, hindex, hfree]
        nofun
      · have hsame := (IpcState.stateOf_markSlot w.state slot .reserved root i).trans (if_neg hmine)
        exact hw root i (hsame ▸ hnocc)
  | denied => exact hw

theorem tracked_reachable {w : World} (h : Reachable World.step World.Initial Guarded w) : w.Tracked :=
  invariant_of_effect (fun _ => tracked_initial)
    (fun _ _ _ hslots hw hC he => tracked_step hslots hw hC he) h

/-- A step that changes a child slot is a receive that was given exactly that slot. -/
theorem given_slot_of_change {w w' : World} {op : Op} (hC : Guarded w op) (he : Effect w op w')
    {root i : Nat} (hne : w'.state.kernel.children root i ≠ w.state.kernel.children root i) :
    ∃ e h o slot, op.receives = some (e, some h, o) ∧ w.slots h = some slot ∧ slot.root = root ∧
      slot.reservation.slot.val = i := by
  have hreceive : ∀ {e h o slot w₀}, op.receives = some (e, h, o) → w.takeSlot h = some (slot, w₀) →
      (w.state.settled e slot o).kernel.children root i ≠ w.state.kernel.children root i →
      ∃ e h o slot, op.receives = some (e, some h, o) ∧ w.slots h = some slot ∧ slot.root = root ∧
        slot.reservation.slot.val = i := by
    intro e h o slot w₀ hop htake hchanged
    rcases takeSlot_cases htake with ⟨-, rfl, -⟩ | ⟨j, r, rfl, rfl, hr, -⟩
    · exact absurd (children_settled_none w.state e o root i) hchanged
    · obtain ⟨⟨hroot, hi⟩, -⟩ := (installed_settled w.state e r o root i).mp hchanged
      exact ⟨e, j, o, r, hop, hr, hroot.symm, hi.symm⟩
  cases he with
  | refused hop htake hp => exact absurd (by rw [state_of_takeSlot htake]) hne
  | kept m hop htake hready hm => exact hreceive hop htake hne
  | rejected hop htake hready =>
      refine hreceive hop htake ?_
      rwa [← show _ = (w.state.settled _ _ _).kernel.children from IpcState.children_answered ..]
  | empty hop htake hready => exact hreceive hop htake hne
  | answered hop hm hpath =>
      exact absurd (congrFun (congrFun (IpcState.children_answered ..) root) i) hne
  | replied hd hpath =>
      exact absurd (congrFun (congrFun (Kernel.children_sendReplyCap ..) root) i) hne
  | called hpath => exact absurd (congrFun (congrFun (children_call hC hpath) root) i) hne
  | deferred | discarded | discardRefused | sent | granted | denied => exact absurd rfl hne

/-- **No untracked delivery.** In every run whose calls are all guarded, in every state it reaches: a child
    slot that the tracker calls free is empty, and a guarded step fills a child slot only if it is a receive
    that was given exactly that slot. -/
theorem no_untracked_delivery {w : World} (h : Reachable World.step World.Initial Guarded w) :
    (∀ root i, (w.state.cspaces root).slots.stateOf i = .free → w.state.kernel.children root i = none) ∧
    (∀ op w' root i, Guarded w op → w.step op = some w' →
      w'.state.kernel.children root i ≠ w.state.kernel.children root i →
      ∃ e h o slot, op.receives = some (e, some h, o) ∧ w.slots h = some slot ∧ slot.root = root ∧
        slot.reservation.slot.val = i) := by
  refine ⟨fun root i hfree => tracked_reachable h root i (by rw [hfree]; nofun), ?_⟩
  intro op w' root i hC hstep hne
  exact given_slot_of_change hC (effect_of_step (slotsReserved_reachable h) hstep) hne

/-- A call before any receive: the receive path is still null, and nothing is installed. -/
theorem no_untracked_delivery_call :
    ∃ w, start.step (.call Message.emptyReply (request 1 [⟨false, 9⟩])) = some w ∧
      ∀ root, w.state.kernel.children root 1 = none := by
  have hguard : Guarded start (.call Message.emptyReply (request 1 [⟨false, 9⟩])) :=
    fun _ _ _ => Or.inl rfl
  refine ⟨_, rfl, fun root => ?_⟩
  exact (no_untracked_delivery ((Reachable.refl initial_start).tail hguard rfl)).1 root 1 rfl

/-- A receive configures the path to slot 1 of child 7 and gets no capability; the reply to a later call
    delivers one along that path, into a slot the tracker calls free. -/
theorem call_installs_untracked :
    ∃ w w', Reachable World.step World.Initial (@anyStep World Op) w ∧
      w.step (.call Message.emptyReply (request 2 [⟨false, 9⟩])) = some w' ∧
      w.state.kernel.children 7 1 = none ∧ w'.state.kernel.children 7 1 = some 9 ∧
      (w'.state.cspaces 7).slots.stateOf 1 = .free := by
  have hrun : Reachable World.step World.Initial (@anyStep World Op) _ :=
    (Reachable.refl initial_start).foldlM
      [.receiveSlot 7 1, .receive 0 (some 0) (request 1 [])] rfl
  exact ⟨_, _, hrun, rfl, rfl, rfl, rfl⟩

end World
end Ricoq
