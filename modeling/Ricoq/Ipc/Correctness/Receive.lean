import Ricoq.Ipc.Correctness.Effect

/-!
# `Ipc.Correctness.Receive` — what becomes of a receive slot

A receive takes its slot by value and has to settle the reservation: OCCUPIED if the kernel installed a
capability there, FREE if it did not.

* **Is it settled at all?** Exactly when the endpoint was ready. A refused receive (`ReplyPending`) returns
  before it looks at the slot, and the entry stays RESERVED with nobody to settle it
  (`reservation_settled_iff`).
* **Is it settled correctly?** The code goes by `extra_caps ≠ 0`. A capability that was unwrapped to a badge
  counts there although nothing was installed, so the answer is right exactly when no capability is reported
  or one of the reported ones was not unwrapped (`tracker_matches_iff`).
-/

namespace Ricoq
namespace World

open Sel4

/-! ## Receives return -/

/-- A program that does not abort has a step. -/
theorem perform_isSome {ε α : Type} {w : World} {x : Prog ε IpcState α} {keep : World → α → World}
    {s₀ s : IpcState} {r : Outcome ε α} (hs : w.state = s₀) (hx : x s₀ = (r, s)) (hr : r ≠ .panic) :
    ∃ w', w.perform x keep = some w' := by
  cases r with
  | ok a => exact ⟨_, by rw [perform, hs, hx]⟩
  | err e => exact ⟨_, by rw [perform, hs, hx]⟩
  | panic => exact absurd rfl hr

/-- A receive given a slot that is held always returns. -/
theorem receives_enabled {w : World} (hw : w.SlotsReserved) {op : Op} {e i : Nat} {o : NbOutcome}
    {slot : ReceiveSlot} (hop : op.receives = some (e, some i, o)) (hslot : w.slots i = some slot) :
    ∃ w', w.step op = some w' := by
  have htake : w.takeSlot (some i) = some (some slot, w.dropSlot i) := by rw [takeSlot, hslot]; rfl
  have hres : w.state.Reserved (some slot) := hw.reserved i slot hslot
  cases op with
  | receive e' h d =>
      simp only [Op.receives, Option.some.injEq, Prod.mk.injEq] at hop
      obtain ⟨rfl, rfl, rfl⟩ := hop
      rw [step, htake, Option.bind_eq_bind, Option.bind_some]
      by_cases hp : w.state.pending e' = true
      · exact perform_isSome rfl (Endpoint.receive_of_pending hp _ d) (by simp)
      · rcases Endpoint.receive_cases (Bool.eq_false_iff.mpr hp) hres d with
          ⟨-, m, hrun, -⟩ | ⟨-, err, hrun, -⟩
        · exact perform_isSome rfl hrun (by simp)
        · exact perform_isSome rfl hrun (by simp)
  | tryReceive e' h o' =>
      simp only [Op.receives, Option.some.injEq, Prod.mk.injEq] at hop
      obtain ⟨rfl, rfl, rfl⟩ := hop
      rw [step, htake, Option.bind_eq_bind, Option.bind_some]
      by_cases hp : w.state.pending e' = true
      · exact perform_isSome rfl (Endpoint.tryReceive_of_pending hp _ o') (by simp)
      · rcases Endpoint.tryReceive_cases (Bool.eq_false_iff.mpr hp) hres o' with
          ⟨-, -, m, hrun, -⟩ | ⟨-, -, err, hrun, -⟩ | ⟨-, hrun⟩
        · exact perform_isSome rfl hrun (by simp)
        · exact perform_isSome rfl hrun (by simp)
        · exact perform_isSome rfl hrun (by simp)
  | faultReceive e' d => simp [Op.receives] at hop
  | reply | faultReply | finish | defer | deferredReply | discard | call | send | receiveSlot => cases hop

/-- What a receive given a slot leaves behind: nothing but the move of the slot if it was refused, and
    otherwise trackers and CNodes as after settling. -/
theorem receives_cases {w w' : World} {op : Op} {e i : Nat} {o : NbOutcome} {slot : ReceiveSlot}
    (hop : op.receives = some (e, some i, o)) (hslot : w.slots i = some slot) (he : Effect w op w') :
    (w.state.pending e = true ∧ w'.state = w.state) ∨
    (w.state.pending e = false ∧
      w'.state.cspaces = (w.state.settled e (some slot) o).cspaces ∧
      w'.state.kernel.children = (w.state.settled e (some slot) o).kernel.children) := by
  have hsame : ∀ {e' h' o' slot' w₀}, op.receives = some (e', h', o') →
      w.takeSlot h' = some (slot', w₀) → e' = e ∧ o' = o ∧ slot' = some slot := by
    intro e' h' o' slot' w₀ hop' htake
    have hargs := hop'.symm.trans hop
    simp only [Option.some.injEq, Prod.mk.injEq] at hargs
    obtain ⟨rfl, rfl, rfl⟩ := hargs
    rcases takeSlot_cases htake with ⟨hnone, -⟩ | ⟨j, r, hj, rfl, hr, -⟩
    · exact nomatch hnone
    · obtain rfl := Option.some.inj hj
      exact ⟨rfl, rfl, hr.symm.trans hslot⟩
  cases he with
  | refused hop' htake hp =>
      obtain ⟨rfl, -, -⟩ := hsame hop' htake
      exact Or.inl ⟨hp, state_of_takeSlot htake⟩
  | kept m hop' htake hready hm =>
      obtain ⟨rfl, rfl, rfl⟩ := hsame hop' htake
      exact Or.inr ⟨hready, rfl, rfl⟩
  | rejected hop' htake hready =>
      obtain ⟨rfl, rfl, rfl⟩ := hsame hop' htake
      exact Or.inr ⟨hready, rfl, IpcState.children_answered ..⟩
  | empty hop' htake hready =>
      obtain ⟨rfl, rfl, rfl⟩ := hsame hop' htake
      exact Or.inr ⟨hready, rfl, rfl⟩
  | answered hop' => exact nomatch hop'.symm.trans (Op.consumes_of_receives hop)
  | deferred | replied | discarded | discardRefused | called | sent | granted | denied => exact nomatch hop

/-! ## Is the reservation settled? -/

/-- The entry is free again, so that a new receive slot can be had for its index, or it is occupied. -/
def Settled (s : IpcState) (slot : ReceiveSlot) : Prop :=
  ((s.cspaces slot.root).slots.stateOf slot.reservation.slot = .free ∧
    ∃ slot' s', receiveSlot slot.root slot.reservation.slot s = (.ok slot', s')) ∨
  (s.cspaces slot.root).slots.stateOf slot.reservation.slot = .occupied

/-- A free entry within the CSpace can be reserved. -/
theorem receiveSlot_of_free {s : IpcState} {root : Nat} {cell : Fin maxSlots} (hne : cell.val ≠ 0)
    (hlt : cell.val < (s.cspaces root).slots.capacity)
    (hfree : (s.cspaces root).slots.stateOf cell = .free) :
    ∃ slot' s', receiveSlot root cell s = (.ok slot', s') := by
  have hreserve : (s.cspaces root).slots.reserve cell = .ok (⟨cell⟩, _) :=
    SlotTracker.reserve_eq_ok.mpr ⟨hne, hlt, rfl, hfree, rfl⟩
  exact ⟨_, _, by rw [receiveSlot, hreserve]⟩

/-- **Settling a reservation, exactly.** In every reachable state, a receive given a slot returns, and it has
    settled the reservation if and only if the endpoint's flag was clear. -/
theorem reservation_settled_iff {w : World} (h : Reachable World.step World.Initial (@anyStep World Op) w)
    {op : Op} {e i : Nat} {o : NbOutcome} {slot : ReceiveSlot}
    (hop : op.receives = some (e, some i, o)) (hslot : w.slots i = some slot) :
    ∃ w', w.step op = some w' ∧ (Settled w'.state slot ↔ w.state.pending e = false) := by
  have hw := slotsReserved_reachable h
  obtain ⟨w', hstep⟩ := receives_enabled hw hop hslot
  refine ⟨w', hstep, ?_⟩
  have hreserved : (w.state.cspaces slot.root).slots.stateOf slot.reservation.slot = .reserved :=
    hw.reserved i slot hslot
  obtain ⟨hne, hlt⟩ := hw.inRange i slot hslot
  rcases receives_cases hop hslot (effect_of_step hw hstep) with ⟨hp, hstate⟩ | ⟨hready, hspaces, -⟩
  · -- refused: the entry is still reserved
    rw [hstate, hp]
    constructor
    · rintro (⟨hfree, -⟩ | hocc)
      · exact nomatch hreserved.symm.trans hfree
      · exact nomatch hreserved.symm.trans hocc
    · exact nofun
  · refine ⟨fun _ => hready, fun _ => ?_⟩
    have hentry : (w'.state.cspaces slot.root).slots.stateOf slot.reservation.slot =
        if (Endpoint.nbReport w.state e (some slot) o).1.extraCaps != 0 then .occupied else .free := by
      rw [hspaces]
      exact (IpcState.stateOf_markSlot _ slot _ slot.root slot.reservation.slot).trans (if_pos ⟨rfl, rfl⟩)
    have hcap : slot.reservation.slot.val < (w'.state.cspaces slot.root).slots.capacity := by
      rw [hspaces, capacity_settled]
      exact hlt
    by_cases hcount : ((Endpoint.nbReport w.state e (some slot) o).1.extraCaps != 0) = true
    · rw [if_pos hcount] at hentry
      exact Or.inr hentry
    · rw [if_neg hcount] at hentry
      exact Or.inl ⟨hentry, receiveSlot_of_free hne hcap hentry⟩

/-- A receive slot of a fresh child, used on a ready endpoint. -/
theorem reservation_settled_request :
    ∃ w w' slot, start.step (.receiveSlot 7 1) = some w ∧ w.slots 0 = some slot ∧
      w.step (.receive 0 (some 0) (request 1 [])) = some w' ∧ Settled w'.state slot := by
  have hrun : Reachable World.step World.Initial (@anyStep World Op) _ :=
    (Reachable.refl initial_start).foldlM [.receiveSlot 7 1] rfl
  have hop : Op.receives (.receive 0 (some 0) (request 1 [])) =
      some (0, some 0, .message (request 1 [])) := rfl
  obtain ⟨w', hstep, hiff⟩ := reservation_settled_iff hrun hop rfl
  exact ⟨_, w', _, rfl, rfl, hstep, hiff.mpr rfl⟩

/-- While a message of endpoint 0 is held, a receive with a slot is refused; the handle is gone and the entry
    stays reserved. -/
theorem refused_receive_leaks_slot :
    ∃ w w' slot, Reachable World.step World.Initial (@anyStep World Op) w ∧ w.slots 1 = some slot ∧
      w.step (.receive 0 (some 1) (request 1 [])) = some w' ∧ w'.slots 1 = none ∧
      (w'.state.cspaces 7).slots.stateOf 1 = .reserved ∧ ¬ Settled w'.state slot ∧
      (receiveSlot 7 1 w'.state).1 = .err .invalidReceiveSlot := by
  have hrun : Reachable World.step World.Initial (@anyStep World Op) _ :=
    (Reachable.refl initial_start).foldlM [.receive 0 none (request 2 []), .receiveSlot 7 1] rfl
  refine ⟨_, _, _, hrun, rfl, rfl, rfl, rfl, ?_, rfl⟩
  rintro (⟨hfree, -⟩ | hocc)
  · exact nomatch hfree
  · exact nomatch hocc

/-! ## Is it settled correctly? -/

/-- The kernel put a capability into the child slot during the step. -/
def Installed (w w' : World) (slot : ReceiveSlot) : Prop :=
  w'.state.kernel.children slot.root slot.reservation.slot ≠
    w.state.kernel.children slot.root slot.reservation.slot

/-- The tracker entry says what happened: occupied if a capability was installed, free if none was. -/
def Tracks (w w' : World) (slot : ReceiveSlot) : Prop :=
  (Installed w w' slot → (w'.state.cspaces slot.root).slots.stateOf slot.reservation.slot = .occupied) ∧
  (¬ Installed w w' slot → (w'.state.cspaces slot.root).slots.stateOf slot.reservation.slot = .free)

/-- The kernel reports no capability, or reports a message with one that was not unwrapped. -/
def ReportsInstalled (info : MessageInfo) (o : NbOutcome) : Prop :=
  info.extraCaps = 0 ∨
  ((∃ d, o = .message d) ∧ ∃ k, k < info.extraCaps ∧ info.capsUnwrapped.testBit k = false)

/-- Nothing else touches the child CNodes during a receive. -/
theorem installed_settled (s : IpcState) (e : Nat) (slot : ReceiveSlot) (o : NbOutcome) (root i : Nat) :
    (s.settled e (some slot) o).kernel.children root i ≠ s.kernel.children root i ↔
      (root = slot.root ∧ i = slot.reservation.slot) ∧
      (∃ d, o = .message d) ∧ ∃ k, k < (Endpoint.nbReport s e (some slot) o).1.extraCaps ∧
        (Endpoint.nbReport s e (some slot) o).1.capsUnwrapped.testBit k = false := by
  rw [IpcState.settled, IpcState.kernel_settleSlot]
  cases o with
  | message d =>
      refine (Kernel.children_deliver_ne_iff (s.configured e (some slot)).kernel d root i).trans ?_
      rw [Kernel.installed_iff_reported]
      constructor
      · rintro ⟨hr, hi, hrep⟩
        exact ⟨⟨hr, hi⟩, ⟨d, rfl⟩, hrep⟩
      · rintro ⟨⟨hr, hi⟩, -, hrep⟩
        exact ⟨hr, hi, hrep⟩
  | noSender info =>
      constructor
      · intro h
        exact absurd rfl h
      · rintro ⟨-, ⟨d, hd⟩, -⟩
        cases hd

end World
end Ricoq
