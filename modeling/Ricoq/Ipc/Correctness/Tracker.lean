import Mathlib.Data.List.Basic
import Mathlib.Data.List.Nodup
import Ricoq.Lib.Run
import Ricoq.Ipc.SlotTracker

/-!
# `Ipc.Correctness.Tracker` — the state machine of the slot tracker

A tracker in use, with the reservations taken on it. A reservation borrows the tracker mutably through its cell:
until it is settled or dropped no other operation on the tracker can be called. Dropping one without settling
it is possible; its slot then stays reserved for good.

The reserved slots are exactly those of the reservations that are outstanding or were abandoned (`Held`). This
is why the check in `commit` and `cancel` never fails, and with it every operation has one of five effects
(`Effect`), each on the cell of its own slot.
-/

namespace Ricoq
namespace SlotTracker

/-! ## Trackers in use -/

/-- The operations on a tracker, and on a reservation obtained from it. -/
inductive Op where
  | markOccupied (slot : Nat)
  | reserve (slot : Nat)
  | commit (reservation : SlotReservation)
  | cancel (reservation : SlotReservation)
  | abandon (reservation : SlotReservation)
deriving DecidableEq

/-- The slot an operation is about. -/
def Op.slot : Op → Nat
  | .markOccupied slot   => slot
  | .reserve slot        => slot
  | .commit reservation  => reservation.slot
  | .cancel reservation  => reservation.slot
  | .abandon reservation => reservation.slot

/-- A tracker, its outstanding reservations and those that were dropped without being settled. -/
structure Tracked where
  tracker : SlotTracker
  outstanding : List SlotReservation
  abandoned : List SlotReservation
deriving DecidableEq

namespace Tracked

/-- Settling consumes the reservation, whatever comes of it. -/
def consume (w : Tracked) (reservation : SlotReservation) :
    Except SlotError SlotTracker → Except SlotError Unit × Tracked
  | .ok tracker => (.ok (), { w with tracker, outstanding := w.outstanding.erase reservation })
  | .error e    => (.error e, { w with outstanding := w.outstanding.erase reservation })

/-- What an operation returns and leaves. It is not possible on a tracker that is borrowed, or with a
    reservation that is not at hand. -/
def apply (w : Tracked) : Op → Option (Except SlotError Unit × Tracked)
  | .markOccupied slot =>
      if w.outstanding ≠ [] then none
      else match w.tracker.markOccupied slot with
        | .ok tracker => some (.ok (), { w with tracker })
        | .error e    => some (.error e, w)
  | .reserve slot =>
      if w.outstanding ≠ [] then none
      else match w.tracker.reserve slot with
        | .ok (reservation, tracker) =>
            some (.ok (), { w with tracker, outstanding := reservation :: w.outstanding })
        | .error e => some (.error e, w)
  | .commit reservation =>
      if reservation ∈ w.outstanding then some (w.consume reservation (w.tracker.commit reservation)) else none
  | .cancel reservation =>
      if reservation ∈ w.outstanding then some (w.consume reservation (w.tracker.cancel reservation)) else none
  | .abandon reservation =>
      if reservation ∈ w.outstanding then
        some (.ok (), { w with
          outstanding := w.outstanding.erase reservation
          abandoned := reservation :: w.abandoned })
      else none

def step (w : Tracked) (op : Op) : Option Tracked := (w.apply op).map (·.2)

/-- A new tracker. -/
def begin (tracker : SlotTracker) : Tracked := ⟨tracker, [], []⟩

/-! ## The invariant -/

/-- The reserved slots are those of the reservations outstanding or abandoned, and slots out of range are
    free. -/
structure Held (w : Tracked) : Prop where
  single : w.outstanding.length ≤ 1
  nodup : (w.outstanding ++ w.abandoned).Nodup
  reserved : ∀ slot, w.tracker.stateOf slot = .reserved ↔ ∃ r ∈ w.outstanding ++ w.abandoned, r.slot.val = slot
  inRange : ∀ slot, w.tracker.stateOf slot ≠ .free → slot ≠ 0 ∧ slot < w.tracker.capacity

/-- What an operation does: nothing, or one transition of its own cell. -/
inductive Effect (w : Tracked) : Op → Except SlotError Unit → Tracked → Prop where
  | refused {op : Op} {e : SlotError} : Effect w op (.error e) w
  | marked {cell : Fin maxSlots} (hne : cell.val ≠ 0) (hlt : cell.val < w.tracker.capacity)
      (hfree : w.tracker.stateOf cell = .free) :
      Effect w (.markOccupied cell) (.ok ()) { w with tracker := w.tracker.setState cell .occupied }
  | reserved {r : SlotReservation} (hnone : w.outstanding = []) (hne : r.slot.val ≠ 0)
      (hlt : r.slot.val < w.tracker.capacity) (hfree : w.tracker.stateOf r.slot = .free) :
      Effect w (.reserve r.slot) (.ok ())
        { w with tracker := w.tracker.setState r.slot .reserved, outstanding := r :: w.outstanding }
  | settled {op : Op} {r : SlotReservation} {final : SlotState}
      (hop : (op = .commit r ∧ final = .occupied) ∨ (op = .cancel r ∧ final = .free))
      (hr : r ∈ w.outstanding) (hreserved : w.tracker.stateOf r.slot = .reserved) :
      Effect w op (.ok ())
        { w with tracker := w.tracker.setState r.slot final, outstanding := w.outstanding.erase r }
  | abandoned {r : SlotReservation} (hr : r ∈ w.outstanding) :
      Effect w (.abandon r) (.ok ())
        { w with outstanding := w.outstanding.erase r, abandoned := r :: w.abandoned }

variable {w w' : Tracked} {op : Op} {result : Except SlotError Unit}

/-- The cell of an outstanding reservation is reserved. -/
theorem Held.reserved_of_outstanding (hw : Held w) {r : SlotReservation} (hr : r ∈ w.outstanding) :
    w.tracker.stateOf r.slot = .reserved :=
  (hw.reserved r.slot).mpr ⟨r, List.mem_append_left _ hr, rfl⟩

/-- Settling an outstanding reservation succeeds. -/
theorem settled_of_apply (hw : Held w) {r : SlotReservation} {final : SlotState}
    (hop : (op = .commit r ∧ final = .occupied) ∨ (op = .cancel r ∧ final = .free))
    (h : (if r ∈ w.outstanding then some (w.consume r (w.tracker.settle r final)) else none) =
      some (result, w')) : Effect w op result w' := by
  by_cases hr : r ∈ w.outstanding
  · have hreserved := hw.reserved_of_outstanding hr
    rw [if_pos hr, settle_of_reserved hreserved] at h
    obtain ⟨rfl, rfl⟩ := Prod.mk.inj (Option.some.inj h)
    exact .settled hop hr hreserved
  · rw [if_neg hr] at h
    cases h

theorem effect_of_apply (hw : Held w) (h : w.apply op = some (result, w')) : Effect w op result w' := by
  cases op with
  | markOccupied slot =>
      rw [apply] at h
      by_cases hnone : w.outstanding = []
      · rw [if_neg (not_not_intro hnone)] at h
        cases hmark : w.tracker.markOccupied slot with
        | error e =>
            rw [hmark] at h
            obtain ⟨rfl, rfl⟩ := Prod.mk.inj (Option.some.inj h)
            exact .refused
        | ok tracker =>
            rw [hmark] at h
            obtain ⟨rfl, rfl⟩ := Prod.mk.inj (Option.some.inj h)
            obtain ⟨cell, hne, hlt, rfl, hfree, rfl⟩ := markOccupied_eq_ok.mp hmark
            exact .marked hne hlt hfree
      · rw [if_pos hnone] at h
        exact nomatch h
  | reserve slot =>
      rw [apply] at h
      by_cases hnone : w.outstanding = []
      · rw [if_neg (not_not_intro hnone)] at h
        cases hreserve : w.tracker.reserve slot with
        | error e =>
            rw [hreserve] at h
            obtain ⟨rfl, rfl⟩ := Prod.mk.inj (Option.some.inj h)
            exact .refused
        | ok taken =>
            obtain ⟨r, tracker⟩ := taken
            rw [hreserve] at h
            obtain ⟨rfl, rfl⟩ := Prod.mk.inj (Option.some.inj h)
            obtain ⟨hne, hlt, rfl, hfree, rfl⟩ := reserve_eq_ok.mp hreserve
            exact .reserved hnone hne hlt hfree
      · rw [if_pos hnone] at h
        exact nomatch h
  | commit r => exact settled_of_apply hw (Or.inl ⟨rfl, rfl⟩) h
  | cancel r => exact settled_of_apply hw (Or.inr ⟨rfl, rfl⟩) h
  | abandon r =>
      rw [apply] at h
      by_cases hr : r ∈ w.outstanding
      · rw [if_pos hr] at h
        obtain ⟨rfl, rfl⟩ := Prod.mk.inj (Option.some.inj h)
        exact .abandoned hr
      · rw [if_neg hr] at h
        exact nomatch h

/-! ## Runs -/

/-- There is one reservation for a slot. -/
theorem reservation_eq {r r' : SlotReservation} (h : r.slot.val = r'.slot.val) : r = r' := by
  obtain ⟨cell⟩ := r
  obtain ⟨cell'⟩ := r'
  obtain rfl : cell = cell' := Fin.ext h
  rfl

theorem Held.outstanding_eq (hw : Held w) {r : SlotReservation} (hr : r ∈ w.outstanding) :
    w.outstanding = [r] := by
  obtain ⟨r', hr'⟩ := List.length_eq_one_iff.mp
    (Nat.le_antisymm hw.single (List.length_pos_of_mem hr))
  rw [hr'] at hr ⊢
  rw [List.mem_singleton.mp hr]

theorem held_begin {capacity : Nat} {tracker : SlotTracker} (h : tryNew capacity = .ok tracker) :
    Held (begin tracker) := by
  have hfree := (tryNew_eq_ok h).2
  refine ⟨Nat.zero_le 1, List.nodup_nil, ?_, ?_⟩
  · intro slot
    show tracker.stateOf slot = .reserved ↔ _
    simp [hfree, begin]
  · intro slot hslot
    exact absurd (hfree slot) hslot

/-- A cell that is written stays in range, and so do the others. -/
theorem Held.inRange_setState (hw : Held w) {cell : Fin maxSlots} (hne : cell.val ≠ 0)
    (hlt : cell.val < w.tracker.capacity) (state : SlotState) {slot : Nat}
    (hslot : (w.tracker.setState cell state).stateOf slot ≠ .free) :
    slot ≠ 0 ∧ slot < (w.tracker.setState cell state).capacity := by
  rw [capacity_setState]
  rw [stateOf_setState] at hslot
  by_cases heq : slot = cell.val
  · subst heq
    exact ⟨hne, hlt⟩
  · rw [if_neg heq] at hslot
    exact hw.inRange slot hslot

/-- Marking a free slot. -/
theorem Held.mark (hw : Held w) {cell : Fin maxSlots} (hne : cell.val ≠ 0) (hlt : cell.val < w.tracker.capacity)
    (hfree : w.tracker.stateOf cell = .free) :
    Held { w with tracker := w.tracker.setState cell .occupied } := by
  refine ⟨hw.single, hw.nodup, ?_, fun _ => hw.inRange_setState hne hlt .occupied⟩
  intro slot
  show (w.tracker.setState cell .occupied).stateOf slot = _ ↔ _
  rw [stateOf_setState, ← hw.reserved]
  by_cases heq : slot = cell.val
  · simp [heq, hfree]
  · simp [heq]

/-- Reserving a free slot of a tracker that is not borrowed. -/
theorem Held.reserve (hw : Held w) {r : SlotReservation} (hnone : w.outstanding = []) (hne : r.slot.val ≠ 0)
    (hlt : r.slot.val < w.tracker.capacity) (hfree : w.tracker.stateOf r.slot = .free) :
    Held { w with
      tracker := w.tracker.setState r.slot .reserved
      outstanding := r :: w.outstanding } := by
  have hnew : r ∉ w.outstanding ++ w.abandoned := by
    intro hr
    have hreserved := (hw.reserved r.slot).mpr ⟨r, hr, rfl⟩
    rw [hfree] at hreserved
    cases hreserved
  refine ⟨?_, List.nodup_cons.mpr ⟨hnew, hw.nodup⟩, ?_, fun _ => hw.inRange_setState hne hlt .reserved⟩
  · simp [hnone]
  · intro slot
    show (w.tracker.setState r.slot .reserved).stateOf slot = _ ↔
      ∃ r' ∈ r :: (w.outstanding ++ w.abandoned), r'.slot.val = slot
    rw [List.exists_mem_cons_iff, ← hw.reserved, stateOf_setState]
    by_cases heq : slot = r.slot.val
    · simp [heq]
    · simp [heq, Ne.symm heq]

/-- Settling an outstanding reservation. -/
theorem Held.settle (hw : Held w) {r : SlotReservation} {final : SlotState} (hr : r ∈ w.outstanding)
    (hfinal : final ≠ .reserved) :
    Held { w with
      tracker := w.tracker.setState r.slot final
      outstanding := w.outstanding.erase r } := by
  have hone := hw.outstanding_eq hr
  obtain ⟨hne, hlt⟩ := hw.inRange r.slot (by simp [hw.reserved_of_outstanding hr])
  have hnodup := hw.nodup
  rw [hone] at hnodup
  obtain ⟨hnew, habandoned⟩ := List.nodup_cons.mp hnodup
  refine ⟨?_, ?_, ?_, fun _ => hw.inRange_setState hne hlt final⟩
  · simp [hone]
  · simpa [hone] using habandoned
  · intro slot
    have hreserved := hw.reserved slot
    rw [hone, List.singleton_append, List.exists_mem_cons_iff] at hreserved
    show (w.tracker.setState r.slot final).stateOf slot = _ ↔ ∃ r' ∈ w.outstanding.erase r ++ w.abandoned, _
    rw [hone, List.erase_cons_head, List.nil_append, stateOf_setState]
    by_cases heq : slot = r.slot.val
    · rw [if_pos heq]
      refine iff_of_false hfinal ?_
      rintro ⟨r', hr', hslot⟩
      obtain rfl := reservation_eq (hslot.trans heq)
      exact hnew hr'
    · rw [if_neg heq, hreserved]
      simp [Ne.symm heq]

/-- Dropping one without settling it. -/
theorem Held.abandon (hw : Held w) {r : SlotReservation} (hr : r ∈ w.outstanding) :
    Held { w with outstanding := w.outstanding.erase r, abandoned := r :: w.abandoned } := by
  have hone := hw.outstanding_eq hr
  refine ⟨?_, ?_, ?_, hw.inRange⟩
  · simp [hone]
  · simpa [hone] using hw.nodup
  · intro slot
    show w.tracker.stateOf slot = _ ↔ ∃ r' ∈ w.outstanding.erase r ++ r :: w.abandoned, _
    rw [hw.reserved, hone]
    simp

theorem held_effect (hw : Held w) (h : Effect w op result w') : Held w' := by
  cases h with
  | refused => exact hw
  | marked hne hlt hfree => exact hw.mark hne hlt hfree
  | reserved hnone hne hlt hfree => exact hw.reserve hnone hne hlt hfree
  | settled hop hr hreserved =>
      refine hw.settle hr ?_
      rcases hop with ⟨-, rfl⟩ | ⟨-, rfl⟩
      · simp
      · simp
  | abandoned hr => exact hw.abandon hr

theorem held_reachable {tracker : SlotTracker} {capacity : Nat} (htry : tryNew capacity = .ok tracker)
    (h : Reachable step (· = begin tracker) (@anyStep Tracked Op) w) :
    Held w ∧ w.tracker.capacity = capacity := by
  refine Reachable.invariant (I := fun w => Held w ∧ w.tracker.capacity = capacity) ?_ ?_ h
  · rintro _ rfl
    exact ⟨held_begin htry, (tryNew_eq_ok htry).1⟩
  · rintro w op w' ⟨hw, hcap⟩ - hs
    obtain ⟨⟨result, w'⟩, happly, rfl⟩ := Option.map_eq_some_iff.mp hs
    have heffect := effect_of_apply hw happly
    refine ⟨held_effect hw heffect, ?_⟩
    rw [← hcap]
    cases heffect <;> rfl

/-! ## Transitions -/

/-- The transitions of a slot. -/
inductive Moves : SlotState → SlotState → Prop where
  | stay (state : SlotState) : Moves state state
  | reserve : Moves .free .reserved
  | install : Moves .free .occupied
  | commit : Moves .reserved .occupied
  | cancel : Moves .reserved .free

/-- What an operation does to the slots. -/
structure Transition (w : Tracked) (op : Op) (result : Except SlotError Unit) (w' : Tracked) : Prop where
  moves : ∀ slot, Moves (w.tracker.stateOf slot) (w'.tracker.stateOf slot)
  frame : ∀ slot, slot ≠ op.slot → w'.tracker.stateOf slot = w.tracker.stateOf slot
  error : ∀ e, result = .error e → w'.tracker = w.tracker

/-- Writing one cell is a transition of that slot. -/
theorem moves_setState {tracker : SlotTracker} {cell : Fin maxSlots} {state : SlotState}
    (h : Moves (tracker.stateOf cell) state) (slot : Nat) :
    Moves (tracker.stateOf slot) ((tracker.setState cell state).stateOf slot) := by
  rw [stateOf_setState]
  by_cases heq : slot = cell.val
  · subst heq
    rw [if_pos rfl]
    exact h
  · rw [if_neg heq]
    exact .stay _

theorem Effect.transition (h : Effect w op result w') : Transition w op result w' := by
  cases h with
  | refused => exact ⟨fun _ => .stay _, fun _ _ => rfl, fun _ _ => rfl⟩
  | @marked cell hne hlt hfree =>
      refine ⟨moves_setState ?_, fun slot => stateOf_setState_ne _ _, nofun⟩
      rw [hfree]
      exact .install
  | @reserved r hnone hne hlt hfree =>
      refine ⟨moves_setState ?_, fun slot => stateOf_setState_ne _ _, nofun⟩
      rw [hfree]
      exact .reserve
  | @settled op r final hop hr hreserved =>
      rcases hop with ⟨rfl, rfl⟩ | ⟨rfl, rfl⟩
      · refine ⟨moves_setState ?_, fun slot => stateOf_setState_ne _ _, nofun⟩
        rw [hreserved]
        exact .commit
      · refine ⟨moves_setState ?_, fun slot => stateOf_setState_ne _ _, nofun⟩
        rw [hreserved]
        exact .cancel
  | abandoned hr => exact ⟨fun _ => .stay _, fun _ _ => rfl, nofun⟩

/-! ## The state machine -/

/-- An occupied slot stays occupied. -/
theorem occupied_kept (hw : Held w) (h : Reachable step (· = w) (@anyStep Tracked Op) w') {slot : Nat}
    (hocc : w.tracker.stateOf slot = .occupied) : w'.tracker.stateOf slot = .occupied := by
  have hinv : Held w' ∧ w'.tracker.stateOf slot = .occupied := by
    refine Reachable.invariant (I := fun w' => Held w' ∧ w'.tracker.stateOf slot = .occupied) ?_ ?_ h
    · rintro _ rfl
      exact ⟨hw, hocc⟩
    · rintro w₁ op w₂ ⟨hw₁, hocc₁⟩ - hs
      obtain ⟨⟨result, w₂⟩, happly, rfl⟩ := Option.map_eq_some_iff.mp hs
      have heffect := effect_of_apply hw₁ happly
      refine ⟨held_effect hw₁ heffect, ?_⟩
      have hmoves := heffect.transition.moves slot
      rw [hocc₁] at hmoves
      show w₂.tracker.stateOf slot = .occupied
      generalize w₂.tracker.stateOf slot = state at hmoves
      cases hmoves
      rfl
  exact hinv.2

/-- The state machine of a tracker of this capacity, in use. -/
structure Lawful (capacity : Nat) (w : Tracked) : Prop where
  single : w.outstanding.length ≤ 1
  reserved : ∀ slot, w.tracker.stateOf slot = .reserved ↔ ∃ r ∈ w.outstanding ++ w.abandoned, r.slot.val = slot
  only : w.abandoned = [] → ∀ r ∈ w.outstanding, ∀ slot, w.tracker.stateOf slot = .reserved ↔ slot = r.slot.val
  settles : ∀ r ∈ w.outstanding,
    (∃ tracker, w.tracker.commit r = .ok tracker) ∧ ∃ tracker, w.tracker.cancel r = .ok tracker
  transition : ∀ op result w', w.apply op = some (result, w') → Transition w op result w'
  occupied : ∀ w', Reachable step (· = w) (@anyStep Tracked Op) w' →
    ∀ slot, w.tracker.stateOf slot = .occupied → w'.tracker.stateOf slot = .occupied
  null : w.tracker.stateOf 0 = .free ∧ w.tracker.markOccupied 0 = .error .reserved ∧
    w.tracker.reserve 0 = .error .reserved
  beyond : ∀ slot, slot ≠ 0 → capacity ≤ slot → w.tracker.stateOf slot = .free ∧
    w.tracker.markOccupied slot = .error .outOfRange ∧ w.tracker.reserve slot = .error .outOfRange
  index : ∀ slot, slot ≠ 0 → slot < capacity → ∃ cell, w.tracker.stateMut slot = .ok cell ∧ cell.val = slot

/-- **The slot tracker.** After any sequence of operations on a tracker of any accepted capacity, with every
    reservation settled, abandoned or still outstanding: at most one is outstanding, and the reserved slots are
    its own and those of abandoned ones, so that settling it succeeds. From there every operation moves its own
    slot along one of the transitions, or fails and changes nothing; an occupied slot stays so; and slots
    outside the CSpace are free and refused. -/
theorem lawful_reachable {capacity : Nat} {tracker : SlotTracker} (htry : tryNew capacity = .ok tracker)
    (h : Reachable step (· = begin tracker) (@anyStep Tracked Op) w) : Lawful capacity w := by
  obtain ⟨hw, hcap⟩ := held_reachable htry h
  have hfree : ∀ slot, ¬ (slot ≠ 0 ∧ slot < capacity) → w.tracker.stateOf slot = .free := by
    intro slot hout
    by_contra hne
    rw [← hcap] at hout
    exact hout (hw.inRange slot hne)
  constructor
  case single => exact hw.single
  case reserved => exact hw.reserved
  case only =>
    intro hnone r hr slot
    rw [hw.reserved, hnone, hw.outstanding_eq hr]
    simp [eq_comm]
  case settles =>
    intro r hr
    have hreserved := hw.reserved_of_outstanding hr
    exact ⟨⟨_, settle_of_reserved hreserved .occupied⟩, ⟨_, settle_of_reserved hreserved .free⟩⟩
  case transition =>
    intro op result w' happly
    exact (effect_of_apply hw happly).transition
  case occupied =>
    intro w' hrun slot
    exact occupied_kept hw hrun
  case null => exact ⟨hfree 0 fun hin => hin.1 rfl, refused_of_stateMut (stateMut_null w.tracker)⟩
  case beyond =>
    intro slot hne hge
    have hge' : w.tracker.capacity ≤ slot := by rw [hcap]; exact hge
    exact ⟨hfree slot fun hin => absurd hin.2 (Nat.not_lt.mpr hge),
      refused_of_stateMut (stateMut_beyond hne hge')⟩
  case index =>
    intro slot hne hlt
    rw [← hcap] at hlt
    have hcell : slot < maxSlots := Nat.lt_of_lt_of_le hlt w.tracker.capacity_le
    exact ⟨⟨slot, hcell⟩, stateMut_eq_ok.mpr ⟨hne, hlt, rfl⟩, rfl⟩

/-- Of eight slots one is occupied, one abandoned and one reserved. -/
theorem lawful_reachable_eight :
    ∃ tracker w, tryNew 8 = .ok tracker ∧
      List.foldlM step (begin tracker) [.markOccupied 1, .reserve 2, .abandon ⟨2⟩, .reserve 3] = some w ∧
      w.outstanding = [⟨3⟩] ∧ Lawful 8 w := by
  have hrun : Reachable step (· = begin ⟨8, Vector.replicate _ .free, by decide⟩) (@anyStep Tracked Op) _ :=
    Reachable.foldlM (Reachable.refl rfl) [.markOccupied 1, .reserve 2, .abandon ⟨2⟩, .reserve 3] rfl
  exact ⟨_, _, rfl, rfl, rfl, lawful_reachable rfl hrun⟩

end Tracked
end SlotTracker
end Ricoq
