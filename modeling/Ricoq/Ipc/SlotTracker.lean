import Ricoq.Lib.Word

/-!
# `Ipc.SlotTracker` — ownership of child CSpace slots

The fixed-size table of slot states that decides which child slots may receive a capability, and the
one-shot reservations taken on it. A reservation borrows one cell; settling it (`commit`, `cancel`) is a
separate call that checks the cell is still reserved.
-/

namespace Ricoq

/-- The three values of a state cell. -/
inductive SlotState where
  | free
  | reserved
  | occupied
deriving DecidableEq, Repr

/-- Failure to reserve or transition a tracked CSpace slot. -/
inductive SlotError where
  | reserved
  | outOfRange
  | capacityTooLarge
  | occupied
  | invalidReservation
deriving DecidableEq, Repr

/-- `SlotTracker::MAX_SLOTS`. -/
abbrev maxSlots : Nat := 256

/-- Fixed-capacity ownership state for one single-level CSpace. -/
structure SlotTracker where
  capacity : Nat
  states : Vector SlotState maxSlots
  capacity_le : capacity ≤ maxSlots
deriving DecidableEq

/-- A one-shot reservation; the borrowed cell is the one of its slot. -/
structure SlotReservation where
  slot : Fin maxSlots
deriving DecidableEq, Repr

namespace SlotTracker

def tryNew (capacity : Nat) : Except SlotError SlotTracker :=
  if h : capacity > maxSlots then
    .error .capacityTooLarge
  else
    .ok ⟨capacity, Vector.replicate _ .free, Nat.not_lt.mp h⟩

/-- The cell of a slot, after the three range checks. -/
def stateMut (tracker : SlotTracker) (slot : Nat) : Except SlotError (Fin maxSlots) :=
  if slot = 0 then .error .reserved
  else if slot ≥ tracker.capacity then .error .outOfRange
  else if h : slot < maxSlots then .ok ⟨slot, h⟩
  else .error .outOfRange

/-- Write one cell. -/
def setState (tracker : SlotTracker) (cell : Fin maxSlots) (state : SlotState) : SlotTracker :=
  { tracker with states := tracker.states.set cell state }

/-- Claim a free cell for `state`; both ways of taking a slot start like this. -/
def take (tracker : SlotTracker) (slot : Nat) (state : SlotState) :
    Except SlotError (Fin maxSlots × SlotTracker) := do
  let cell ← tracker.stateMut slot
  if tracker.states[cell] ≠ .free then
    .error .occupied
  else
    .ok (cell, tracker.setState cell state)

/-- Records a capability installed during CSpace construction. -/
def markOccupied (tracker : SlotTracker) (slot : Nat) : Except SlotError SlotTracker :=
  (tracker.take slot .occupied).map (·.2)

/-- Reserves an empty slot before configuring an IPC receive path. -/
def reserve (tracker : SlotTracker) (slot : Nat) : Except SlotError (SlotReservation × SlotTracker) :=
  (tracker.take slot .reserved).map fun (cell, tracker) => (⟨cell⟩, tracker)

/-- Consume a reservation, leaving its cell in `final`. -/
def settle (tracker : SlotTracker) (reservation : SlotReservation) (final : SlotState) :
    Except SlotError SlotTracker :=
  if tracker.states[reservation.slot] ≠ .reserved then
    .error .invalidReservation
  else
    .ok (tracker.setState reservation.slot final)

/-- Commits a receive destination after seL4 installed a capability. -/
def commit (tracker : SlotTracker) (reservation : SlotReservation) : Except SlotError SlotTracker :=
  tracker.settle reservation .occupied

/-- Releases a reservation after a receive transferred no capability. -/
def cancel (tracker : SlotTracker) (reservation : SlotReservation) : Except SlotError SlotTracker :=
  tracker.settle reservation .free

/-! ## Reading a tracker -/

/-- The state of a slot; slots outside the table are never taken. -/
def stateOf (tracker : SlotTracker) (slot : Nat) : SlotState := tracker.states[slot]?.getD .free

@[simp] theorem stateOf_cell (tracker : SlotTracker) (cell : Fin maxSlots) :
    tracker.stateOf cell.val = tracker.states[cell] := by
  simp [stateOf]

@[simp] theorem capacity_setState (tracker : SlotTracker) (cell : Fin maxSlots) (state : SlotState) :
    (tracker.setState cell state).capacity = tracker.capacity := rfl

/-- Writing a cell changes that slot and no other. -/
theorem stateOf_setState (tracker : SlotTracker) (cell : Fin maxSlots) (state : SlotState) (slot : Nat) :
    (tracker.setState cell state).stateOf slot =
      if slot = cell.val then state else tracker.stateOf slot := by
  unfold stateOf setState
  by_cases h : slot = cell.val
  · subst h
    simp
  · rw [if_neg h, Vector.getElem?_set_ne _ (fun he => h he.symm)]

theorem stateOf_setState_ne (tracker : SlotTracker) {cell : Fin maxSlots} (state : SlotState) {slot : Nat}
    (hne : slot ≠ cell.val) : (tracker.setState cell state).stateOf slot = tracker.stateOf slot := by
  rw [stateOf_setState, if_neg hne]

theorem tryNew_of_le {capacity : Nat} (h : capacity ≤ maxSlots) : ∃ tracker, tryNew capacity = .ok tracker :=
  ⟨_, dif_neg (Nat.not_lt.mpr h)⟩

/-- All slots of a new tracker are free. -/
theorem tryNew_eq_ok {capacity : Nat} {tracker : SlotTracker} (h : tryNew capacity = .ok tracker) :
    tracker.capacity = capacity ∧ ∀ slot, tracker.stateOf slot = .free := by
  unfold tryNew at h
  by_cases hcap : capacity > maxSlots
  · rw [dif_pos hcap] at h
    cases h
  · rw [dif_neg hcap] at h
    obtain rfl := Except.ok.inj h
    refine ⟨rfl, ?_⟩
    intro slot
    by_cases hslot : slot < maxSlots
    · simp [stateOf, hslot]
    · simp [stateOf, hslot]

theorem stateMut_null (tracker : SlotTracker) : tracker.stateMut 0 = .error .reserved := if_pos rfl

theorem stateMut_beyond {tracker : SlotTracker} {slot : Nat} (hne : slot ≠ 0) (hge : tracker.capacity ≤ slot) :
    tracker.stateMut slot = .error .outOfRange := by
  rw [stateMut, if_neg hne, if_pos hge]

theorem stateMut_eq_ok {tracker : SlotTracker} {slot : Nat} {cell : Fin maxSlots} :
    tracker.stateMut slot = .ok cell ↔ slot ≠ 0 ∧ slot < tracker.capacity ∧ cell.val = slot := by
  have hcap := tracker.capacity_le
  unfold stateMut
  by_cases h0 : slot = 0
  · simp [h0]
  by_cases hr : slot ≥ tracker.capacity
  · simp [h0, hr, Nat.not_lt.mpr hr]
  · have hlt : slot < maxSlots := by omega
    have hlt' : slot < tracker.capacity := by omega
    simp [h0, hr, hlt, hlt', Fin.ext_iff, eq_comm]

/-- A slot can be taken exactly when it is in range, not the null slot, and free. -/
theorem take_eq_ok {tracker tracker' : SlotTracker} {slot : Nat} {state : SlotState} {cell : Fin maxSlots} :
    tracker.take slot state = .ok (cell, tracker') ↔
      slot ≠ 0 ∧ slot < tracker.capacity ∧ cell.val = slot ∧ tracker.stateOf slot = .free ∧
      tracker' = tracker.setState cell state := by
  unfold take
  constructor
  · intro h
    match hm : tracker.stateMut slot with
    | .error e =>
        rw [hm] at h
        exact nomatch h
    | .ok c =>
        rw [hm] at h
        obtain ⟨h0, hlt, hc⟩ := stateMut_eq_ok.mp hm
        change (if tracker.states[c] ≠ .free then _ else _) = _ at h
        by_cases hfree : tracker.states[c] = .free
        · rw [if_neg (not_not_intro hfree)] at h
          injection h with h
          injection h with hcell htracker
          subst hcell
          exact ⟨h0, hlt, hc, by rw [← hc, stateOf_cell]; exact hfree, htracker.symm⟩
        · rw [if_pos hfree] at h
          exact nomatch h
  · rintro ⟨h0, hlt, hc, hfree, rfl⟩
    rw [stateMut_eq_ok.mpr ⟨h0, hlt, hc⟩]
    rw [← hc, stateOf_cell] at hfree
    change (if tracker.states[cell] ≠ .free then _ else _) = _
    rw [if_neg (not_not_intro hfree)]

/-- A slot without a cell can be taken neither way. -/
theorem refused_of_stateMut {tracker : SlotTracker} {slot : Nat} {e : SlotError}
    (h : tracker.stateMut slot = .error e) :
    tracker.markOccupied slot = .error e ∧ tracker.reserve slot = .error e := by
  have htake : ∀ state, tracker.take slot state = .error e := by
    intro state
    rw [take, h]
    rfl
  refine ⟨?_, ?_⟩
  · rw [markOccupied, htake]
    rfl
  · rw [reserve, htake]
    rfl

theorem markOccupied_eq_ok {tracker tracker' : SlotTracker} {slot : Nat} :
    tracker.markOccupied slot = .ok tracker' ↔
      ∃ cell : Fin maxSlots, slot ≠ 0 ∧ slot < tracker.capacity ∧ cell.val = slot ∧
        tracker.stateOf slot = .free ∧ tracker' = tracker.setState cell .occupied := by
  simp only [← take_eq_ok]
  unfold markOccupied
  cases tracker.take slot .occupied with
  | error e => simp [Except.map]
  | ok p =>
      obtain ⟨cell, t⟩ := p
      simp [Except.map]

theorem reserve_eq_ok {tracker tracker' : SlotTracker} {slot : Nat} {reservation : SlotReservation} :
    tracker.reserve slot = .ok (reservation, tracker') ↔
      slot ≠ 0 ∧ slot < tracker.capacity ∧ reservation.slot.val = slot ∧ tracker.stateOf slot = .free ∧
      tracker' = tracker.setState reservation.slot .reserved := by
  rw [← take_eq_ok]
  unfold reserve
  cases h : tracker.take slot .reserved with
  | error e => simp [Except.map]
  | ok p =>
      obtain ⟨cell, t⟩ := p
      obtain ⟨c⟩ := reservation
      simp [Except.map]

/-- A reservation whose cell is reserved is settled without error, in its own cell only. -/
theorem settle_of_reserved {tracker : SlotTracker} {reservation : SlotReservation}
    (h : tracker.stateOf reservation.slot = .reserved) (final : SlotState) :
    tracker.settle reservation final = .ok (tracker.setState reservation.slot final) := by
  rw [stateOf_cell] at h
  exact if_neg (not_not_intro h)

end SlotTracker
end Ricoq
