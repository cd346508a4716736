import Mathlib.Data.Nat.Basic
import Ricoq.Lib.Issue
import Ricoq.Lib.Run
import Ricoq.Boot.FreeSlots

/-!
# `Boot.Correctness.FreeSlots` — the slot allocator over whole runs

An allocator is used through its six operations, in any order, with callbacks that may do anything to a state of
their own and may succeed or fail. A `Session` keeps, beside the allocator and that state, the record of what
the operations handed out and what was taken back.

Every operation leaves the allocator alone, or issues the next indices, or takes back everything from a cut on
(`step_cases`). So the outstanding indices are always the ones between the beginning of the range and the next
index (`Counted`), and conservation and uniqueness are read off that.
-/

namespace Ricoq
namespace FreeSlots

variable {ε σ α : Type}

instance (slots : FreeSlots) : Decidable slots.Available := Nat.decLt _ _

/-! ## Sessions -/

/-- A call on an allocator. -/
inductive Op (ε σ α : Type) where
  | tryAllocate (create : Nat → Prog ε σ α)
  | checkpoint
  | reserve (count : Nat)
  | allocatedSince (checkpoint : Nat)
  | rewind (checkpoint : Nat)

/-- An allocator in use: the state its callbacks work on, and the record of the indices it handed out. -/
structure Session (σ : Type) where
  slots : FreeSlots
  host : σ
  record : List (Entry Nat)

/-- The callback, returning also the index it was called with. -/
def tagged (create : Nat → Prog ε σ α) (index : Nat) : Prog ε σ (Nat × α) := do
  let value ← create index
  return (index, value)

/-- The callback, keeping a list of the indices it is called with. -/
def traced (create : Nat → Prog ε σ α) (index : Nat) : Prog ε (List Nat × σ) α := fun s =>
  ((create index s.2).1, index :: s.1, (create index s.2).2)

namespace Session

/-- A new allocator. -/
def Begins (initial : SlotRange) (w : Session σ) : Prop := w.slots = FreeSlots.new initial ∧ w.record = []

/-- One operation. A callback that aborts ends the run. -/
def step (w : Session σ) : Op ε σ α → Option (Session σ)
  | .tryAllocate create =>
      match w.slots.tryAllocate (tagged create) w.host with
      | (.ok (some (index, _), slots), host) => some ⟨slots, host, .issued [index] :: w.record⟩
      | (.ok (none, slots), host)            => some { w with slots, host }
      | (.err _, host)                       => some { w with host }
      | (.panic, _)                          => none
  | .checkpoint => some w
  | .reserve count =>
      match w.slots.reserve count with
      | some (range, slots) =>
          some { w with slots, record := .issued (List.range' range.1 (range.2 - range.1)) :: w.record }
      | none => some w
  | .allocatedSince _ => some w
  | .rewind checkpoint =>
      match w.slots.rewind checkpoint with
      | (true, slots)  => some { w with slots, record := .revoked checkpoint :: w.record }
      | (false, slots) => some { w with slots }

/-- The next index and the record move on; the range stays. -/
structure Moved (w w' : Session σ) (next : Nat) (entry : Entry Nat) : Prop where
  first : w'.slots.first = w.slots.first
  stop : w'.slots.stop = w.slots.stop
  start : w'.slots.start = next
  record : w'.record = entry :: w.record

/-- With an index, the session goes on as the callback says. -/
theorem step_of_available {w : Session σ} (hav : w.slots.Available) (create : Nat → Prog ε σ α) :
    w.step (.tryAllocate create) =
      match create w.slots.start w.host with
      | (.ok _, host)  => some ⟨w.slots.next hav, host, .issued [w.slots.start] :: w.record⟩
      | (.err _, host) => some { w with host }
      | (.panic, _)    => none := by
  rw [step, tryAllocate_of_available hav]
  match hrun : create w.slots.start w.host with
  | (.ok value, host) =>
      have htagged : tagged create w.slots.start w.host = (.ok (w.slots.start, value), host) :=
        Prog.run_bind_ok hrun
      rw [Prog.run_bind_ok htagged]
      rfl
  | (.err e, host) =>
      have htagged : tagged create w.slots.start w.host = (.err e, host) := Prog.run_bind_err hrun
      rw [Prog.run_bind_err htagged]
  | (.panic, host) =>
      have htagged : tagged create w.slots.start w.host = (.panic, host) := Prog.run_bind_panic hrun
      rw [Prog.run_bind_panic htagged]

/-- Without one, nothing happens. -/
theorem step_of_empty {w : Session σ} (hav : ¬ w.slots.Available) (create : Nat → Prog ε σ α) :
    w.step (.tryAllocate create) = some w := by
  rw [step, tryAllocate_of_empty hav]
  rfl

/-- What an operation can do. -/
theorem step_cases {w w' : Session σ} {op : Op ε σ α} (h : w.step op = some w') :
    (w'.slots = w.slots ∧ w'.record = w.record) ∨
    (∃ n, w.slots.start + n ≤ w.slots.stop ∧
      Moved w w' (w.slots.start + n) (.issued (List.range' w.slots.start n))) ∨
    (∃ c, op = .rewind c ∧ w.slots.first ≤ c ∧ c ≤ w.slots.start ∧ Moved w w' c (.revoked c)) := by
  cases op with
  | tryAllocate create =>
      by_cases hav : w.slots.Available
      · rw [step_of_available hav] at h
        match hrun : create w.slots.start w.host with
        | (.ok value, host) =>
            rw [hrun] at h
            obtain rfl := Option.some.inj h
            exact Or.inr (Or.inl ⟨1, hav, rfl, rfl, rfl, rfl⟩)
        | (.err e, host) =>
            rw [hrun] at h
            obtain rfl := Option.some.inj h
            exact Or.inl ⟨rfl, rfl⟩
        | (.panic, host) =>
            rw [hrun] at h
            exact nomatch h
      · rw [step_of_empty hav] at h
        obtain rfl := Option.some.inj h
        exact Or.inl ⟨rfl, rfl⟩
  | checkpoint =>
      obtain rfl := Option.some.inj h
      exact Or.inl ⟨rfl, rfl⟩
  | reserve count =>
      rw [step] at h
      match hr : w.slots.reserve count with
      | some (range, slots) =>
          rw [hr] at h
          obtain rfl := Option.some.inj h
          obtain ⟨hfit, rfl, hfirst, hstart, hstop⟩ := reserve_eq_some.mp hr
          refine Or.inr (Or.inl ⟨count, hfit, hfirst, hstop, hstart, ?_⟩)
          simp
      | none =>
          rw [hr] at h
          obtain rfl := Option.some.inj h
          exact Or.inl ⟨rfl, rfl⟩
  | allocatedSince c =>
      obtain rfl := Option.some.inj h
      exact Or.inl ⟨rfl, rfl⟩
  | rewind c =>
      rw [step] at h
      by_cases hc : w.slots.first ≤ c ∧ c ≤ w.slots.start
      · rw [rewind_of_le hc.1 hc.2] at h
        obtain rfl := Option.some.inj h
        exact Or.inr (Or.inr ⟨c, rfl, hc.1, hc.2, rfl, rfl, rfl, rfl⟩)
      · rw [rewind, dif_neg hc] at h
        obtain rfl := Option.some.inj h
        exact Or.inl ⟨rfl, rfl⟩

/-! ## The invariant -/

/-- The outstanding indices are those from the beginning of the range up to the next one. -/
structure Counted (initial : SlotRange) (w : Session σ) : Prop where
  first : w.slots.first = initial.start
  stop : w.slots.stop = initial.stop
  start : w.slots.start = initial.start ∨ w.slots.start ≤ initial.stop
  issued : outstanding w.record = List.range' initial.start (w.slots.start - initial.start)
  fresh : Fresh w.record
  inside : ∀ values, .issued values ∈ w.record → ∀ x ∈ values, initial.start ≤ x ∧ x < initial.stop

variable {initial : SlotRange} {w w' : Session σ}

theorem counted_begins (h : Begins initial w) : Counted initial w := by
  obtain ⟨hslots, hrecord⟩ := h
  have hstart : w.slots.start = initial.start := by
    rw [hslots]
    rfl
  refine ⟨by rw [hslots]; rfl, by rw [hslots]; rfl, Or.inl hstart, ?_, ?_, ?_⟩
  · rw [hrecord, hstart, Nat.sub_self]
    rfl
  · rw [hrecord]
    exact trivial
  · rw [hrecord]
    nofun

/-- An initial part of a range of indices. -/
theorem filter_range' {start count cut : Nat} (hlo : start ≤ cut) (hhi : cut ≤ start + count) :
    (List.range' start count).filter (· < cut) = List.range' start (cut - start) := by
  have hsplit : List.range' start count =
      List.range' start (cut - start) ++ List.range' cut (start + count - cut) := by
    have happend := List.range'_append_1 (s := start) (m := cut - start) (n := start + count - cut)
    rw [Nat.add_sub_cancel' hlo] at happend
    rw [happend]
    congr 1
    omega
  rw [hsplit, List.filter_append, List.filter_eq_self.mpr, List.filter_eq_nil_iff.mpr, List.append_nil]
  · intro x hx
    simp only [List.mem_range'_1] at hx
    simp only [decide_eq_true_eq]
    omega
  · intro x hx
    simp only [List.mem_range'_1] at hx
    simp only [decide_eq_true_eq]
    omega

/-- Neither the allocator nor the record changes. -/
theorem Counted.of_eq (hw : Counted initial w) (hslots : w'.slots = w.slots) (hrecord : w'.record = w.record) :
    Counted initial w' where
  first := by rw [hslots, hw.first]
  stop := by rw [hslots, hw.stop]
  start := by
    rw [hslots]
    exact hw.start
  issued := by rw [hrecord, hslots, hw.issued]
  fresh := by
    rw [hrecord]
    exact hw.fresh
  inside := by
    rw [hrecord]
    exact hw.inside

/-- Issuing the next indices. -/
theorem Counted.advance {n : Nat} (hw : Counted initial w) (hfit : w.slots.start + n ≤ w.slots.stop)
    (h : Moved w w' (w.slots.start + n) (.issued (List.range' w.slots.start n))) : Counted initial w' := by
  have hlo : initial.start ≤ w.slots.start := by
    rw [← hw.first]
    exact w.slots.first_le
  have hstop := hw.stop
  refine ⟨h.first.trans hw.first, h.stop.trans hw.stop, ?_, ?_, ?_, ?_⟩
  · rw [h.start]
    omega
  · rw [h.record, h.start]
    show outstanding w.record ++ _ = _
    have happend := List.range'_append_1 (s := initial.start) (m := w.slots.start - initial.start) (n := n)
    rw [Nat.add_sub_cancel' hlo] at happend
    rw [hw.issued, happend]
    congr 1
    omega
  · rw [h.record]
    refine ⟨List.nodup_range' .., ?_, hw.fresh⟩
    intro x hx hold
    rw [hw.issued] at hold
    simp only [List.mem_range'_1] at hx hold
    omega
  · rw [h.record]
    intro values hvalues x hx
    rcases List.mem_cons.mp hvalues with hnew | hold
    · obtain rfl := Entry.issued.inj hnew
      simp only [List.mem_range'_1] at hx
      omega
    · exact hw.inside values hold x hx

/-- Taking back everything from a cut on. -/
theorem Counted.retract {c : Nat} (hw : Counted initial w) (hlo : w.slots.first ≤ c) (hhi : c ≤ w.slots.start)
    (h : Moved w w' c (.revoked c)) : Counted initial w' := by
  have hfirst := hw.first
  refine ⟨h.first.trans hw.first, h.stop.trans hw.stop, ?_, ?_, ?_, ?_⟩
  · have hstart := hw.start
    rw [h.start]
    omega
  · rw [h.record, h.start]
    show (outstanding w.record).filter (· < c) = _
    rw [hw.issued]
    exact filter_range' (by omega) (by omega)
  · rw [h.record]
    exact hw.fresh
  · rw [h.record]
    intro values hvalues x hx
    rcases List.mem_cons.mp hvalues with hnew | hold
    · exact nomatch hnew
    · exact hw.inside values hold x hx

theorem counted_step {op : Op ε σ α} (hw : Counted initial w) (h : w.step op = some w') :
    Counted initial w' := by
  rcases step_cases h with ⟨hslots, hrecord⟩ | ⟨n, hfit, hmoved⟩ | ⟨c, -, hlo, hhi, hmoved⟩
  · exact hw.of_eq hslots hrecord
  · exact hw.advance hfit hmoved
  · exact hw.retract hlo hhi hmoved

theorem counted_reachable (h : Reachable (step (ε := ε) (α := α)) (Begins initial) anyStep w) :
    Counted initial w :=
  Reachable.invariant (fun _ => counted_begins) (fun _ _ _ hw _ hs => counted_step hw hs) h

/-- The number of indices that are outstanding and of those still available. -/
theorem Counted.conserved (hw : Counted initial w) :
    (outstanding w.record).length + (w.slots.stop - w.slots.start) = initial.stop - initial.start := by
  have hlo : initial.start ≤ w.slots.start := by
    rw [← hw.first]
    exact w.slots.first_le
  have hstart := hw.start
  rw [hw.issued, List.length_range', hw.stop]
  omega

/-! ## The operations in a session -/

/-- The operation takes nothing back from below the checkpoint. -/
def NotBelow (checkpoint : Nat) (w : Session σ) (op : Op ε σ α) : Prop :=
  ∀ c, op = .rewind c → (w.slots.rewind c).1 = true → checkpoint ≤ c

/-- While nothing below a checkpoint is taken back, the checkpoint stays valid. -/
theorem checkpoint_kept
    (h : Reachable (step (ε := ε) (α := α)) (· = w) (NotBelow w.slots.checkpoint) w') :
    w'.slots.first = w.slots.first ∧ w'.slots.stop = w.slots.stop ∧ w.slots.start ≤ w'.slots.start := by
  refine Reachable.invariant (I := fun w' => w'.slots.first = w.slots.first ∧
    w'.slots.stop = w.slots.stop ∧ w.slots.start ≤ w'.slots.start) ?_ ?_ h
  · rintro w₁ rfl
    exact ⟨rfl, rfl, Nat.le_refl _⟩
  · rintro w₁ op w₂ ⟨hfirst, hstop, hle⟩ hC hs
    rcases step_cases hs with ⟨hslots, -⟩ | ⟨n, -, hmoved⟩ | ⟨c, hop, hlo, hhi, hmoved⟩
    · rw [hslots]
      exact ⟨hfirst, hstop, hle⟩
    · rw [hmoved.first, hmoved.stop, hmoved.start]
      exact ⟨hfirst, hstop, Nat.le_add_right_of_le hle⟩
    · have hc : w.slots.checkpoint ≤ c := hC c hop (by rw [rewind_of_le hlo hhi])
      rw [hmoved.first, hmoved.stop, hmoved.start]
      exact ⟨hfirst, hstop, hc⟩

/-- Going back to the checkpoint then restores the allocator as it was. -/
theorem rewind_restores
    (h : Reachable (step (ε := ε) (α := α)) (· = w) (NotBelow w.slots.checkpoint) w') :
    w'.slots.rewind w.slots.checkpoint = (true, w.slots) := by
  obtain ⟨hfirst, hstop, hle⟩ := checkpoint_kept h
  have hlo : w'.slots.first ≤ w.slots.checkpoint := by
    rw [hfirst]
    exact w.slots.first_le
  rw [rewind_of_le hlo hle]
  exact Prod.ext rfl (FreeSlots.ext hfirst rfl hstop)

/-- The callback runs, on the next index, if and only if there is one. -/
theorem tryAllocate_traced (slots : FreeSlots) (create : Nat → Prog ε σ α) (calls : List Nat) (host : σ) :
    (slots.tryAllocate (traced create) (calls, host)).2.1 =
      if slots.Available then slots.start :: calls else calls := by
  by_cases hav : slots.Available
  · rw [tryAllocate_of_available hav, if_pos hav, Prog.run_bind]
    rcases hrun : create slots.start host with ⟨outcome, host'⟩
    have htraced : traced create slots.start (calls, host) = (outcome, slots.start :: calls, host') := by
      rw [traced, hrun]
    rw [htraced]
    cases outcome with
    | ok value => rfl
    | err e => rfl
    | panic => rfl
  · rw [tryAllocate_of_empty hav, if_neg hav]
    rfl

theorem reserve_isSome (slots : FreeSlots) {count : Nat} (hcount : 0 < count) :
    (slots.reserve count).isSome ↔ count ≤ slots.stop - slots.start := by
  constructor
  · intro h
    obtain ⟨⟨range, slots'⟩, hr⟩ := Option.isSome_iff_exists.mp h
    have hfit := (reserve_eq_some.mp hr).1
    omega
  · intro hcount'
    have hfit : slots.start + count ≤ slots.stop := by omega
    have hend : slots.start + count ≤ wordMax := Nat.le_trans hfit slots.stop_le
    have hr : slots.reserve count = some ((slots.start, slots.start + count),
        slots.withStart (slots.start + count) (Nat.le_add_right_of_le slots.first_le) hend) :=
      reserve_eq_some.mpr ⟨hfit, rfl, rfl, rfl, rfl⟩
    rw [hr]
    rfl

/-- A callback that does not succeed, or is not run, leaves the allocator as it was. -/
theorem tryAllocate_fails {create : Nat → Prog ε σ α} (hs : w.step (.tryAllocate create) = some w')
    (hfail : ∀ value slots, (w.slots.tryAllocate create w.host).1 ≠ .ok (some value, slots)) :
    w'.slots = w.slots ∧ w'.record = w.record := by
  by_cases hav : w.slots.Available
  · rw [step_of_available hav] at hs
    rw [tryAllocate_of_available hav] at hfail
    match hrun : create w.slots.start w.host with
    | (.ok value, host) =>
        rw [Prog.run_bind_ok hrun] at hfail
        exact absurd rfl (hfail value (w.slots.next hav))
    | (.err e, host) =>
        rw [hrun] at hs
        obtain rfl := Option.some.inj hs
        exact ⟨rfl, rfl⟩
    | (.panic, host) =>
        rw [hrun] at hs
        exact nomatch hs
  · rw [step_of_empty hav] at hs
    obtain rfl := Option.some.inj hs
    exact ⟨rfl, rfl⟩

/-! ## Conservation and uniqueness -/

/-- What the record says of an allocator that began with this range. -/
structure Accounted (initial : SlotRange) (w : Session σ) : Prop where
  first : w.slots.first = initial.start
  stop : w.slots.stop = initial.stop
  inside : ∀ values, .issued values ∈ w.record → ∀ x ∈ values, initial.start ≤ x ∧ x < initial.stop
  distinct : ∀ values, .issued values ∈ w.record → values.Nodup
  once : ∀ after second between first before x,
    w.record = after ++ .issued second :: (between ++ .issued first :: before) → x ∈ first → x ∈ second →
    ∃ cut, .revoked cut ∈ between ∧ cut ≤ x
  unique : (outstanding w.record).Nodup
  conserved : (outstanding w.record).length + (w.slots.stop - w.slots.start) = initial.stop - initial.start

/-- What the operations do from here. -/
structure Behaves (ε α : Type) (w : Session σ) : Prop where
  runs : ∀ (create : Nat → Prog ε σ α) (calls : List Nat) (host : σ),
    (w.slots.tryAllocate (traced create) (calls, host)).2.1 =
      if w.slots.Available then w.slots.start :: calls else calls
  tryAllocate_fails : ∀ (create : Nat → Prog ε σ α) w', w.step (.tryAllocate create) = some w' →
    (∀ value slots, (w.slots.tryAllocate create w.host).1 ≠ .ok (some value, slots)) →
    w'.slots = w.slots ∧ w'.record = w.record
  reserve_iff : ∀ count, 0 < count →
    ((w.slots.reserve count).isSome ↔ count ≤ w.slots.stop - w.slots.start)
  reserve_fails : ∀ count, w.slots.reserve count = none →
    w.step (.reserve count : Op ε σ α) = some w
  restores : ∀ w', Reachable (step (ε := ε) (α := α)) (· = w) (NotBelow w.slots.checkpoint) w' →
    w'.slots.rewind w.slots.checkpoint = (true, w.slots)
  rejects : ∀ c, c < w.slots.first ∨ w.slots.start < c → w.slots.rewind c = (false, w.slots)

end Session
end FreeSlots
end Ricoq
