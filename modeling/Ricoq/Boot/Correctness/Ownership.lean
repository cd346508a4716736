import Ricoq.Boot.Correctness.Atomic
import Ricoq.Boot.RootTask

/-!
# `Boot.Correctness.Ownership` — which root slots belong to whom

Every operation moves the allocator forward or leaves it, keeps the slots ahead of it empty, and gives the
handle it returns slots between the old and the new next slot (`Advances`). So the handles own slots in the
order in which they were returned, each ending where the next begins or before.
-/

namespace Ricoq

open Sel4 Bootstrap

/-! ## What every operation keeps -/

/-- From `s` to `s'` the allocator moved forward within its range, over slots that were empty; what is behind
    it has not changed. -/
structure Advances (s s' : BootState) : Prop where
  first : s'.slots.first = s.slots.first
  stop : s'.slots.stop = s.slots.stop
  start_le : s.slots.start ≤ s'.slots.start
  le_stop : s'.slots.start = s.slots.start ∨ s'.slots.start ≤ s.slots.stop
  vacant : Vacant s → Vacant s'
  below : ∀ i, i < s.slots.start → s'.kernel.root i = s.kernel.root i

namespace Advances

variable {T : Nat → Prop} {s m s' : BootState}

theorem of_extends (hext : Extends T s s') : Advances s s' :=
  ⟨hext.first, hext.stop, hext.start_le, hext.le_stop, hext.vacant, fun i hi => hext.outside i (Or.inl hi)⟩

/-- A rollback that succeeded leaves the allocator as it was before the construction. -/
theorem of_rolledBack (hext : Extends T s m) (hback : RolledBack s m s') : Advances s s' where
  first := by rw [hback.slots]
  stop := by rw [hback.slots]
  start_le := Nat.le_of_eq (by rw [hback.slots])
  le_stop := by
    rw [hback.slots]
    exact Or.inl rfl
  vacant hv := by
    intro i hlo hhi
    rw [hback.slots] at hlo hhi
    rw [hback.root_eq hext hv]
    exact hv i hlo hhi
  below i hi := hback.outside i (Or.inl hi)

/-- A rollback that failed leaves it beyond the slots the construction filled. -/
theorem of_cleared (hext : Extends T s m) (hcleared : Cleared s.slots.start m.slots.start m s') :
    Advances s s' where
  first := by rw [hcleared.slots, hext.first]
  stop := by rw [hcleared.slots, hext.stop]
  start_le := by
    rw [hcleared.slots]
    exact hext.start_le
  le_stop := by
    rw [hcleared.slots]
    exact hext.le_stop
  vacant hv := by
    intro i hlo hhi
    rw [hcleared.slots] at hlo hhi
    rw [hcleared.outside i (Or.inr hlo)]
    exact hext.vacant hv i hlo hhi
  below i hi := (hcleared.outside i (Or.inl hi)).trans (hext.outside i (Or.inl hi))

end Advances

/-- An operation advances the allocator, and what it returns owns slots it passed over. -/
def Yields {α : Type} (x : Boot α) (s : BootState) (slots : α → BootState → Nat × Nat) : Prop :=
  Prog.Ensures x s (fun a s' => Advances s s' ∧ s.slots.start ≤ (slots a s').1 ∧
    (slots a s').2 ≤ s'.slots.start) fun _ s' => Advances s s'

theorem Settles.yields {h : Host} {T : Nat → Prop} {α β : Type} {construction : Boot α} {call : Boot β}
    {D : β → BootState → Prop} {s : BootState} {slots : β → BootState → Nat × Nat}
    (hs : Settles h T construction D s (call s))
    (hD : ∀ b s', D b s' → slots b s' = (s.slots.start, s'.slots.start)) : Yields call s slots := by
  generalize hcall : call s = r at hs
  cases hs with
  | done hrun hext hDb =>
      refine Prog.Ensures.ok hcall ⟨.of_extends hext, ?_⟩
      rw [hD _ _ hDb]
      exact ⟨Nat.le_refl _, Nat.le_refl _⟩
  | undone hrun hext hdeleted hback hkept => exact Prog.Ensures.err hcall (.of_rolledBack hext hback)
  | stuck hrun hext hfailed hcleared hkept => exact Prog.Ensures.err hcall (.of_cleared hext hcleared)

section Operations

variable (h : Host) (s : BootState)

theorem allocateBlueprint_yields (blueprint : ObjectBlueprint) :
    Yields (allocateBlueprint h blueprint) s fun slot _ => (slot, slot + 1) := by
  apply Prog.Ensures.conseq (allocateBlueprint_builds h (fun _ => False) blueprint s)
  · rintro slot s' ⟨hext, rfl, hcreated⟩
    exact ⟨.of_extends hext, Nat.le_refl _, Nat.le_of_eq hcreated.start.symm⟩
  · rintro e s' hext
    exact .of_extends hext

theorem allocateFrame_yields : Yields (allocateFrame h) s fun frame _ => (frame.cap, frame.cap + 1) := by
  rcases (allocateBlueprint_yields h s .granule).cases with ⟨slot, s', hrun, hy⟩ | ⟨e, s', hrun, hy⟩
  · exact Prog.Ensures.ok (Prog.run_bind_ok hrun) hy
  · exact Prog.Ensures.err (Prog.run_bind_err hrun) hy

/-- A reply pool is the range that was reserved, with no slot in use, or nothing has changed. -/
theorem allocateReplyPool_cases (capacity : Nat) :
    (∃ e, allocateReplyPool capacity s = (.err e, s)) ∨
    (∃ pool slots, allocateReplyPool capacity s = (.ok pool, { s with slots }) ∧
      s.slots.reserve capacity = some ((pool.start, pool.stop), slots) ∧ pool.occupied = 0 ∧ capacity ≠ 0) := by
  unfold allocateReplyPool
  by_cases hcap : capacity = 0 ∨ capacity > maxDeferredReplies
  · rw [dif_pos hcap]
    exact Or.inl ⟨_, rfl⟩
  · rw [dif_neg hcap]
    split
    · exact Or.inl ⟨_, rfl⟩
    · rename_i range slots hreserve
      exact Or.inr ⟨_, slots, rfl, hreserve, rfl, fun h0 => hcap (Or.inl h0)⟩

/-- A reply pool takes a whole range of slots, and leaves them empty. -/
theorem allocateReplyPool_yields (capacity : Nat) :
    Yields (allocateReplyPool capacity) s fun pool _ => (pool.start, pool.stop) := by
  rcases allocateReplyPool_cases s capacity with ⟨e, hrun⟩ | ⟨pool, slots, hrun, hreserve, -⟩
  · exact Prog.Ensures.err hrun (.of_extends (Extends.refl (fun _ => False) s))
  · obtain ⟨hfit, hrange, hfirst, hstart, hstop⟩ := FreeSlots.reserve_eq_some.mp hreserve
    obtain ⟨hlo, hhi⟩ := Prod.mk.inj hrange
    have hstart_le : s.slots.start ≤ slots.start := by omega
    refine Prog.Ensures.ok hrun ⟨⟨hfirst, hstop, hstart_le, ?_, ?_, fun _ _ => rfl⟩, Nat.le_of_eq hlo.symm, ?_⟩
    · show slots.start = s.slots.start ∨ slots.start ≤ s.slots.stop
      omega
    · intro hv i hi hi'
      -- the slots ahead of the range were ahead of the old next slot
      exact hv i (Nat.le_trans hstart_le hi) (hstop ▸ hi')
    · show pool.stop ≤ slots.start
      omega

end Operations

/-! ## Runs -/

namespace RootTask

theorem mem_tasks {w : RootTask} {x : HeldTask} : x ∈ w.tasks ↔ .task x ∈ w.handles := by
  unfold tasks
  rw [List.mem_filterMap]
  constructor
  · rintro ⟨handle, hmem, hheld⟩
    cases handle with
    | task held =>
        obtain rfl := Option.some.inj hheld
        exact hmem
    | _ => exact nomatch hheld
  · exact fun hmem => ⟨.task x, hmem, rfl⟩

variable (h : Host) {w w' : RootTask}

/-- The handles own slots in the order in which they were returned, and what lies ahead is empty. -/
structure Ordered (w : RootTask) : Prop where
  first : w.state.slots.first = h.bootinfo.empty.start
  stop : w.state.slots.stop = h.bootinfo.empty.stop
  start_le : w.state.slots.start ≤ w.state.slots.stop
  vacant : Vacant w.state
  within : ∀ x ∈ w.handles, w.state.slots.first ≤ x.slots.1 ∧ x.slots.2 ≤ w.state.slots.start
  ordered : w.handles.Pairwise fun x y => x.slots.2 ≤ y.slots.1

theorem Initial.ordered (hi : Initial h w) : Ordered h w := by
  have hnew := hi.slots
  unfold Bootstrap.new at hnew
  by_cases hempty : h.bootinfo.empty.stop - h.bootinfo.empty.start = 0
  · rw [if_pos hempty] at hnew
    exact nomatch hnew
  · rw [if_neg hempty] at hnew
    have hslots := (Except.ok.inj hnew).symm
    refine ⟨by rw [hslots]; rfl, by rw [hslots]; rfl, ?_, ?_, ?_, ?_⟩
    · rw [hslots]
      show h.bootinfo.empty.start ≤ h.bootinfo.empty.stop
      omega
    · intro i hlo hhi
      rw [hslots] at hlo hhi
      exact hi.empty i hlo hhi
    · intro x hx
      rw [hi.handles] at hx
      exact absurd hx List.not_mem_nil
    · rw [hi.handles]
      exact List.Pairwise.nil

/-- Failing or not, an operation that advances the allocator keeps the order. -/
theorem Ordered.advance {s : BootState} (hw : Ordered h w) (ha : Advances w.state s) :
    Ordered h { w with state := s } where
  first := ha.first.trans hw.first
  stop := ha.stop.trans hw.stop
  start_le := by
    have hle := ha.le_stop
    have hstop := ha.stop
    have hstart := hw.start_le
    show s.slots.start ≤ s.slots.stop
    omega
  vacant := ha.vacant hw.vacant
  within x hx := by
    obtain ⟨hlo, hhi⟩ := hw.within x hx
    exact ⟨Nat.le_trans (Nat.le_of_eq ha.first) hlo, Nat.le_trans hhi ha.start_le⟩
  ordered := hw.ordered

/-- A returned handle comes last. -/
theorem Ordered.perform {α : Type} {x : Boot α} {keep : α → BootState → Handle} (hw : Ordered h w)
    (hx : Yields x w.state fun a s => (keep a s).slots) (hs : w.perform x keep = some w') : Ordered h w' := by
  rcases perform_cases hx hs with ⟨a, s, -, ⟨ha, hlo, hhi⟩, rfl⟩ | ⟨e, s, -, ha, rfl⟩
  · have hadv := hw.advance h ha
    refine ⟨hadv.first, hadv.stop, hadv.start_le, hadv.vacant, ?_, ?_⟩
    · intro y hy
      rcases List.mem_append.mp hy with hold | hnew
      · exact hadv.within y hold
      · rw [List.mem_singleton.mp hnew]
        have hfirst := w.state.slots.first_le
        exact ⟨Nat.le_trans (Nat.le_of_eq ha.first) (Nat.le_trans hfirst hlo), hhi⟩
    · rw [List.pairwise_append]
      refine ⟨hw.ordered, List.pairwise_singleton _ _, ?_⟩
      intro y hy z hz
      rw [List.mem_singleton.mp hz]
      exact Nat.le_trans (hw.within y hy).2 hlo
  · exact hw.advance h ha

/-- One operation keeps the order. -/
theorem Ordered.step {op : RootOp} (hw : Ordered h w) (hs : step h w op = some w') : Ordered h w' := by
  unfold RootTask.step at hs
  cases op with
  | allocateFrame => exact hw.perform h (allocateFrame_yields h _) hs
  | allocateEndpoint => exact hw.perform h (allocateBlueprint_yields h _ .endpoint) hs
  | allocateNotification => exact hw.perform h (allocateBlueprint_yields h _ .notification) hs
  | allocateFaultEndpoint => exact hw.perform h (allocateBlueprint_yields h _ .endpoint) hs
  | allocateReplyPool capacity => exact hw.perform h (allocateReplyPool_yields _ capacity) hs
  | createTask config =>
      refine hw.perform h ((createTask_settles h (fun _ => False) config _).yields ?_) hs
      rintro task s ⟨-, code, width, hbuilt⟩
      exact hbuilt.rootSlots
  | mapRecoveryFrame task frame address =>
      refine hw.perform h ((mapRecoveryFrame_settles h task frame address _).yields ?_) hs
      rintro mapping s ⟨rfl, hstart, -⟩
      rw [hstart]
      rfl

/-- **Ownership of root slots.** In every state that can be reached, whatever the kernel refused on the way,
    the slots of the handles are disjoint, lie in the initial range and below the next slot, and every slot
    from there to the end of the range is empty and belongs to no handle. -/
theorem root_slots_owned (hr : Reachable (RootTask.step h) (Initial h) anyStep w) :
    (w.handles.Pairwise fun x y => ∀ slot, ¬ (x.Owns slot ∧ y.Owns slot)) ∧
    (∀ x ∈ w.handles, ∀ slot, x.Owns slot → h.bootinfo.empty.start ≤ slot ∧
      slot < h.bootinfo.empty.stop ∧ slot < w.state.slots.start) ∧
    (∀ slot, w.state.slots.start ≤ slot → slot < h.bootinfo.empty.stop →
      w.state.kernel.root slot = none ∧ ∀ x ∈ w.handles, ¬ x.Owns slot) := by
  have hw : Ordered h w := hr.invariant (fun _ hi => hi.ordered h) fun _ _ _ hw _ hs => hw.step h hs
  refine ⟨?_, ?_, ?_⟩
  · apply hw.ordered.imp
    rintro x y hxy slot ⟨⟨-, hx⟩, ⟨hy, -⟩⟩
    omega
  · rintro x hx slot ⟨hlo, hhi⟩
    obtain ⟨hfirst, hstart⟩ := hw.within x hx
    have hf := hw.first
    have hle := hw.start_le
    have hstop := hw.stop
    omega
  · intro slot hlo hhi
    refine ⟨hw.vacant slot hlo (hw.stop ▸ hhi), ?_⟩
    rintro x hx ⟨-, hslot⟩
    have hstart := (hw.within x hx).2
    omega

theorem sixteen_le_maxSlots : 16 ≤ maxSlots := by decide

/-- One operation of each kind; the recovery frame goes to the task just made. -/
def operations : List RootOp :=
  [.allocateFrame, .allocateEndpoint, .allocateNotification, .allocateFaultEndpoint, .allocateReplyPool 2,
    .createTask taskConfig,
    .mapRecoveryFrame
      { thread := ⟨119⟩
        cspace := ⟨106, 4, ⟨16, Vector.replicate _ .free, sixteen_le_maxSlots⟩⟩
        vspace := ⟨107⟩
        privateMemory := ⟨113⟩
        stack := ⟨115⟩
        ipcBuffer := ⟨117⟩
        rootSlots := (106, 120) } ⟨100⟩ 0x600000]

theorem root_slots_owned_run : ∃ w, operations.foldlM (step host) start = some w ∧
    w.handles.map Handle.slots =
      [(100, 101), (101, 102), (102, 103), (103, 104), (104, 106), (106, 120), (120, 121)] ∧
    w.handles.Pairwise fun x y => ∀ slot, ¬ (x.Owns slot ∧ y.Owns slot) := by
  have hslots : (operations.foldlM (step host) start).map (fun w => w.handles.map Handle.slots) =
      some [(100, 101), (101, 102), (102, 103), (103, 104), (104, 106), (106, 120), (120, 121)] := by
    decide +kernel
  obtain ⟨w, hrun, hw⟩ := Option.map_eq_some_iff.mp hslots
  exact ⟨w, hrun, hw, (root_slots_owned host ((Reachable.refl start_initial).foldlM _ hrun)).1⟩

end RootTask
end Ricoq
