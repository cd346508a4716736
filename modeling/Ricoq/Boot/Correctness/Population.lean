import Ricoq.Boot.Correctness.Task
import Ricoq.Boot.RootTask

/-!
# `Boot.Correctness.Population` — the slot tracker of a new CSpace

`validate` compares destinations pairwise; the installation loop looks each one up in the slot tracker after
its mint. The two agree: as long as the CNode fits a tracker, `markOccupied` never fails for delegations that
passed the check, so that only a mint that fails can stop the loop.

`Tracks` is the invariant of the loop: the occupied slots are the destinations installed so far. `Minted` is a
sequence of mints that all return.
-/

namespace Ricoq

open Sel4 Bootstrap

/-! ## Mints -/

/-- The mint that installs a delegation into the CNode behind `root`. -/
def DelegatedCapability.mintInto (c : DelegatedCapability) (root sizeBits : Nat) : Invocation :=
  .mint root c.destination sizeBits c.source c.rights c.badge

/-- The invocation mints into this slot of the CNode behind `root`. -/
def Sel4.Invocation.mintsAt (root slot : Nat) : Invocation → Bool
  | .mint cnode index _ _ _ _ => cnode == root && index == slot
  | _ => false

/-- The delegations are minted in order, and every mint returns. -/
inductive Minted (m : Machine) (root sizeBits : Nat) : ObjectStore → List DelegatedCapability → ObjectStore → Prop
  | nil {k} : Minted m root sizeBits k [] k
  | cons {k k₁ k' c cs} (hmint : invoke m (c.mintInto root sizeBits) k = (.ok (), k₁))
      (hrest : Minted m root sizeBits k₁ cs k') : Minted m root sizeBits k (c :: cs) k'

/-- A mint fails after those before it have returned. -/
def MintFails (m : Machine) (root sizeBits : Nat) (k : ObjectStore) (cs : List DelegatedCapability)
    (k' : ObjectStore) : Prop :=
  ∃ done c rest k₁ e, cs = done ++ c :: rest ∧ Minted m root sizeBits k done k₁ ∧
    invoke m (c.mintInto root sizeBits) k₁ = (.err e, k')

section Mints

variable {m : Machine} {root sizeBits : Nat} {k k₁ k' : ObjectStore} {c : DelegatedCapability}
  {cs : List DelegatedCapability}

/-- Each mint is on record, in order. -/
theorem Minted.log (h : Minted m root sizeBits k cs k') :
    k'.log = (cs.map (·.mintInto root sizeBits)).reverse ++ k.log := by
  induction h with
  | nil => rfl
  | cons hmint _ ih =>
      obtain ⟨k₂, -, rfl⟩ := invoke_ok hmint
      rw [ih, List.map_cons, List.reverse_cons, List.append_assoc]
      rfl

theorem MintFails.cons (hmint : invoke m (c.mintInto root sizeBits) k = (.ok (), k₁))
    (h : MintFails m root sizeBits k₁ cs k') : MintFails m root sizeBits k (c :: cs) k' := by
  obtain ⟨done, c', rest, k₂, e, rfl, hdone, hfail⟩ := h
  exact ⟨c :: done, c', rest, k₂, e, rfl, .cons hmint hdone, hfail⟩

/-- The kernel answers in one way only. -/
theorem Minted.unique (h : Minted m root sizeBits k cs k') {k'' : ObjectStore}
    (h' : Minted m root sizeBits k cs k'') : k' = k'' := by
  induction h with
  | nil =>
      cases h'
      rfl
  | cons hmint _ ih =>
      cases h' with
      | cons hmint' hrest =>
          obtain ⟨-, rfl⟩ := Prod.mk.inj (hmint.symm.trans hmint')
          exact ih hrest

/-- The mints cannot all return and one of them fail. -/
theorem Minted.not_fails (h : Minted m root sizeBits k cs k') {k'' : ObjectStore} :
    ¬ MintFails m root sizeBits k cs k'' := by
  rintro ⟨done, c, rest, k₁, e, hsplit, hdone, hfail⟩
  induction hdone generalizing cs with
  | nil =>
      obtain rfl : cs = c :: rest := hsplit
      cases h with
      | cons hmint _ => exact nomatch (Prod.mk.inj (hmint.symm.trans hfail)).1
  | @cons _ _ _ c₀ cs₀ hmint _ ih =>
      obtain rfl : cs = c₀ :: (cs₀ ++ c :: rest) := hsplit
      cases h with
      | cons hmint' hrest =>
          obtain ⟨-, rfl⟩ := Prod.mk.inj (hmint.symm.trans hmint')
          exact ih hrest rfl hfail

/-- Delegations with distinct destinations are minted once each, and nothing else is. -/
theorem countP_mintsAt (hnodup : (cs.map (·.destination)).Nodup) (slot : Nat) :
    (cs.map (·.mintInto root sizeBits)).reverse.countP (Invocation.mintsAt root slot) =
      if slot ∈ cs.map (·.destination) then 1 else 0 := by
  have hmints : Invocation.mintsAt root slot ∘ (·.mintInto root sizeBits) =
      (· == slot) ∘ DelegatedCapability.destination := by
    funext c
    show (root == root && c.destination == slot) = (c.destination == slot)
    rw [beq_self_eq_true, Bool.true_and]
  rw [List.countP_reverse, List.countP_map, hmints, ← List.countP_map]
  exact hnodup.count

end Mints

/-! ## Trackers -/

/-- The tracker has a slot for each index of the CNode, and the occupied ones are those in the list. -/
structure Tracks (tracker : SlotTracker) (sizeBits : Nat) (occupied : List Nat) : Prop where
  capacity : tracker.capacity = 2 ^ sizeBits
  stateOf : ∀ i, tracker.stateOf i = if i ∈ occupied then .occupied else .free

theorem tryNew_tracks {sizeBits : Nat} (hfits : 2 ^ sizeBits ≤ maxSlots) :
    ∃ tracker, SlotTracker.tryNew (2 ^ sizeBits) = .ok tracker ∧ Tracks tracker sizeBits [] := by
  obtain ⟨tracker, hnew⟩ := SlotTracker.tryNew_of_le hfits
  obtain ⟨hcapacity, hfree⟩ := SlotTracker.tryNew_eq_ok hnew
  refine ⟨tracker, hnew, hcapacity, ?_⟩
  intro i
  simp [hfree]

theorem tryNew_of_lt {capacity : Nat} (h : maxSlots < capacity) :
    SlotTracker.tryNew capacity = .error .capacityTooLarge := dif_pos h

/-- A slot in range that is not occupied yet can be marked. -/
theorem Tracks.markOccupied {tracker : SlotTracker} {sizeBits : Nat} {occupied : List Nat}
    (ht : Tracks tracker sizeBits occupied) {slot : Nat} (hne : slot ≠ 0) (hlt : slot < 2 ^ sizeBits)
    (hnew : slot ∉ occupied) :
    ∃ tracker', tracker.markOccupied slot = .ok tracker' ∧ Tracks tracker' sizeBits (occupied ++ [slot]) := by
  have hlt' : slot < tracker.capacity := ht.capacity ▸ hlt
  have hcell : slot < maxSlots := Nat.lt_of_lt_of_le hlt' tracker.capacity_le
  have hfree : tracker.stateOf slot = .free := by rw [ht.stateOf, if_neg hnew]
  refine ⟨tracker.setState ⟨slot, hcell⟩ .occupied,
    SlotTracker.markOccupied_eq_ok.mpr ⟨⟨slot, hcell⟩, hne, hlt', rfl, hfree, rfl⟩, ht.capacity, ?_⟩
  intro i
  rw [SlotTracker.stateOf_setState]
  by_cases hi : i = slot
  · simp [hi]
  · rw [if_neg hi, ht.stateOf]
    simp [hi]

/-- A receive slot is granted exactly for the free slots of the CNode other than the null slot. -/
theorem Tracks.receiveSlot_iff {cspace : CSpace} {occupied : List Nat}
    (ht : Tracks cspace.slots cspace.sizeBits occupied) {s : IpcState}
    (hs : s.cspaces cspace.root = ⟨cspace.sizeBits, cspace.slots⟩) (i : Nat) :
    (∃ slot s', receiveSlot cspace.root i s = (.ok slot, s')) ↔
      0 < i ∧ i < 2 ^ cspace.sizeBits ∧ i ∉ occupied := by
  have hfree : cspace.slots.stateOf i = .free ↔ i ∉ occupied := by
    rw [ht.stateOf]
    by_cases hi : i ∈ occupied
    · simp [hi]
    · simp [hi]
  unfold receiveSlot
  rw [hs]
  constructor
  · rintro ⟨slot, s', hok⟩
    cases hr : cspace.slots.reserve i with
    | error e =>
        rw [hr] at hok
        exact nomatch (Prod.mk.inj hok).1
    | ok p =>
        obtain ⟨h0, hlt, -, hstate, -⟩ := SlotTracker.reserve_eq_ok.mp hr
        exact ⟨Nat.pos_of_ne_zero h0, ht.capacity ▸ hlt, hfree.mp hstate⟩
  · rintro ⟨hpos, hlt, hnew⟩
    have hlt' : i < cspace.slots.capacity := ht.capacity ▸ hlt
    have hcell : i < maxSlots := Nat.lt_of_lt_of_le hlt' cspace.slots.capacity_le
    have hr : cspace.slots.reserve i = .ok (⟨⟨i, hcell⟩⟩, cspace.slots.setState ⟨i, hcell⟩ .reserved) :=
      SlotTracker.reserve_eq_ok.mpr ⟨Nat.ne_of_gt hpos, hlt', rfl, hfree.mpr hnew, rfl⟩
    rw [hr]
    exact ⟨_, _, rfl⟩

/-! ## Installation -/

variable (h : Host)

namespace CSpace

/-- Installing one more delegation fails only if its mint does. -/
theorem install_cases {cspace : CSpace} {occupied : List Nat} (s : BootState)
    (ht : Tracks cspace.slots cspace.sizeBits occupied) {c : DelegatedCapability}
    (hc : Placeable (2 ^ cspace.sizeBits) c) (hnew : c.destination ∉ occupied) :
    (∃ k tracker, invoke h.machine (c.mintInto cspace.root cspace.sizeBits) s.kernel = (.ok (), k) ∧
      install h cspace c s = (.ok { cspace with slots := tracker }, { s with kernel := k }) ∧
      Tracks tracker cspace.sizeBits (occupied ++ [c.destination])) ∨
    (∃ k e, invoke h.machine (c.mintInto cspace.root cspace.sizeBits) s.kernel = (.err e, k) ∧
      install h cspace c s = (.err .cspaceCreationFailed, { s with kernel := k })) := by
  unfold install
  match hmint : invoke h.machine (c.mintInto cspace.root cspace.sizeBits) s.kernel with
  | (.ok (), k) =>
      obtain ⟨tracker, hmark, htracks⟩ := ht.markOccupied hc.destination_ne hc.destination_lt hnew
      refine Or.inl ⟨k, tracker, rfl, ?_, htracks⟩
      have hop : kernelOp (invoke h.machine (c.mintInto cspace.root cspace.sizeBits)) .cspaceCreationFailed s =
          (.ok (), { s with kernel := k }) := by
        rw [kernelOp, hmint]
      refine (Prog.run_bind_ok hop).trans ?_
      rw [hmark]
      rfl
  | (.err e, k) =>
      refine Or.inr ⟨k, e, rfl, ?_⟩
      have hop : kernelOp (invoke h.machine (c.mintInto cspace.root cspace.sizeBits)) .cspaceCreationFailed s =
          (.err .cspaceCreationFailed, { s with kernel := k }) := by
        rw [kernelOp, hmint]
      exact Prog.run_bind_err hop
  | (.panic, k) => exact absurd (congrArg Prod.fst hmint) invoke_ne_panic

/-- **The installation loop.** `occupied` are the destinations before it. -/
theorem foldlM_install_cases {cspace : CSpace} {prior cs : List DelegatedCapability} (s : BootState)
    (ht : Tracks cspace.slots cspace.sizeBits (prior.map (·.destination)))
    (hcs : ∀ c ∈ cs, Placeable (2 ^ cspace.sizeBits) c)
    (hnodup : ((prior ++ cs).map (·.destination)).Nodup) :
    (∃ k tracker, Minted h.machine cspace.root cspace.sizeBits s.kernel cs k ∧
      cs.foldlM (install h) cspace s = (.ok { cspace with slots := tracker }, { s with kernel := k }) ∧
      Tracks tracker cspace.sizeBits ((prior ++ cs).map (·.destination))) ∨
    (∃ k, MintFails h.machine cspace.root cspace.sizeBits s.kernel cs k ∧
      cs.foldlM (install h) cspace s = (.err .cspaceCreationFailed, { s with kernel := k })) := by
  induction cs generalizing cspace prior s with
  | nil =>
      rw [List.append_nil]
      exact Or.inl ⟨s.kernel, cspace.slots, .nil, rfl, ht⟩
  | cons c cs ih =>
      have hsplit : prior ++ c :: cs = (prior ++ [c]) ++ cs := (List.append_assoc prior [c] cs).symm
      rw [hsplit] at hnodup ⊢
      have hprior : ((prior ++ [c]).map (·.destination)).Nodup := by
        rw [List.map_append] at hnodup
        exact (List.nodup_append.mp hnodup).1
      have hnew : c.destination ∉ prior.map (·.destination) := by
        intro hmem
        obtain ⟨c', hc', heq⟩ := List.mem_map.mp hmem
        exact (nodup_append_singleton.mp hprior).2 c' hc' heq
      rw [List.foldlM_cons]
      rcases install_cases h s ht (hcs c (List.mem_cons_self ..)) hnew with
        ⟨k, tracker, hmint, hrun, htracks⟩ | ⟨k, e, hmint, hrun⟩
      · have htracks' : Tracks tracker cspace.sizeBits ((prior ++ [c]).map (·.destination)) := by
          rw [List.map_append]
          exact htracks
        rw [Prog.run_bind_ok hrun]
        have hcs' : ∀ c' ∈ cs, Placeable (2 ^ ({ cspace with slots := tracker } : CSpace).sizeBits) c' :=
          fun c' hc' => hcs c' (List.mem_cons_of_mem _ hc')
        rcases ih { s with kernel := k } htracks' hcs' hnodup with
          ⟨k', tracker', hminted, hrest, hall⟩ | ⟨k', hfails, hrest⟩
        · exact Or.inl ⟨k', tracker', .cons hmint hminted, hrest, hall⟩
        · exact Or.inr ⟨k', hfails.cons hmint, hrest⟩
      · rw [Prog.run_bind_err hrun]
        exact Or.inr ⟨k, ⟨[], c, cs, s.kernel, e, rfl, .nil, hmint⟩, rfl⟩

/-- **Creation** of a CSpace whose delegations have passed the check: the CNode cannot be allocated, it does
    not fit a tracker, or its delegations are minted as far as the kernel goes along. -/
theorem create_cases {sizeBits : Nat} {capabilities : List DelegatedCapability}
    {faultRoute : Option FaultRoute} (hvalid : validate sizeBits capabilities faultRoute = .ok ())
    (s : BootState) :
    (∃ e s₁, allocateBlueprint h (.cnode sizeBits) s = (.err e, s₁) ∧
      create h sizeBits capabilities faultRoute s = (.err e, s₁)) ∨
    (∃ root s₁, allocateBlueprint h (.cnode sizeBits) s = (.ok root, s₁) ∧
      ((maxSlots < 2 ^ sizeBits ∧
        create h sizeBits capabilities faultRoute s = (.err .invalidTaskConfiguration, s₁)) ∨
      (2 ^ sizeBits ≤ maxSlots ∧ ∃ k tracker,
        Minted h.machine root sizeBits s₁.kernel (delegations capabilities faultRoute) k ∧
        create h sizeBits capabilities faultRoute s =
          (.ok ⟨root, sizeBits, tracker⟩, { s₁ with kernel := k }) ∧
        Tracks tracker sizeBits ((delegations capabilities faultRoute).map (·.destination))) ∨
      (2 ^ sizeBits ≤ maxSlots ∧ ∃ k,
        MintFails h.machine root sizeBits s₁.kernel (delegations capabilities faultRoute) k ∧
        create h sizeBits capabilities faultRoute s =
          (.err .cspaceCreationFailed, { s₁ with kernel := k })))) := by
  obtain ⟨⟨hpos, hlt⟩, hplace, hnodup⟩ := validate_eq_ok.mp hvalid
  have hcapacity : capacity sizeBits = .ok (2 ^ sizeBits) := capacity_eq_ok.mpr ⟨hpos, hlt, rfl⟩
  have hcheck : (Prog.ofExcept (validate sizeBits capabilities faultRoute) : Boot Unit) s = (.ok (), s) := by
    rw [hvalid]
    rfl
  match hroot : allocateBlueprint h (.cnode sizeBits) s with
  | (.err e, s₁) => exact Or.inl ⟨e, s₁, rfl, (Prog.run_bind_ok hcheck).trans (Prog.run_bind_err hroot)⟩
  | (.panic, s₁) =>
      rcases (allocateBlueprint_builds h (fun _ => True) (.cnode sizeBits) s).cases with
        ⟨_, _, hrun, -⟩ | ⟨_, _, hrun, -⟩
      · exact nomatch (Prod.mk.inj (hroot.symm.trans hrun)).1
      · exact nomatch (Prod.mk.inj (hroot.symm.trans hrun)).1
  | (.ok root, s₁) =>
      refine Or.inr ⟨root, s₁, rfl, ?_⟩
      have hcap : (Prog.ofExcept (capacity sizeBits) : Boot Nat) s₁ = (.ok (2 ^ sizeBits), s₁) := by
        rw [hcapacity]
        rfl
      by_cases hfits : 2 ^ sizeBits ≤ maxSlots
      · obtain ⟨tracker, hnew, ht⟩ := tryNew_tracks hfits
        have hloop : create h sizeBits capabilities faultRoute s =
            (delegations capabilities faultRoute).foldlM (install h) ⟨root, sizeBits, tracker⟩ s₁ := by
          unfold create
          rw [Prog.run_bind_ok hcheck, Prog.run_bind_ok hroot, Prog.run_bind_ok hcap, hnew]
          exact congrFun (install_route h ⟨root, sizeBits, tracker⟩ capabilities faultRoute) s₁
        have htracks : Tracks (CSpace.mk root sizeBits tracker).slots (CSpace.mk root sizeBits tracker).sizeBits
            (([] : List DelegatedCapability).map (·.destination)) := ht
        rw [hloop]
        rcases foldlM_install_cases h s₁ htracks hplace hnodup with
          ⟨k, tracker', hminted, hrun, hall⟩ | ⟨k, hfails, hrun⟩
        · exact Or.inr (Or.inl ⟨hfits, k, tracker', hminted, hrun, hall⟩)
        · exact Or.inr (Or.inr ⟨hfits, k, hfails, hrun⟩)
      · refine Or.inl ⟨Nat.not_le.mp hfits, ?_⟩
        unfold create
        rw [Prog.run_bind_ok hcheck, Prog.run_bind_ok hroot, Prog.run_bind_ok hcap,
          tryNew_of_lt (Nat.not_le.mp hfits)]
        rfl

/-- A CSpace is created only for delegations that passed the check. -/
theorem create_valid {sizeBits : Nat} {capabilities : List DelegatedCapability}
    {faultRoute : Option FaultRoute} {s s' : BootState} {cspace : CSpace}
    (hok : create h sizeBits capabilities faultRoute s = (.ok cspace, s')) :
    validate sizeBits capabilities faultRoute = .ok () := by
  cases hv : validate sizeBits capabilities faultRoute with
  | ok u => rfl
  | error e =>
      unfold create at hok
      rw [hv] at hok
      exact nomatch (Prod.mk.inj hok).1

/-- Whenever a CSpace is created, its tracker has the destinations of its delegations. -/
theorem create_tracks {sizeBits : Nat} {capabilities : List DelegatedCapability}
    {faultRoute : Option FaultRoute} {s s' : BootState} {cspace : CSpace}
    (hok : create h sizeBits capabilities faultRoute s = (.ok cspace, s')) :
    cspace.sizeBits = sizeBits ∧
      Tracks cspace.slots sizeBits ((delegations capabilities faultRoute).map (·.destination)) := by
  rcases create_cases h (create_valid h hok) s with
    ⟨e, s₁, -, hrun⟩ | ⟨root, s₁, -, ⟨-, hrun⟩ | ⟨-, k, tracker, -, hrun, htracks⟩ | ⟨-, k, -, hrun⟩⟩
  · exact nomatch (Prod.mk.inj (hrun.symm.trans hok)).1
  · exact nomatch (Prod.mk.inj (hrun.symm.trans hok)).1
  · obtain rfl := Outcome.ok.inj (Prod.mk.inj (hrun.symm.trans hok)).1
    exact ⟨rfl, htracks⟩
  · exact nomatch (Prod.mk.inj (hrun.symm.trans hok)).1

/-- **Population is exact.** The check accepts what it should. A CNode that fits a tracker is populated if all
    mints return, each destination with one mint, and the tracker has these slots occupied and no other; the
    only other outcome is that a mint has failed. A receive slot of a task is granted exactly for the other
    slots of its CNode. -/
theorem population_exact (sizeBits : Nat) (capabilities : List DelegatedCapability)
    (faultRoute : Option FaultRoute) :
    (validate sizeBits capabilities faultRoute = .ok () ↔ (0 < sizeBits ∧ sizeBits < wordBits) ∧
      (∀ c ∈ delegations capabilities faultRoute, Placeable (2 ^ sizeBits) c) ∧
      ((delegations capabilities faultRoute).map (·.destination)).Nodup) ∧
    (∀ s root s₁ k, validate sizeBits capabilities faultRoute = .ok () → 2 ^ sizeBits ≤ maxSlots →
      allocateBlueprint h (.cnode sizeBits) s = (.ok root, s₁) →
      (Minted h.machine root sizeBits s₁.kernel (delegations capabilities faultRoute) k →
        ∃ tracker new, create h sizeBits capabilities faultRoute s =
            (.ok ⟨root, sizeBits, tracker⟩, { s₁ with kernel := k }) ∧
          k.log = new ++ s₁.kernel.log ∧
          (∀ slot, new.countP (Invocation.mintsAt root slot) =
            if slot ∈ (delegations capabilities faultRoute).map (·.destination) then 1 else 0) ∧
          ∀ i, tracker.stateOf i =
            if i ∈ (delegations capabilities faultRoute).map (·.destination) then .occupied else .free) ∧
      ((∀ k, ¬ Minted h.machine root sizeBits s₁.kernel (delegations capabilities faultRoute) k) →
        (create h sizeBits capabilities faultRoute s).1 = .err .cspaceCreationFailed)) ∧
    (∀ config s task s' (ipc : IpcState) i, createTask h config s = (.ok task, s') →
      ipc.cspaces task.cspace.root = ⟨task.cspace.sizeBits, task.cspace.slots⟩ →
      ((∃ slot ipc', receiveSlot task.cspace.root i ipc = (.ok slot, ipc')) ↔
        0 < i ∧ i < 2 ^ config.cspaceSizeBits ∧ i ∉ config.delegations.map (·.destination))) := by
  refine ⟨validate_eq_ok, ?_, ?_⟩
  · intro s root s₁ k hvalid hfits hroot
    have hnodup := (validate_eq_ok.mp hvalid).2.2
    rcases create_cases h hvalid s with ⟨e, s₂, hroot', -⟩ | ⟨root', s₂, hroot', hcases⟩
    · exact nomatch (Prod.mk.inj (hroot.symm.trans hroot')).1
    · obtain ⟨hsame, rfl⟩ := Prod.mk.inj (hroot.symm.trans hroot')
      obtain rfl := Outcome.ok.inj hsame
      rcases hcases with ⟨hlarge, -⟩ | ⟨-, k', tracker, hminted', hrun, htracks⟩ | ⟨-, k', hfails, hrun⟩
      · exact absurd hfits (Nat.not_le.mpr hlarge)
      · refine ⟨fun hminted => ?_, fun hnone => absurd hminted' (hnone k')⟩
        obtain rfl : k' = k := hminted'.unique hminted
        exact ⟨tracker, _, hrun, hminted.log, countP_mintsAt hnodup, htracks.stateOf⟩
      · exact ⟨fun hminted => absurd hfails hminted.not_fails, fun _ => congrArg Prod.fst hrun⟩
  · intro config s task s' ipc i hok hipc
    obtain ⟨s₁, hcreate⟩ := createTask_cspace h hok
    obtain ⟨hbits, htracks⟩ := create_tracks h hcreate
    have ht : Tracks task.cspace.slots task.cspace.sizeBits (config.delegations.map (·.destination)) := by
      rw [hbits]
      exact htracks
    rw [ht.receiveSlot_iff hipc i, hbits]

/-- Slots 1 and 3 of the task are taken; slot 2 may receive. -/
theorem population_exact_task :
    ∃ task s', createTask RootTask.host RootTask.imageTask RootTask.start.state = (.ok task, s') ∧
      ∀ ipc : IpcState, ipc.cspaces task.cspace.root = ⟨task.cspace.sizeBits, task.cspace.slots⟩ →
        ∃ slot ipc', receiveSlot task.cspace.root 2 ipc = (.ok slot, ipc') := by
  obtain ⟨task, s', hrun⟩ := RootTask.imageTask_created
  refine ⟨task, s', hrun, fun ipc hipc => ?_⟩
  exact ((population_exact RootTask.host 4 [] none).2.2 _ _ _ _ ipc 2 hrun hipc).mpr (by decide)

end CSpace
end Ricoq
