import Ricoq.Boot.Correctness.Ownership
import Ricoq.Boot.Correctness.Population

/-!
# `Boot.Correctness.Addressing` — parent and child address the same slot

A slot of a child CSpace is named in three ways. The parent resolves the index through its own capability to
the CNode, which has no guard, at a depth of `sizeBits`. The slot tracker takes the index as that of a cell.
The child resolves the same number as a full word, and `rootData` gives its CSpace root a zero guard for all
the bits above the radix. `Agree` says that the three come to the same slot, and that the child reaches
nothing with larger words.
-/

namespace Ricoq

open Sel4 Bootstrap

/-! ## Agreement -/

/-- The parent, the slot tracker and the thread behind `tcb` name the slots of the CNode `c` alike. -/
structure CSpace.Agree (k : ObjectStore) (cspace : CSpace) (tcb c : Nat) : Prop where
  -- where `install` mints, and where a receive slot directs a received capability
  parent : ∀ slot, slot < 2 ^ cspace.sizeBits →
    k.lookupTargetSlot cspace.root slot cspace.sizeBits = .ok (c, slot)
  received : ∀ r : ReceiveSlot, r.root = cspace.root → r.sizeBits = cspace.sizeBits →
    r.reservation.slot.val < 2 ^ cspace.sizeBits →
    k.lookupTargetSlot r.absolute.root r.absolute.index r.absolute.depth = .ok (c, r.reservation.slot.val)
  tracked : ∀ slot cell, cspace.slots.stateMut slot = .ok cell → cell.val = slot
  child : ∀ slot, slot < 2 ^ cspace.sizeBits → k.lookupSlot tcb slot = .ok (c, slot)
  beyond : ∀ cptr, 2 ^ cspace.sizeBits ≤ cptr → cptr < 2 ^ wordBits →
    k.lookupSlot tcb cptr = .error .failedLookup

section Lookup

variable {k : ObjectStore} {root tcb c t : Nat} {cnode : CNodeObject} {context : ThreadContext}
  {registers : Option UserContext}

theorem lookupTargetSlot_of_lt (hroot : k.cnodeAt root = .ok (c, cnode)) {slot : Nat}
    (hslot : slot < 2 ^ cnode.sizeBits) : k.lookupTargetSlot root slot cnode.sizeBits = .ok (c, slot) := by
  refine except_bind_eq_ok.mpr ⟨(c, cnode), hroot, ?_⟩
  exact except_bind_eq_ok.mpr ⟨slot, ObjectStore.resolve_unguarded hslot, rfl⟩

/-- What a thread's lookup comes down to. -/
theorem lookupSlot_eq (htcb : k.tcbAt tcb = .ok (t, ⟨some context, registers⟩))
    (hcnode : k.objects context.cspace = .cnode cnode) (cptr : Nat) :
    k.lookupSlot tcb cptr =
      (ObjectStore.resolve context.guard context.guardBits cnode.sizeBits cptr wordBits).map
        fun slot => (context.cspace, slot) := by
  simp only [ObjectStore.lookupSlot, htcb, hcnode, bind, Except.bind]
  cases ObjectStore.resolve context.guard context.guardBits cnode.sizeBits cptr wordBits with
  | ok slot => rfl
  | error e => rfl

/-- A thread bound to the CNode with the guard of its CSpace agrees with the parent. -/
theorem CSpace.agree {cspace : CSpace} {slots : Nat → Option Cap} (hlt : cspace.sizeBits < wordBits)
    (hroot : k.cnodeAt cspace.root = .ok (c, ⟨cspace.sizeBits, slots⟩))
    (htcb : k.tcbAt tcb = .ok (t, ⟨some context, registers⟩)) (hbound : context.cspace = c)
    (hguard : (context.guard, context.guardBits) = cspace.rootData) : cspace.Agree k tcb c := by
  obtain ⟨-, -, -, hcnode⟩ := ObjectStore.cnodeAt_eq_ok.mp hroot
  obtain ⟨hzero, hbits⟩ := Prod.mk.inj hguard
  subst hbound
  have hparent : ∀ slot, slot < 2 ^ cspace.sizeBits →
      k.lookupTargetSlot cspace.root slot cspace.sizeBits = .ok (context.cspace, slot) :=
    fun slot hslot => lookupTargetSlot_of_lt hroot hslot
  constructor
  case parent => exact hparent
  case received =>
    intro r hr hsize hslot
    show k.lookupTargetSlot r.root r.reservation.slot.val r.sizeBits = _
    rw [hr, hsize]
    exact hparent _ hslot
  case tracked =>
    intro slot cell hcell
    exact (SlotTracker.stateMut_eq_ok.mp hcell).2.2
  case child =>
    intro slot hslot
    rw [lookupSlot_eq htcb hcnode, hzero, hbits, ObjectStore.resolve_guarded (Nat.le_of_lt hlt) hslot]
    rfl
  case beyond =>
    intro cptr hlo hhi
    rw [lookupSlot_eq htcb hcnode, hzero, hbits, ObjectStore.resolve_beyond (Nat.le_of_lt hlt) hlo hhi]
    rfl

end Lookup

/-- An installed delegation is minted into the slot its destination is resolved to, and the tracker has the
    destination. -/
theorem install_target (h : Host) {cspace cspace' : CSpace} {d : DelegatedCapability} {s s' : BootState}
    (hok : CSpace.install h cspace d s = (.ok cspace', s')) :
    ∃ cap object cnode slot, s.kernel.root d.source = some cap ∧
      s.kernel.lookupTargetSlot cspace.root d.destination cspace.sizeBits = .ok (object, slot) ∧
      s.kernel.objects object = .cnode cnode ∧ s'.kernel.objects object = .cnode { cnode with
        slots := Function.update cnode.slots slot (some (cap.mint d.rights d.badge)) } ∧
      cspace'.slots.stateOf d.destination = .occupied := by
  unfold CSpace.install at hok
  obtain ⟨⟨⟩, s₁, hmint, hok⟩ := Prog.run_bind_eq_ok.mp hok
  have hmarked : s₁ = s' ∧ cspace'.slots.stateOf d.destination = .occupied := by
    cases hmark : cspace.slots.markOccupied d.destination with
    | error e =>
        rw [hmark] at hok
        exact nomatch (Prod.mk.inj hok).1
    | ok tracker =>
        obtain ⟨cell, -, -, hcell, -, rfl⟩ := SlotTracker.markOccupied_eq_ok.mp hmark
        rw [hmark] at hok
        obtain ⟨hcspace, rfl⟩ := Prod.mk.inj hok
        obtain rfl := Outcome.ok.inj hcspace
        refine ⟨rfl, ?_⟩
        show (cspace.slots.setState cell .occupied).stateOf d.destination = .occupied
        rw [SlotTracker.stateOf_setState, if_pos hcell.symm]
  obtain ⟨rfl, hstate⟩ := hmarked
  rcases kernelOp_cases h (i := .mint cspace.root d.destination cspace.sizeBits d.source d.rights d.badge)
    (by nofun) .cspaceCreationFailed s with ⟨k, log, heffect, hop⟩ | ⟨log, hop⟩
  · obtain ⟨cap, object, cnode, slot, hcap, hcnode, hresolve, rfl⟩ := ObjectStore.effect_mint heffect
    obtain ⟨-, rfl⟩ := Prod.mk.inj (hop.symm.trans hmint)
    obtain ⟨-, -, -, hobject⟩ := ObjectStore.cnodeAt_eq_ok.mp hcnode
    refine ⟨cap, object, cnode, slot, hcap, ?_, hobject, Function.update_self _ _ _, hstate⟩
    exact except_bind_eq_ok.mpr ⟨(object, cnode), hcnode, except_bind_eq_ok.mpr ⟨slot, hresolve, rfl⟩⟩
  · exact nomatch (Prod.mk.inj (hop.symm.trans hmint)).1

/-- A receive slot directs a received capability to the index it was granted for, which is reserved. -/
theorem receiveSlot_absolute {root index : Nat} {s s' : IpcState} {r : ReceiveSlot}
    (hok : receiveSlot root index s = (.ok r, s')) :
    r.absolute = ⟨root, index, (s.cspaces root).sizeBits⟩ ∧
    (s'.cspaces root).slots.stateOf index = .reserved := by
  unfold receiveSlot at hok
  cases hr : (s.cspaces root).slots.reserve index with
  | error e =>
      rw [hr] at hok
      exact nomatch (Prod.mk.inj hok).1
  | ok p =>
      obtain ⟨reservation, slots'⟩ := p
      rw [hr] at hok
      obtain ⟨hslot, rfl⟩ := Prod.mk.inj hok
      obtain rfl := Outcome.ok.inj hslot
      obtain ⟨-, -, hcell, -, rfl⟩ := SlotTracker.reserve_eq_ok.mp hr
      constructor
      · show (⟨root, reservation.slot.val, (s.cspaces root).sizeBits⟩ : AbsoluteCPtr) = _
        rw [hcell]
      · show ((Function.update s.cspaces root _) root).slots.stateOf index = .reserved
        rw [Function.update_self, SlotTracker.stateOf_setState, if_pos hcell.symm]

/-! ## Tasks -/

section Tasks

variable (h : Host) {s s' : BootState} {config : TaskConfig} {task : Task}

/-- What the slots of a new task hold, and how its thread is bound to them. -/
structure CSpace.Bound (config : TaskConfig) (task : Task) (k : ObjectStore) (c : Nat) : Prop where
  size : task.cspace.sizeBits = config.cspaceSizeBits
  agree : task.cspace.Agree k task.thread.tcb c
  -- the tracker has the slots that hold something
  contents : ∃ slots, k.objects c = .cnode ⟨config.cspaceSizeBits, slots⟩ ∧
    (∀ i, task.cspace.slots.stateOf i = .occupied ↔ (slots i).isSome) ∧
    -- a delegation is found under its destination
    ∀ d ∈ config.delegations, ∃ cap, k.root d.source = some cap ∧
      k.lookupSlot task.thread.tcb d.destination = .ok (c, d.destination) ∧
      slots d.destination = some (cap.mint d.rights d.badge)
  -- the fault endpoint is the delegation of the fault route
  fault : ∃ t context registers, k.tcbAt task.thread.tcb = .ok (t, ⟨some context, registers⟩) ∧
    ∀ route, config.faultRoute = some route →
      k.lookupSlot task.thread.tcb context.faultEndpoint = .ok (c, route.delegation.destination)

theorem createTask_bound (hvacant : Vacant s) (hok : createTask h config s = (.ok task, s')) :
    ∃ c, CSpace.Bound config task s'.kernel c := by
  obtain ⟨layout, -, hinner⟩ := (createTask_eq_ok h).mp hok
  obtain ⟨-, code, width, hb⟩ := (createTaskInner_builds h (fun _ => False) config layout s).of_ok hinner
  obtain ⟨s₁, hcreate⟩ := createTask_cspace h hok
  obtain ⟨hsize, htracks⟩ := CSpace.create_tracks h hcreate
  obtain ⟨⟨-, hlt⟩, hplace, -⟩ := CSpace.validate_eq_ok.mp (CSpace.create_valid h hcreate)
  obtain ⟨slots, hcnode, hdelegated⟩ := hb.contents hvacant
  obtain ⟨registers, hbound⟩ := hb.bound
  -- what the slots of the CNode and of the TCB hold
  obtain ⟨ccap, hccap, hcobject, -⟩ := hb.cnode.cap
  obtain ⟨tcap, htcap, htobject, -⟩ := hb.tcb.cap
  have hroot : s'.kernel.cnodeAt task.cspace.root = .ok (s.kernel.nextObject, ⟨task.cspace.sizeBits, slots⟩) := by
    rw [ObjectStore.cnodeAt_eq_ok, hb.cspaceRoot, hsize]
    exact ⟨ccap, hccap, hcobject, hcnode⟩
  have htcb : s'.kernel.tcbAt task.thread.tcb = .ok (s.kernel.nextObject + width + 3, ⟨some ⟨config.faultEndpoint,
      s.kernel.nextObject, 0, wordBits - config.cspaceSizeBits, s.kernel.nextObject + 1, config.ipcBufferAddress,
      s.kernel.nextObject + width + 2⟩, some registers⟩) := by
    rw [ObjectStore.tcbAt_eq_ok, hb.thread]
    exact ⟨tcap, htcap, htobject, hbound⟩
  have hagree : task.cspace.Agree s'.kernel task.thread.tcb s.kernel.nextObject := by
    refine CSpace.agree (hsize ▸ hlt) hroot htcb rfl ?_
    rw [CSpace.rootData, hsize]
  have hchild : ∀ d ∈ config.delegations,
      s'.kernel.lookupSlot task.thread.tcb d.destination = .ok (s.kernel.nextObject, d.destination) := by
    intro d hd
    refine hagree.child _ ?_
    rw [hsize]
    exact (hplace d hd).destination_lt
  refine ⟨s.kernel.nextObject, hsize, hagree, ⟨slots, hcnode, ?_, ?_⟩, _, _, _, htcb, ?_⟩
  · intro i
    rw [htracks.stateOf]
    by_cases hi : i ∈ config.delegations.map (·.destination)
    · obtain ⟨d, hd, rfl⟩ := List.mem_map.mp hi
      obtain ⟨cap, -, hslot⟩ := hdelegated.installed d hd
      have hd' : d.destination ∈ (CSpace.delegations config.delegatedCapabilities config.faultRoute).map
          (·.destination) := hi
      simp [hd', hslot]
    · have hnone := hdelegated.nothing_else i fun d hd heq => hi (heq ▸ List.mem_map_of_mem hd)
      have hi' : i ∉ (CSpace.delegations config.delegatedCapabilities config.faultRoute).map
          (·.destination) := hi
      simp [hi', hnone]
  · intro d hd
    obtain ⟨cap, hcap, hslot⟩ := hdelegated.installed d hd
    exact ⟨cap, hcap, hchild d hd, hslot⟩
  · intro route hroute
    have hmem : route.delegation ∈ config.delegations := by
      rw [TaskConfig.delegations, CSpace.delegations, hroute]
      exact List.mem_append_right _ (List.mem_singleton_self _)
    have hfault : config.faultEndpoint = route.delegation.destination := by
      rw [TaskConfig.faultEndpoint, hroute]
      rfl
    show s'.kernel.lookupSlot task.thread.tcb config.faultEndpoint = _
    rw [hfault]
    exact hchild _ hmem

end Tasks

/-- **Parent and child address the same slot.** For every CSpace of 1 up to 63 bits and a thread bound to its
    CNode with `rootData`, each index below `2 ^ sizeBits` is the same slot for the parent at depth `sizeBits`,
    as a receive path, as a cell of the slot tracker and as a full-word CPtr of the child, and no larger word
    is a slot for the child. `install` and a receive slot use the index they are given. A task made in any state
    that can be reached is bound in this way: it finds each delegation under its destination, its fault
    endpoint is the slot of its fault route, and its tracker has the slots that hold something. -/
theorem parent_child_agree :
    (∀ (k : ObjectStore) (cspace : CSpace) (tcb t c : Nat) (slots : Nat → Option Cap) (context : ThreadContext)
      (registers : Option UserContext), 0 < cspace.sizeBits → cspace.sizeBits < wordBits →
      k.cnodeAt cspace.root = .ok (c, ⟨cspace.sizeBits, slots⟩) →
      k.tcbAt tcb = .ok (t, ⟨some context, registers⟩) → context.cspace = c →
      (context.guard, context.guardBits) = cspace.rootData → cspace.Agree k tcb c) ∧
    (∀ (h : Host) (cspace cspace' : CSpace) (d : DelegatedCapability) (s s' : BootState),
      CSpace.install h cspace d s = (.ok cspace', s') →
      ∃ cap object cnode slot, s.kernel.root d.source = some cap ∧
        s.kernel.lookupTargetSlot cspace.root d.destination cspace.sizeBits = .ok (object, slot) ∧
        s.kernel.objects object = .cnode cnode ∧ s'.kernel.objects object = .cnode { cnode with
          slots := Function.update cnode.slots slot (some (cap.mint d.rights d.badge)) } ∧
        cspace'.slots.stateOf d.destination = .occupied) ∧
    (∀ (root index : Nat) (s s' : IpcState) (r : ReceiveSlot), receiveSlot root index s = (.ok r, s') →
      r.absolute = ⟨root, index, (s.cspaces root).sizeBits⟩ ∧
      (s'.cspaces root).slots.stateOf index = .reserved) ∧
    (∀ (h : Host) (w : RootTask), Reachable (RootTask.step h) (RootTask.Initial h) anyStep w →
      ∀ config task s', createTask h config w.state = (.ok task, s') →
      ∃ c, CSpace.Bound config task s'.kernel c) := by
  refine ⟨?_, ?_, ?_, ?_⟩
  · intro k cspace tcb t c slots context registers _ hlt hroot htcb hbound hguard
    exact CSpace.agree hlt hroot htcb hbound hguard
  · exact fun h _ _ _ _ _ hok => install_target h hok
  · exact fun _ _ _ _ _ hok => receiveSlot_absolute hok
  · intro h w hr config task s' hok
    have hw : RootTask.Ordered h w := hr.invariant (fun _ hi => hi.ordered h) fun _ _ _ hw _ hs => hw.step h hs
    exact createTask_bound h hw.vacant hok

/-- The thread of `imageTask` finds the fault endpoint in slot 3, and nothing under 16. -/
theorem parent_child_agree_task : ∃ task s' c,
    createTask RootTask.host RootTask.imageTask RootTask.start.state = (.ok task, s') ∧
    s'.kernel.lookupSlot task.thread.tcb 3 = .ok (c, 3) ∧
    s'.kernel.lookupSlot task.thread.tcb 16 = .error .failedLookup := by
  obtain ⟨task, s', hok⟩ := RootTask.imageTask_created
  obtain ⟨c, hbound⟩ := parent_child_agree.2.2.2 RootTask.host RootTask.start
    (Reachable.refl RootTask.start_initial) RootTask.imageTask task s' hok
  have hsize : task.cspace.sizeBits = 4 := hbound.size
  refine ⟨task, s', c, hok, hbound.agree.child 3 ?_, hbound.agree.beyond 16 ?_ (by decide)⟩
  · rw [hsize]
    decide
  · rw [hsize]
    decide

end Ricoq
