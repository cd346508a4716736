import Ricoq.Ipc.Correctness.Attribution

/-!
# `Ipc.Correctness.Handover` — a capability on its way from task to task

The tracker of a CSpace is made with the delegations in it, and after that follows the receives. The CNode behind
it follows what the kernel does. `Coherent` says that they agree as far as the root task relies on it: what the
tracker does not call occupied is empty. So a slot that the root task has reserved takes what arrives, and a
receive hands over exactly the first capability attached to the message that is not for the endpoint itself
(`handed_over`).
-/

namespace Ricoq

open Sel4 Bootstrap Relation

/-! ## What the kernel installs -/

theorem Sel4.transferCaps_true_snd (cs : List OfferedCap) :
    (transferCaps true cs).2 = (cs.find? fun c => !c.sameEndpoint).map (·.cap) := by
  induction cs with
  | nil => rfl
  | cons c cs ih =>
      by_cases hsame : c.sameEndpoint = true
      · simp [transferCaps, hsame, ih]
      · simp [transferCaps, hsame]

/-- Finding an element together with its position. -/
theorem find?_zipIdx {α : Type} (l : List α) (p : α → Bool) (n : Nat) :
    ((l.zipIdx n).find? fun x => p x.1) = none ∧ l.find? p = none ∨
      ∃ i a, ((l.zipIdx n).find? fun x => p x.1) = some (a, n + i) ∧ l.find? p = some a ∧ l[i]? = some a := by
  induction l generalizing n with
  | nil => exact Or.inl ⟨rfl, rfl⟩
  | cons a l ih =>
      by_cases ha : p a = true
      · exact Or.inr ⟨0, a, by simp [ha], by simp [ha], rfl⟩
      · rcases ih (n + 1) with ⟨hnone, hnone'⟩ | ⟨i, b, hfind, hfind', hat⟩
        · exact Or.inl ⟨by simpa [ha] using hnone, by simpa [ha] using hnone'⟩
        · refine Or.inr ⟨i + 1, b, ?_, by simpa [ha] using hfind', by simpa using hat⟩
          rw [List.zipIdx_cons, List.find?_cons_of_neg (p := fun x : α × Nat => p x.1) ha, hfind, Nat.add_assoc, Nat.add_comm 1 i]

namespace Request

variable (r : Request) (k : ObjectStore)

/-- The first of the capabilities offered that is not for the endpoint itself. -/
def gives : Option Place := (r.offers k).find? fun place => !r.sameEndpoint k place

theorem length_offers_le : (r.offers k).length ≤ msgMaxExtraCaps := by
  have hattached : (k.attached r.tcb r.message.caps).length ≤ msgMaxExtraCaps := by
    unfold ObjectStore.attached
    dsimp only
    split
    · refine Nat.le_trans (List.takeWhile_sublist _).length_le ?_
      refine Nat.le_trans (List.length_filterMap_le ..) ?_
      rw [List.length_take]
      exact Nat.min_le_left _ _
    · exact Nat.zero_le _
  unfold offers
  split
  · exact hattached
  · exact Nat.zero_le _

/-- With an empty slot, the kernel installs what the message gives, named by its position. -/
theorem transferred_delivery {kernel : Kernel} (hdest : kernel.destAvailable = true) :
    (r.gives k = none ∧ (kernel.transferred (r.delivery k)).2 = none) ∨
      ∃ i source, r.gives k = some source ∧ (r.offers k)[i]? = some source ∧
        (kernel.transferred (r.delivery k)).2 = some (BitVec.ofNat 64 i) := by
  have hcaps : (r.delivery k).caps.take msgMaxExtraCaps = (r.delivery k).caps := by
    apply List.take_of_length_le
    simpa [delivery] using r.length_offers_le k
  rw [Kernel.transferred, hdest, hcaps, transferCaps_true_snd]
  have hfind : ((r.delivery k).caps.find? fun c => !c.sameEndpoint) =
      (((r.offers k).zipIdx.find? fun x => !r.sameEndpoint k x.1).map fun x =>
        OfferedCap.mk (r.sameEndpoint k x.1) (BitVec.ofNat 64 x.2)) := List.find?_map ..
  rw [hfind]
  rcases find?_zipIdx (r.offers k) (fun place => !r.sameEndpoint k place) 0 with
    ⟨hnone, hgives⟩ | ⟨i, source, hsome, hgives, hat⟩
  · rw [hnone]
    exact Or.inl ⟨hgives, rfl⟩
  · rw [hsome, Nat.zero_add]
    exact Or.inr ⟨i, source, hgives, hat, rfl⟩

end Request

namespace World

variable {w w' : World} {op : Op}

/-- Receiving fills no slot twice. -/
theorem children_settled_kept {s : IpcState} {e : Nat} {slot : Option ReceiveSlot} {o : NbOutcome} {root i : Nat}
    (hfilled : s.kernel.children root i ≠ none) :
    (s.settled e slot o).kernel.children root i = s.kernel.children root i := by
  rw [IpcState.settled, IpcState.kernel_settleSlot]
  cases o with
  | message d =>
      by_contra hne
      obtain ⟨rfl, rfl, hsome⟩ := (Kernel.children_deliver_ne_iff (s.configured e slot).kernel d root i).mp hne
      have hdest := Kernel.destAvailable_of_transferred hsome
      rw [Kernel.destAvailable, Bool.and_eq_true, Option.isNone_iff_eq_none] at hdest
      exact hfilled hdest.2
  | noSender info => rfl

theorem children_kept (he : Effect w op w') (hop : ∀ message answer, op ≠ .call message answer) {root i : Nat}
    (hfilled : w.state.kernel.children root i ≠ none) :
    w'.state.kernel.children root i = w.state.kernel.children root i := by
  cases he with
  | refused hop' htake hp => rw [state_of_takeSlot htake]
  | kept m hop' htake hready hm => exact children_settled_kept hfilled
  | rejected hop' htake hready =>
      exact (congrFun (congrFun (IpcState.children_answered ..) root) i).trans (children_settled_kept hfilled)
  | empty hop' htake hready => exact children_settled_kept hfilled
  | answered hop' hm hpath => exact congrFun (congrFun (IpcState.children_answered ..) root) i
  | replied hd hpath => exact congrFun (congrFun (Kernel.children_sendReplyCap ..) root) i
  | called hpath => exact absurd rfl (hop _ _)
  | deferred | discarded | discardRefused | sent | granted | denied => rfl

/-- A receive slot that is held was held before, or has just been granted. -/
theorem slots_of_effect (he : Effect w op w') {i : Nat} {r : ReceiveSlot} (hr : w'.slots i = some r) :
    w.slots i = some r ∨ ∃ index, op = .receiveSlot r.root index := by
  cases he with
  | refused hop htake hp => exact Or.inl (slots_of_takeSlot htake hr).1
  | kept m hop htake hready hm => exact Or.inl (slots_of_takeSlot htake hr).1
  | rejected hop htake hready => exact Or.inl (slots_of_takeSlot htake hr).1
  | empty hop htake hready => exact Or.inl (slots_of_takeSlot htake hr).1
  | @granted root index slot hroot hindex hne hlt hfree =>
      rcases update_some_eq_some.mp hr with ⟨-, rfl⟩ | ⟨-, hold⟩
      · exact Or.inr ⟨index, hroot ▸ rfl⟩
      · exact Or.inl hold
  | answered | deferred | replied | discarded | discardRefused | called | sent | denied => exact Or.inl hr

/-- The number of slots stays. -/
theorem capacity_of_effect (he : Effect w op w') (root : Nat) :
    (w'.state.cspaces root).slots.capacity = (w.state.cspaces root).slots.capacity := by
  cases he with
  | refused hop htake hp => rw [state_of_takeSlot htake]
  | kept m hop htake hready hm => exact capacity_settled w.state _ _ _ root
  | rejected hop htake hready => exact capacity_settled w.state _ _ _ root
  | empty hop htake hready => exact capacity_settled w.state _ _ _ root
  | granted slot hroot hindex hne hlt hfree => exact IpcState.capacity_markSlot w.state slot _ root
  | answered | deferred | replied | discarded | discardRefused | called | sent | denied => rfl

end World

theorem receiveOp_ne_call {endpoint : Nat} {slot : Option Nat} {blocking : Bool} {d answer : Delivery}
    {message : Message} : receiveOp endpoint slot blocking d ≠ .call message answer := by
  cases blocking <;> nofun

/-! ## New tasks -/

/-- A new task is bound to its CSpace as it was made, and its tracker has a slot for each index. -/
theorem Supervisor.Intact.created_bound {h : Host} {w w' : Supervisor} {op : SupervisorOp} {x : HeldTask}
    (hw : Intact h w) (ha : w.Owned op) (hs : Supervisor.step h w op = some w') (hx : x ∈ w'.tasks)
    (hnew : x ∉ w.tasks) : x.task.cspace.slots.capacity = 2 ^ x.config.cspaceSizeBits ∧
      ∃ c, CSpace.Bound x.config x.task w'.root.state.kernel c := by
  obtain rfl := Supervisor.step_created hs hx hnew
  unfold Supervisor.step at hs
  obtain ⟨r, hr, rfl⟩ := Option.map_eq_some_iff.mp hs
  unfold RootTask.step at hr
  rcases RootTask.perform_cases (RootTask.createTask_leaves h hw.ordered.vacant hw.ordered.start_le x.config
    (hw.obtainable_lt ha)) hr with ⟨task, s, hrun, -, rfl⟩ | ⟨e, s, -, -, rfl⟩
  · have hlast : x = ⟨task, x.config, (w.root.state.kernel.nextObject, s.kernel.nextObject)⟩ := by
      rcases List.mem_append.mp (RootTask.mem_tasks.mp hx) with hold | hlast
      · exact absurd (RootTask.mem_tasks.mpr hold) hnew
      · exact Handle.task.inj (List.mem_singleton.mp hlast)
    have htask : x.task = task := congrArg HeldTask.task hlast
    rw [htask]
    obtain ⟨s₁, hcreate⟩ := createTask_cspace h hrun
    obtain ⟨-, htracks⟩ := CSpace.create_tracks h hcreate
    exact ⟨htracks.capacity, createTask_bound h hw.ordered.vacant hrun⟩
  · exact absurd hx hnew

theorem HeldTask.Rooted.cnodeAt {x : HeldTask} {k : ObjectStore} {c : Nat} (hx : x.Rooted k c) :
    ∃ slots, k.cnodeAt x.task.cspace.root = .ok (c, ⟨x.config.cspaceSizeBits, slots⟩) := by
  obtain ⟨-, -, cap, hcap, hobject, -⟩ := hx.cnode
  obtain ⟨slots, hslots⟩ := hx.size
  exact ⟨slots, ObjectStore.cnodeAt_eq_ok.mpr ⟨cap, hcap, hobject, hslots⟩⟩

namespace ClientSystem

variable {h : Host} {s s' : ClientSystem}

/-! ## The trackers and the CNodes -/

/-- Receive slots are reserved slots of tasks, and the slots of a CNode that its tracker does not call occupied are
    empty. -/
structure Coherent (h : Host) (s : ClientSystem) : Prop where
  reserved : initVspace < h.bootinfo.empty.start
  slots : s.world.SlotsReserved
  owned : ∀ i r, s.world.slots i = some r → ∃ x ∈ s.tasks, x.task.cspace.root = r.root
  size : ∀ x ∈ s.tasks, x.task.cspace.sizeBits = x.config.cspaceSizeBits
  capacity : ∀ x ∈ s.tasks,
    (s.world.state.cspaces x.task.cspace.root).slots.capacity = 2 ^ x.config.cspaceSizeBits
  tracked : ∀ x ∈ s.tasks, ∀ c, x.Rooted s.kernel c → ∀ i, i < 2 ^ x.config.cspaceSizeBits →
    (s.world.state.cspaces x.task.cspace.root).slots.stateOf i ≠ .occupied → s.kernel.capAt (c, i) = none

theorem Initial.coherent (hi : Initial h s) : Coherent h s := by
  have htasks : s.tasks = [] := by
    unfold tasks Supervisor.tasks RootTask.tasks
    rw [hi.supervisor.root.handles]
    rfl
  constructor
  case reserved => exact hi.supervisor.initVspace
  case slots => exact World.slotsReserved_initial hi.world
  case owned =>
    intro i r hr
    rw [hi.world.slots] at hr
    cases hr
  case size =>
    rw [htasks]
    nofun
  case capacity =>
    rw [htasks]
    nofun
  case tracked =>
    rw [htasks]
    nofun

theorem Coherent.view_slots (hc : Coherent h s) : s.view.SlotsReserved := hc.slots.of_eq rfl rfl (Nat.le_refl _)

namespace Charted

variable (hw : Charted h s)
include hw

/-- Tasks have CNodes of their own. -/
theorem eq_of_rooted {x y : HeldTask} (hx : x ∈ s.tasks) (hy : y ∈ s.tasks) {c : Nat} (hrx : x.Rooted s.kernel c)
    (hry : y.Rooted s.kernel c) : x = y := by
  by_contra hne
  have hapart := hw.intact.apart hx hy hne
  obtain ⟨hlo, hhi⟩ := (hw.intact.alive x hx).numbered _ _ hrx.cnode
  obtain ⟨hlo', hhi'⟩ := (hw.intact.alive y hy).numbered _ _ hry.cnode
  omega

theorem eq_of_root {x y : HeldTask} (hx : x ∈ s.tasks) (hy : y ∈ s.tasks)
    (hroot : x.task.cspace.root = y.task.cspace.root) : x = y := by
  obtain ⟨c, hrx⟩ := hw.rooted x hx
  obtain ⟨c', hry⟩ := hw.rooted y hy
  obtain ⟨-, -, cap, hcap, rfl, -⟩ := id hrx.cnode
  obtain ⟨-, -, cap', hcap', rfl, -⟩ := id hry.cnode
  have hsame : cap = cap' := by
    have hcap₁ : s.kernel.root x.task.cspace.root = some cap := hcap
    have hcap₂ : s.kernel.root y.task.cspace.root = some cap' := hcap'
    rw [hroot] at hcap₁
    exact Option.some.inj (hcap₁.symm.trans hcap₂)
  exact hw.eq_of_rooted hx hy hrx (hsame ▸ hry)

/-- What the root task names with an index is the slot of the CNode with this index. -/
theorem childPlace_eq (hc : Coherent h s) {x : HeldTask} (hx : x ∈ s.tasks) {c i : Nat} (hrooted : x.Rooted s.kernel c)
    (hi : i < 2 ^ x.config.cspaceSizeBits) : s.childPlace x.task.cspace.root i = some (c, i) := by
  have hfound : s.tasks.find? (fun y => y.task.cspace.root = x.task.cspace.root) = some x := by
    cases hfind : s.tasks.find? (fun y => y.task.cspace.root = x.task.cspace.root) with
    | none => exact absurd (decide_eq_true rfl) (List.find?_eq_none.mp hfind x hx)
    | some y =>
        have hroot : y.task.cspace.root = x.task.cspace.root := by simpa using List.find?_some hfind
        rw [hw.eq_of_root (List.mem_of_find?_eq_some hfind) hx hroot]
  obtain ⟨slots, hat⟩ := hrooted.cnodeAt
  have hlookup := lookupTargetSlot_of_lt hat hi
  unfold childPlace
  rw [hfound, Option.bind_eq_bind, Option.bind_some, hc.size x hx, if_pos hi]
  exact congrArg Except.toOption hlookup

theorem children_eq (hc : Coherent h s) {x : HeldTask} (hx : x ∈ s.tasks) {c i : Nat} (hrooted : x.Rooted s.kernel c)
    (hi : i < 2 ^ x.config.cspaceSizeBits) :
    s.children x.task.cspace.root i = (s.kernel.capAt (c, i)).map fun _ => 0 := by
  rw [children, hw.childPlace_eq hc hx hrooted hi]
  rfl

/-- The IPC layer finds the trackers in order. -/
theorem view_tracked (hc : Coherent h s) : s.view.Tracked := by
  intro root i hstate
  show s.children root i = none
  cases hplace : s.childPlace root i with
  | none => rw [children, hplace]; rfl
  | some place =>
      obtain ⟨x, hx, rfl, hi, -⟩ := childPlace_eq_some hplace
      rw [hc.size x hx] at hi
      obtain ⟨c, hrooted⟩ := hw.rooted x hx
      rw [hw.children_eq hc hx hrooted hi, hc.tracked x hx c hrooted i hi hstate]
      rfl

/-! ### Operations of the IPC layer -/

section Layer

variable (hc : Coherent h s) {op : Op} {world : World} (hs : World.step s.view op = some world)
  (hcall : ∀ message answer, op ≠ .call message answer)
include hc hs hcall

/-- What the tracker does not call occupied afterwards was empty before, and nothing was installed there. -/
theorem layer_tracked {x : HeldTask} (hx : x ∈ s.tasks) {c i : Nat} (hrooted : x.Rooted s.kernel c)
    (hi : i < 2 ^ x.config.cspaceSizeBits)
    (hstate : (world.state.cspaces x.task.cspace.root).slots.stateOf i ≠ .occupied) :
    s.kernel.capAt (c, i) = none ∧ world.state.kernel.children x.task.cspace.root i = none := by
  have he := World.effect_of_step hc.view_slots hs
  have hguarded : World.Guarded s.view op := fun message answer hop => absurd hop (hcall message answer)
  have hafter := World.tracked_step hc.view_slots (hw.view_tracked hc) hguarded he _ _ hstate
  refine ⟨?_, hafter⟩
  by_contra hfilled
  have hbefore : s.view.state.kernel.children x.task.cspace.root i ≠ none := by
    show s.children _ _ ≠ none
    rw [hw.children_eq hc hx hrooted hi]
    simpa using hfilled
  rw [World.children_kept he hcall hbefore] at hafter
  exact hbefore hafter

/-- An operation of the IPC layer, in which nothing is handed over. -/
theorem coherent_layer (hslot : ∀ root index, op = .receiveSlot root index →
      ∃ x ∈ s.tasks, x.task.cspace.root = root) : Coherent h { s with world } := by
  have he := World.effect_of_step hc.view_slots hs
  constructor
  case reserved => exact hc.reserved
  case slots => exact World.slotsReserved_step hc.view_slots he
  case owned =>
    intro i r hr
    rcases World.slots_of_effect he hr with hold | ⟨index, hop⟩
    · exact hc.owned i r hold
    · exact hslot r.root index hop
  case size => exact hc.size
  case capacity =>
    intro x hx
    exact (World.capacity_of_effect he _).trans (hc.capacity x hx)
  case tracked =>
    intro x hx c hrooted i hi hstate
    exact (hw.layer_tracked hc hs hcall hx hrooted hi hstate).1

end Layer

/-! ### Operations of the root task -/

section Supervise

variable (hc : Coherent h s) {op : SupervisorOp} {w : Supervisor} (ha : s.supervisor.Owned op)
  (hs : Supervisor.step h s.supervisor op = some w)
include hc ha hs

omit hc in
/-- The trackers of the tasks there were stay, and that of a new task is as it was made. -/
theorem cspaces_adopt : (∀ x ∈ s.tasks, (s.adopt w).world.state.cspaces x.task.cspace.root =
      s.world.state.cspaces x.task.cspace.root) ∧
    ∀ x ∈ w.tasks, x ∉ s.tasks → (s.adopt w).world.state.cspaces x.task.cspace.root =
      ⟨x.task.cspace.sizeBits, x.task.cspace.slots⟩ := by
  have hstate : (s.adopt w).world.state = (w.tasks.drop s.tasks.length).foldl IpcState.addTask s.world.state := rfl
  rcases (hw.intact.change ha hs).tasks with hsame | ⟨y, hsnoc, ⟨-, hobjects, -⟩, -⟩
  · have hnone : w.tasks.drop s.tasks.length = [] := by
      rw [hsame]
      exact List.drop_length
    rw [hstate, hnone]
    refine ⟨fun _ _ => rfl, fun x hx hnew => ?_⟩
    rw [hsame] at hx
    exact absurd hx hnew
  · have hone : w.tasks.drop s.tasks.length = [y] := by
      rw [hsnoc]
      exact List.drop_left
    have hlast : (s.adopt w).world.state = s.world.state.addTask y := by
      rw [hstate, hone]
      rfl
    have hy : y ∈ (s.adopt w).tasks := by
      show y ∈ w.tasks
      rw [hsnoc]
      exact List.mem_append_right _ (List.mem_singleton_self y)
    rw [hlast]
    constructor
    · intro x hx
      refine Function.update_of_ne ?_ _ _
      intro hroot
      -- the CNode of the new task has just been made
      have hx' : x ∈ (s.adopt w).tasks := (hw.intact.change ha hs).mem_tasks hx
      obtain rfl := (hw.supervise ha hs).eq_of_root hx' hy hroot
      obtain ⟨c, hrooted⟩ := hw.rooted x hx
      have halive := hw.intact.alive x hx
      obtain ⟨hlo, hhi⟩ := halive.numbered _ _ hrooted.cnode
      have hle := halive.objects_le
      rw [hobjects] at hlo
      exact absurd (Nat.lt_of_lt_of_le hhi hle) (Nat.not_lt.mpr hlo)
    · intro x hx hnew
      rw [hsnoc] at hx
      rcases List.mem_append.mp hx with hold | hlast
      · exact absurd hold hnew
      · obtain rfl := List.mem_singleton.mp hlast
        exact Function.update_self _ _ _

theorem coherent_supervise : Coherent h (s.adopt w) := by
  obtain ⟨hkept, hnew⟩ := hw.cspaces_adopt ha hs
  have hold : ∀ x ∈ s.tasks, x ∈ w.tasks := fun x hx => (hw.intact.change ha hs).mem_tasks hx
  have hslots : ∀ i r, s.world.slots i = some r →
      (s.adopt w).world.state.cspaces r.root = s.world.state.cspaces r.root := by
    intro i r hr
    obtain ⟨x, hx, hroot⟩ := hc.owned i r hr
    rw [← hroot]
    exact hkept x hx
  constructor
  case reserved => exact hc.reserved
  case slots =>
    constructor
    case fresh => exact hc.slots.fresh
    case reserved =>
      intro i r hr
      show ((s.adopt w).world.state.cspaces r.root).slots.stateOf r.reservation.slot = .reserved
      rw [hslots i r hr]
      exact hc.slots.reserved i r hr
    case inRange =>
      intro i r hr
      rw [hslots i r hr]
      exact hc.slots.inRange i r hr
    case distinct => exact hc.slots.distinct
  case owned =>
    intro i r hr
    obtain ⟨x, hx, hroot⟩ := hc.owned i r hr
    exact ⟨x, hold x hx, hroot⟩
  case size =>
    intro x hx
    by_cases hmem : x ∈ s.tasks
    · exact hc.size x hmem
    · obtain ⟨-, c, hbound⟩ := hw.intact.created_bound ha hs hx hmem
      exact hbound.size
  case capacity =>
    intro x hx
    by_cases hmem : x ∈ s.tasks
    · rw [hkept x hmem]
      exact hc.capacity x hmem
    · rw [hnew x hx hmem]
      exact (hw.intact.created_bound ha hs hx hmem).1
  case tracked =>
    intro x hx c hrooted i hi hstate
    by_cases hmem : x ∈ s.tasks
    · rw [hkept x hmem] at hstate
      obtain ⟨c₀, hrooted₀⟩ := hw.rooted x hmem
      obtain rfl := (hw.rooted_supervise ha hs hmem hrooted₀).cnode.unique hrooted.cnode
      exact (hw.capAt_supervise ha hs ⟨x, hmem, hrooted₀.cnode⟩).trans
        (hc.tracked x hmem c₀ hrooted₀ i hi hstate)
    · rw [hnew x hx hmem] at hstate
      obtain ⟨-, c', hbound⟩ := hw.intact.created_bound ha hs hx hmem
      obtain ⟨slots, hcnode, hoccupied, -⟩ := hbound.contents
      obtain ⟨slots', hat⟩ := hrooted.cnodeAt
      have hplace := hbound.agree.parent i (hbound.size ▸ hi)
      rw [hbound.size] at hplace
      have hlookup := lookupTargetSlot_of_lt hat hi
      obtain rfl := (Prod.mk.inj (Except.ok.inj (hlookup.symm.trans hplace))).1
      show w.root.state.kernel.capIn c i = none
      rw [ObjectStore.capIn, hcnode]
      by_contra hfilled
      exact hstate ((hoccupied i).mpr (Option.isSome_iff_ne_none.mpr hfilled))

end Supervise

/-! ### Handing over -/

/-- The CSpace that a receive slot is for. -/
theorem slot_of_coherent (hc : Coherent h s) {i : Nat} {held : ReceiveSlot} (hheld : s.world.slots i = some held) :
    ∃ x ∈ s.tasks, ∃ c, x.task.cspace.root = held.root ∧ x.Rooted s.kernel c ∧
      held.reservation.slot.val < 2 ^ x.config.cspaceSizeBits ∧
      s.childPlace held.root held.reservation.slot = some (c, held.reservation.slot.val) ∧
      s.kernel.capAt (c, held.reservation.slot.val) = none := by
  obtain ⟨x, hx, hroot⟩ := hc.owned i held hheld
  obtain ⟨c, hrooted⟩ := hw.rooted x hx
  have hreserved : (s.world.state.cspaces held.root).slots.stateOf held.reservation.slot = .reserved :=
    hc.slots.reserved i held hheld
  have hlt : held.reservation.slot.val < 2 ^ x.config.cspaceSizeBits := by
    have hrange := (hc.slots.inRange i held hheld).2
    rwa [← hroot, hc.capacity x hx] at hrange
  refine ⟨x, hx, c, hroot, hrooted, hlt, ?_, ?_⟩
  · rw [← hroot]
    exact hw.childPlace_eq hc hx hrooted hlt
  · apply hc.tracked x hx c hrooted _ hlt
    rw [hroot, hreserved]
    nofun

/-- A receive, as far as the IPC layer goes. -/
theorem coherent_receive (hc : Coherent h s) {endpoint : Nat} {slot : Option Nat} {blocking : Bool} {d : Delivery}
    {world : World} (hs : World.step s.view (receiveOp endpoint slot blocking d) = some world) :
    Coherent h { s with world } := by
  refine hw.coherent_layer hc hs (fun _ _ => receiveOp_ne_call) ?_
  cases blocking <;> nofun

theorem coherent_copies (hc : Coherent h s) {endpoint : Nat} {slot : Option Nat} {blocking : Bool} {r : Request}
    {world : World} {requests : List Request} {source target : Place} (hr : r ∈ s.requests)
    (hs : World.step s.view (receiveOp endpoint slot blocking (r.delivery s.kernel)) = some world)
    (hinstalled : s.installed world slot r = some (source, target)) :
    Coherent h (ClientSystem.transfer { s with world, requests } source target) := by
  have hbase := hw.coherent_receive hc hs
  obtain ⟨cap, cnode, -, -, -, -, hcnode, -⟩ := hw.copied hr hinstalled
  obtain ⟨-, -, handle, held, rfl, hheld, hplace, hfilled⟩ := installed_eq_some hinstalled
  constructor
  case reserved => exact hbase.reserved
  case slots => exact hbase.slots
  case owned => exact hbase.owned
  case size => exact hbase.size
  case capacity => exact hbase.capacity
  case tracked =>
    intro x hx c hrooted i hi hstate
    obtain ⟨c₀, hrooted₀⟩ := hw.rooted x hx
    obtain rfl := (hrooted₀.putCap hcnode).cnode.unique hrooted.cnode
    obtain ⟨hnone, hchild⟩ := hw.layer_tracked hc hs (fun _ _ => receiveOp_ne_call) hx hrooted₀ hi hstate
    -- the target is filled, so it is another slot
    have hne : (c₀, i) ≠ target := by
      rintro rfl
      obtain ⟨y, hy, c, hroot, hrooted', -, hplace', -⟩ := hw.slot_of_coherent hc hheld
      obtain ⟨rfl, rfl⟩ := Prod.mk.inj (Option.some.inj (hplace.symm.trans hplace'))
      obtain rfl := hw.eq_of_rooted hx hy hrooted₀ hrooted'
      rw [← hroot] at hfilled
      exact hfilled hchild
    have hat : (ClientSystem.transfer { s with world, requests } source target).kernel.capAt =
        Function.update s.kernel.capAt target ((s.kernel.capAt source).map fun cap => cap.derive cap.rights) :=
      capAt_transfer hcnode
    rw [hat, Function.update_of_ne hne]
    exact hnone

end Charted

theorem Coherent.step {op : ClientOp} (hc : Coherent h s) (hw : Charted h s) (ha : s.Orderly op)
    (hs : ClientSystem.step h s op = some s') : Coherent h s' := by
  cases moves_of_step hs with
  | supervises hw' => exact hw.coherent_supervise hc ha.1 hw'
  | works hquiet hworld =>
      refine hw.coherent_layer hc hworld ?_ ?_
      · rintro message answer rfl
        exact hquiet
      · rintro root index rfl
        exact List.mem_map.mp ha
  | refused hr hobject hworld => exact hw.coherent_receive hc hworld
  | takes hr hobject hworld hinstalled =>
      have hbase := hw.coherent_receive hc hworld
      exact ⟨hbase.reserved, hbase.slots, hbase.owned, hbase.size, hbase.capacity, hbase.tracked⟩
  | copies hr hobject hworld hinstalled => exact hw.coherent_copies hc hr hworld hinstalled
  | sends | signals | signalsOwn | looks =>
      exact ⟨hc.reserved, hc.slots, hc.owned, hc.size, hc.capacity, hc.tracked⟩

theorem coherent_reachable (hr : Reachable (step h) (Initial h) Orderly s) : Coherent h s :=
  invariant_of_charted hr (fun _ hi => hi.coherent) fun _ _ _ hw hc ha hs => hc.step hw ha hs

/-! ## What a receive hands over -/

/-- A root slot of a task is none of the first ones. -/
theorem Coherent.root_ne_zero (hc : Coherent h s) (hw : Charted h s) {x : HeldTask} (hx : x ∈ s.tasks) :
    x.task.cspace.root ≠ 0 := by
  obtain ⟨c, hrooted⟩ := hw.rooted x hx
  have hlo : x.task.rootSlots.1 ≤ x.task.cspace.root := hrooted.cnode.1
  have hwithin := (hw.intact.ordered.within _ (RootTask.mem_tasks.mp hx)).1
  have hfirst := hw.intact.ordered.first
  have hreserved := hc.reserved
  have hslots : (Handle.task x).slots.1 = x.task.rootSlots.1 := rfl
  unfold initVspace at hreserved
  omega

/-- What the kernel puts where the receive slot is. -/
theorem children_received {s : IpcState} {held : ReceiveSlot} (endpoint : Nat) (d : Delivery) (hroot : held.root ≠ 0)
    (hempty : s.kernel.children held.root held.reservation.slot = none) :
    (s.configured endpoint (some held)).kernel.destAvailable = true ∧
    (s.settled endpoint (some held) (.message d)).kernel.children held.root held.reservation.slot =
      ((s.configured endpoint (some held)).kernel.transferred d).2 := by
  constructor
  · show (decide (held.root ≠ 0) && (s.kernel.children held.root held.reservation.slot).isNone) = true
    rw [hempty, decide_eq_true hroot]
    rfl
  · rw [IpcState.settled, IpcState.kernel_settleSlot]
    refine (Kernel.children_deliver (s.configured endpoint (some held)).kernel d _ _).trans ?_
    by_cases hnone : ((s.configured endpoint (some held)).kernel.transferred d).2 = none
    · rw [if_neg fun hall => hall.2.2 hnone, hnone]
      exact hempty
    · exact if_pos ⟨rfl, rfl, hnone⟩

/-- A message that gets to a receive on an endpoint that owes no reply. -/
theorem receive_ready {endpoint : Nat} {slot : Option Nat} {blocking : Bool} {r : Request} {world : World}
    (hready : s.world.state.pending endpoint = false) (hmem : r ∈ s.requests)
    (hobject : (s.kernel.root endpoint).map Cap.object = some r.endpoint)
    (hworld : World.step s.view (receiveOp endpoint slot blocking (r.delivery s.kernel)) = some world) :
    (s.installed world slot r = none → step h s (.receive endpoint slot blocking r) =
      some { s with world, requests := s.requests.erase r }) ∧
    ∀ source target, s.installed world slot r = some (source, target) →
      step h s (.receive endpoint slot blocking r) =
        some (ClientSystem.transfer { s with world, requests := s.requests.erase r } source target) := by
  obtain ⟨cap, hcap, hcapObject⟩ := Option.map_eq_some_iff.mp hobject
  have hnot : ¬ s.world.state.pending endpoint = true := by
    rw [hready]
    nofun
  constructor
  · intro hinstalled
    show s.receive endpoint slot blocking r = _
    unfold receive
    rw [hcap, Option.bind_eq_bind, Option.bind_some, if_pos ⟨hmem, hcapObject.symm⟩, hworld, Option.bind_eq_bind,
      Option.bind_some, if_neg hnot]
    simp only [hinstalled]
  · intro source target hinstalled
    show s.receive endpoint slot blocking r = _
    unfold receive
    rw [hcap, Option.bind_eq_bind, Option.bind_some, if_pos ⟨hmem, hcapObject.symm⟩, hworld, Option.bind_eq_bind,
      Option.bind_some, if_neg hnot]
    simp only [hinstalled]

/-- **What a receive hands over, exactly.** The slots that the tracker of a task does not call occupied are empty, in
    whatever order tasks are made, messages are sent and received, and slots are reserved. So a receive with a slot
    of a task, on an endpoint that owes no reply, returns, and afterwards the task finds in this slot the first of
    the capabilities that came with the message and are not for the endpoint itself, or nothing if there is none. In
    every other slot of every CSpace is what was there. -/
theorem handed_over (hr : Reachable (step h) (Initial h) Orderly s) {i endpoint : Nat} {held : ReceiveSlot}
    {r : Request} (blocking : Bool) (hheld : s.world.slots i = some held)
    (hready : s.world.state.pending endpoint = false) (hmem : r ∈ s.requests)
    (hobject : (s.kernel.root endpoint).map Cap.object = some r.endpoint) :
    ∃ x ∈ s.tasks, x.task.cspace.root = held.root ∧ ∃ target s',
      s.kernel.find x.task.thread.tcb held.reservation.slot = some target ∧ s.kernel.capAt target = none ∧
      step h s (.receive endpoint (some i) blocking r) = some s' ∧
      s'.kernel.capAt target = (r.gives s.kernel).bind s.kernel.capAt ∧
      ∀ place, place ≠ target → s'.kernel.capAt place = s.kernel.capAt place := by
  have hw := charted_reachable hr
  have hc := coherent_reachable hr
  obtain ⟨x, hx, c, hroot, hrooted, hlt, hplace, hempty⟩ := hw.slot_of_coherent hc hheld
  have hop : (receiveOp endpoint (some i) blocking (r.delivery s.kernel)).receives =
      some (endpoint, some i, .message (r.delivery s.kernel)) := receives_receiveOp
  obtain ⟨world, hworld⟩ := World.receives_enabled hc.view_slots hop hheld
  have he := World.effect_of_step hc.view_slots hworld
  -- what is in the slot afterwards, as the IPC layer sees it
  have hchild : s.view.state.kernel.children held.root held.reservation.slot = none := by
    show s.children _ _ = none
    rw [← hroot, hw.children_eq hc hx hrooted hlt, hempty]
    rfl
  obtain ⟨hdest, hreceived⟩ := children_received endpoint (r.delivery s.kernel)
    (hroot ▸ hc.root_ne_zero hw hx) hchild
  have hafter : world.state.kernel.children held.root held.reservation.slot =
      ((s.view.state.configured endpoint (some held)).kernel.transferred (r.delivery s.kernel)).2 := by
    rcases World.receives_cases (w := s.view) hop hheld he with ⟨hp, -⟩ | ⟨-, -, hchildren⟩
    · exact nomatch hready.symm.trans hp
    · rw [hchildren, hreceived]
  obtain ⟨hkeeps, hcopies⟩ := receive_ready hready hmem hobject hworld
  have hinstalled : s.installed world (some i) r =
      (world.state.kernel.children held.root held.reservation.slot).bind fun position =>
        ((r.offers s.kernel)[position.toNat]?).map fun source => (source, (c, held.reservation.slot.val)) := by
    unfold installed
    simp only [Option.bind_eq_bind, Option.bind_some, hheld, hplace, hempty, Option.isNone_none, if_true]
    refine congrArg _ (funext fun position => ?_)
    cases (r.offers s.kernel)[position.toNat]? <;> rfl
  refine ⟨x, hx, hroot, (c, held.reservation.slot.val), ?_⟩
  rcases r.transferred_delivery s.kernel hdest with ⟨hgives, hnone⟩ | ⟨p, source, hgives, hat, hsome⟩
  · rw [hafter, hnone] at hinstalled
    refine ⟨_, hrooted.find_of_lt hlt, hempty, hkeeps hinstalled, ?_, fun _ _ => rfl⟩
    rw [hgives]
    exact hempty
  · have hp : p < 2 ^ 64 := by
      have hlen := (List.getElem?_eq_some_iff.mp hat).1
      have hmax := r.length_offers_le s.kernel
      have hthree : msgMaxExtraCaps = 3 := rfl
      omega
    have hposition : (BitVec.ofNat 64 p).toNat = p := by
      rw [BitVec.toNat_ofNat, Nat.mod_eq_of_lt hp]
    rw [hafter, hsome, Option.bind_some, hposition, hat, Option.map_some] at hinstalled
    obtain ⟨cap', cnode, -, -, hcap', -, hcnode, hderive⟩ := hw.copied hmem hinstalled
    have hcapAt : (ClientSystem.transfer { s with world, requests := s.requests.erase r } source _).kernel.capAt =
        Function.update s.kernel.capAt _ ((s.kernel.capAt source).map fun cap => cap.derive cap.rights) :=
      Charted.capAt_transfer hcnode
    refine ⟨_, hrooted.find_of_lt hlt, hempty, hcopies _ _ hinstalled, ?_, ?_⟩
    · rw [hcapAt, Function.update_self, hgives]
      show (s.kernel.capAt source).map _ = s.kernel.capAt source
      rw [hcap', Option.map_some, hderive]
    · intro place hne
      rw [hcapAt, Function.update_of_ne hne]

/-- The first task has sent the notification along, and slot 5 of the second task is reserved. -/
theorem handed_over_notification : ∃ (s s' : ClientSystem) (r : Request) (target : Place),
    step RootTask.host s (.receive 101 (some 0) true r) = some s' ∧ s.kernel.capAt target = none ∧
      (s'.kernel.capAt target).isSome := by
  have hrun : ((run founding start).bind fun s => (run ((handing (s.tasks.map HeldTask.task)).take 2) s).bind fun s =>
      (s.world.slots 0).bind fun _ => s.requests.head?.map fun r => (s.world.state.pending 101,
        decide ((s.kernel.root 101).map Cap.object = some r.endpoint),
        ((r.gives s.kernel).bind s.kernel.capAt).isSome)) = some (false, true, true) := by
    decide +kernel
  obtain ⟨s₀, hfounding, hrun⟩ := Option.bind_eq_some_iff.mp hrun
  obtain ⟨s, hsending, hrun⟩ := Option.bind_eq_some_iff.mp hrun
  obtain ⟨held, hheld, hrun⟩ := Option.bind_eq_some_iff.mp hrun
  obtain ⟨r, hhead, hrun⟩ := Option.map_eq_some_iff.mp hrun
  simp only [Prod.mk.injEq, decide_eq_true_eq] at hrun
  obtain ⟨hready, hobject, hgives⟩ := hrun
  have hr := ((Reachable.refl start_initial).foldlM_guarded _ hfounding).foldlM_guarded _ hsending
  obtain ⟨x, -, -, target, s', -, hempty, hstep, hafter, -⟩ :=
    handed_over hr true hheld hready (List.mem_of_mem_head? hhead) hobject
  exact ⟨s, s', r, target, hstep, hempty, hafter ▸ hgives⟩

end ClientSystem
end Ricoq
