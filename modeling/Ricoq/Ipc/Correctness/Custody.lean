import Mathlib.Data.List.TakeWhile
import Ricoq.Boot.Correctness.Lifecycle
import Ricoq.Fault.Correctness.Routes
import Ricoq.Ipc.Clients
import Ricoq.Ipc.Correctness.Delivery
import Ricoq.Lib.Provenance

/-!
# `Ipc.Correctness.Custody` — what tasks hold, and where they have it from

The CSpace of a task begins with what was delegated to the task. After that the root task does not touch its
CNode, and the kernel copies a capability into it only through a receive slot: from the sender of a message,
who has it in its own CSpace, into an empty slot. So the CSpaces of all tasks together are a table that is
filled by copying (`Charted`, with `Provenance` from the library), and what a task can name once it can always
name (`Charted.names_step`).

Every step is one of nine moves (`Moves`); the invariants are proved by cases of it.
-/

namespace Ricoq

open Sel4 Bootstrap Relation

/-! ## Filling a slot of a CNode -/

section Put

variable {k : ObjectStore} {place : Place} {cap : Option Cap} {cnode : CNodeObject}

namespace Sel4.ObjectStore

theorem root_putCap : (k.putCap place cap).root = k.root := by
  unfold putCap
  cases k.objects place.1 <;> rfl

theorem nextObject_putCap : (k.putCap place cap).nextObject = k.nextObject := by
  unfold putCap
  cases k.objects place.1 <;> rfl

variable (hcnode : k.objects place.1 = .cnode cnode)
include hcnode

theorem objects_putCap : (k.putCap place cap).objects = Function.update k.objects place.1
    (.cnode { cnode with slots := Function.update cnode.slots place.2 cap }) := by
  unfold putCap
  rw [hcnode]
  rfl

/-- Other objects are left alone, and so is any that is not a CNode. -/
theorem objects_putCap_of_ne {id : Nat} (hne : ∀ cnode, k.objects id ≠ .cnode cnode) :
    (k.putCap place cap).objects id = k.objects id := by
  rw [objects_putCap hcnode, Function.update_of_ne]
  rintro rfl
  exact hne cnode hcnode

theorem capAt_putCap : (k.putCap place cap).capAt = Function.update k.capAt place cap := by
  funext q
  obtain ⟨object, slot⟩ := place
  obtain ⟨object', slot'⟩ := q
  by_cases hobject : object' = object
  · subst hobject
    have hbefore : k.capAt (object', slot') = cnode.slots slot' := by
      rw [capAt, capIn, hcnode]
    have hafter : (k.putCap (object', slot) cap).capAt (object', slot') =
        Function.update cnode.slots slot cap slot' := by
      rw [capAt, capIn, objects_putCap hcnode, Function.update_self]
    rw [hafter]
    by_cases hslot : slot' = slot
    · subst hslot
      rw [Function.update_self, Function.update_self]
    · have hne : (object', slot') ≠ (object', slot) := fun heq => hslot (Prod.mk.inj heq).2
      rw [Function.update_of_ne hslot, Function.update_of_ne hne, hbefore]
  · have hne : (object', slot') ≠ (object, slot) := fun heq => hobject (Prod.mk.inj heq).1
    rw [Function.update_of_ne hne, capAt, capIn, objects_putCap hcnode, Function.update_of_ne hobject]
    rfl

/-- CNodes stay CNodes, of the same size. -/
theorem cnode_putCap {id : Nat} {cnode' : CNodeObject} (h : k.objects id = .cnode cnode') :
    ∃ slots, (k.putCap place cap).objects id = .cnode ⟨cnode'.sizeBits, slots⟩ := by
  rw [objects_putCap hcnode]
  by_cases hid : id = place.1
  · subst hid
    obtain rfl := Object.cnode.inj (hcnode.symm.trans h)
    exact ⟨_, Function.update_self _ _ _⟩
  · exact ⟨cnode'.slots, (Function.update_of_ne hid _ _).trans h⟩

end Sel4.ObjectStore

theorem Task.hasPart_putCap {task : Task} {part : Part} {object : Nat} :
    task.HasPart (k.putCap place cap) part object ↔ task.HasPart k part object := by
  unfold Task.HasPart
  rw [ObjectStore.root_putCap]

end Put

/-! ## The CSpace of a task -/

/-- The thread of a task looks up what it names in the CNode `c`, which it addresses with full words. -/
structure HeldTask.Rooted (x : HeldTask) (k : ObjectStore) (c : Nat) : Prop where
  cnode : x.task.HasPart k .cnode c
  bits_lt : x.config.cspaceSizeBits < wordBits
  size : ∃ slots, k.objects c = .cnode ⟨x.config.cspaceSizeBits, slots⟩
  bound : ∃ t context registers, x.task.HasPart k .tcb t ∧ k.objects t = .tcb ⟨some context, registers⟩ ∧
    context.cspace = c ∧ context.guard = 0 ∧ context.guardBits = wordBits - x.config.cspaceSizeBits

namespace HeldTask.Rooted

variable {x : HeldTask} {k : ObjectStore} {c : Nat}

theorem lookupSlot (hx : x.Rooted k c) (cptr : Nat) : k.lookupSlot x.task.thread.tcb cptr =
    (ObjectStore.resolve 0 (wordBits - x.config.cspaceSizeBits) x.config.cspaceSizeBits cptr wordBits).map
      fun slot => (c, slot) := by
  obtain ⟨slots, hcnode⟩ := hx.size
  obtain ⟨t, context, registers, ⟨-, -, cap, hcap, rfl, -⟩, htcb, rfl, hguard, hbits⟩ := hx.bound
  have hat : k.tcbAt x.task.thread.tcb = .ok (cap.object, ⟨some context, registers⟩) :=
    ObjectStore.tcbAt_eq_ok.mpr ⟨cap, hcap, rfl, htcb⟩
  rw [lookupSlot_eq hat hcnode, hguard, hbits]

/-- Everything is found in the task's own CNode. -/
theorem of_find (hx : x.Rooted k c) {cptr : Nat} {place : Place}
    (hfind : k.find x.task.thread.tcb cptr = some place) : place.1 = c := by
  rw [ObjectStore.find, hx.lookupSlot] at hfind
  cases hresolve : ObjectStore.resolve 0 (wordBits - x.config.cspaceSizeBits) x.config.cspaceSizeBits cptr wordBits with
  | ok slot =>
      rw [hresolve] at hfind
      obtain rfl := Option.some.inj hfind
      rfl
  | error e =>
      rw [hresolve] at hfind
      cases hfind

theorem find_of_lt (hx : x.Rooted k c) {cptr : Nat} (hlt : cptr < 2 ^ x.config.cspaceSizeBits) :
    k.find x.task.thread.tcb cptr = some (c, cptr) := by
  rw [ObjectStore.find, hx.lookupSlot, ObjectStore.resolve_guarded (Nat.le_of_lt hx.bits_lt) hlt]
  rfl

/-- What a thread finds depends on its task alone. -/
theorem find_eq {k' : ObjectStore} (hx : x.Rooted k c) (hx' : x.Rooted k' c) (cptr : Nat) :
    k'.find x.task.thread.tcb cptr = k.find x.task.thread.tcb cptr := by
  rw [ObjectStore.find, ObjectStore.find, hx.lookupSlot, hx'.lookupSlot]

theorem putCap {place : Place} {cap : Option Cap} {cnode : CNodeObject} (hx : x.Rooted k c)
    (hcnode : k.objects place.1 = .cnode cnode) : x.Rooted (k.putCap place cap) c where
  cnode := Task.hasPart_putCap.mpr hx.cnode
  bits_lt := hx.bits_lt
  size := by
    obtain ⟨slots, hslots⟩ := hx.size
    exact ObjectStore.cnode_putCap hcnode hslots
  bound := by
    obtain ⟨t, context, registers, ht, htcb, hrest⟩ := hx.bound
    refine ⟨t, context, registers, Task.hasPart_putCap.mpr ht, ?_, hrest⟩
    rw [ObjectStore.objects_putCap_of_ne hcnode fun cnode h => nomatch htcb.symm.trans h]
    exact htcb

theorem retained {s s' : BootState} (hx : x.Rooted s.kernel c) (ha : Alive x s) (hr : Retains s s') :
    x.Rooted s'.kernel c := by
  have hlt : ∀ {part object}, x.task.HasPart s.kernel part object → object < s.kernel.nextObject :=
    fun hh => Nat.lt_of_lt_of_le (ha.numbered _ _ hh).2 ha.objects_le
  constructor
  case cnode => exact (Task.hasPart_retained hr ha.slots_le).mpr hx.cnode
  case bits_lt => exact hx.bits_lt
  case size =>
    obtain ⟨slots, hslots⟩ := hx.size
    exact ⟨slots, hr.cnodes c _ (hlt hx.cnode) hslots⟩
  case bound =>
    obtain ⟨t, context, registers, ht, htcb, hrest⟩ := hx.bound
    obtain ⟨⟨context', registers'⟩, htcb', rfl, -⟩ := hr.tcbs t _ (hlt ht) htcb
    exact ⟨t, context, registers', (Task.hasPart_retained hr ha.slots_le).mpr ht, htcb', hrest⟩

end HeldTask.Rooted

/-- A task just made is rooted in its CNode, which holds its delegations. -/
theorem Stands.rooted {h : Host} {x : HeldTask} {s : BootState} (hs : Stands x s)
    (hp : x.task.Pristine h x.config s) : ∃ c slots, x.Rooted s.kernel c ∧
      s.kernel.objects c = .cnode ⟨x.config.cspaceSizeBits, slots⟩ ∧
      CSpace.Delegated s.kernel.root x.config.delegations slots ∧
      ∀ d ∈ x.config.delegations, d.destination < 2 ^ x.config.cspaceSizeBits := by
  obtain ⟨c, v, p, b, i, t, code, hc⟩ := hs.configured
  obtain ⟨registers, hbound⟩ := hc.bound
  obtain ⟨slots, hcnode, hdelegated⟩ := hc.contents
  obtain ⟨⟨-, hbits⟩, hplace, -⟩ := CSpace.validate_eq_ok.mp hp.valid
  exact ⟨c, slots, ⟨hc.cnode, hbits, ⟨slots, hcnode⟩, t, _, _, hc.tcb, hbound, rfl, rfl, rfl⟩, hcnode, hdelegated,
    fun d hd => (hplace d hd).destination_lt⟩

/-! ## What was delegated -/

theorem Sel4.CapRights.inter_self (rights : CapRights) : rights.inter rights = rights := by
  simp [CapRights.inter]

/-- What a delegation puts into a CSpace. -/
def DelegatedCapability.Minted (d : DelegatedCapability) (k : ObjectStore) (cap : Cap) : Prop :=
  ∃ source, k.root d.source = some source ∧ cap = source.mint d.rights d.badge

namespace DelegatedCapability.Minted

variable {d : DelegatedCapability} {k : ObjectStore} {cap cap' : Cap}

theorem unique (h : d.Minted k cap) (h' : d.Minted k cap') : cap = cap' := by
  obtain ⟨source, hsource, rfl⟩ := h
  obtain ⟨source', hsource', rfl⟩ := h'
  obtain rfl := Option.some.inj (hsource.symm.trans hsource')
  rfl

/-- Where the source is mapped does not matter. -/
theorem retained {s s' : BootState} (h : d.Minted s.kernel cap) (hr : Retains s s') : d.Minted s'.kernel cap := by
  have hsome : (s.kernel.root d.source).isSome := by
    obtain ⟨source, hsource, -⟩ := h
    rw [hsource]
    rfl
  refine (exists_cap_iff (hr.kept _ hsome) ?_).mpr h
  rintro ⟨o, b, r, bd, m⟩ ⟨o', b', r', bd', m'⟩ hsame rfl
  obtain ⟨rfl, rfl, rfl, rfl, -⟩ := Cap.mk.inj hsame
  rfl

/-- A minted capability is copied as it is. -/
theorem derive_eq (h : d.Minted k cap) : cap.derive cap.rights = cap := by
  obtain ⟨source, -, rfl⟩ := h
  rw [Cap.derive, CapRights.inter_self]
  rfl

end DelegatedCapability.Minted

/-- Filling a slot of a CNode keeps the tasks as they are. -/
theorem Supervisor.Intact.putCap {h : Host} {w : Supervisor} {place : Place} {cap : Option Cap} {cnode : CNodeObject}
    (hw : Supervisor.Intact h w) (hcnode : w.root.state.kernel.objects place.1 = .cnode cnode) :
    Supervisor.Intact h (w.withLive ⟨w.root.state.kernel.putCap place cap, w.threads⟩) := by
  have hroot : (w.root.state.kernel.putCap place cap).root = w.root.state.kernel.root := ObjectStore.root_putCap
  have hnext : (w.root.state.kernel.putCap place cap).nextObject = w.root.state.kernel.nextObject :=
    ObjectStore.nextObject_putCap
  constructor
  case ordered =>
    have ho := hw.ordered
    refine ⟨ho.first, ho.stop, ho.start_le, ?_, ho.within, ho.ordered⟩
    intro i hlo hhi
    exact (congrFun hroot i).trans (ho.vacant i hlo hhi)
  case alive =>
    intro x hx
    have ha := hw.alive x hx
    constructor
    case slots_le => exact ha.slots_le
    case objects_le => exact Nat.le_trans ha.objects_le (Nat.le_of_eq hnext.symm)
    case numbered => exact fun part object hp => ha.numbered part object (Task.hasPart_putCap.mp hp)
    case distinct =>
      intro p q object hp hq
      exact ha.distinct p q object (Task.hasPart_putCap.mp hp) (Task.hasPart_putCap.mp hq)
    case code => exact (congrArg Option.isSome (congrFun hroot _)).trans ha.code
    case vspace =>
      obtain ⟨v, vs, hv, hvs⟩ := ha.vspace
      refine ⟨v, vs, Task.hasPart_putCap.mpr hv, ?_⟩
      exact (ObjectStore.objects_putCap_of_ne hcnode fun cnode hc => nomatch hvs.symm.trans hc).trans hvs
    case frames =>
      intro part hmem
      obtain ⟨object, hp⟩ := ha.frames part hmem
      exact ⟨object, Task.hasPart_putCap.mpr hp⟩
    case tcb =>
      obtain ⟨t, context, registers, ht, htcb⟩ := ha.tcb
      refine ⟨t, context, registers, Task.hasPart_putCap.mpr ht, ?_⟩
      exact (ObjectStore.objects_putCap_of_ne hcnode fun cnode hc => nomatch htcb.symm.trans hc).trans htcb
  case ranges => exact hw.ranges
  case inactive =>
    intro object hobject
    exact hw.inactive object (Nat.le_trans (Nat.le_of_eq hnext.symm) hobject)

namespace ClientSystem

variable {h : Host} {s s' : ClientSystem}

/-- What a place began with: a delegation of a task, under its destination. -/
def Origin (s : ClientSystem) (place : Place) (cap : Cap) : Prop :=
  ∃ x ∈ s.tasks, ∃ d ∈ x.config.delegations, s.kernel.find x.task.thread.tcb d.destination = some place ∧
    d.Minted s.kernel cap

/-- The slots of the CSpaces of tasks. -/
def scope (s : ClientSystem) : Set Place := {place | ∃ x ∈ s.tasks, x.task.HasPart s.kernel .cnode place.1}

/-! ## The moves -/

/-- What a step does. -/
inductive Moves (h : Host) (s : ClientSystem) : ClientOp → ClientSystem → Prop
  | supervises {op : SupervisorOp} {w : Supervisor} (hs : Supervisor.step h s.supervisor op = some w) :
      Moves h s (.supervise op) (s.adopt w)
  | works {op : Op} {world : World} (hquiet : s.Quiet op) (hs : World.step s.view op = some world) :
      Moves h s (.layer op) { s with world }
  | sends {task : Task} {cptr : Nat} {message : Outgoing} {place : Place} {cap : Cap}
      (hfind : s.kernel.find task.thread.tcb cptr = some place) (hcap : s.kernel.capAt place = some cap)
      (hkind : cap.blueprint = .endpoint) (hwrite : cap.rights.write = true) :
      Moves h s (.send task cptr message) { s with requests :=
        s.requests ++ [⟨cap.object, cap.badge, cap.rights.grant, task.thread.tcb, cptr, message⟩] }
  | refused {endpoint : Nat} {slot : Option Nat} {blocking : Bool} {r : Request} {world : World}
      (hr : r ∈ s.requests) (hobject : (s.kernel.root endpoint).map Cap.object = some r.endpoint)
      (hs : World.step s.view (receiveOp endpoint slot blocking (r.delivery s.kernel)) = some world) :
      Moves h s (.receive endpoint slot blocking r) { s with world }
  | takes {endpoint : Nat} {slot : Option Nat} {blocking : Bool} {r : Request} {world : World}
      (hr : r ∈ s.requests) (hobject : (s.kernel.root endpoint).map Cap.object = some r.endpoint)
      (hs : World.step s.view (receiveOp endpoint slot blocking (r.delivery s.kernel)) = some world)
      (hinstalled : s.installed world slot r = none) :
      Moves h s (.receive endpoint slot blocking r) { s with world, requests := s.requests.erase r }
  | copies {endpoint : Nat} {slot : Option Nat} {blocking : Bool} {r : Request} {world : World}
      {source target : Place} (hr : r ∈ s.requests)
      (hobject : (s.kernel.root endpoint).map Cap.object = some r.endpoint)
      (hs : World.step s.view (receiveOp endpoint slot blocking (r.delivery s.kernel)) = some world)
      (hinstalled : s.installed world slot r = some (source, target)) :
      Moves h s (.receive endpoint slot blocking r)
        (ClientSystem.transfer { s with world, requests := s.requests.erase r } source target)
  | signals {task : Task} {cptr : Nat} {place : Place} {cap : Cap}
      (hfind : s.kernel.find task.thread.tcb cptr = some place) (hcap : s.kernel.capAt place = some cap)
      (hkind : cap.blueprint = .notification) :
      Moves h s (.signal task cptr) { s with
        words := s.words.signal cap.object cap.badge
        signals := .signalled cap.object cap.badge (some (task.thread.tcb, cptr)) :: s.signals }
  | signalsOwn {notification : Nat} {cap : Cap} (hcap : s.kernel.root notification = some cap) :
      Moves h s (.signalOwn notification) { s with
        words := s.words.signal cap.object 0
        signals := .signalled cap.object 0 none :: s.signals }
  | looks {op : ClientOp} {notification : Nat} {cap : Cap} (hop : op = .poll notification ∨ op = .wait notification)
      (hcap : s.kernel.root notification = some cap) :
      Moves h s op (s.observe cap.object (Notification.poll s.words cap.object))

theorem moves_of_step {op : ClientOp} (hs : step h s op = some s') : Moves h s op s' := by
  unfold step at hs
  cases op with
  | supervise op =>
      obtain ⟨w, hw, rfl⟩ := Option.map_eq_some_iff.mp hs
      exact .supervises hw
  | layer op =>
      dsimp only at hs
      by_cases hquiet : s.Quiet op
      · rw [if_pos hquiet] at hs
        obtain ⟨world, hworld, rfl⟩ := Option.map_eq_some_iff.mp hs
        exact .works hquiet hworld
      · rw [if_neg hquiet] at hs
        cases hs
  | send task cptr message =>
      obtain ⟨cap, hcap, hrest⟩ := Option.bind_eq_some_iff.mp hs
      obtain ⟨place, hfind, hcap⟩ := Option.bind_eq_some_iff.mp hcap
      by_cases hkind : cap.blueprint = .endpoint ∧ cap.rights.write
      · rw [if_pos hkind] at hrest
        obtain rfl := Option.some.inj hrest
        exact .sends hfind hcap hkind.1 hkind.2
      · rw [if_neg hkind] at hrest
        cases hrest
  | receive endpoint slot blocking r =>
      obtain ⟨cap, hcap, hrest⟩ := Option.bind_eq_some_iff.mp hs
      by_cases hr : r ∈ s.requests ∧ r.endpoint = cap.object
      · rw [if_pos hr] at hrest
        have hobject : (s.kernel.root endpoint).map Cap.object = some r.endpoint := by
          rw [hcap, hr.2]
          rfl
        obtain ⟨world, hworld, hrest⟩ := Option.bind_eq_some_iff.mp hrest
        by_cases hpending : s.world.state.pending endpoint = true
        · rw [if_pos hpending] at hrest
          obtain rfl := Option.some.inj hrest
          exact .refused hr.1 hobject hworld
        · rw [if_neg hpending] at hrest
          cases hinstalled : s.installed world slot r with
          | none =>
              simp only [hinstalled] at hrest
              obtain rfl := Option.some.inj hrest
              exact .takes hr.1 hobject hworld hinstalled
          | some move =>
              simp only [hinstalled] at hrest
              obtain rfl := Option.some.inj hrest
              exact .copies hr.1 hobject hworld hinstalled
      · rw [if_neg hr] at hrest
        cases hrest
  | signal task cptr =>
      obtain ⟨cap, hcap, hrest⟩ := Option.bind_eq_some_iff.mp hs
      obtain ⟨place, hfind, hcap⟩ := Option.bind_eq_some_iff.mp hcap
      by_cases hkind : cap.blueprint = .notification ∧ cap.rights.write
      · rw [if_pos hkind] at hrest
        obtain rfl := Option.some.inj hrest
        exact .signals hfind hcap hkind.1
      · rw [if_neg hkind] at hrest
        cases hrest
  | signalOwn notification =>
      obtain ⟨cap, hcap, hrest⟩ := Option.bind_eq_some_iff.mp hs
      obtain rfl := Option.some.inj hrest
      exact .signalsOwn hcap
  | poll notification =>
      obtain ⟨cap, hcap, hrest⟩ := Option.bind_eq_some_iff.mp hs
      obtain rfl := Option.some.inj hrest
      exact .looks (Or.inl rfl) hcap
  | wait notification =>
      obtain ⟨cap, hcap, hrest⟩ := Option.bind_eq_some_iff.mp hs
      obtain ⟨look, hlook, hrest⟩ := Option.bind_eq_some_iff.mp hrest
      obtain rfl := Option.some.inj hrest
      obtain ⟨⟨raw, words⟩, hwait, rfl⟩ := Option.map_eq_some_iff.mp hlook
      -- once there was a signal, waiting is polling
      unfold Signals.wait at hwait
      by_cases hsome : (s.words cap.object).isSome
      · rw [if_pos hsome] at hwait
        obtain ⟨rfl, rfl⟩ := Prod.mk.inj (Option.some.inj hwait)
        exact .looks (Or.inr rfl) hcap
      · rw [if_neg hsome] at hwait
        cases hwait

/-! ## The invariant -/

/-- Every task is rooted in its CNode and has what was delegated to it, and what is in the CSpaces comes from
    delegations and transfers. -/
structure Charted (h : Host) (s : ClientSystem) : Prop where
  intact : Supervisor.Intact h s.supervisor
  rooted : ∀ x ∈ s.tasks, ∃ c, x.Rooted s.kernel c
  minted : ∀ x ∈ s.tasks, ∀ d ∈ x.config.delegations,
    d.destination < 2 ^ x.config.cspaceSizeBits ∧ ∃ cap, d.Minted s.kernel cap
  provenance : Provenance s.Origin s.transfers s.kernel.capAt s.scope
  senders : ∀ r ∈ s.requests, ∃ y ∈ s.tasks, y.task.thread.tcb = r.tcb

theorem Initial.charted (hi : Initial h s) : Charted h s := by
  have htasks : s.tasks = [] := by
    unfold tasks Supervisor.tasks RootTask.tasks
    rw [hi.supervisor.root.handles]
    rfl
  have hscope : s.scope = ∅ := by
    apply Set.eq_empty_of_forall_notMem
    rintro place ⟨x, hx, -⟩
    rw [htasks] at hx
    cases hx
  constructor
  case intact => exact hi.supervisor.intact
  case rooted =>
    rw [htasks]
    nofun
  case minted =>
    rw [htasks]
    nofun
  case provenance =>
    rw [hi.transfers, hscope]
    apply Provenance.empty
    rintro place cap ⟨x, hx, -⟩
    rw [htasks] at hx
    cases hx
  case senders =>
    rw [hi.requests]
    nofun

namespace Charted

variable {place : Place}

/-- The slots of the CSpaces of tasks are those of CNodes. -/
theorem cnode_of_scope (hw : Charted h s) (hp : place ∈ s.scope) : ∃ x ∈ s.tasks, ∃ cnode,
    x.Rooted s.kernel place.1 ∧ s.kernel.objects place.1 = .cnode cnode ∧
      place.1 < s.kernel.nextObject := by
  obtain ⟨x, hx, hpart⟩ := hp
  obtain ⟨c, hrooted⟩ := hw.rooted x hx
  obtain rfl := hrooted.cnode.unique hpart
  obtain ⟨slots, hslots⟩ := hrooted.size
  have halive := hw.intact.alive x hx
  exact ⟨x, hx, _, hrooted, hslots, Nat.lt_of_lt_of_le (halive.numbered _ _ hpart).2 halive.objects_le⟩

/-- What a task names is in its CSpace. -/
theorem mem_scope (hw : Charted h s) {x : HeldTask} (hx : x ∈ s.tasks) {cptr : Nat}
    (hfind : s.kernel.find x.task.thread.tcb cptr = some place) : place ∈ s.scope := by
  obtain ⟨c, hrooted⟩ := hw.rooted x hx
  obtain rfl := hrooted.of_find hfind
  exact ⟨x, hx, hrooted.cnode⟩

/-! ### Operations of the root task -/

section Supervise

variable {op : SupervisorOp} {w : Supervisor} (hw : Charted h s) (ha : s.supervisor.Owned op)
  (hs : Supervisor.step h s.supervisor op = some w)
include hw ha hs

theorem retains : Retains s.supervisor.root.state w.root.state := (hw.intact.change ha hs).retains hw.intact

theorem rooted_supervise {x : HeldTask} (hx : x ∈ s.tasks) {c : Nat} (hroot : x.Rooted s.kernel c) :
    x.Rooted w.root.state.kernel c :=
  hroot.retained (hw.intact.alive x hx) (hw.retains ha hs)

theorem find_supervise {x : HeldTask} (hx : x ∈ s.tasks) (cptr : Nat) :
    w.root.state.kernel.find x.task.thread.tcb cptr = s.kernel.find x.task.thread.tcb cptr := by
  obtain ⟨c, hroot⟩ := hw.rooted x hx
  exact hroot.find_eq (hw.rooted_supervise ha hs hx hroot) cptr

theorem capAt_supervise (hp : place ∈ s.scope) : w.root.state.kernel.capAt place = s.kernel.capAt place := by
  obtain ⟨x, hx, cnode, -, hcnode, hlt⟩ := hw.cnode_of_scope hp
  rw [ObjectStore.capAt, ObjectStore.capAt, ObjectStore.capIn, ObjectStore.capIn, hcnode,
    (hw.retains ha hs).cnodes _ _ hlt hcnode]

/-- A task that was not there has just been made. -/
theorem rooted_fresh {x : HeldTask} (hx : x ∈ w.tasks) (hnew : x ∉ s.tasks) :
    ∃ c slots, x.Rooted w.root.state.kernel c ∧
      w.root.state.kernel.objects c = .cnode ⟨x.config.cspaceSizeBits, slots⟩ ∧
      CSpace.Delegated w.root.state.kernel.root x.config.delegations slots ∧
      ∀ d ∈ x.config.delegations, d.destination < 2 ^ x.config.cspaceSizeBits := by
  rcases (hw.intact.change ha hs).tasks with hsame | ⟨y, hsnoc, ⟨hstands, -, hpristine⟩, -⟩
  · rw [hsame] at hx
    exact absurd hx hnew
  · rw [hsnoc] at hx
    rcases List.mem_append.mp hx with hmem | hlast
    · exact absurd hmem hnew
    · obtain rfl := List.mem_singleton.mp hlast
      exact hstands.rooted hpristine

/-- One operation of the root task: what was there stays, and a new task has its delegations. -/
theorem supervise : Charted h (s.adopt w) := by
  have hr := hw.retains ha hs
  have hold : ∀ x ∈ s.tasks, x ∈ w.tasks := fun x hx => (hw.intact.change ha hs).mem_tasks hx
  have hpart : ∀ x ∈ s.tasks, ∀ part object, x.task.HasPart w.root.state.kernel part object ↔
      x.task.HasPart s.kernel part object :=
    fun x hx _ _ => Task.hasPart_retained hr (hw.intact.alive x hx).slots_le
  constructor
  case intact => exact hw.intact.step ha hs
  case rooted =>
    intro x hx
    by_cases hmem : x ∈ s.tasks
    · obtain ⟨c, hroot⟩ := hw.rooted x hmem
      exact ⟨c, hw.rooted_supervise ha hs hmem hroot⟩
    · obtain ⟨c, slots, hroot, -⟩ := hw.rooted_fresh ha hs hx hmem
      exact ⟨c, hroot⟩
  case minted =>
    intro x hx d hd
    by_cases hmem : x ∈ s.tasks
    · obtain ⟨hlt, cap, hcap⟩ := hw.minted x hmem d hd
      exact ⟨hlt, cap, hcap.retained hr⟩
    · obtain ⟨c, slots, -, -, hdelegated, hplace⟩ := hw.rooted_fresh ha hs hx hmem
      obtain ⟨source, hsource, -⟩ := hdelegated.installed d hd
      exact ⟨hplace d hd, _, source, hsource, rfl⟩
  case provenance =>
    apply hw.provenance.extend
    case hscope =>
      rintro place ⟨x, hx, hp⟩
      exact ⟨x, hold x hx, (hpart x hx _ _).mpr hp⟩
    case hsame => exact fun place hp => hw.capAt_supervise ha hs hp
    case hkept =>
      rintro place cap ⟨x, hx, d, hd, hfound, hcap⟩
      exact ⟨x, hold x hx, d, hd, (hw.find_supervise ha hs hx _).trans hfound, hcap.retained hr⟩
    case hbegins =>
      rintro place cap ⟨x, hx, d, hd, hfound, hcap⟩
      by_cases hmem : x ∈ s.tasks
      · obtain ⟨-, cap', hcap'⟩ := hw.minted x hmem d hd
        obtain rfl := hcap.unique (hcap'.retained hr)
        have hfound' : s.kernel.find x.task.thread.tcb d.destination = some place :=
          (hw.find_supervise ha hs hmem _).symm.trans hfound
        obtain ⟨hscope, hat⟩ := hw.provenance.begins place cap ⟨x, hmem, d, hd, hfound', hcap'⟩
        obtain ⟨y, hy, hp⟩ := hscope
        exact ⟨⟨y, hold y hy, (hpart y hy _ _).mpr hp⟩, (hw.capAt_supervise ha hs ⟨y, hy, hp⟩).trans hat⟩
      · obtain ⟨c, slots, hroot, hcnode, hdelegated, hplace⟩ := hw.rooted_fresh ha hs hx hmem
        obtain rfl := Option.some.inj (hfound.symm.trans (hroot.find_of_lt (hplace d hd)))
        obtain ⟨source, hsource, hslot⟩ := hdelegated.installed d hd
        obtain rfl := hcap.unique ⟨source, hsource, rfl⟩
        refine ⟨⟨x, hx, hroot.cnode⟩, ?_⟩
        show w.root.state.kernel.capIn c d.destination = _
        rw [ObjectStore.capIn, hcnode]
        exact hslot
    case hnew =>
      rintro ⟨object, i⟩ ⟨x, hx, hp⟩ hout cap hcap
      have hmem : x ∉ s.tasks := fun hmem => hout ⟨x, hmem, (hpart x hmem _ _).mp hp⟩
      obtain ⟨c, slots, hroot, hcnode, hdelegated, hplace⟩ := hw.rooted_fresh ha hs hx hmem
      obtain rfl : c = object := hroot.cnode.unique hp
      have hslot : slots i = some cap := by
        have hat : w.root.state.kernel.capIn c i = some cap := hcap
        rw [ObjectStore.capIn, hcnode] at hat
        exact hat
      -- what is there was delegated
      have hdestination : ∃ d ∈ x.config.delegations, d.destination = i := by
        by_contra hno
        have hnone := hdelegated.nothing_else i fun d hd heq => hno ⟨d, hd, heq⟩
        cases hnone.symm.trans hslot
      obtain ⟨d, hd, rfl⟩ := hdestination
      obtain ⟨source, hsource, hinstalled⟩ := hdelegated.installed d hd
      obtain rfl := Option.some.inj (hslot.symm.trans hinstalled)
      exact ⟨x, hx, d, hd, hroot.find_of_lt (hplace d hd), source, hsource, rfl⟩
  case senders =>
    intro r hmem
    obtain ⟨y, hy, htcb⟩ := hw.senders r hmem
    exact ⟨y, hold y hy, htcb⟩

end Supervise

/-! ### Transfers -/

end Charted

/-- What comes with a message is found by its sender. -/
theorem mem_offers {r : Request} {k : ObjectStore} {place : Place} (hmem : place ∈ r.offers k) :
    (∃ cptr, k.find r.tcb cptr = some place) ∧ (k.capAt place).isSome := by
  unfold Request.offers at hmem
  by_cases hgrant : r.grant = true
  · rw [if_pos hgrant] at hmem
    unfold ObjectStore.attached at hmem
    dsimp only at hmem
    split at hmem
    · obtain ⟨cptr, -, hfind⟩ := List.mem_filterMap.mp (List.takeWhile_subset _ hmem)
      have hsome := List.mem_takeWhile_imp (p := fun place => (k.capAt place).isSome) hmem
      exact ⟨⟨cptr, hfind⟩, hsome⟩
    · cases hmem
  · rw [if_neg hgrant] at hmem
    cases hmem

theorem childPlace_eq_some {root index : Nat} {place : Place} (hplace : s.childPlace root index = some place) :
    ∃ x ∈ s.tasks, x.task.cspace.root = root ∧ index < 2 ^ x.task.cspace.sizeBits ∧
      s.kernel.lookupTargetSlot root index x.task.cspace.sizeBits = .ok place := by
  obtain ⟨x, hx, hrest⟩ := Option.bind_eq_some_iff.mp hplace
  have hroot : x.task.cspace.root = root := by simpa using List.find?_some hx
  by_cases hlt : index < 2 ^ x.task.cspace.sizeBits
  · rw [if_pos hlt] at hrest
    refine ⟨x, List.mem_of_find?_eq_some hx, hroot, hlt, ?_⟩
    cases hlookup : s.kernel.lookupTargetSlot root index x.task.cspace.sizeBits with
    | ok place' =>
        rw [hlookup] at hrest
        obtain rfl := Option.some.inj hrest
        rfl
    | error e =>
        rw [hlookup] at hrest
        cases hrest
  · rw [if_neg hlt] at hrest
    cases hrest

/-- A capability that was copied was offered, and its new place was an empty slot of a CSpace. -/
theorem installed_eq_some {world : World} {slot : Option Nat} {r : Request} {source target : Place}
    (hinstalled : s.installed world slot r = some (source, target)) :
    source ∈ r.offers s.kernel ∧ s.kernel.capAt target = none ∧
      ∃ handle receiveSlot, slot = some handle ∧ s.world.slots handle = some receiveSlot ∧
        s.childPlace receiveSlot.root receiveSlot.reservation.slot = some target ∧
        world.state.kernel.children receiveSlot.root receiveSlot.reservation.slot ≠ none := by
  obtain ⟨handle, rfl, hrest⟩ := Option.bind_eq_some_iff.mp hinstalled
  obtain ⟨receiveSlot, hslot, hrest⟩ := Option.bind_eq_some_iff.mp hrest
  obtain ⟨target', htarget, hrest⟩ := Option.bind_eq_some_iff.mp hrest
  by_cases hempty : (s.kernel.capAt target').isNone
  · rw [if_pos hempty] at hrest
    obtain ⟨position, hposition, hrest⟩ := Option.bind_eq_some_iff.mp hrest
    obtain ⟨source', hsource, hpair⟩ := Option.bind_eq_some_iff.mp hrest
    obtain ⟨rfl, rfl⟩ := Prod.mk.inj (Option.some.inj hpair)
    refine ⟨List.mem_of_getElem? hsource, Option.isNone_iff_eq_none.mp hempty, handle, receiveSlot, rfl, hslot,
      htarget, ?_⟩
    rw [hposition]
    exact Option.some_ne_none position
  · rw [if_neg hempty] at hrest
    cases hrest

namespace Charted

theorem copied (hw : Charted h s) {world : World} {slot : Option Nat} {r : Request} {source target : Place}
    (hr : r ∈ s.requests) (hinstalled : s.installed world slot r = some (source, target)) :
    ∃ cap cnode, source ∈ s.scope ∧ target ∈ s.scope ∧ s.kernel.capAt source = some cap ∧
      s.kernel.capAt target = none ∧ s.kernel.objects target.1 = .cnode cnode ∧
      cap.derive cap.rights = cap := by
  obtain ⟨hoffer, hempty, handle, receiveSlot, -, -, hplace, -⟩ := installed_eq_some hinstalled
  obtain ⟨⟨cptr, hfind⟩, hsome⟩ := mem_offers hoffer
  obtain ⟨cap, hcap⟩ := Option.isSome_iff_exists.mp hsome
  obtain ⟨y, hy, htcb⟩ := hw.senders r hr
  have hsource : source ∈ s.scope := hw.mem_scope hy (htcb ▸ hfind)
  have htarget : target ∈ s.scope := by
    obtain ⟨x, hx, hroot, -, hlookup⟩ := childPlace_eq_some hplace
    obtain ⟨⟨object, cnode⟩, hat, hrest⟩ := except_bind_eq_ok.mp hlookup
    obtain ⟨index, -, hpair⟩ := except_bind_eq_ok.mp hrest
    obtain rfl := Except.ok.inj hpair
    obtain ⟨rootCap, hrootCap, rfl, -⟩ := ObjectStore.cnodeAt_eq_ok.mp hat
    obtain ⟨c, hrooted⟩ := hw.rooted x hx
    obtain ⟨hlo, hhi, cap', hcap', hobject, hfits⟩ := hrooted.cnode
    have hslot : s.kernel.root (x.task.slot .cnode) = some rootCap := by
      show s.kernel.root x.task.cspace.root = some rootCap
      rw [hroot]
      exact hrootCap
    exact ⟨x, hx, hlo, hhi, rootCap, hslot, rfl, Option.some.inj (hcap'.symm.trans hslot) ▸ hfits⟩
  obtain ⟨-, -, cnode, -, hcnode, -⟩ := hw.cnode_of_scope htarget
  refine ⟨cap, cnode, hsource, htarget, hcap, hempty, hcnode, ?_⟩
  obtain ⟨p, ⟨x, hx, d, hd, -, hminted⟩, -⟩ := hw.provenance.traced source hsource cap hcap
  exact hminted.derive_eq

section Transfer

variable (hw : Charted h s) {source target : Place} {cnode : CNodeObject}
  (hcnode : s.kernel.objects target.1 = .cnode cnode)
include hw hcnode

theorem find_transfer {x : HeldTask} (hx : x ∈ s.tasks) (cptr : Nat) :
    (s.transfer source target).kernel.find x.task.thread.tcb cptr = s.kernel.find x.task.thread.tcb cptr := by
  obtain ⟨c, hroot⟩ := hw.rooted x hx
  exact hroot.find_eq (hroot.putCap hcnode) cptr

omit hw in
theorem capAt_transfer : (s.transfer source target).kernel.capAt = Function.update s.kernel.capAt target
    ((s.kernel.capAt source).map fun cap => cap.derive cap.rights) := ObjectStore.capAt_putCap hcnode

/-- One copy. -/
theorem transfer {cap : Cap} (hsource : source ∈ s.scope) (htarget : target ∈ s.scope)
    (hcap : s.kernel.capAt source = some cap) (hempty : s.kernel.capAt target = none)
    (hderive : cap.derive cap.rights = cap) : Charted h (s.transfer source target) := by
  let k' := (s.transfer source target).kernel
  have hroot : k'.root = s.kernel.root := ObjectStore.root_putCap
  have hminted : ∀ d cap, DelegatedCapability.Minted d k' cap ↔ d.Minted s.kernel cap := by
    intro d cap
    rw [DelegatedCapability.Minted, DelegatedCapability.Minted, hroot]
  constructor
  case intact => exact hw.intact.putCap hcnode
  case rooted =>
    intro x hx
    obtain ⟨c, hroot⟩ := hw.rooted x hx
    exact ⟨c, hroot.putCap hcnode⟩
  case minted =>
    intro x hx d hd
    obtain ⟨hlt, cap, hcap⟩ := hw.minted x hx d hd
    exact ⟨hlt, cap, (hminted d cap).mpr hcap⟩
  case provenance =>
    have horigin : (s.transfer source target).Origin = s.Origin := by
      funext place cap
      apply propext
      constructor
      · rintro ⟨x, hx, d, hd, hfound, hcap⟩
        exact ⟨x, hx, d, hd, (hw.find_transfer hcnode hx _).symm.trans hfound, (hminted d cap).mp hcap⟩
      · rintro ⟨x, hx, d, hd, hfound, hcap⟩
        exact ⟨x, hx, d, hd, (hw.find_transfer hcnode hx _).trans hfound, (hminted d cap).mpr hcap⟩
    have hscope : (s.transfer source target).scope = s.scope := by
      ext place
      show (∃ x ∈ s.tasks, x.task.HasPart k' .cnode place.1) ↔ ∃ x ∈ s.tasks, x.task.HasPart s.kernel .cnode place.1
      exact exists_congr fun x => and_congr_right fun _ => Task.hasPart_putCap
    have htable : (s.transfer source target).kernel.capAt = Function.update s.kernel.capAt target (some cap) := by
      rw [capAt_transfer hcnode, hcap, Option.map_some, hderive]
    rw [horigin, hscope, htable]
    exact hw.provenance.copy hsource htarget hcap hempty
  case senders => exact hw.senders

end Transfer

/-- **Every step keeps the chart.** -/
theorem step {op : ClientOp} (hw : Charted h s) (ha : s.Orderly op) (hs : ClientSystem.step h s op = some s') :
    Charted h s' := by
  cases moves_of_step hs with
  | supervises hw' => exact hw.supervise ha.1 hw'
  | @sends task cptr message place cap hfind hcap hkind hwrite =>
      refine ⟨hw.intact, hw.rooted, hw.minted, hw.provenance, ?_⟩
      intro r hr
      rcases List.mem_append.mp hr with hold | hlast
      · exact hw.senders r hold
      · obtain rfl := List.mem_singleton.mp hlast
        obtain ⟨y, hy, htask⟩ := List.mem_map.mp ha
        exact ⟨y, hy, htask ▸ rfl⟩
  | takes hr hobject hworld hinstalled =>
      exact ⟨hw.intact, hw.rooted, hw.minted, hw.provenance, fun r hr => hw.senders r (List.mem_of_mem_erase hr)⟩
  | @copies endpoint slot blocking r world source target hr hobject hworld hinstalled =>
      obtain ⟨cap, cnode, hsource, htarget, hcap, hempty, hcnode, hderive⟩ := hw.copied hr hinstalled
      refine Charted.transfer ?_ hcnode hsource htarget hcap hempty hderive
      exact ⟨hw.intact, hw.rooted, hw.minted, hw.provenance, fun r hr => hw.senders r (List.mem_of_mem_erase hr)⟩
  | _ => exact ⟨hw.intact, hw.rooted, hw.minted, hw.provenance, hw.senders⟩

end Charted

theorem charted_reachable (hr : Reachable (step h) (Initial h) Orderly s) : Charted h s :=
  hr.invariant (fun _ hi => hi.charted) fun _ _ _ hw ha hs => hw.step ha hs

/-- What holds initially, and is kept by every step from a charted system, holds in every run. -/
theorem invariant_of_charted {I : ClientSystem → Prop} (hr : Reachable (step h) (Initial h) Orderly s)
    (h0 : ∀ s, Initial h s → I s)
    (hstep : ∀ s op s', Charted h s → I s → s.Orderly op → step h s op = some s' → I s') : I s := by
  have hboth := hr.invariant (I := fun s => Charted h s ∧ I s) (fun s hi => ⟨hi.charted, h0 s hi⟩)
    fun s op s' ⟨hw, hi⟩ ha hs => ⟨hw.step ha hs, hstep s op s' hw hi ha hs⟩
  exact hboth.2

/-! ## Capabilities stay -/

/-- The thread behind a TCB slot names a capability with a CPtr. -/
def Names (s : ClientSystem) (tcb cptr : Nat) (cap : Cap) : Prop :=
  ∃ place, s.kernel.find tcb cptr = some place ∧ s.kernel.capAt place = some cap

/-- What a task can name once it can name from then on, and it stays a task. -/
theorem Charted.names_step {op : ClientOp} {y : HeldTask} {cptr : Nat} {cap : Cap} (hw : Charted h s)
    (ha : s.Orderly op) (hs : ClientSystem.step h s op = some s') (hy : y ∈ s.tasks)
    (hnames : s.Names y.task.thread.tcb cptr cap) : y ∈ s'.tasks ∧ s'.Names y.task.thread.tcb cptr cap := by
  obtain ⟨place, hfind, hcap⟩ := hnames
  cases moves_of_step hs with
  | supervises hw' =>
      refine ⟨(hw.intact.change ha.1 hw').mem_tasks hy, place, ?_, ?_⟩
      · exact (hw.find_supervise ha.1 hw' hy cptr).trans hfind
      · exact (hw.capAt_supervise ha.1 hw' (hw.mem_scope hy hfind)).trans hcap
  | @copies endpoint slot blocking r world source target hr hobject hworld hinstalled =>
      obtain ⟨-, cnode, -, -, -, hempty, hcnode, -⟩ := hw.copied hr hinstalled
      have hfind' : (s.transfer source target).kernel.find y.task.thread.tcb cptr = some place :=
        (hw.find_transfer hcnode hy cptr).trans hfind
      refine ⟨hy, place, hfind', ?_⟩
      -- the new place was empty, so it is another one
      have hne : place ≠ target := by
        rintro rfl
        cases hempty.symm.trans hcap
      have hat : (s.transfer source target).kernel.capAt place = s.kernel.capAt place := by
        rw [capAt_transfer hcnode, Function.update_of_ne hne]
      exact hat.trans hcap
  | _ => exact ⟨hy, place, hfind, hcap⟩

end ClientSystem
end Ricoq
