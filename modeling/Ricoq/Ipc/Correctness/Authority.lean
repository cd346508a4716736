import Ricoq.Ipc.Correctness.Custody

/-!
# `Ipc.Correctness.Authority` — what tasks can do with what they have

What is delegated is an endpoint or a notification that the root task has allocated, with the right to send or
to signal, so this is all a task can ever come to hold (`Supplied`). Put together with `Custody` this says
exactly what every task can name at any time (`authority_exact`).
-/

namespace Ricoq

open Sel4 Bootstrap Relation

/-! ## What the root task allocates -/

/-- The capability in a root slot is that of a notification, as it was made. -/
def Sel4.ObjectStore.IsNotification (k : ObjectStore) (slot object : Nat) : Prop :=
  (k.root slot).map Cap.unmapped = some ⟨object, .notification, .all, 0, none⟩

theorem Retains.isNotification {s s' : BootState} (hr : Retains s s') {slot object : Nat}
    (hn : s.kernel.IsNotification slot object) : s'.kernel.IsNotification slot object := by
  have hsome : (s.kernel.root slot).isSome := by
    have := congrArg Option.isSome hn
    simpa using this
  exact (hr.kept slot hsome).trans hn

/-- What is minted from a capability as it was made has the rights and the badge of the delegation. -/
theorem DelegatedCapability.Minted.eq {d : DelegatedCapability} {k : ObjectStore} {cap : Cap} {object : Nat}
    {blueprint : ObjectBlueprint} (h : d.Minted k cap)
    (hsource : (k.root d.source).map Cap.unmapped = some ⟨object, blueprint, .all, 0, none⟩) :
    cap = ⟨object, blueprint, d.rights, d.badge, none⟩ := by
  obtain ⟨⟨o, b, r, bd, m⟩, hroot, rfl⟩ := h
  rw [hroot] at hsource
  obtain ⟨rfl, rfl, rfl, rfl, -⟩ := Cap.mk.inj (Option.some.inj hsource)
  have hrights : CapRights.all.inter d.rights = d.rights := by
    simp [CapRights.inter, CapRights.all]
  show Cap.mk o b (CapRights.all.inter d.rights) d.badge none = _
  rw [hrights]

namespace Supervisor

variable {h : Host} {w w' : Supervisor}

theorem mem_notifications {i : Nat} : i ∈ w.notifications ↔ .notification i ∈ w.root.handles := by
  unfold notifications
  rw [List.mem_filterMap]
  constructor
  · rintro ⟨handle, hmem, hhandle⟩
    cases handle with
    | notification j =>
        obtain rfl := Option.some.inj hhandle
        exact hmem
    | _ => cases hhandle
  · exact fun hmem => ⟨.notification i, hmem, rfl⟩

/-- A notification that was not there has just been made. -/
theorem Intact.notification_fresh {op : SupervisorOp} {i : Nat} (hw : Intact h w)
    (hs : Supervisor.step h w op = some w') (hi : i ∈ w'.notifications) (hnew : i ∉ w.notifications) :
    ∃ object, w'.root.state.kernel.IsNotification i object := by
  rw [mem_notifications] at hi hnew
  -- the other operations return no notification, or no handle at all
  have hother : ∀ {α : Type} {y : Boot α} {keep : α → BootState → Handle} {r : RootTask},
      w.root.perform y keep = some r → (∀ a s, keep a s ≠ .notification i) → .notification i ∉ r.handles := by
    intro α y keep r hr hkeep hmem
    rcases perform_handles hr with hsame | ⟨a, s, hsame⟩
    · exact hnew (hsame ▸ hmem)
    · rw [hsame] at hmem
      rcases List.mem_append.mp hmem with hold | hlast
      · exact hnew hold
      · exact hkeep a s (List.mem_singleton.mp hlast).symm
  have hlive : ∀ {y : Control Unit}, w.perform y = some w' → w'.root.handles = w.root.handles := by
    intro y hy
    unfold perform at hy
    split at hy
    · obtain rfl := Option.some.inj hy
      rfl
    · obtain rfl := Option.some.inj hy
      rfl
    · cases hy
  unfold Supervisor.step at hs
  cases op with
  | root op =>
      obtain ⟨r, hr, rfl⟩ := Option.map_eq_some_iff.mp hs
      unfold RootTask.step at hr
      cases op with
      | allocateNotification =>
          rcases RootTask.perform_cases
            (RootTask.allocateBlueprint_leaves h hw.ordered.vacant hw.ordered.start_le .notification) hr with
            ⟨slot, s, -, ⟨-, rfl, hcreated⟩, rfl⟩ | ⟨e, s, -, -, rfl⟩
          · rcases List.mem_append.mp hi with hold | hlast
            · exact absurd hold hnew
            · obtain rfl := Handle.notification.inj (List.mem_singleton.mp hlast)
              refine ⟨w.root.state.kernel.nextObject, ?_⟩
              show (s.kernel.root w.root.state.slots.start).map Cap.unmapped = _
              rw [hcreated.root, Function.update_self]
              rfl
          · exact absurd hi hnew
      | _ => exact absurd hi (hother hr fun _ _ => nofun)
  | runs task event =>
      dsimp only at hs
      split at hs
      · split at hs
        · obtain rfl := Option.some.inj hs
          exact absurd hi hnew
        · cases hs
      · cases hs
  | _ => exact absurd (hlive hs ▸ hi) hnew

/-- What could be delegated can be delegated from then on. -/
theorem Change.delegable {op : SupervisorOp} (hc : Change h w op w') {d : DelegatedCapability}
    (hd : w.Delegable d) : w'.Delegable d := by
  rcases hd with ⟨hsource, hrest⟩ | ⟨hsource, hrest⟩
  · exact Or.inl ⟨mem_endpoints.mpr (hc.handles_subset (mem_endpoints.mp hsource)), hrest⟩
  · exact Or.inr ⟨mem_notifications.mpr (hc.handles_subset (mem_notifications.mp hsource)), hrest⟩

end Supervisor

namespace ClientSystem

variable {h : Host} {s s' : ClientSystem}

/-- The endpoints and notifications that were returned are such, and only these have been delegated. -/
structure Supplied (s : ClientSystem) : Prop where
  endpoints : ∀ i ∈ s.supervisor.endpoints, ∃ object, s.kernel.IsEndpoint i object
  notifications : ∀ i ∈ s.supervisor.notifications, ∃ object, s.kernel.IsNotification i object
  delegable : ∀ x ∈ s.tasks, ∀ d ∈ x.config.delegations, s.supervisor.Delegable d

theorem Initial.supplied (hi : Initial h s) : Supplied s := by
  have hhandles := hi.supervisor.root.handles
  constructor
  case endpoints =>
    intro i hmem
    have := Supervisor.mem_endpoints.mp hmem
    rw [hhandles] at this
    cases this
  case notifications =>
    intro i hmem
    have := Supervisor.mem_notifications.mp hmem
    rw [hhandles] at this
    cases this
  case delegable =>
    intro x hx
    have := RootTask.mem_tasks.mp hx
    rw [hhandles] at this
    cases this

theorem Supplied.supervise {op : SupervisorOp} {w : Supervisor} (hu : Supplied s) (hw : Charted h s)
    (ha : s.Orderly (.supervise op)) (hs : Supervisor.step h s.supervisor op = some w) : Supplied (s.adopt w) := by
  have hc := hw.intact.change ha.1 hs
  have hr := hc.retains hw.intact
  constructor
  case endpoints =>
    intro i hi
    rcases hc.endpoints hi with hold | hnew
    · obtain ⟨object, hobject⟩ := hu.endpoints i hold
      exact ⟨object, hr.isEndpoint hobject⟩
    · exact hnew
  case notifications =>
    intro i hi
    by_cases hold : i ∈ s.supervisor.notifications
    · obtain ⟨object, hobject⟩ := hu.notifications i hold
      exact ⟨object, hr.isNotification hobject⟩
    · exact hw.intact.notification_fresh hs hi hold
  case delegable =>
    intro x hx d hd
    by_cases hold : x ∈ s.tasks
    · exact hc.delegable (hu.delegable x hold d hd)
    · obtain rfl := Supervisor.step_created hs hx hold
      exact hc.delegable (ha.2 d hd)

theorem Supplied.step {op : ClientOp} (hu : Supplied s) (hw : Charted h s) (ha : s.Orderly op)
    (hs : ClientSystem.step h s op = some s') : Supplied s' := by
  cases moves_of_step hs with
  | supervises hw' => exact hu.supervise hw ha hw'
  | @copies endpoint slot blocking r world source target hr hobject hworld hinstalled =>
      have hroot : (s.transfer source target).kernel.root = s.kernel.root := ObjectStore.root_putCap
      constructor
      case endpoints =>
        intro i hi
        obtain ⟨object, hobject⟩ := hu.endpoints i hi
        exact ⟨object, (congrArg (Option.map Cap.unmapped) (congrFun hroot i)).trans hobject⟩
      case notifications =>
        intro i hi
        obtain ⟨object, hobject⟩ := hu.notifications i hi
        exact ⟨object, (congrArg (Option.map Cap.unmapped) (congrFun hroot i)).trans hobject⟩
      case delegable => exact hu.delegable
  | _ => exact ⟨hu.endpoints, hu.notifications, hu.delegable⟩

/-- What a task begins with is an endpoint to send to, with a badge, or a notification to signal. -/
theorem Supplied.origin (hu : Supplied s) {place : Place} {cap : Cap} (ho : s.Origin place cap) :
    ∃ x ∈ s.tasks, ∃ d ∈ x.config.delegations,
      s.kernel.find x.task.thread.tcb d.destination = some place ∧
      ((∃ object, s.kernel.IsEndpoint d.source object ∧ d.badge ≠ 0 ∧
          cap = ⟨object, .endpoint, ⟨false, true, true, false⟩, d.badge, none⟩) ∨
        ∃ object, s.kernel.IsNotification d.source object ∧
          cap = ⟨object, .notification, .writeOnly, d.badge, none⟩) := by
  obtain ⟨x, hx, d, hd, hfind, hminted⟩ := ho
  refine ⟨x, hx, d, hd, hfind, ?_⟩
  rcases hu.delegable x hx d hd with ⟨hsource, hbadge, hrights⟩ | ⟨hsource, hrights⟩
  · obtain ⟨object, hobject⟩ := hu.endpoints _ hsource
    exact Or.inl ⟨object, hobject, hbadge, hrights ▸ hminted.eq hobject⟩
  · obtain ⟨object, hobject⟩ := hu.notifications _ hsource
    exact Or.inr ⟨object, hobject, hrights ▸ hminted.eq hobject⟩

theorem supplied_reachable (hr : Reachable (step h) (Initial h) Orderly s) : Supplied s :=
  invariant_of_charted hr (fun _ hi => hi.supplied) fun _ _ _ hw hu ha hs => hu.step hw ha hs

/-! ## What tasks can name -/

/-- A capability to send to an endpoint, with a badge, or to signal a notification. -/
def Sends (cap : Cap) : Prop :=
  (cap.blueprint = .endpoint ∧ cap.rights = ⟨false, true, true, false⟩ ∧ cap.badge ≠ 0) ∨
  (cap.blueprint = .notification ∧ cap.rights = .writeOnly)

theorem Supplied.sends (hu : Supplied s) {place : Place} {cap : Cap} (ho : s.Origin place cap) : Sends cap := by
  obtain ⟨x, -, d, -, -, ⟨object, -, hbadge, rfl⟩ | ⟨object, -, rfl⟩⟩ := hu.origin ho
  · exact Or.inl ⟨rfl, rfl, hbadge⟩
  · exact Or.inr ⟨rfl, rfl⟩

/-- A task receives a capability: the root task receives a message with a slot of the task that is empty, and the
    sender of the message attached the capability. -/
structure HandsOver (s : ClientSystem) (op : ClientOp) (source target : Place) : Prop where
  receives : ∃ endpoint slot blocking r held, op = .receive endpoint (some slot) blocking r ∧ r ∈ s.requests ∧
    source ∈ r.offers s.kernel ∧ s.world.slots slot = some held ∧
    s.childPlace held.root held.reservation.slot = some target
  empty : s.kernel.capAt target = none

/-- Nothing else brings capabilities to tasks. -/
theorem transfers_step {op : ClientOp} (hs : step h s op = some s') : s'.transfers = s.transfers ∨
    ∃ source target, s.HandsOver op source target ∧ s'.transfers = (source, target) :: s.transfers := by
  cases moves_of_step hs with
  | @copies endpoint slot blocking r world source target hr hobject hworld hinstalled =>
      obtain ⟨hoffer, hempty, handle, held, rfl, hheld, hplace, -⟩ := installed_eq_some hinstalled
      exact Or.inr ⟨source, target, ⟨⟨endpoint, handle, blocking, r, held, rfl, hr, hoffer, hheld, hplace⟩, hempty⟩, rfl⟩
  | _ => exact Or.inl rfl

/-- What a thread names is what some task began with, from which copies lead to it. -/
theorem Charted.names_iff (hw : Charted h s) {y : HeldTask} (hy : y ∈ s.tasks) {cptr : Nat} {cap : Cap} :
    s.Names y.task.thread.tcb cptr cap ↔ ∃ origin place, s.Origin origin cap ∧
      ReflTransGen (CopiedTo s.transfers) origin place ∧ s.kernel.find y.task.thread.tcb cptr = some place := by
  constructor
  · rintro ⟨place, hfind, hcap⟩
    obtain ⟨origin, horigin, hchain⟩ := (hw.provenance.holds_iff (hw.mem_scope hy hfind)).mp hcap
    exact ⟨origin, place, horigin, hchain, hfind⟩
  · rintro ⟨origin, place, horigin, hchain, hfind⟩
    exact ⟨place, hfind, (hw.provenance.holds_iff (hw.mem_scope hy hfind)).mpr ⟨origin, horigin, hchain⟩⟩

/-- **What tasks can name, exactly.** However many tasks have been made, and whatever they sent and signalled and the
    root task received and supervised: a task names exactly what was delegated to some task and was handed on to it
    from there, step by step. Everything it names lets it send with a badge, or signal, and nothing else. It never
    loses a capability, and gets one only if the root task receives a message with a slot of its CSpace that is empty,
    from a task that names what arrives. -/
theorem authority_exact (hr : Reachable (step h) (Initial h) Orderly s) :
    (∀ y ∈ s.tasks, ∀ cptr cap, s.Names y.task.thread.tcb cptr cap ↔ ∃ origin place, s.Origin origin cap ∧
      ReflTransGen (CopiedTo s.transfers) origin place ∧ s.kernel.find y.task.thread.tcb cptr = some place) ∧
    (∀ y ∈ s.tasks, ∀ cptr cap, s.Names y.task.thread.tcb cptr cap → Sends cap) ∧
    (∀ op s', s.Orderly op → step h s op = some s' →
      (∀ y ∈ s.tasks, ∀ cptr cap, s.Names y.task.thread.tcb cptr cap →
        y ∈ s'.tasks ∧ s'.Names y.task.thread.tcb cptr cap) ∧
      (s'.transfers = s.transfers ∨
        ∃ source target, s.HandsOver op source target ∧ s'.transfers = (source, target) :: s.transfers)) := by
  have hw := charted_reachable hr
  have hu := supplied_reachable hr
  refine ⟨fun y hy cptr cap => hw.names_iff hy, ?_, ?_⟩
  · intro y hy cptr cap hnames
    obtain ⟨origin, place, horigin, -⟩ := (hw.names_iff hy).mp hnames
    exact hu.sends horigin
  · intro op s' ha hs
    exact ⟨fun y hy cptr cap hnames => hw.names_step ha hs hy hnames, transfers_step hs⟩

/-- The second task was delegated nothing, and names the notification it was handed. -/
theorem authority_exact_handed : ∃ (s : ClientSystem) (y : HeldTask) (cap : Cap), y ∈ s.tasks ∧
    y.config.delegations = [] ∧ s.Names y.task.thread.tcb 5 cap ∧ Sends cap ∧
    ∃ origin place, s.Origin origin cap ∧ ReflTransGen (CopiedTo s.transfers) origin place ∧
      s.kernel.find y.task.thread.tcb 5 = some place := by
  obtain ⟨s, y, place, cap, -, -, -, hs, hy, hbare, hfind, hcap, -⟩ := handed_outcome
  obtain ⟨hexact, hsends, -⟩ := authority_exact (handed_reachable hs)
  have hnames : s.Names y.task.thread.tcb 5 cap := ⟨place, hfind, hcap⟩
  exact ⟨s, y, cap, hy, hbare, hnames, hsends y hy 5 cap hnames, (hexact y hy 5 cap).mp hnames⟩

end ClientSystem
end Ricoq
