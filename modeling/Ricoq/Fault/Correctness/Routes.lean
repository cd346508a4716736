import Ricoq.Boot.Correctness.Lifecycle
import Ricoq.Boot.Correctness.Addressing
import Ricoq.Fault.Handling

/-!
# `Fault.Correctness.Routes` — where the faults of a task go

The thread of a task finds in its CSpace, under the fault endpoint it was configured with, the capability that
was minted there for its fault route; without a route it finds the null slot, which is empty. The root task
does not touch the CNode of a task again, so this is so for as long as there is the task.
-/

namespace Ricoq

open Sel4 Bootstrap

/-- The capability in a root slot is that of an endpoint, as it was made. -/
def Sel4.ObjectStore.IsEndpoint (k : ObjectStore) (slot object : Nat) : Prop :=
  (k.root slot).map Cap.unmapped = some ⟨object, .endpoint, .all, 0, none⟩

/-- What the faults of a task are sent with, by its configuration. -/
def HeldTask.FaultCap (x : HeldTask) (k : ObjectStore) : Option Cap → Prop
  | none     => x.config.faultRoute = none
  | some cap => ∃ route object, x.config.faultRoute = some route ∧
      k.IsEndpoint route.delegation.source object ∧ route.delegation.badge ≠ 0 ∧
      cap = ⟨object, .endpoint, ⟨false, true, true, false⟩, route.delegation.badge, none⟩

/-- The thread of a task finds this capability under its fault endpoint. -/
structure HeldTask.Reports (x : HeldTask) (s : BootState) (cap : Option Cap) : Prop where
  configured : x.FaultCap s.kernel cap
  found : ∃ t context registers sizeBits slots slot, x.task.HasPart s.kernel .tcb t ∧
    s.kernel.objects t = .tcb ⟨some context, registers⟩ ∧ context.cspace < s.kernel.nextObject ∧
    s.kernel.objects context.cspace = .cnode ⟨sizeBits, slots⟩ ∧
    ObjectStore.resolve context.guard context.guardBits sizeBits context.faultEndpoint wordBits = .ok slot ∧
    slots slot = cap

variable {x : HeldTask} {s s' : BootState} {cap : Option Cap}

theorem Retains.isEndpoint (hr : Retains s s') {slot object : Nat} (he : s.kernel.IsEndpoint slot object) :
    s'.kernel.IsEndpoint slot object := by
  have hsome : (s.kernel.root slot).isSome := by
    have := congrArg Option.isSome he
    simpa using this
  exact (hr.kept slot hsome).trans he

theorem HeldTask.Reports.mono (hx : x.Reports s cap) (ha : Alive x s) (hr : Retains s s') : x.Reports s' cap := by
  constructor
  case configured =>
    cases cap with
    | none => exact hx.configured
    | some cap =>
        obtain ⟨route, object, hroute, hendpoint, hrest⟩ := hx.configured
        exact ⟨route, object, hroute, hr.isEndpoint hendpoint, hrest⟩
  case found =>
    obtain ⟨t, context, registers, sizeBits, slots, slot, ht, htcb, hlt, hcnode, hresolve, hslot⟩ := hx.found
    have hlt' : t < s.kernel.nextObject := Nat.lt_of_lt_of_le (ha.numbered _ _ ht).2 ha.objects_le
    obtain ⟨⟨context', registers'⟩, htcb', rfl, -⟩ := hr.tcbs t _ hlt' htcb
    refine ⟨t, context, registers', sizeBits, slots, slot, ?_, htcb', ?_, hr.cnodes _ _ hlt hcnode, hresolve, hslot⟩
    · exact (Task.hasPart_retained hr ha.slots_le).mpr ht
    · exact Nat.lt_of_lt_of_le hlt hr.nextObject_le

/-- The kernel sends the faults of a task with this capability. -/
theorem HeldTask.Reports.faultHandler (hx : x.Reports s cap) :
    s.kernel.faultHandler x.task.thread.tcb = cap.bind Cap.faultTarget := by
  obtain ⟨t, context, registers, sizeBits, slots, slot, ht, htcb, -, hcnode, hresolve, hslot⟩ := hx.found
  obtain ⟨-, -, tcap, htcap, rfl, -⟩ := ht
  have hat : s.kernel.tcbAt x.task.thread.tcb = .ok (tcap.object, ⟨some context, registers⟩) :=
    ObjectStore.tcbAt_eq_ok.mpr ⟨tcap, htcap, rfl, htcb⟩
  have hlookup : s.kernel.lookupSlot x.task.thread.tcb context.faultEndpoint = .ok (context.cspace, slot) := by
    refine except_bind_eq_ok.mpr ⟨_, hat, ?_⟩
    simp only [hcnode]
    exact except_bind_eq_ok.mpr ⟨slot, hresolve, rfl⟩
  have hin : s.kernel.capIn context.cspace slot = cap := by
    rw [ObjectStore.capIn, hcnode]
    exact hslot
  simp only [ObjectStore.faultHandler, hat, hlookup, hin]

/-- Resolving an index below the size of a CNode whose guard fills the rest of the word. -/
theorem resolve_of_lt {sizeBits index : Nat} (hbits : sizeBits < wordBits) (hlt : index < 2 ^ sizeBits) :
    ObjectStore.resolve 0 (wordBits - sizeBits) sizeBits index wordBits = .ok index := by
  have hdepth : wordBits = wordBits - sizeBits + sizeBits := by omega
  have hzero : index / 2 ^ sizeBits % 2 ^ (wordBits - sizeBits) = 0 := by
    rw [Nat.div_eq_of_lt hlt, Nat.zero_mod]
  rw [ObjectStore.resolve, if_pos ⟨hdepth, hzero⟩, Nat.mod_eq_of_lt hlt]

/-- A task just made reports its faults as configured. -/
theorem Stands.reports {h : Host} (hs : Stands x s) (hp : x.task.Pristine h x.config s)
    (hroute : ∀ route ∈ x.config.faultRoute, route.delegation.badge ≠ 0 ∧
      route.delegation.rights = ⟨false, true, true, false⟩ ∧
      ∃ object, s.kernel.IsEndpoint route.delegation.source object) : ∃ cap, x.Reports s cap := by
  obtain ⟨c, v, p, b, i, t, code, hc⟩ := hs.configured
  obtain ⟨registers, hbound⟩ := hc.bound
  obtain ⟨slots, hcnode, hdelegated⟩ := hc.contents
  obtain ⟨⟨-, hbits⟩, hplace, -⟩ := CSpace.validate_eq_ok.mp hp.valid
  have hclt : c < s.kernel.nextObject :=
    Nat.lt_of_lt_of_le (hs.numbered _ _ hc.cnode).2 hs.objects_le
  refine ⟨slots x.config.faultEndpoint, ?_, t, _, _, _, slots, _, hc.tcb, hbound, hclt, hcnode, ?_, rfl⟩
  · cases hconfig : x.config.faultRoute with
    | none =>
        -- no delegation has the null slot as its destination
        have hnull : x.config.faultEndpoint = 0 := by
          rw [TaskConfig.faultEndpoint, hconfig]
          rfl
        rw [hnull, hdelegated.nothing_else 0 fun d hd => (hplace d hd).destination_ne]
        exact hconfig
    | some route =>
        obtain ⟨hbadge, hrights, object, hendpoint⟩ := hroute route hconfig
        have hmem : route.delegation ∈ x.config.delegations := by
          rw [TaskConfig.delegations, CSpace.delegations, hconfig]
          exact List.mem_append_right _ (List.mem_singleton_self _)
        obtain ⟨source, hsource, hslot⟩ := hdelegated.installed _ hmem
        have hdestination : x.config.faultEndpoint = route.delegation.destination := by
          rw [TaskConfig.faultEndpoint, hconfig]
          rfl
        have hsame : source.unmapped = ⟨object, .endpoint, .all, 0, none⟩ := by
          have hmap := hendpoint
          rw [ObjectStore.IsEndpoint, hsource] at hmap
          exact Option.some.inj hmap
        rw [hdestination, hslot]
        refine ⟨route, object, hconfig, hendpoint, hbadge, ?_⟩
        obtain ⟨o, bl, r, bd, mp⟩ := source
        obtain ⟨rfl, rfl, rfl, rfl, -⟩ := Cap.mk.inj hsame
        rw [hrights]
        rfl
  · apply resolve_of_lt hbits
    cases hconfig : x.config.faultRoute with
    | none =>
        rw [TaskConfig.faultEndpoint, hconfig]
        exact Nat.two_pow_pos _
    | some route =>
        have hmem : route.delegation ∈ CSpace.delegations x.config.delegatedCapabilities x.config.faultRoute := by
          rw [CSpace.delegations, hconfig]
          exact List.mem_append_right _ (List.mem_singleton_self _)
        rw [TaskConfig.faultEndpoint, hconfig]
        exact (hplace _ hmem).destination_lt

/-! ## Runs -/

namespace Supervisor

variable {h : Host} {w w' : Supervisor}

theorem mem_endpoints {i : Nat} : i ∈ w.endpoints ↔ .endpoint i ∈ w.root.handles := by
  unfold endpoints
  rw [List.mem_filterMap]
  constructor
  · rintro ⟨handle, hmem, hhandle⟩
    cases handle with
    | endpoint j =>
        obtain rfl := Option.some.inj hhandle
        exact hmem
    | _ => cases hhandle
  · exact fun hmem => ⟨.endpoint i, hmem, rfl⟩

/-- The endpoints that were returned are endpoints, fault routes are those of such endpoints, and every task
    reports its faults as configured. -/
structure Reporting (h : Host) (w : Supervisor) : Prop where
  intact : Intact h w
  endpoints : ∀ i ∈ w.endpoints, ∃ object, w.root.state.kernel.IsEndpoint i object
  routes : ∀ x ∈ w.tasks, ∀ route ∈ x.config.faultRoute, w.Routable route
  reports : ∀ x ∈ w.tasks, ∃ cap, x.Reports w.root.state cap

/-- What was returned once is there to be used. -/
theorem Change.handles_subset {op : SupervisorOp} (hc : Change h w op w') : w.root.handles ⊆ w'.root.handles := by
  cases hc with
  | builds hp hnew => exact List.subset_append_left _ _
  | grants hav hsource hmapped hv => exact List.subset_append_left _ _
  | _ => exact List.Subset.refl _

theorem Change.routable {op : SupervisorOp} (hc : Change h w op w') {route : FaultRoute} (hr : w.Routable route) :
    w'.Routable route := by
  obtain ⟨hsource, hrest⟩ := hr
  exact ⟨mem_endpoints.mpr (hc.handles_subset (mem_endpoints.mp hsource)), hrest⟩

/-- The endpoints after an operation are those before it, and one just made if it made one. -/
theorem Change.endpoints {op : SupervisorOp} (hc : Change h w op w') {i : Nat} (hi : i ∈ w'.endpoints) :
    i ∈ w.endpoints ∨ ∃ object, w'.root.state.kernel.IsEndpoint i object := by
  rw [mem_endpoints] at hi ⊢
  cases hc with
  | @builds op s new hp hnew =>
      rcases List.mem_append.mp hi with hold | hlast
      · exact Or.inl hold
      · obtain ⟨-, object, hroot⟩ := hnew _ (Option.mem_toList.mp hlast)
        refine Or.inr ⟨object, ?_⟩
        show (s.kernel.root i).map Cap.unmapped = _
        rw [hroot]
        rfl
  | grants hav hsource hmapped hv =>
      rcases List.mem_append.mp hi with hold | hlast
      · exact Or.inl hold
      · cases List.mem_singleton.mp hlast
  | _ => exact Or.inl hi

/-- An operation adds the handle for what it returns, if anything. -/
theorem perform_handles {α : Type} {r r' : RootTask} {y : Boot α} {keep : α → BootState → Handle}
    (hs : r.perform y keep = some r') : r'.handles = r.handles ∨ ∃ a s, r'.handles = r.handles ++ [keep a s] := by
  unfold RootTask.perform at hs
  split at hs
  · obtain rfl := Option.some.inj hs
    exact Or.inr ⟨_, _, rfl⟩
  · obtain rfl := Option.some.inj hs
    exact Or.inl rfl
  · cases hs

/-- A task comes from `createTask`, with the configuration it is created from. -/
theorem step_created {op : SupervisorOp} (hs : Supervisor.step h w op = some w') {x : HeldTask}
    (hx : x ∈ w'.tasks) (hnew : x ∉ w.tasks) : op = .root (.createTask x.config) := by
  -- the other operations return no task, or no handle at all
  have hother : ∀ {α : Type} {y : Boot α} {keep : α → BootState → Handle} {r : RootTask},
      w.root.perform y keep = some r → (∀ a s, (keep a s).held = none) → r.tasks = w.tasks := by
    intro α y keep r hr hkeep
    rcases perform_handles hr with hsame | ⟨a, s, hsame⟩
    · exact congrArg (List.filterMap Handle.held) hsame
    · have hnone := hkeep a s
      show List.filterMap Handle.held r.handles = List.filterMap Handle.held w.root.handles
      rw [hsame, List.filterMap_append]
      simp [hnone]
  have hlive : ∀ {y : Control Unit}, w.perform y = some w' → w'.tasks = w.tasks := by
    intro y hy
    unfold perform at hy
    split at hy
    · obtain rfl := Option.some.inj hy
      rfl
    · obtain rfl := Option.some.inj hy
      rfl
    · cases hy
  unfold step at hs
  cases op with
  | root op =>
      obtain ⟨r, hr, rfl⟩ := Option.map_eq_some_iff.mp hs
      unfold RootTask.step at hr
      cases op with
      | createTask config =>
          rw [tasks, RootTask.mem_tasks] at hx
          rcases perform_handles hr with hsame | ⟨task, s, hsame⟩
          · exact absurd (RootTask.mem_tasks.mpr (hsame ▸ hx)) hnew
          · rw [hsame] at hx
            rcases List.mem_append.mp hx with hold | hlast
            · exact absurd (RootTask.mem_tasks.mpr hold) hnew
            · obtain rfl := Handle.task.inj (List.mem_singleton.mp hlast)
              rfl
      | _ => exact absurd (hother hr (fun _ _ => rfl) ▸ hx) hnew
  | runs task event =>
      dsimp only at hs
      split at hs
      · split at hs
        · obtain rfl := Option.some.inj hs
          exact absurd hx hnew
        · cases hs
      · cases hs
  | _ => exact absurd (hlive hs ▸ hx) hnew

theorem Reporting.step {op : SupervisorOp} (hw : Reporting h w) (ha : w.Owned op)
    (hroute : ∀ route ∈ op.faultRoute, w.Routable route) (hs : Supervisor.step h w op = some w') :
    Reporting h w' := by
  have hc := hw.intact.change ha hs
  have hretains := hc.retains hw.intact
  constructor
  case intact => exact hw.intact.step ha hs
  case endpoints =>
    intro i hi
    rcases hc.endpoints hi with hold | hnew
    · obtain ⟨object, hobject⟩ := hw.endpoints i hold
      exact ⟨object, hretains.isEndpoint hobject⟩
    · exact hnew
  case routes =>
    intro x hx route hmem
    by_cases hold : x ∈ w.tasks
    · exact hc.routable (hw.routes x hold route hmem)
    · obtain rfl := step_created hs hx hold
      exact hc.routable (hroute route hmem)
  case reports =>
    intro x hx
    by_cases hold : x ∈ w.tasks
    · obtain ⟨cap, hreports⟩ := hw.reports x hold
      exact ⟨cap, hreports.mono (hw.intact.alive x hold) hretains⟩
    · obtain rfl := step_created hs hx hold
      have hfresh : Fresh h w.root.state w'.root.state (.task x) := by
        rcases hc.tasks with hsame | ⟨y, hsnoc, hfresh, -⟩
        · exact absurd (hsame ▸ hx) hold
        · rw [hsnoc] at hx
          rcases List.mem_append.mp hx with hmem | hlast
          · exact absurd hmem hold
          · exact List.mem_singleton.mp hlast ▸ hfresh
      obtain ⟨hstands, -, hpristine⟩ := hfresh
      refine hstands.reports hpristine fun route hmem => ?_
      obtain ⟨hsource, hbadge, hrights⟩ := hroute route hmem
      obtain ⟨object, hobject⟩ := hw.endpoints _ hsource
      exact ⟨hbadge, hrights, object, hretains.isEndpoint hobject⟩

/-- The faults of a task with a route go to its endpoint, with its badge. -/
theorem Reporting.routed {x : HeldTask} {route : FaultRoute} (hw : Reporting h w) (hx : x ∈ w.tasks)
    (hroute : x.config.faultRoute = some route) :
    ∃ object, w.root.state.kernel.IsEndpoint route.delegation.source object ∧
      w.root.state.kernel.faultHandler x.task.thread.tcb = some (object, route.delegation.badge) := by
  obtain ⟨cap, hreports⟩ := hw.reports x hx
  rw [hreports.faultHandler]
  cases cap with
  | none => cases hroute.symm.trans hreports.configured
  | some cap =>
      obtain ⟨route', object, hroute', hendpoint, -, rfl⟩ := hreports.configured
      obtain rfl := Option.some.inj (hroute.symm.trans hroute')
      exact ⟨object, hendpoint, rfl⟩

/-- Those of a task without one go nowhere. -/
theorem Reporting.unrouted {x : HeldTask} (hw : Reporting h w) (hx : x ∈ w.tasks)
    (hroute : x.config.faultRoute = none) : w.root.state.kernel.faultHandler x.task.thread.tcb = none := by
  obtain ⟨cap, hreports⟩ := hw.reports x hx
  rw [hreports.faultHandler]
  cases cap with
  | none => rfl
  | some cap =>
      obtain ⟨route', object, hroute', -⟩ := hreports.configured
      cases hroute.symm.trans hroute'

/-- Where the faults of a task go does not change. -/
theorem Reporting.faultHandler_eq {x : HeldTask} (hw : Reporting h w) (hx : x ∈ w.tasks)
    (hr : Retains w.root.state w'.root.state) :
    w'.root.state.kernel.faultHandler x.task.thread.tcb = w.root.state.kernel.faultHandler x.task.thread.tcb := by
  obtain ⟨cap, hreports⟩ := hw.reports x hx
  rw [hreports.faultHandler, (hreports.mono (hw.intact.alive x hx) hr).faultHandler]

end Supervisor
end Ricoq
