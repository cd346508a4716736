import Ricoq.Boot.Correctness.Memory

/-!
# `Boot.Correctness.Grants` — a recovery frame stays until it is taken back

Mapping a recovery frame adds one page to one task. From then on the page is there, whatever else is done, until
the mapping is removed through the handle that was returned for it; and then this page is gone and no other.
-/

namespace Ricoq

open Sel4 Bootstrap

namespace Supervisor

variable {h : Host} {w w' : Supervisor}

/-- Two tasks whose VSpaces are the same object are one. -/
theorem Intact.eq_of_vspace {x y : HeldTask} {v : Nat} (hw : Intact h w) (hx : x ∈ w.tasks) (hy : y ∈ w.tasks)
    (hv : x.task.HasPart w.root.state.kernel .vspace v) (hv' : y.task.HasPart w.root.state.kernel .vspace v) :
    x = y := by
  by_contra hne
  have hxn := (hw.alive x hx).numbered _ _ hv
  have hyn := (hw.alive y hy).numbered _ _ hv'
  have hapart := hw.apart hx hy hne
  omega

/-- A mapping in place stays in place, unless it is unmapped itself. -/
theorem Accounted.inPlace_step {op : SupervisorOp} {m : TaskMapping} {cap : Cap} {v a : Nat} (hw : Accounted h w)
    (ha : w.Careful op) (hs : Supervisor.step h w op = some w') (hop : op ≠ .unmapMapping m none)
    (hp : w.InPlace m cap v a) : w'.InPlace m cap v a := by
  obtain ⟨hm, hcap, hmapping⟩ := id hp
  -- a frame of the root task's own is in another slot
  have howner : ∀ {slot : Nat} {cap' : Option Cap}, w.root.Obtainable slot →
      Function.update w.root.state.kernel.root slot cap' m.mapping = some cap := by
    intro slot cap' ho
    rw [Function.update_of_ne (hw.mapping_ne hm ho)]
    exact hcap
  have hc := hw.intact.change ha.1 hs
  cases hc with
  | builds hpres hnew =>
      exact ⟨mem_mappings.mpr (List.mem_append_left _ (mem_mappings.mp hm)), hpres.keeps _ cap hcap, hmapping⟩
  | grants hav hsource hmapped hv => exact (hw.inPlace_granted hav hmapped).mpr (Or.inl hp)
  | happens hop' hk =>
      obtain ⟨cap', tcb, e, -, -, -, hadvanced⟩ := Live.advanceAt_eq_ok.mp hk
      refine ⟨hm, ?_, hmapping⟩
      show (_ : Live).store.root m.mapping = some cap
      rw [hadvanced.store]
      exact hcap
  | maps hk =>
      obtain ⟨-, -, -, -, -, -, rfl⟩ := ObjectStore.remapFrame_cases hk
      exact ⟨hm, howner ha.1, hmapping⟩
  | unmaps hop' hk =>
      obtain ⟨cap', hcap', -, rfl⟩ := ObjectStore.unmapFrame_cases hk
      cases op with
      | unmap frame answer =>
          cases answer with
          | none =>
              obtain rfl := Option.some.inj hop'
              exact ⟨hm, howner ha.1, hmapping⟩
          | some e => cases hop'
      | unmapMapping m' answer =>
          cases answer with
          | none =>
              obtain rfl := Option.some.inj hop'
              refine (hw.inPlace_unmapped ha.1 hcap').mpr ⟨hp, fun hplace => hop ?_⟩
              rw [hw.single m' cap' m cap v a ⟨ha.1, hcap', hplace⟩ hp]
          | some e => cases hop'
      | _ => cases hop'
  | nothing hop' => exact hp

/-- A mapping can always be unmapped, whether it is in place or not. -/
theorem Accounted.unmapMapping {m : TaskMapping} (hw : Accounted h w) (hm : m ∈ w.mappings) :
    ∃ cap, w.root.state.kernel.root m.mapping = some cap ∧
      Supervisor.step h w (.unmapMapping m none) = some (w.withLive
        ⟨(w.root.state.kernel.withPages (ObjectStore.pagesWithout cap)).setRoot m.mapping
          (some { cap with mapping := none }), w.threads⟩) := by
  obtain ⟨-, cap, hcap, hgranule⟩ := hw.held m hm
  have hunmap : w.root.state.kernel.unmapFrame h.machine.toPlatform m.mapping =
      .ok ((w.root.state.kernel.withPages (ObjectStore.pagesWithout cap)).setRoot m.mapping
        (some { cap with mapping := none })) := by
    refine except_bind_eq_ok.mpr ⟨cap, ObjectStore.rootCap_eq_ok.mpr hcap, ?_⟩
    rw [if_pos hgranule, ObjectStore.unmap_granule hgranule]
    rfl
  have heffect : w.live.effect h.machine.toPlatform (.frameUnmap m.mapping) = .ok
      ⟨(w.root.state.kernel.withPages (ObjectStore.pagesWithout cap)).setRoot m.mapping
        (some { cap with mapping := none }), w.threads⟩ := except_bind_eq_ok.mpr ⟨_, hunmap, rfl⟩
  refine ⟨cap, hcap, ?_⟩
  show w.perform (m.unmap h none) = _
  simp only [perform, TaskMapping.unmap, Prog.mapErr, invokeControl, heffect]

/-- Unmapping a mapping in place takes away this page, and no other. -/
theorem Accounted.pageAt_unmapped {m : TaskMapping} {cap : Cap} {x y : HeldTask} {v address : Nat}
    (hw : Accounted h w) (hs : Supervisor.step h w (.unmapMapping m none) = some w') (hx : x ∈ w.tasks)
    (hy : y ∈ w.tasks) (hv : x.task.HasPart w.root.state.kernel .vspace v) (hp : w.InPlace m cap v address)
    (a : Nat) :
    w'.root.state.kernel.pageAt y.task.vspace.root a =
      if y.task = x.task ∧ a = address then none else w.root.state.kernel.pageAt y.task.vspace.root a := by
  obtain ⟨hm, hcap, hmapping⟩ := id hp
  have ha : w.Owned (.unmapMapping m none) := hm
  have hc := hw.intact.change ha hs
  have hw' := hw.intact.step ha hs
  obtain ⟨cap', hcap', hs'⟩ := hw.unmapMapping hm
  obtain rfl := Option.some.inj (hcap.symm.trans hcap')
  obtain rfl := Option.some.inj (hs'.symm.trans hs)
  -- the VSpace of the task, before and after
  obtain ⟨u, vs, hu, hvs, -, hbefore⟩ := hw.intact.vspace hy
  obtain ⟨u', vs', hu', hvs', -, hafter⟩ := hw'.vspace (hc.mem_tasks hy)
  obtain rfl := hu.unique ((hw.intact.vspace_of hc hy).mp hu')
  obtain rfl := Object.vspace.inj ((ObjectStore.withPages_vspace hvs).symm.trans hvs')
  rw [hbefore a, hafter a]
  show ObjectStore.pagesWithout cap u vs a = _
  unfold ObjectStore.pagesWithout
  by_cases hhere : y.task = x.task ∧ a = address
  · obtain ⟨htask, rfl⟩ := id hhere
    obtain rfl := hv.unique (htask ▸ hu)
    have hpage := (hw.exact y hy v vs hu hvs a _).mpr (Or.inr ⟨m, cap, hp, rfl⟩)
    rw [if_pos hhere, if_pos ⟨hmapping, by rw [hpage]; rfl⟩]
  · rw [if_neg hhere, if_neg]
    rintro ⟨helsewhere, -⟩
    obtain ⟨rfl, rfl⟩ := Prod.mk.inj (Option.some.inj (hmapping.symm.trans helsewhere))
    exact hhere ⟨congrArg HeldTask.task (hw.intact.eq_of_vspace hy hx hu hv), rfl⟩

/-- A mapping that was returned is in place, and its page is the only one that was added. -/
theorem Accounted.pageAt_granted {task : Task} {frame : Frame} {address : Nat} {m : TaskMapping}
    (hw : Accounted h w) (ha : w.Careful (.root (.mapRecoveryFrame task frame address)))
    (hs : Supervisor.step h w (.root (.mapRecoveryFrame task frame address)) = some w')
    (hnew : w'.mappings = w.mappings ++ [m]) :
    ∃ x ∈ w.tasks, x.task = task ∧ ∃ v cap, x.task.HasPart w.root.state.kernel .vspace v ∧
      w.root.state.kernel.root frame.cap = some cap ∧
      w'.InPlace m { cap.derive .readWrite with mapping := some (v, address) } v address ∧
      ∀ y ∈ w.tasks, ∀ a, w'.root.state.kernel.pageAt y.task.vspace.root a =
        if y.task = task ∧ a = address then some ⟨cap.object, cap.rights.inter .readWrite⟩
        else w.root.state.kernel.pageAt y.task.vspace.root a := by
  have hc := hw.intact.change ha.1 hs
  have hw' := hw.intact.step ha.1 hs
  obtain ⟨x, hx, rfl⟩ := List.mem_map.mp ha.1.1
  obtain ⟨v₀, vs₀, hv₀, hvs₀, hholds, -⟩ := hw.intact.vspace hx
  have hold : ∀ y ∈ w.tasks, y ∈ w'.tasks ∧ ∀ u, y.task.HasPart w'.root.state.kernel .vspace u →
      y.task.HasPart w.root.state.kernel .vspace u :=
    fun y hy => ⟨hc.mem_tasks hy, fun u => (hw.intact.vspace_of hc hy).mp⟩
  -- otherwise there is no new mapping
  have hmore : w'.mappings ≠ w.mappings := by
    rw [hnew]
    simp
  cases hc with
  | builds hpres hnew' => exact absurd (mappings_of_fresh hnew') hmore
  | @grants _ _ _ v cap vs s hav hsource hmapped hv =>
      obtain rfl := hv v₀ hholds
      have hm : [Handle.mapping ⟨w.root.state.slots.start, w.root.state.slots.start⟩].filterMap _ = [m] :=
        List.append_cancel_left ((List.filterMap_append ..).symm.trans hnew)
      obtain rfl := (List.cons.inj hm).1
      refine ⟨x, hx, rfl, v, cap, hv₀, hsource, (hw.inPlace_granted hav hmapped).mpr (Or.inr ⟨rfl, rfl, rfl, rfl⟩), ?_⟩
      intro y hy a
      obtain ⟨hy', hsame⟩ := hold y hy
      obtain ⟨u, us, hu, hus, -, hbefore⟩ := hw.intact.vspace hy
      obtain ⟨u', us', hu', hus', -, hafter⟩ := hw'.vspace hy'
      obtain rfl := hu.unique (hsame u' hu')
      have hobject : s.kernel.objects u = .vspace us' := hus'
      rw [hafter a, hbefore a]
      by_cases hu₀ : u = v
      · obtain rfl := hu₀
        obtain rfl := hw.intact.eq_of_vspace hy hx hu hv₀
        obtain rfl := Object.vspace.inj (hmapped.vspace.symm.trans hus)
        rw [hmapped.objects, Function.update_self] at hobject
        obtain rfl := Object.vspace.inj hobject
        show Function.update vs.pages address _ a = _
        by_cases haddress : a = address
        · rw [haddress, Function.update_self, if_pos ⟨rfl, rfl⟩]
          simp
        · rw [Function.update_of_ne haddress, if_neg fun hhere => haddress hhere.2]
      · rw [hmapped.objects, Function.update_of_ne hu₀, hus] at hobject
        obtain rfl := Object.vspace.inj hobject
        refine (if_neg fun hhere => hu₀ ?_).symm
        exact hu.unique (hhere.1 ▸ hv₀)
  | happens hop hk => cases hop
  | unmaps hop hk => cases hop
  | nothing hop => exact absurd rfl hmore

/-- A task has its VSpace, and a mapping in it is in place. -/
structure Lasting (h : Host) (x : HeldTask) (m : TaskMapping) (cap : Cap) (v address : Nat) (w : Supervisor) :
    Prop where
  accounted : Accounted h w
  task : x ∈ w.tasks
  vspace : x.task.HasPart w.root.state.kernel .vspace v
  place : w.InPlace m cap v address

theorem Lasting.step {op : SupervisorOp} {x : HeldTask} {m : TaskMapping} {cap : Cap} {v address : Nat}
    (hl : Lasting h x m cap v address w) (ha : w.Careful op) (hs : Supervisor.step h w op = some w')
    (hop : op ≠ .unmapMapping m none) : Lasting h x m cap v address w' := by
  have hw := hl.accounted
  have hc := hw.intact.change ha.1 hs
  constructor
  case accounted => exact hw.step ha hs
  case task => exact hc.mem_tasks hl.task
  case vspace => exact (hw.intact.vspace_of hc hl.task).mpr hl.vspace
  case place => exact hw.inPlace_step ha hs hop hl.place

/-- **A granted page lasts until it is taken back.** Mapping a recovery frame at a free address adds this page to
    the task, and nothing else to any task. The page is there whatever is done after that, to this task and the
    others, as long as its own mapping is not removed; this can always be done, and takes away this page and
    no other. -/
theorem grant_lasts (hr : Reachable (Supervisor.step h) (Initial h) Careful w) {task : Task} {frame : Frame}
    {address : Nat} {m : TaskMapping} {w₁ w₂ : Supervisor} {ops : List SupervisorOp}
    (ha : w.Careful (.root (.mapRecoveryFrame task frame address)))
    (hs : Supervisor.step h w (.root (.mapRecoveryFrame task frame address)) = some w₁)
    (hnew : w₁.mappings = w.mappings ++ [m]) (hno : .unmapMapping m none ∉ ops)
    (hrun : ops.foldlM (guardedStep (Supervisor.step h) Careful) w₁ = some w₂) :
    ∃ page : Page,
      (∀ x ∈ w.tasks, ∀ a, w₁.root.state.kernel.pageAt x.task.vspace.root a =
        if x.task = task ∧ a = address then some page else w.root.state.kernel.pageAt x.task.vspace.root a) ∧
      w₂.root.state.kernel.pageAt task.vspace.root address = some page ∧
      ∃ w₃, Supervisor.step h w₂ (.unmapMapping m none) = some w₃ ∧
        ∀ x ∈ w₂.tasks, ∀ a, w₃.root.state.kernel.pageAt x.task.vspace.root a =
          if x.task = task ∧ a = address then none else w₂.root.state.kernel.pageAt x.task.vspace.root a := by
  have hw := accounted_reachable hr
  obtain ⟨x, hx, rfl, v, cap, hv, hcap, hplace, hpages⟩ := hw.pageAt_granted ha hs hnew
  have hc := hw.intact.change ha.1 hs
  have hlasting : Lasting h x m _ v address w₁ :=
    ⟨hw.step ha hs, hc.mem_tasks hx, (hw.intact.vspace_of hc hx).mpr hv, hplace⟩
  have hlasting₂ : Lasting h x m _ v address w₂ := guarded_run
    (fun _ _ _ hop hl ha hs => hl.step ha hs fun heq => hno (heq ▸ hop)) hlasting hrun
  obtain ⟨hw₂, hx₂, hv₂, hplace₂⟩ := hlasting₂
  refine ⟨⟨cap.object, cap.rights.inter .readWrite⟩, hpages, ?_, ?_⟩
  · obtain ⟨v', vs, hv', hvs, -, hpageAt⟩ := hw₂.intact.vspace hx₂
    obtain rfl := hv₂.unique hv'
    rw [hpageAt]
    refine (hw₂.exact x hx₂ v vs hv₂ hvs address _).mpr (Or.inr ⟨m, _, hplace₂, ?_⟩)
    simp [Cap.derive]
  · obtain ⟨cap', -, hunmap⟩ := hw₂.unmapMapping hplace₂.1
    exact ⟨_, hunmap, fun y hy => hw₂.pageAt_unmapped hunmap hx₂ hy hv₂ hplace₂⟩

/-- The frame is unmapped where the root task might have it mapped itself, and the task is resumed. -/
def afterwards : List SupervisorOp := [.unmap ⟨100⟩ none, .resume firstTask none]

theorem grant_lasts_afterwards : ∃ (w w₁ w₂ : Supervisor) (page : Page),
    Supervisor.step RootTask.host w (.root (.mapRecoveryFrame firstTask ⟨100⟩ 0x600000)) = some w₁ ∧
    afterwards.foldlM (guardedStep (Supervisor.step RootTask.host) Careful) w₁ = some w₂ ∧
    w₂.root.state.kernel.pageAt firstTask.vspace.root 0x600000 = some page := by
  have hruns : ((supervised.foldlM (guardedStep (Supervisor.step RootTask.host) Careful) start).bind fun w =>
      (Supervisor.step RootTask.host w (.root (.mapRecoveryFrame firstTask ⟨100⟩ 0x600000))).map fun w₁ =>
        (decide (w.Careful (.root (.mapRecoveryFrame firstTask ⟨100⟩ 0x600000))), w.mappings, w₁.mappings,
          (afterwards.foldlM (guardedStep (Supervisor.step RootTask.host) Careful) w₁).isSome)) =
      some (true, [], [⟨130, 130⟩], true) := by
    decide +kernel
  obtain ⟨w, hrun, hw⟩ := Option.bind_eq_some_iff.mp hruns
  obtain ⟨w₁, hs, hw₁⟩ := Option.map_eq_some_iff.mp hw
  obtain ⟨hcareful, hrest⟩ := Prod.mk.inj hw₁
  obtain ⟨hnone, hrest⟩ := Prod.mk.inj hrest
  obtain ⟨hone, hsome⟩ := Prod.mk.inj hrest
  obtain ⟨w₂, hrun₂⟩ := Option.isSome_iff_exists.mp hsome
  have hnew : w₁.mappings = w.mappings ++ [⟨130, 130⟩] := by
    rw [hnone, hone]
    rfl
  obtain ⟨page, -, hpage, -⟩ := grant_lasts ((Reachable.refl start_initial).foldlM_guarded _ hrun)
    (of_decide_eq_true hcareful) hs hnew (by simp [afterwards]) hrun₂
  exact ⟨w, w₁, w₂, page, hs, hrun₂, hpage⟩

end Supervisor
end Ricoq
