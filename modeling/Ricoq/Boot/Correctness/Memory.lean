import Ricoq.Boot.Correctness.Lifecycle

/-!
# `Boot.Correctness.Memory` — which pages a task maps, whatever is granted and revoked

A task has the four pages of its configuration, and those of the recovery mappings that are in place. The
capability of a mapping says where it is mapped, so what is granted can be read off the root CNode (`Granted`).
`Accounted` is the invariant: every page of every task is one of these and none is missing.

It rests on what is kept apart: the capabilities that frames are owned through are never mapped in a task, no
two mappings are at the same page, and none is at a page of the configuration. The last two are what the
safety condition of `mapRecoveryFrame` is for.
-/

namespace Ricoq

open Sel4 Bootstrap

theorem Retains.granule {s s' : BootState} {slot : Nat} {cap : Cap} (hr : Retains s s')
    (hcap : s.kernel.root slot = some cap) (hgranule : cap.blueprint = .granule) :
    ∃ cap', s'.kernel.root slot = some cap' ∧ cap'.blueprint = .granule := by
  have hkept := hr.kept _ (Option.isSome_of_eq_some hcap)
  rw [hcap] at hkept
  obtain ⟨cap', hcap', heq⟩ := Option.map_eq_some_iff.mp (hkept.trans (Option.map_some ..))
  exact ⟨cap', hcap', (Cap.eq_of_unmapped heq).2.1.trans hgranule⟩

/-! ## Pages -/

/-- The pages of a task from its construction. -/
inductive HeldTask.BasePage (x : HeldTask) (k : ObjectStore) : Nat → Page → Prop
  | code {code : Cap} (hcode : k.root x.config.code.frame.cap = some code) :
      BasePage x k x.config.code.address ⟨code.object, code.rights.inter .readOnly⟩
  | privateMemory {p : Nat} (hp : x.task.HasPart k .privateMemory p) :
      BasePage x k x.config.privateMemoryAddress ⟨p, .readWrite⟩
  | stack {b : Nat} (hb : x.task.HasPart k .stack b) : BasePage x k x.config.stackAddress ⟨b, .readWrite⟩
  | ipcBuffer {i : Nat} (hi : x.task.HasPart k .ipcBuffer i) :
      BasePage x k x.config.ipcBufferAddress ⟨i, .readWrite⟩

namespace HeldTask

variable {x : HeldTask} {s s' : BootState} {a : Nat} {page : Page}

theorem BasePage.mono (hr : Retains s s') (ha : Alive x s) (hb : x.BasePage s.kernel a page) :
    x.BasePage s'.kernel a page := by
  have hpart : ∀ part object, x.task.HasPart s'.kernel part object ↔ x.task.HasPart s.kernel part object :=
    fun _ _ => Task.hasPart_retained hr ha.slots_le
  cases hb with
  | @code code hcode =>
      have hkept := hr.kept _ (Option.isSome_of_eq_some hcode)
      rw [hcode] at hkept
      obtain ⟨code', hcode', heq⟩ := Option.map_eq_some_iff.mp (hkept.trans (Option.map_some ..))
      obtain ⟨hobject, -, hrights⟩ := Cap.eq_of_unmapped heq
      rw [← hobject, ← hrights]
      exact .code hcode'
  | privateMemory hp => exact .privateMemory ((hpart _ _).mpr hp)
  | stack hb => exact .stack ((hpart _ _).mpr hb)
  | ipcBuffer hi => exact .ipcBuffer ((hpart _ _).mpr hi)

/-- The pages of the configuration stay what they are. -/
theorem basePage_retained (hr : Retains s s') (ha : Alive x s) :
    x.BasePage s'.kernel a page ↔ x.BasePage s.kernel a page := by
  refine ⟨fun hb => ?_, BasePage.mono hr ha⟩
  have hpart : ∀ part object, x.task.HasPart s'.kernel part object ↔ x.task.HasPart s.kernel part object :=
    fun _ _ => Task.hasPart_retained hr ha.slots_le
  cases hb with
  | @code code' hcode' =>
      obtain ⟨code, hcode⟩ := Option.isSome_iff_exists.mp ha.code
      have hkept := hr.kept _ ha.code
      rw [hcode, hcode'] at hkept
      obtain ⟨hobject, -, hrights⟩ := Cap.eq_of_unmapped (Option.some.inj hkept)
      rw [hobject, hrights]
      exact .code hcode
  | privateMemory hp => exact .privateMemory ((hpart _ _).mp hp)
  | stack hb => exact .stack ((hpart _ _).mp hb)
  | ipcBuffer hi => exact .ipcBuffer ((hpart _ _).mp hi)

/-- A task just made maps the pages of its configuration. -/
theorem basePage_of_stands (hs : Stands x s) {v : Nat} {vs : VSpaceObject} (hv : x.task.HasPart s.kernel .vspace v)
    (hvs : s.kernel.objects v = .vspace vs) : vs.pages a = some page ↔ x.BasePage s.kernel a page := by
  obtain ⟨c, v', p, b, i, t, code, hc⟩ := hs.configured
  obtain rfl := hc.vspace.unique hv
  obtain ⟨vs', hvs', hpages⟩ := hc.pages
  obtain rfl := Object.vspace.inj (hvs.symm.trans hvs')
  constructor
  · intro hpage
    by_cases haddress : a ∈ x.config.pageAddresses
    · simp only [TaskConfig.pageAddresses, List.mem_cons, List.not_mem_nil, or_false] at haddress
      rcases haddress with rfl | rfl | rfl | rfl
      · obtain rfl := Option.some.inj (hpages.code.symm.trans hpage)
        exact .code hc.codeFrame
      · obtain rfl := Option.some.inj (hpages.privateMemory.symm.trans hpage)
        exact .privateMemory hc.privateMemory
      · obtain rfl := Option.some.inj (hpages.stack.symm.trans hpage)
        exact .stack hc.stack
      · obtain rfl := Option.some.inj (hpages.ipcBuffer.symm.trans hpage)
        exact .ipcBuffer hc.ipcBuffer
    · cases (hpages.nothing_else a haddress).symm.trans hpage
  · intro hbase
    cases hbase with
    | code hcode =>
        obtain rfl := Option.some.inj (hc.codeFrame.symm.trans hcode)
        exact hpages.code
    | privateMemory hp =>
        obtain rfl := hc.privateMemory.unique hp
        exact hpages.privateMemory
    | stack hb =>
        obtain rfl := hc.stack.unique hb
        exact hpages.stack
    | ipcBuffer hi =>
        obtain rfl := hc.ipcBuffer.unique hi
        exact hpages.ipcBuffer

end HeldTask

namespace Supervisor

variable {h : Host} {w w' : Supervisor}

theorem mem_mappings {m : TaskMapping} : m ∈ w.mappings ↔ .mapping m ∈ w.root.handles := by
  unfold mappings
  rw [List.mem_filterMap]
  constructor
  · rintro ⟨handle, hmem, hhandle⟩
    cases handle with
    | mapping m' =>
        obtain rfl := Option.some.inj hhandle
        exact hmem
    | _ => cases hhandle
  · exact fun hmem => ⟨.mapping m, hmem, rfl⟩

/-- A recovery mapping is in place, through the capability `cap`. -/
def InPlace (w : Supervisor) (m : TaskMapping) (cap : Cap) (v address : Nat) : Prop :=
  m ∈ w.mappings ∧ w.root.state.kernel.root m.mapping = some cap ∧ cap.mapping = some (v, address)

/-- A page of the VSpace `v` that is there by a recovery mapping. -/
def Granted (w : Supervisor) (v address : Nat) (page : Page) : Prop :=
  ∃ m cap, w.InPlace m cap v address ∧ page = ⟨cap.object, cap.rights.inter .readWrite⟩

/-- An object that is in use and is none of those made for a task. -/
def Outside (w : Supervisor) (object : Nat) : Prop :=
  object < w.root.state.kernel.nextObject ∧ ∀ x ∈ w.tasks, object < x.objects.1 ∨ x.objects.2 ≤ object

/-! ## The invariant -/

/-- Every page of every task is accounted for. -/
structure Accounted (h : Host) (w : Supervisor) : Prop where
  intact : Intact h w
  -- frames are owned through capabilities that are not mapped in any task
  owners : ∀ slot cap object address, w.root.Obtainable slot → w.root.state.kernel.root slot = some cap →
    cap.mapping = some (object, address) → w.Outside object
  reserved : initVspace < h.bootinfo.empty.start
  initial : ∀ cap, w.root.state.kernel.root initVspace = some cap → w.Outside cap.object
  -- recovery mappings keep their slots, and are apart from each other and from the pages of the configuration
  held : ∀ m ∈ w.mappings, m.rootSlot = m.mapping ∧
    ∃ cap, w.root.state.kernel.root m.mapping = some cap ∧ cap.blueprint = .granule
  placed : ∀ m cap v address, w.InPlace m cap v address → v < w.root.state.kernel.nextObject
  single : ∀ m cap m' cap' v address, w.InPlace m cap v address → w.InPlace m' cap' v address → m = m'
  apart : ∀ x ∈ w.tasks, ∀ m cap v address page, x.task.HasPart w.root.state.kernel .vspace v →
    w.InPlace m cap v address → ¬ x.BasePage w.root.state.kernel address page
  exact : ∀ x ∈ w.tasks, ∀ v vs, x.task.HasPart w.root.state.kernel .vspace v →
    w.root.state.kernel.objects v = .vspace vs → ∀ a page,
    vs.pages a = some page ↔ x.BasePage w.root.state.kernel a page ∨ w.Granted v a page

/-- The VSpace of a task is none of the objects outside of tasks. -/
theorem Intact.not_outside {x : HeldTask} {part : Part} {object : Nat} (hw : Intact h w) (hx : x ∈ w.tasks)
    (hp : x.task.HasPart w.root.state.kernel part object) : ¬ w.Outside object := by
  rintro ⟨-, hout⟩
  have hin := (hw.alive x hx).numbered _ _ hp
  have hx' := hout x hx
  omega

/-- Handles that own the same slot are the same. -/
theorem Intact.handle_eq {handle handle' : Handle} {slot : Nat} (hw : Intact h w) (hm : handle ∈ w.root.handles)
    (hm' : handle' ∈ w.root.handles) (ho : handle.Owns slot) (ho' : handle'.Owns slot) : handle = handle' := by
  have hsymm : Std.Symm fun x y : Handle => x.slots.2 ≤ y.slots.1 ∨ y.slots.2 ≤ x.slots.1 :=
    ⟨fun _ _ => Or.symm⟩
  have hapart : w.root.handles.Pairwise fun x y => x.slots.2 ≤ y.slots.1 ∨ y.slots.2 ≤ x.slots.1 :=
    hw.ordered.ordered.imp Or.inl
  by_contra hne
  obtain ⟨hlo, hhi⟩ := ho
  obtain ⟨hlo', hhi'⟩ := ho'
  have := hapart.forall hm hm' hne
  omega

/-- A frame is not owned through a recovery mapping. -/
theorem Accounted.mapping_ne {m : TaskMapping} {slot : Nat} (hw : Accounted h w) (hm : m ∈ w.mappings)
    (ho : w.root.Obtainable slot) : m.mapping ≠ slot := by
  rintro rfl
  have hmem := mem_mappings.mp hm
  have howns : (Handle.mapping m).Owns m.mapping := by
    rw [← (hw.held m hm).1]
    exact ⟨Nat.le_refl _, Nat.lt_succ_self _⟩
  have hwithin := hw.intact.ordered.within _ hmem
  have hslots : (Handle.mapping m).slots = (m.rootSlot, m.rootSlot + 1) := rfl
  have hroot := (hw.held m hm).1
  have hle := hw.intact.ordered.start_le
  rw [hslots] at hwithin
  rcases ho with hframe | htask | hlt | hle'
  · obtain ⟨handle, hhandle, hcap⟩ := List.mem_filterMap.mp hframe
    cases handle with
    | frame f =>
        obtain heq := Option.some.inj hcap
        have hframe : (Handle.frame f).Owns m.mapping := ⟨Nat.le_of_eq heq, heq ▸ Nat.lt_succ_self _⟩
        cases hw.intact.handle_eq hmem hhandle howns hframe
    | _ => cases hcap
  · obtain ⟨x, hx, hslot⟩ := List.mem_flatMap.mp htask
    have hpart : ∀ part ∈ [Part.privateMemory, .stack, .ipcBuffer], x.task.slot part ≠ m.mapping := by
      rintro part hpart heq
      obtain ⟨object, hlo, hhi, -⟩ := (hw.intact.alive x hx).frames part hpart
      cases hw.intact.handle_eq hmem (RootTask.mem_tasks.mp hx) howns ⟨heq ▸ hlo, heq ▸ hhi⟩
    simp only [List.mem_cons, List.not_mem_nil, or_false] at hslot
    rcases hslot with heq | heq | heq
    · exact hpart .privateMemory (by simp) heq.symm
    · exact hpart .stack (by simp) heq.symm
    · exact hpart .ipcBuffer (by simp) heq.symm
  · omega
  · omega

/-! ## One operation -/

/-- An object outside of tasks stays so. -/
theorem Outside.mono {op : SupervisorOp} {object : Nat} (hw : Intact h w) (hc : Change h w op w')
    (ho : w.Outside object) : w'.Outside object := by
  refine ⟨Nat.lt_of_lt_of_le ho.1 (hc.retains hw).nextObject_le, fun x hx => ?_⟩
  rcases hc.tasks with hsame | ⟨y, hsnoc, ⟨-, hobjects, -⟩, -⟩
  · exact ho.2 x (hsame ▸ hx)
  · rw [hsnoc] at hx
    rcases List.mem_append.mp hx with hold | hlast
    · exact ho.2 x hold
    · rw [List.mem_singleton.mp hlast, hobjects]
      exact Or.inl ho.1

/-- The VSpace of a task that was there before is what it was. -/
theorem Intact.vspace_of {op : SupervisorOp} {x : HeldTask} {v : Nat} (hw : Intact h w) (hc : Change h w op w')
    (hx : x ∈ w.tasks) : x.task.HasPart w'.root.state.kernel .vspace v ↔ x.task.HasPart w.root.state.kernel .vspace v :=
  Task.hasPart_retained (hc.retains hw) (hw.alive x hx).slots_le

/-- The initial VSpace is what it was. -/
theorem Accounted.initVspace_eq {cap : Cap} (hw : Accounted h w) (hr : Retains w.root.state w'.root.state)
    (hcap : w'.root.state.kernel.root initVspace = some cap) :
    ∃ cap₀, w.root.state.kernel.root initVspace = some cap₀ ∧ cap₀.object = cap.object := by
  have hlt : initVspace < w.root.state.slots.start := by
    have hfirst := w.root.state.slots.first_le
    have hbound := hw.reserved
    have hstart := hw.intact.ordered.first
    omega
  have hsame := hr.below _ hlt
  rw [hcap] at hsame
  obtain ⟨cap₀, hcap₀, heq⟩ := Option.map_eq_some_iff.mp hsame.symm
  exact ⟨cap₀, hcap₀, (Cap.eq_of_unmapped heq).1⟩

/-- The invariant carries over where mappings and VSpaces stay as they are; a new task has its own pages. -/
theorem Accounted.carry {op : SupervisorOp} (hw : Accounted h w) (hw' : Intact h w') (hc : Change h w op w')
    (hmappings : w'.mappings = w.mappings)
    (hslots : ∀ m ∈ w.mappings, w'.root.state.kernel.root m.mapping = w.root.state.kernel.root m.mapping)
    (hvspaces : ∀ x ∈ w.tasks, ∀ v, x.task.HasPart w.root.state.kernel .vspace v →
      w'.root.state.kernel.objects v = w.root.state.kernel.objects v)
    (howners : ∀ slot cap object address, w'.root.Obtainable slot → w'.root.state.kernel.root slot = some cap →
      cap.mapping = some (object, address) → w'.Outside object) : Accounted h w' := by
  have hretains := hc.retains hw.intact
  have hplace : ∀ m cap v a, w'.InPlace m cap v a ↔ w.InPlace m cap v a := by
    intro m cap v a
    unfold InPlace
    rw [hmappings]
    refine and_congr_right fun hm => ?_
    rw [hslots m hm]
  have hgranted : ∀ v a page, w'.Granted v a page ↔ w.Granted v a page := by
    intro v a page
    simp only [Granted, hplace]
  -- the task is one of the old ones, or has just been made
  have htask : ∀ x ∈ w'.tasks, x ∈ w.tasks ∨ (x ∉ w.tasks ∧ Stands x w'.root.state ∧
      ∀ v, x.task.HasPart w'.root.state.kernel .vspace v → w.root.state.kernel.nextObject ≤ v) := by
    intro x hx
    by_cases hold : x ∈ w.tasks
    · exact Or.inl hold
    · refine Or.inr ⟨hold, ?_⟩
      rcases hc.tasks with hsame | ⟨y, hsnoc, ⟨hstands, hobjects, -⟩, -⟩
      · exact absurd (hsame ▸ hx) hold
      · rw [hsnoc] at hx
        rcases List.mem_append.mp hx with hmem | hlast
        · exact absurd hmem hold
        · obtain rfl := List.mem_singleton.mp hlast
          refine ⟨hstands, fun v hv => ?_⟩
          have hlo := (hstands.numbered _ _ hv).1
          rw [hobjects] at hlo
          exact hlo
  constructor
  case intact => exact hw'
  case owners => exact howners
  case reserved => exact hw.reserved
  case initial =>
    intro cap hcap
    obtain ⟨cap₀, hcap₀, hobject⟩ := hw.initVspace_eq hretains hcap
    rw [← hobject]
    exact (hw.initial cap₀ hcap₀).mono hw.intact hc
  case held =>
    intro m hm
    rw [hmappings] at hm
    rw [hslots m hm]
    exact hw.held m hm
  case placed =>
    intro m cap v address hp
    exact Nat.lt_of_lt_of_le (hw.placed m cap v address ((hplace ..).mp hp)) hretains.nextObject_le
  case single =>
    intro m cap m' cap' v address hp hp'
    exact hw.single m cap m' cap' v address ((hplace ..).mp hp) ((hplace ..).mp hp')
  case apart =>
    intro x hx m cap v address page hv hp
    rw [hplace] at hp
    rcases htask x hx with hold | ⟨-, -, hlo⟩
    · rw [HeldTask.basePage_retained hretains (hw.intact.alive x hold)]
      exact hw.apart x hold m cap v address page ((hw.intact.vspace_of hc hold).mp hv) hp
    · have hlt := hw.placed m cap v address hp
      have := hlo v hv
      omega
  case exact =>
    intro x hx v vs hv hvs a page
    rw [hgranted]
    rcases htask x hx with hold | ⟨-, hstands, hlo⟩
    · have hv₀ := (hw.intact.vspace_of hc hold).mp hv
      rw [HeldTask.basePage_retained hretains (hw.intact.alive x hold)]
      exact hw.exact x hold v vs hv₀ ((hvspaces x hold v hv₀).symm.trans hvs) a page
    · rw [HeldTask.basePage_of_stands hstands hv hvs]
      refine ⟨Or.inl, ?_⟩
      rintro (hbase | ⟨m, cap, hp, -⟩)
      · exact hbase
      · have hlt := hw.placed m cap v a hp
        have := hlo v hv
        omega

/-- A frame is one that was obtainable before, or belongs to the new handle and is not mapped. -/
theorem obtainable_cases {s : BootState} {new : Option Handle} {slot : Nat}
    (hnew : ∀ handle, new = some handle → Fresh h w.root.state s handle)
    (hfirst : s.slots.first = w.root.state.slots.first) (hstop : s.slots.stop = w.root.state.slots.stop)
    (ho : (RootTask.mk s (w.root.handles ++ new.toList)).Obtainable slot) :
    w.root.Obtainable slot ∨ Unmapped slot s := by
  rcases ho with hframe | htask | hlt | hle
  · obtain ⟨handle, hmem, hcap⟩ := List.mem_filterMap.mp hframe
    rcases List.mem_append.mp hmem with hold | hlast
    · exact Or.inl (Or.inl (List.mem_filterMap.mpr ⟨handle, hold, hcap⟩))
    · have hfresh := hnew handle (Option.mem_toList.mp hlast)
      cases handle with
      | frame f =>
          obtain rfl := Option.some.inj hcap
          exact Or.inr hfresh
      | _ => cases hcap
  · obtain ⟨x, hx, hslot⟩ := List.mem_flatMap.mp htask
    rcases List.mem_append.mp (RootTask.mem_tasks.mp hx) with hold | hlast
    · exact Or.inl (Or.inr (Or.inl (List.mem_flatMap.mpr ⟨x, RootTask.mem_tasks.mpr hold, hslot⟩)))
    · obtain ⟨-, -, hpristine⟩ := hnew _ (Option.mem_toList.mp hlast)
      simp only [List.mem_cons, List.not_mem_nil, or_false] at hslot
      rcases hslot with rfl | rfl | rfl
      · exact Or.inr hpristine.privateMemory
      · exact Or.inr hpristine.stack
      · exact Or.inr hpristine.ipcBuffer
  · exact Or.inl (Or.inr (Or.inr (Or.inl (hfirst ▸ hlt))))
  · exact Or.inl (Or.inr (Or.inr (Or.inr (hstop ▸ hle))))

/-- Constructing something returns no recovery mapping. -/
theorem mappings_of_fresh {s : BootState} {new : Option Handle}
    (hnew : ∀ handle, new = some handle → Fresh h w.root.state s handle) :
    Supervisor.mappings { w with root := ⟨s, w.root.handles ++ new.toList⟩ } = w.mappings := by
  show List.filterMap _ (_ ++ _) = List.filterMap _ _
  rw [List.filterMap_append]
  cases new with
  | none => exact List.append_nil _
  | some handle =>
      have hfresh := hnew handle rfl
      cases handle with
      | mapping m => exact hfresh.elim
      | _ => exact List.append_nil _

theorem Accounted.builds (op : RootOp) {s : BootState} {new : Option Handle} (hw : Accounted h w)
    (hp : Preserves w.root.state s) (hnew : ∀ handle, new = some handle → Fresh h w.root.state s handle)
    (hw' : Intact h { w with root := ⟨s, w.root.handles ++ new.toList⟩ }) :
    Accounted h { w with root := ⟨s, w.root.handles ++ new.toList⟩ } := by
  have hc : Change h w (.root op) { w with root := ⟨s, w.root.handles ++ new.toList⟩ } := .builds hp hnew
  refine hw.carry hw' hc (mappings_of_fresh hnew) ?_ ?_ ?_
  · intro m hm
    obtain ⟨-, cap, hcap, -⟩ := hw.held m hm
    exact (hp.keeps _ cap hcap).trans hcap.symm
  · intro x hx v hv
    have halive := hw.intact.alive x hx
    exact hp.objects v (Nat.lt_of_lt_of_le (halive.numbered _ _ hv).2 halive.objects_le) not_false
  · intro slot cap object address ho hcap hmapping
    have hfirst : s.slots.first = w.root.state.slots.first :=
      hw'.ordered.first.trans hw.intact.ordered.first.symm
    have hstop : s.slots.stop = w.root.state.slots.stop := hw'.ordered.stop.trans hw.intact.ordered.stop.symm
    rcases obtainable_cases hnew hfirst hstop ho with hold | ⟨-, cap', hcap', hnone⟩
    · have hroot : s.kernel.root slot = w.root.state.kernel.root slot := by
        rcases hw.intact.obtainable_lt hold with hlt | hle
        · exact hp.below slot hlt
        · exact hp.beyond slot hle
      exact (hw.owners slot cap object address hold (hroot.symm.trans hcap) hmapping).mono hw.intact hc
    · obtain rfl := Option.some.inj (hcap.symm.trans hcap')
      cases hnone.symm.trans hmapping

/-- An event at a thread touches no VSpace and no slot. -/
theorem Accounted.happens {op : SupervisorOp} {slot : Nat} {event : ThreadEvent} {k : Live} (hw : Accounted h w)
    (hop : op.event = some (slot, event)) (hk : w.live.advanceAt slot event = .ok k)
    (hw' : Intact h (w.withLive k)) : Accounted h (w.withLive k) := by
  have hc : Change h w op (w.withLive k) := .happens hop hk
  obtain ⟨cap, tcb, e, hcap, htcb, -, hadvanced⟩ := Live.advanceAt_eq_ok.mp hk
  have hroot : k.store.root = w.root.state.kernel.root := by
    rw [hadvanced.store]
    rfl
  refine hw.carry hw' hc rfl ?_ ?_ ?_
  · intro m _
    exact congrFun hroot m.mapping
  · intro x hx v hv
    refine (hadvanced.other ?_).1
    rintro rfl
    obtain ⟨v', vs, hv', hvs⟩ := (hw.intact.alive x hx).vspace
    obtain rfl := hv.unique hv'
    cases hvs.symm.trans htcb
  · intro i cap' object address ho hcap' hmapping
    exact (hw.owners i cap' object address ho ((congrFun hroot i).symm.trans hcap') hmapping).mono hw.intact hc

/-- A frame mapped or unmapped by its owner touches no task. -/
theorem Accounted.remaps {op : SupervisorOp} {frame : Nat} {cap : Cap} {mapping : Option (Nat × Nat)}
    {pages : Nat → VSpaceObject → Nat → Option Page} (hw : Accounted h w) (ho : w.root.Obtainable frame)
    (hmapping : ∀ object address, mapping = some (object, address) → w.Outside object)
    (hpages : ∀ id vs, w.root.state.kernel.objects id = .vspace vs → ¬ w.Outside id → pages id vs = vs.pages)
    (hc : Change h w op (w.withLive
      ⟨(w.root.state.kernel.withPages pages).setRoot frame (some { cap with mapping }), w.threads⟩))
    (hw' : Intact h (w.withLive
      ⟨(w.root.state.kernel.withPages pages).setRoot frame (some { cap with mapping }), w.threads⟩)) :
    Accounted h (w.withLive
      ⟨(w.root.state.kernel.withPages pages).setRoot frame (some { cap with mapping }), w.threads⟩) := by
  refine hw.carry hw' hc rfl ?_ ?_ ?_
  · intro m hm
    exact Function.update_of_ne (hw.mapping_ne hm ho) _ _
  · intro x hx v hv
    exact ObjectStore.withPages_same fun vs hvs => hpages v vs hvs (hw.intact.not_outside hx hv)
  · intro slot cap' object address ho' hcap' hmap
    have hroot : Function.update w.root.state.kernel.root frame (some { cap with mapping }) slot = some cap' := hcap'
    by_cases hslot : slot = frame
    · rw [hslot, Function.update_self] at hroot
      obtain rfl := Option.some.inj hroot
      exact (hmapping object address hmap).mono hw.intact hc
    · rw [Function.update_of_ne hslot] at hroot
      exact (hw.owners slot cap' object address ho' hroot hmap).mono hw.intact hc

theorem Accounted.maps {frame : Frame} {address : Nat} {k : ObjectStore} (hw : Accounted h w)
    (ho : w.root.Obtainable frame.cap)
    (hk : w.root.state.kernel.remapFrame h.machine.toPlatform frame.cap initVspace address .readWrite = .ok k)
    (hw' : Intact h (w.withLive ⟨k, w.threads⟩)) : Accounted h (w.withLive ⟨k, w.threads⟩) := by
  have hc : Change h w (.map frame address none) (w.withLive ⟨k, w.threads⟩) := .maps hk
  obtain ⟨cap, object, vs, hcap, hvspace, -, rfl⟩ := ObjectStore.remapFrame_cases hk
  obtain ⟨vcap, hvcap, rfl, -⟩ := ObjectStore.vspaceAt_eq_ok.mp hvspace
  have hout := hw.initial vcap hvcap
  refine hw.remaps ho ?_ ?_ hc hw'
  · rintro object address ⟨⟩
    exact hout
  · intro id vs' _ hid
    refine if_neg ?_
    rintro rfl
    exact hid hout

theorem Accounted.unmapsOwner (op : SupervisorOp) {slot : Nat} {k : ObjectStore} (hw : Accounted h w)
    (ho : w.root.Obtainable slot) (hop : op.unmaps = some slot)
    (hk : w.root.state.kernel.unmapFrame h.machine.toPlatform slot = .ok k)
    (hw' : Intact h (w.withLive ⟨k, w.threads⟩)) : Accounted h (w.withLive ⟨k, w.threads⟩) := by
  have hc : Change h w op (w.withLive ⟨k, w.threads⟩) := .unmaps hop hk
  obtain ⟨cap, hcap, -, rfl⟩ := ObjectStore.unmapFrame_cases hk
  refine hw.remaps ho (by nofun) ?_ hc hw'
  intro id vs _ hid
  funext a
  refine if_neg fun h => hid ?_
  exact hw.owners slot cap id a ho hcap h.1

/-! ## Granting and revoking -/

/-- Unmapping a recovery mapping takes it out of place, and leaves the others. -/
theorem Accounted.inPlace_unmapped {m : TaskMapping} {cap : Cap} (hw : Accounted h w) (hm : m ∈ w.mappings)
    (hcap : w.root.state.kernel.root m.mapping = some cap) {m' : TaskMapping} {cap' : Cap} {v a : Nat} :
    (w.withLive ⟨(w.root.state.kernel.withPages (ObjectStore.pagesWithout cap)).setRoot m.mapping
      (some { cap with mapping := none }), w.threads⟩).InPlace m' cap' v a ↔
    w.InPlace m' cap' v a ∧ cap.mapping ≠ some (v, a) := by
  unfold InPlace
  constructor
  · rintro ⟨hm', hcap', hplace⟩
    have hroot : Function.update w.root.state.kernel.root m.mapping (some { cap with mapping := none })
        m'.mapping = some cap' := hcap'
    by_cases hslot : m'.mapping = m.mapping
    · rw [hslot, Function.update_self] at hroot
      obtain rfl := Option.some.inj hroot
      cases hplace
    · rw [Function.update_of_ne hslot] at hroot
      refine ⟨⟨hm', hroot, hplace⟩, fun hcapm => hslot ?_⟩
      rw [hw.single m cap m' cap' v a ⟨hm, hcap, hcapm⟩ ⟨hm', hroot, hplace⟩]
  · rintro ⟨⟨hm', hcap', hplace⟩, hne⟩
    refine ⟨hm', ?_, hplace⟩
    show Function.update w.root.state.kernel.root m.mapping (some { cap with mapping := none }) m'.mapping = _
    rw [Function.update_of_ne, hcap']
    intro hslot
    rw [hslot, hcap] at hcap'
    obtain rfl := Option.some.inj hcap'
    exact hne hplace

theorem Accounted.revokes (op : SupervisorOp) {m : TaskMapping} {k : ObjectStore} (hw : Accounted h w)
    (hm : m ∈ w.mappings) (hop : op.unmaps = some m.mapping)
    (hk : w.root.state.kernel.unmapFrame h.machine.toPlatform m.mapping = .ok k)
    (hw' : Intact h (w.withLive ⟨k, w.threads⟩)) : Accounted h (w.withLive ⟨k, w.threads⟩) := by
  have hc : Change h w op (w.withLive ⟨k, w.threads⟩) := .unmaps hop hk
  have hretains := hc.retains hw.intact
  obtain ⟨cap, hcap, -, rfl⟩ := ObjectStore.unmapFrame_cases hk
  have hbase : ∀ x ∈ w.tasks, ∀ a page, x.BasePage _ a page ↔ x.BasePage w.root.state.kernel a page :=
    fun x hx _ _ => HeldTask.basePage_retained hretains (hw.intact.alive x hx)
  constructor
  case intact => exact hw'
  case owners =>
    intro slot cap' object address ho hcap' hmap
    have hroot : Function.update w.root.state.kernel.root m.mapping (some { cap with mapping := none }) slot =
        some cap' := hcap'
    rw [Function.update_of_ne (hw.mapping_ne hm ho).symm] at hroot
    exact (hw.owners slot cap' object address ho hroot hmap).mono hw.intact hc
  case reserved => exact hw.reserved
  case initial =>
    intro cap' hcap'
    obtain ⟨cap₀, hcap₀, hobject⟩ := hw.initVspace_eq hretains hcap'
    rw [← hobject]
    exact (hw.initial cap₀ hcap₀).mono hw.intact hc
  case held =>
    intro m' hm'
    obtain ⟨hroot, cap', hcap', hgranule⟩ := hw.held m' hm'
    exact ⟨hroot, hretains.granule hcap' hgranule⟩
  case placed =>
    intro m' cap' v address hp
    exact hw.placed m' cap' v address ((hw.inPlace_unmapped hm hcap).mp hp).1
  case single =>
    intro m₁ cap₁ m₂ cap₂ v address hp hp'
    exact hw.single m₁ cap₁ m₂ cap₂ v address ((hw.inPlace_unmapped hm hcap).mp hp).1
      ((hw.inPlace_unmapped hm hcap).mp hp').1
  case apart =>
    intro x hx m' cap' v address page hv hp
    rw [hbase x hx]
    exact hw.apart x hx m' cap' v address page ((hw.intact.vspace_of hc hx).mp hv)
      ((hw.inPlace_unmapped hm hcap).mp hp).1
  case exact =>
    intro x hx v vs' hv hvs' a page
    have hv₀ := (hw.intact.vspace_of hc hx).mp hv
    obtain ⟨v₀, vs, hv₁, hvs⟩ := (hw.intact.alive x hx).vspace
    obtain rfl := hv₀.unique hv₁
    obtain rfl := Object.vspace.inj ((ObjectStore.withPages_vspace hvs).symm.trans hvs')
    have hexact := hw.exact x hx v vs hv₀ hvs a
    rw [hbase x hx]
    unfold Granted
    simp only [hw.inPlace_unmapped hm hcap]
    unfold ObjectStore.pagesWithout
    by_cases hmap : cap.mapping = some (v, a)
    · -- the page goes, and nothing else is there
      have hplace : w.InPlace m cap v a := ⟨hm, hcap, hmap⟩
      have hpage := (hexact _).mpr (Or.inr ⟨m, cap, hplace, rfl⟩)
      rw [if_pos ⟨hmap, by rw [hpage]; rfl⟩]
      refine ⟨by nofun, ?_⟩
      rintro (hb | ⟨m', cap', ⟨-, hne⟩, -⟩)
      · exact absurd hb (hw.apart x hx m cap v a page hv₀ hplace)
      · exact absurd hmap hne
    · rw [if_neg fun h => hmap h.1, hexact]
      simp only [Granted, ne_eq, hmap, not_false_eq_true, and_true]

/-- A recovery mapping that was just made is in place, besides those that were. -/
theorem Accounted.inPlace_granted {s : BootState} {v address : Nat} {cap : Cap} {vs : VSpaceObject}
    (hw : Accounted h w) (hav : w.root.state.slots.Available)
    (hmapped : VSpace.Mapped v address cap vs .readWrite w.root.state s) {m' : TaskMapping} {cap' : Cap} {v' a : Nat} :
    Supervisor.InPlace { w with root :=
      ⟨s, w.root.handles ++ [.mapping ⟨w.root.state.slots.start, w.root.state.slots.start⟩]⟩ } m' cap' v' a ↔
    w.InPlace m' cap' v' a ∨ (m' = ⟨w.root.state.slots.start, w.root.state.slots.start⟩ ∧
      cap' = { cap.derive .readWrite with mapping := some (v, address) } ∧ v' = v ∧ a = address) := by
  have hempty : w.root.state.kernel.root w.root.state.slots.start = none :=
    hw.intact.ordered.vacant _ (Nat.le_refl _) hav
  have hmem : m' ∈ Supervisor.mappings { w with root :=
      ⟨s, w.root.handles ++ [.mapping ⟨w.root.state.slots.start, w.root.state.slots.start⟩]⟩ } ↔
      m' ∈ w.mappings ∨ m' = ⟨w.root.state.slots.start, w.root.state.slots.start⟩ := by
    rw [mem_mappings, mem_mappings, List.mem_append, List.mem_singleton]
    simp
  unfold InPlace
  rw [hmem]
  show (_ ∧ s.kernel.root m'.mapping = some cap' ∧ _) ↔ _
  rw [hmapped.root]
  constructor
  · rintro ⟨hold | rfl, hcap', hplace⟩
    · rw [Function.update_of_ne] at hcap'
      · exact Or.inl ⟨hold, hcap', hplace⟩
      · intro hslot
        obtain ⟨-, cap₀, hcap₀, -⟩ := hw.held m' hold
        rw [hslot, hempty] at hcap₀
        cases hcap₀
    · rw [Function.update_self] at hcap'
      obtain rfl := Option.some.inj hcap'
      obtain ⟨rfl, rfl⟩ := Prod.mk.inj (Option.some.inj hplace)
      exact Or.inr ⟨rfl, rfl, rfl, rfl⟩
  · rintro (⟨hold, hcap', hplace⟩ | ⟨rfl, rfl, rfl, rfl⟩)
    · refine ⟨Or.inl hold, ?_, hplace⟩
      rw [Function.update_of_ne, hcap']
      intro hslot
      rw [hslot, hempty] at hcap'
      cases hcap'
    · exact ⟨Or.inr rfl, Function.update_self _ _ _, rfl⟩

theorem Accounted.granted_iff {s : BootState} {v address : Nat} {cap : Cap} {vs : VSpaceObject}
    (hw : Accounted h w) (hav : w.root.state.slots.Available)
    (hmapped : VSpace.Mapped v address cap vs .readWrite w.root.state s) {v' a : Nat} {page : Page} :
    Supervisor.Granted { w with root :=
      ⟨s, w.root.handles ++ [.mapping ⟨w.root.state.slots.start, w.root.state.slots.start⟩]⟩ } v' a page ↔
    w.Granted v' a page ∨ (v' = v ∧ a = address ∧
      page = ⟨cap.object, (cap.rights.inter .readWrite).inter .readWrite⟩) := by
  unfold Granted
  simp only [hw.inPlace_granted hav hmapped]
  constructor
  · rintro ⟨m', cap', hold | ⟨rfl, rfl, rfl, rfl⟩, hpage⟩
    · exact Or.inl ⟨m', cap', hold, hpage⟩
    · exact Or.inr ⟨rfl, rfl, hpage⟩
  · rintro (⟨m', cap', hold, hpage⟩ | ⟨rfl, rfl, hpage⟩)
    · exact ⟨m', cap', Or.inl hold, hpage⟩
    · exact ⟨_, _, Or.inr ⟨rfl, rfl, rfl, rfl⟩, hpage⟩

/-- The VSpace of a task is what its slot holds, and where its pages are looked up. -/
theorem Intact.vspace {x : HeldTask} (hw : Intact h w) (hx : x ∈ w.tasks) :
    ∃ v vs, x.task.HasPart w.root.state.kernel .vspace v ∧ w.root.state.kernel.objects v = .vspace vs ∧
      Holds x.task.vspace.root v .vspace w.root.state ∧
      ∀ a, w.root.state.kernel.pageAt x.task.vspace.root a = vs.pages a := by
  have halive := hw.alive x hx
  obtain ⟨v, vs, hv, hvs⟩ := halive.vspace
  obtain ⟨-, hhi, cap, hcap, hobject, hfits⟩ := id hv
  have hcap' : w.root.state.kernel.root x.task.vspace.root = some cap := hcap
  have hkind : cap.blueprint = .vspace := by
    cases hblueprint : cap.blueprint with
    | vspace => rfl
    | _ =>
        rw [hblueprint] at hfits
        exact hfits.elim
  refine ⟨v, vs, hv, hvs, ⟨Nat.lt_of_lt_of_le hhi halive.slots_le, ⟨cap, hcap', hobject, hkind⟩,
    Nat.lt_of_lt_of_le (halive.numbered _ _ hv).2 halive.objects_le⟩, fun a => ?_⟩
  have hat : w.root.state.kernel.vspaceAt x.task.vspace.root = .ok (v, vs) :=
    ObjectStore.vspaceAt_eq_ok.mpr ⟨cap, hcap', hobject, hvs⟩
  rw [ObjectStore.pageAt, hat]

theorem Accounted.grants {task : Task} {frame : Frame} {address v : Nat} {cap : Cap} {vs : VSpaceObject}
    {s : BootState} (hw : Accounted h w) (htask : task ∈ w.tasks.map HeldTask.task)
    (hfree : w.root.state.kernel.pageAt task.vspace.root address = none) (hav : w.root.state.slots.Available)
    (hsource : w.root.state.kernel.root frame.cap = some cap)
    (hmapped : VSpace.Mapped v address cap vs .readWrite w.root.state s)
    (hv : ∀ object, Holds task.vspace.root object .vspace w.root.state → v = object)
    (hw' : Intact h { w with root :=
      ⟨s, w.root.handles ++ [.mapping ⟨w.root.state.slots.start, w.root.state.slots.start⟩]⟩ }) :
    Accounted h { w with root :=
      ⟨s, w.root.handles ++ [.mapping ⟨w.root.state.slots.start, w.root.state.slots.start⟩]⟩ } := by
  have hc : Change h w (.root (.mapRecoveryFrame task frame address)) { w with root :=
      ⟨s, w.root.handles ++ [.mapping ⟨w.root.state.slots.start, w.root.state.slots.start⟩]⟩ } :=
    .grants hav hsource hmapped hv
  have hretains := hc.retains hw.intact
  have htasks : Supervisor.tasks { w with root :=
      ⟨s, w.root.handles ++ [.mapping ⟨w.root.state.slots.start, w.root.state.slots.start⟩]⟩ } = w.tasks := by
    show List.filterMap Handle.held (_ ++ _) = List.filterMap Handle.held _
    simp [Handle.held]
  have hbase : ∀ x ∈ w.tasks, ∀ a page, x.BasePage s.kernel a page ↔ x.BasePage w.root.state.kernel a page :=
    fun x hx _ _ => HeldTask.basePage_retained hretains (hw.intact.alive x hx)
  -- the VSpace is that of the task, and has nothing at the address
  obtain ⟨x₀, hx₀, rfl⟩ := List.mem_map.mp htask
  obtain ⟨v₀, vs₀, hpart₀, hvs₀, hholds, hpageAt⟩ := hw.intact.vspace hx₀
  obtain rfl := hv v₀ hholds
  obtain rfl := Object.vspace.inj (hmapped.vspace.symm.trans hvs₀)
  have hnone : vs.pages address = none := (hpageAt address).symm.trans hfree
  have hnothing : ∀ m' cap', ¬ w.InPlace m' cap' v address := by
    intro m' cap' hp
    have hpage := (hw.exact x₀ hx₀ v vs hpart₀ hvs₀ address _).mpr (Or.inr ⟨m', cap', hp, rfl⟩)
    cases hnone.symm.trans hpage
  constructor
  case intact => exact hw'
  case owners =>
    intro slot cap' object a ho hcap' hmap
    have ho' : w.root.Obtainable slot := by
      have hfirst := hw'.ordered.first.trans hw.intact.ordered.first.symm
      have hstop := hw'.ordered.stop.trans hw.intact.ordered.stop.symm
      unfold RootTask.Obtainable RootTask.taskFrames at ho ⊢
      rw [hfirst, hstop] at ho
      have hsame : RootTask.tasks ⟨s, w.root.handles ++
        [.mapping ⟨w.root.state.slots.start, w.root.state.slots.start⟩]⟩ = w.root.tasks := htasks
      rw [hsame] at ho
      simpa [Handle.frameCap] using ho
    have hne : slot ≠ w.root.state.slots.start := by
      have hlt : w.root.state.slots.start < w.root.state.slots.stop := hav
      have hslot := hw.intact.obtainable_lt ho'
      omega
    have hroot : s.kernel.root slot = some cap' := hcap'
    rw [hmapped.root, Function.update_of_ne hne] at hroot
    exact (hw.owners slot cap' object a ho' hroot hmap).mono hw.intact hc
  case reserved => exact hw.reserved
  case initial =>
    intro cap' hcap'
    obtain ⟨cap₀, hcap₀, hobject⟩ := hw.initVspace_eq hretains hcap'
    rw [← hobject]
    exact (hw.initial cap₀ hcap₀).mono hw.intact hc
  case held =>
    intro m' hm'
    rw [mem_mappings, List.mem_append, List.mem_singleton, ← mem_mappings] at hm'
    rcases hm' with hold | hnew
    · obtain ⟨hroot, cap', hcap', hgranule⟩ := hw.held m' hold
      exact ⟨hroot, hretains.granule hcap' hgranule⟩
    · obtain rfl := Handle.mapping.inj hnew
      exact ⟨rfl, _, (congrFun hmapped.root _).trans (Function.update_self _ _ _), hmapped.granule⟩
  case placed =>
    intro m' cap' v' a hp
    refine Nat.lt_of_lt_of_le ?_ hretains.nextObject_le
    rcases (hw.inPlace_granted hav hmapped).mp hp with hold | ⟨-, -, rfl, -⟩
    · exact hw.placed m' cap' v' a hold
    · exact hholds.object_lt
  case single =>
    intro m₁ cap₁ m₂ cap₂ v' a hp₁ hp₂
    rcases (hw.inPlace_granted hav hmapped).mp hp₁ with hold₁ | ⟨rfl, -, rfl, rfl⟩
    · rcases (hw.inPlace_granted hav hmapped).mp hp₂ with hold₂ | ⟨rfl, -, rfl, rfl⟩
      · exact hw.single m₁ cap₁ m₂ cap₂ v' a hold₁ hold₂
      · exact absurd hold₁ (hnothing _ _)
    · rcases (hw.inPlace_granted hav hmapped).mp hp₂ with hold₂ | ⟨rfl, -, -, -⟩
      · exact absurd hold₂ (hnothing _ _)
      · rfl
  case apart =>
    intro x hx m' cap' v' a page hpart hp
    rw [htasks] at hx
    have hpart' := (hw.intact.vspace_of hc hx).mp hpart
    rw [hbase x hx]
    rcases (hw.inPlace_granted hav hmapped).mp hp with hold | ⟨-, -, rfl, rfl⟩
    · exact hw.apart x hx m' cap' v' a page hpart' hold
    · intro hb
      have hpage := (hw.exact x hx v' vs hpart' hvs₀ a page).mpr (Or.inl hb)
      cases hnone.symm.trans hpage
  case exact =>
    intro x hx v' vs' hpart hvs' a page
    rw [htasks] at hx
    have hpart' := (hw.intact.vspace_of hc hx).mp hpart
    rw [hbase x hx, hw.granted_iff hav hmapped]
    by_cases hsame : v' = v
    · subst hsame
      obtain rfl := Object.vspace.inj
        (((congrFun hmapped.objects v').trans (Function.update_self _ _ _)).symm.trans hvs')
      have hexact := hw.exact x hx v' vs hpart' hvs₀ a page
      dsimp only
      by_cases ha : a = address
      · subst ha
        rw [Function.update_self]
        rw [hnone] at hexact
        constructor
        · intro hpage
          exact Or.inr (Or.inr ⟨rfl, rfl, (Option.some.inj hpage).symm⟩)
        · rintro (hb | hg | ⟨-, -, rfl⟩)
          · cases hexact.mpr (Or.inl hb)
          · cases hexact.mpr (Or.inr hg)
          · rfl
      · rw [Function.update_of_ne ha, hexact]
        simp [ha]
    · have hvs := ((congrFun hmapped.objects v').trans (Function.update_of_ne hsame _ _)).symm.trans hvs'
      rw [hw.exact x hx v' vs' hpart' hvs a page]
      simp [hsame]

/-! ## Runs -/

theorem Initial.accounted (hi : Initial h w) : Accounted h w := by
  have hintact := hi.intact
  have htasks : w.tasks = [] := by
    unfold tasks RootTask.tasks
    rw [hi.root.handles]
    rfl
  have hmappings : w.mappings = [] := by
    unfold mappings
    rw [hi.root.handles]
    rfl
  have hplace : ∀ m cap v a, ¬ w.InPlace m cap v a := by
    rintro m cap v a ⟨hm, -⟩
    rw [hmappings] at hm
    cases hm
  have hout : ∀ object, object < w.root.state.kernel.nextObject → w.Outside object := by
    intro object hlt
    refine ⟨hlt, ?_⟩
    rw [htasks]
    nofun
  constructor
  case intact => exact hintact
  case owners => exact fun slot cap object address _ hcap hmap => hout _ (hi.mapped slot cap object address hcap hmap)
  case reserved => exact hi.initVspace
  case initial => exact fun cap hcap => hout _ (hi.root.numbered _ cap hcap)
  case held =>
    rw [hmappings]
    nofun
  case placed => exact fun m cap v a hp => absurd hp (hplace m cap v a)
  case single => exact fun m cap m' cap' v a hp _ => absurd hp (hplace m cap v a)
  case apart =>
    rw [htasks]
    nofun
  case exact =>
    rw [htasks]
    nofun

/-- **One careful operation keeps every page accounted for.** -/
theorem Accounted.step {op : SupervisorOp} (hw : Accounted h w) (ha : w.Careful op)
    (hs : Supervisor.step h w op = some w') : Accounted h w' := by
  have hc := hw.intact.change ha.1 hs
  have hw' := hw.intact.step ha.1 hs
  cases hc with
  | @builds op s new hp hnew => exact hw.builds op hp hnew hw'
  | grants hav hsource hmapped hv => exact hw.grants ha.1.1 (ha.2 _ rfl) hav hsource hmapped hv hw'
  | happens hop hk => exact hw.happens hop hk hw'
  | maps hk => exact hw.maps ha.1 hk hw'
  | unmaps hop hk =>
      cases op with
      | unmap frame answer =>
          cases answer with
          | none =>
              obtain rfl := Option.some.inj hop
              exact hw.unmapsOwner (.unmap frame none) ha.1 rfl hk hw'
          | some e => cases hop
      | unmapMapping m answer =>
          cases answer with
          | none =>
              obtain rfl := Option.some.inj hop
              exact hw.revokes (.unmapMapping m none) ha.1 rfl hk hw'
          | some e => cases hop
      | _ => cases hop
  | nothing hop => exact hw

theorem accounted_reachable (hr : Reachable (Supervisor.step h) (Initial h) Careful w) : Accounted h w :=
  hr.invariant (fun _ hi => hi.accounted) fun _ _ _ hw ha hs => hw.step ha hs

/-- A page that a task has by a recovery mapping. -/
def GrantedTo (w : Supervisor) (x : HeldTask) (address : Nat) (page : Page) : Prop :=
  ∃ v, x.task.HasPart w.root.state.kernel .vspace v ∧ w.Granted v address page

theorem Accounted.mapsPage {x : HeldTask} (hw : Accounted h w) (hx : x ∈ w.tasks) {a : Nat} {page : Page} :
    x.task.MapsPage w.root.state.kernel a page ↔
      x.BasePage w.root.state.kernel a page ∨ w.GrantedTo x a page := by
  obtain ⟨v, vs, hv, hvs, -, -⟩ := hw.intact.vspace hx
  have hexact := hw.exact x hx v vs hv hvs a page
  constructor
  · rintro ⟨v', vs', hv', hvs', hpage⟩
    obtain rfl := hv.unique hv'
    obtain rfl := Object.vspace.inj (hvs.symm.trans hvs')
    rcases hexact.mp hpage with hbase | hgranted
    · exact Or.inl hbase
    · exact Or.inr ⟨v, hv, hgranted⟩
  · rintro (hbase | ⟨v', hv', hgranted⟩)
    · exact ⟨v, vs, hv, hvs, hexact.mpr (Or.inl hbase)⟩
    · obtain rfl := hv.unique hv'
      exact ⟨v, vs, hv, hvs, hexact.mpr (Or.inr hgranted)⟩

/-- A page of the configuration that a task can write is in a frame made for it. -/
theorem Intact.basePage_frame {x : HeldTask} (hw : Intact h w) (hx : x ∈ w.tasks) {a : Nat} {page : Page}
    (hb : x.BasePage w.root.state.kernel a page) :
    (x.objects.1 ≤ page.frame ∧ page.frame < x.objects.2) ∨
      (a = x.config.code.address ∧ page.rights.write = false) := by
  have hnumbered := (hw.alive x hx).numbered
  cases hb with
  | code hcode => exact Or.inr ⟨rfl, Bool.and_false _⟩
  | privateMemory hp => exact Or.inl (hnumbered _ _ hp)
  | stack hb => exact Or.inl (hnumbered _ _ hb)
  | ipcBuffer hi => exact Or.inl (hnumbered _ _ hi)

/-- **The memory of tasks.** However many tasks have been made, and whatever has been granted to them, taken
    back, mapped by the root task itself and refused by the kernel: as long as recovery frames go to free
    addresses, a task maps exactly the pages of its configuration and those of the recovery mappings in place.
    A frame that one task can write and another maps is so by a recovery mapping of one of them, or is the code
    of the other, which cannot write it. -/
theorem memory_exact (hr : Reachable (Supervisor.step h) (Initial h) Careful w) :
    (∀ x ∈ w.tasks, ∀ a page, x.task.MapsPage w.root.state.kernel a page ↔
      x.BasePage w.root.state.kernel a page ∨ w.GrantedTo x a page) ∧
    (∀ x ∈ w.tasks, ∀ y ∈ w.tasks, x ≠ y → ∀ a page a' page', x.task.MapsPage w.root.state.kernel a page →
      y.task.MapsPage w.root.state.kernel a' page' → page.frame = page'.frame → page.rights.write = true →
      w.GrantedTo x a page ∨ w.GrantedTo y a' page' ∨
        (a' = y.config.code.address ∧ page'.rights.write = false)) := by
  have hw := accounted_reachable hr
  refine ⟨fun x hx a page => hw.mapsPage hx, ?_⟩
  intro x hx y hy hne a page a' page' hp hp' hframe hwrite
  rcases (hw.mapsPage hx).mp hp with hbase | hgranted
  · rcases (hw.mapsPage hy).mp hp' with hbase' | hgranted'
    · rcases hw.intact.basePage_frame hx hbase with hown | ⟨-, hro⟩
      · rcases hw.intact.basePage_frame hy hbase' with hown' | hcode
        · have hapart := hw.intact.apart hx hy hne
          omega
        · exact Or.inr (Or.inr hcode)
      · rw [hro] at hwrite
        cases hwrite
    · exact Or.inr (Or.inl hgranted')
  · exact Or.inl hgranted

/-- What a task maps is what its VSpace has at the address. -/
theorem Intact.mapsPage_iff {x : HeldTask} (hw : Intact h w) (hx : x ∈ w.tasks) {a : Nat} {page : Page} :
    x.task.MapsPage w.root.state.kernel a page ↔ w.root.state.kernel.pageAt x.task.vspace.root a = some page := by
  obtain ⟨v, vs, hv, hvs, -, hpageAt⟩ := hw.vspace hx
  rw [hpageAt]
  constructor
  · rintro ⟨v', vs', hv', hvs', hpage⟩
    obtain rfl := hv.unique hv'
    obtain rfl := Object.vspace.inj (hvs.symm.trans hvs')
    exact hpage
  · intro hpage
    exact ⟨v, vs, hv, hvs, hpage⟩

/-- The first task is given a frame at an address where it has reserved a page. -/
def granting : List SupervisorOp := supervised ++ [.root (.mapRecoveryFrame firstTask ⟨100⟩ 0x600000)]

theorem memory_exact_granting : ∃ (w : Supervisor) (x : HeldTask) (page : Page), x ∈ w.tasks ∧
    x.task.MapsPage w.root.state.kernel 0x600000 page ∧
    (x.BasePage w.root.state.kernel 0x600000 page ∨ w.GrantedTo x 0x600000 page) := by
  have hframe : ((granting.foldlM (guardedStep (Supervisor.step RootTask.host) Careful) start).bind fun w =>
      w.tasks.head?.map fun x => (w.root.state.kernel.pageAt x.task.vspace.root 0x600000).isSome) =
      some true := by
    decide +kernel
  obtain ⟨w, hrun, hw⟩ := Option.bind_eq_some_iff.mp hframe
  obtain ⟨x, hhead, hsome⟩ := Option.map_eq_some_iff.mp hw
  obtain ⟨page, hpage⟩ := Option.isSome_iff_exists.mp hsome
  have hr := (Reachable.refl start_initial).foldlM_guarded _ hrun
  have hx : x ∈ w.tasks := List.mem_of_mem_head? hhead
  have hmaps := ((accounted_reachable hr).intact.mapsPage_iff hx).mpr hpage
  exact ⟨w, x, page, hx, hmaps, ((memory_exact hr).1 x hx 0x600000 page).mp hmaps⟩

end Supervisor
end Ricoq
