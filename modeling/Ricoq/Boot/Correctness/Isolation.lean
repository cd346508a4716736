import Ricoq.Boot.Correctness.Domain
import Ricoq.Boot.Correctness.Ownership

/-!
# `Boot.Correctness.Isolation` — tasks share no page that one of them can write

The objects made for a task have the numbers from its call, so the objects of two tasks are distinct. What a
task maps besides its own frames is its code frame, which is not a frame of any task (`CodeFrame`) and which
it cannot write. Recovery mappings are not part of this: they add pages by design.
-/

namespace Ricoq

open Sel4 Bootstrap

namespace RootTask

/-- The operations considered: recovery mappings are left out, and no task gets a task's frame as code. -/
def Allowed (w : RootTask) : RootOp → Prop
  | .createTask config      => w.Obtainable config.code.frame.cap ∧ config.code.frame.cap ∉ w.taskFrames
  | .mapRecoveryFrame _ _ _ => False
  | _                       => True

instance (w : RootTask) : DecidablePred w.Allowed
  | .createTask config      => inferInstanceAs (Decidable (w.Obtainable config.code.frame.cap ∧ _))
  | .mapRecoveryFrame _ _ _ => inferInstanceAs (Decidable False)
  | .allocateFrame          => inferInstanceAs (Decidable True)
  | .allocateEndpoint       => inferInstanceAs (Decidable True)
  | .allocateNotification   => inferInstanceAs (Decidable True)
  | .allocateFaultEndpoint  => inferInstanceAs (Decidable True)
  | .allocateReplyPool _    => inferInstanceAs (Decidable True)

/-- A frame that is no task's: allocated by the root task, or not from the allocator's range. -/
def CodeFrame (w : RootTask) (slot : Nat) : Prop :=
  .frame ⟨slot⟩ ∈ w.handles ∨ slot < w.state.slots.first ∨ w.state.slots.stop ≤ slot

variable (h : Host) {w w' : RootTask}

/-! ## The invariant -/

/-- Every task stands, in numbers of its own; code frames have other numbers. -/
structure Isolated (w : RootTask) : Prop where
  ordered : Ordered h w
  stands : ∀ x ∈ w.tasks, Stands x w.state
  ranges : w.tasks.Pairwise fun x y => x.objects.2 ≤ y.objects.1
  code : ∀ x ∈ w.tasks, w.CodeFrame x.config.code.frame.cap
  shared : ∀ slot cap, w.CodeFrame slot → w.state.kernel.root slot = some cap →
    cap.object < w.state.kernel.nextObject ∧ ∀ x ∈ w.tasks, cap.object < x.objects.1 ∨ x.objects.2 ≤ cap.object

theorem codeFrame_of_allowed {slot : Nat} (ho : w.Obtainable slot) (hnot : slot ∉ w.taskFrames) :
    w.CodeFrame slot := by
  rcases ho with hframe | htask | hout
  · obtain ⟨handle, hmem, hcap⟩ := List.mem_filterMap.mp hframe
    cases handle with
    | frame f =>
        obtain rfl := Option.some.inj hcap
        exact Or.inl hmem
    | _ => exact nomatch hcap
  · exact absurd htask hnot
  · exact Or.inr hout

/-- A code frame's slot is below the next slot or outside the range. -/
theorem CodeFrame.slot_lt {slot : Nat} (hw : Ordered h w) (hc : w.CodeFrame slot) :
    slot < w.state.slots.start ∨ w.state.slots.stop ≤ slot := by
  have hfirst := w.state.slots.first_le
  rcases hc with hmem | hlt | hle
  · exact Or.inl (hw.within _ hmem).2
  · omega
  · exact Or.inr hle

/-- What an operation says of the handle it returns. -/
def New (w : RootTask) (s : BootState) : Handle → Prop
  | .frame f => ∀ cap, s.kernel.root f.cap = some cap →
      w.state.kernel.nextObject ≤ cap.object ∧ cap.object < s.kernel.nextObject
  | .task x  => Stands x s ∧ x.objects = (w.state.kernel.nextObject, s.kernel.nextObject) ∧
      w.CodeFrame x.config.code.frame.cap
  | _        => True

/-! ### One more handle, or none -/

section Extend

variable {s : BootState} {new : Option Handle}

/-- A task is an old one or the new one. -/
theorem New.of_mem_tasks (hnew : ∀ handle, new = some handle → w.New s handle) {x : HeldTask}
    (hx : x ∈ (RootTask.mk s (w.handles ++ new.toList)).tasks) : x ∈ w.tasks ∨ w.New s (.task x) := by
  rcases List.mem_append.mp (mem_tasks.mp hx) with hold | hlast
  · exact Or.inl (mem_tasks.mpr hold)
  · exact Or.inr (hnew _ (Option.mem_toList.mp hlast))

variable (hfirst : s.slots.first = w.state.slots.first) (hstop : s.slots.stop = w.state.slots.stop)
include hfirst hstop

/-- A code frame stays one. -/
theorem CodeFrame.extend {slot : Nat} (hc : w.CodeFrame slot) :
    (RootTask.mk s (w.handles ++ new.toList)).CodeFrame slot := by
  rcases hc with hmem | hlt | hle
  · exact Or.inl (List.mem_append_left _ hmem)
  · exact Or.inr (Or.inl (hfirst.symm ▸ hlt))
  · exact Or.inr (Or.inr (hstop.symm ▸ hle))

/-- A code frame is an old one or the new frame. -/
theorem CodeFrame.of_extend {slot : Nat} (hc : (RootTask.mk s (w.handles ++ new.toList)).CodeFrame slot) :
    w.CodeFrame slot ∨ new = some (.frame ⟨slot⟩) := by
  rcases hc with hmem | hlt | hle
  · rcases List.mem_append.mp hmem with hold | hlast
    · exact Or.inl (Or.inl hold)
    · exact Or.inr (Option.mem_toList.mp hlast)
  · exact Or.inl (Or.inr (Or.inl (hfirst ▸ hlt)))
  · exact Or.inl (Or.inr (Or.inr (hstop ▸ hle)))

end Extend

/-- What is behind a code frame's slot was there before. -/
theorem CodeFrame.root_eq {s : BootState} {slot : Nat} (hw : Ordered h w) (hc : w.CodeFrame slot)
    (hp : Preserves w.state s) : s.kernel.root slot = w.state.kernel.root slot := by
  rcases hc.slot_lt h hw with hlt | hle
  · exact hp.below slot hlt
  · exact hp.beyond slot hle

/-- The invariant survives an operation that leaves alone what was there, whether it returns a handle or
    not. -/
theorem Isolated.extend {s : BootState} (new : Option Handle) (hw : Isolated h w)
    (hp : Preserves w.state s) (ho : Ordered h ⟨s, w.handles ++ new.toList⟩)
    (hnew : ∀ handle, new = some handle → w.New s handle) : Isolated h ⟨s, w.handles ++ new.toList⟩ := by
  have hfirst : s.slots.first = w.state.slots.first := ho.first.trans hw.ordered.first.symm
  have hstop : s.slots.stop = w.state.slots.stop := ho.stop.trans hw.ordered.stop.symm
  constructor
  case ordered => exact ho
  case stands =>
    intro x hx
    rcases New.of_mem_tasks hnew hx with hold | ⟨hstands, -, -⟩
    · exact (hw.stands x hold).mono hp
    · exact hstands
  case ranges =>
    show ((w.handles ++ new.toList).filterMap Handle.held).Pairwise _
    rw [List.filterMap_append, List.pairwise_append]
    refine ⟨hw.ranges, ?_, ?_⟩
    · cases new with
      | none => exact List.Pairwise.nil
      | some handle =>
          cases handle with
          | task x => exact List.pairwise_singleton _ _
          | _ => exact List.Pairwise.nil
    · intro x hx y hy
      obtain ⟨handle, hhandle, hheld⟩ := List.mem_filterMap.mp hy
      have hn := hnew handle (Option.mem_toList.mp hhandle)
      cases handle with
      | task z =>
          obtain rfl := Option.some.inj hheld
          rw [hn.2.1]
          exact (hw.stands x hx).objects_le
      | _ => exact nomatch hheld
  case code =>
    intro x hx
    rcases New.of_mem_tasks hnew hx with hold | ⟨-, -, hcode⟩
    · exact (hw.code x hold).extend hfirst hstop
    · exact hcode.extend hfirst hstop
  case shared =>
    intro slot cap hc hcap
    have hnext := hp.nextObject_le
    rcases hc.of_extend hfirst hstop with hcode | hframe
    · have hroot := (hcode.root_eq h hw.ordered hp).symm.trans hcap
      obtain ⟨hlt, hout⟩ := hw.shared slot cap hcode hroot
      refine ⟨Nat.lt_of_lt_of_le hlt hnext, ?_⟩
      intro x hx
      rcases New.of_mem_tasks hnew hx with hold | ⟨-, hobjects, -⟩
      · exact hout x hold
      · rw [hobjects]
        exact Or.inl hlt
    · obtain ⟨hlo, hhi⟩ := hnew _ hframe cap hcap
      refine ⟨hhi, ?_⟩
      intro x hx
      -- the handle is a frame, so the task is an old one
      rcases List.mem_append.mp (mem_tasks.mp hx) with hold | hlast
      · exact Or.inr (Nat.le_trans (hw.stands x (mem_tasks.mpr hold)).objects_le hlo)
      · rw [hframe] at hlast
        exact nomatch List.mem_singleton.mp hlast

/-! ## Runs -/

/-- An operation leaves alone what was there, whatever its outcome; `D` is what it ensures on return. -/
def Leaves {α : Type} (x : Boot α) (s : BootState) (D : α → BootState → Prop) : Prop :=
  Prog.Ensures x s (fun a s' => Preserves s s' ∧ D a s') fun _ s' => Preserves s s'

theorem Isolated.perform {α : Type} {x : Boot α} {keep : α → BootState → Handle} {D : α → BootState → Prop}
    (hw : Isolated h w) (ho : Ordered h w') (hx : Leaves x w.state D)
    (hD : ∀ a s, D a s → w.New s (keep a s)) (hs : w.perform x keep = some w') : Isolated h w' := by
  rcases perform_cases hx hs with ⟨a, s, -, ⟨hp, hd⟩, rfl⟩ | ⟨e, s, -, hp, rfl⟩
  · refine Isolated.extend h (some (keep a s)) hw hp ho ?_
    rintro handle ⟨⟩
    exact hD a s hd
  · have hsame : RootTask.mk s w.handles = ⟨s, w.handles ++ (none : Option Handle).toList⟩ := by
      rw [Option.toList_none, List.append_nil]
    show Isolated h (RootTask.mk s w.handles)
    have ho' : Ordered h (RootTask.mk s w.handles) := ho
    rw [hsame] at ho' ⊢
    exact Isolated.extend h none hw hp ho' nofun

section Operations

variable {s : BootState}

theorem allocateBlueprint_leaves (hvacant : Vacant s) (hle : s.slots.start ≤ s.slots.stop)
    (blueprint : ObjectBlueprint) :
    Leaves (allocateBlueprint h blueprint) s fun slot s' => slot = s.slots.start ∧ Created blueprint s s' := by
  apply Prog.Ensures.conseq (allocateBlueprint_builds h (fun _ => False) blueprint s)
  · rintro slot s' ⟨hext, hcreated⟩
    exact ⟨.of_extends hext hvacant hle, hcreated⟩
  · rintro e s' hext
    exact .of_extends hext hvacant hle

theorem allocateFrame_leaves (hvacant : Vacant s) (hle : s.slots.start ≤ s.slots.stop) :
    Leaves (allocateFrame h) s fun frame s' => frame = ⟨s.slots.start⟩ ∧ Created .granule s s' := by
  rcases (allocateBlueprint_leaves h hvacant hle .granule).cases with
    ⟨slot, s', hrun, hp, rfl, hcreated⟩ | ⟨e, s', hrun, hp⟩
  · exact Prog.Ensures.ok (Prog.run_bind_ok hrun) ⟨hp, rfl, hcreated⟩
  · exact Prog.Ensures.err (Prog.run_bind_err hrun) hp

theorem allocateReplyPool_leaves (capacity : Nat) :
    Leaves (allocateReplyPool capacity) s fun _ _ => True := by
  rcases allocateReplyPool_cases s capacity with ⟨e, hrun⟩ | ⟨pool, slots, hrun, hreserve, -⟩
  · exact Prog.Ensures.err hrun
      ⟨Nat.le_refl _, Nat.le_refl _, fun _ _ => rfl, fun _ _ => rfl, fun _ _ hc => hc, fun _ _ _ => rfl⟩
  · obtain ⟨-, -, -, hstart, -⟩ := FreeSlots.reserve_eq_some.mp hreserve
    have hstart_le : s.slots.start ≤ slots.start := hstart ▸ Nat.le_add_right _ _
    exact Prog.Ensures.ok hrun ⟨⟨hstart_le, Nat.le_refl _, fun _ _ => rfl, fun _ _ => rfl,
      fun _ _ hc => hc, fun _ _ _ => rfl⟩, trivial⟩

/-- Creating a task leaves the others alone; the new task stands if its code frame was there before. -/
theorem createTask_leaves (hvacant : Vacant s) (hle : s.slots.start ≤ s.slots.stop) (config : TaskConfig)
    (hcode : config.code.frame.cap < s.slots.start ∨ s.slots.stop ≤ config.code.frame.cap) :
    Leaves (createTask h config) s fun task s' =>
      Stands ⟨task, config, (s.kernel.nextObject, s'.kernel.nextObject)⟩ s' := by
  have hsettles := createTask_settles h (fun _ => False) config s
  generalize hcall : createTask h config s = r at hsettles
  cases hsettles with
  | done hrun hext hmade =>
      refine Prog.Ensures.ok hcall ⟨.of_extends hext hvacant hle, hmade.stands hvacant hext ?_⟩
      have hstop := hext.le_stop
      omega
  | undone hrun hext hdeleted hback hkept =>
      exact Prog.Ensures.err hcall (.of_rolledBack hext hback hkept hvacant)
  | stuck hrun hext hfailed hcleared hkept =>
      exact Prog.Ensures.err hcall (.of_cleared hext hcleared hkept hvacant hle)

end Operations

theorem Initial.isolated (hi : Initial h w) : Isolated h w := by
  have ho := hi.ordered h
  have htasks : w.tasks = [] := by
    unfold tasks
    rw [hi.handles]
    rfl
  refine ⟨ho, ?_, ?_, ?_, ?_⟩
  · rw [htasks]
    nofun
  · rw [htasks]
    exact List.Pairwise.nil
  · rw [htasks]
    nofun
  · intro slot cap _ hcap
    rw [htasks]
    exact ⟨hi.numbered slot cap hcap, nofun⟩

/-- One allowed operation keeps the invariant. -/
theorem Isolated.step {op : RootOp} (hw : Isolated h w) (ha : w.Allowed op) (hs : step h w op = some w') :
    Isolated h w' := by
  have ho := hw.ordered.step h hs
  have hvacant := hw.ordered.vacant
  have hle := hw.ordered.start_le
  unfold RootTask.step at hs
  cases op with
  | allocateFrame =>
      refine hw.perform h ho (allocateFrame_leaves h hvacant hle) ?_ hs
      rintro frame s ⟨rfl, hcreated⟩ cap hcap
      -- the new frame has the next number
      rw [hcreated.holds.object_eq hcap]
      exact ⟨Nat.le_refl _, hcreated.holds.object_lt⟩
  | allocateEndpoint =>
      refine hw.perform h ho (allocateBlueprint_leaves h hvacant hle .endpoint) ?_ hs
      exact fun _ _ _ => trivial
  | allocateNotification =>
      refine hw.perform h ho (allocateBlueprint_leaves h hvacant hle .notification) ?_ hs
      exact fun _ _ _ => trivial
  | allocateFaultEndpoint =>
      refine hw.perform h ho (allocateBlueprint_leaves h hvacant hle .endpoint) ?_ hs
      exact fun _ _ _ => trivial
  | allocateReplyPool capacity =>
      refine hw.perform h ho (allocateReplyPool_leaves capacity) ?_ hs
      exact fun _ _ _ => trivial
  | createTask config =>
      have hcode := codeFrame_of_allowed ha.1 ha.2
      refine hw.perform h ho (createTask_leaves h hvacant hle config (hcode.slot_lt h hw.ordered)) ?_ hs
      intro task s hstands
      exact ⟨hstands, rfl, hcode⟩
  | mapRecoveryFrame task frame address => exact ha.elim

end RootTask

/-! ## What isolation means -/

variable {s : BootState} {x : HeldTask}

/-- The object of a part is determined. -/
theorem Task.HasPart.unique {task : Task} {k : ObjectStore} {part : Part} {object object' : Nat}
    (hp : task.HasPart k part object) (hp' : task.HasPart k part object') : object = object' := by
  obtain ⟨-, -, cap, hcap, rfl, -⟩ := hp
  obtain ⟨-, -, cap', hcap', rfl, -⟩ := hp'
  obtain rfl := Option.some.inj (hcap.symm.trans hcap')
  rfl

/-- A page a task maps is in a frame of its own, or is its code page, which it cannot write. -/
theorem Stands.mapsPage (hs : Stands x s) {address : Nat} {page : Page}
    (hm : x.task.MapsPage s.kernel address page) : (x.objects.1 ≤ page.frame ∧ page.frame < x.objects.2) ∨
      (page.rights.write = false ∧
        ∃ code, s.kernel.root x.config.code.frame.cap = some code ∧ page.frame = code.object) := by
  obtain ⟨c, v, p, b, i, t, code, hc⟩ := hs.configured
  obtain ⟨vs, hvs, hpages⟩ := hc.pages
  obtain ⟨v', vs', hv', hvs', hpage⟩ := hm
  obtain rfl := hc.vspace.unique hv'
  obtain rfl := Object.vspace.inj (hvs.symm.trans hvs')
  by_cases haddress : address ∈ x.config.pageAddresses
  · simp only [TaskConfig.pageAddresses, List.mem_cons, List.not_mem_nil, or_false] at haddress
    rcases haddress with rfl | rfl | rfl | rfl
    · obtain rfl := Option.some.inj (hpages.code.symm.trans hpage)
      exact Or.inr ⟨Bool.and_false _, code, hc.codeFrame, rfl⟩
    · obtain rfl := Option.some.inj (hpages.privateMemory.symm.trans hpage)
      exact Or.inl (hs.numbered _ _ hc.privateMemory)
    · obtain rfl := Option.some.inj (hpages.stack.symm.trans hpage)
      exact Or.inl (hs.numbered _ _ hc.stack)
    · obtain rfl := Option.some.inj (hpages.ipcBuffer.symm.trans hpage)
      exact Or.inl (hs.numbered _ _ hc.ipcBuffer)
  · rw [hpages.nothing_else address haddress] at hpage
    cases hpage

namespace RootTask

variable (h : Host) {w : RootTask}

/-- A page one task can write is not one another task maps. -/
theorem Isolated.not_shared (hw : Isolated h w) {x y : HeldTask} (hx : x ∈ w.tasks) (hy : y ∈ w.tasks)
    (hne : x.objects.2 ≤ y.objects.1 ∨ y.objects.2 ≤ x.objects.1) {a a' : Nat} {page page' : Page}
    (hp : x.task.MapsPage w.state.kernel a page) (hp' : y.task.MapsPage w.state.kernel a' page')
    (hwrite : page.rights.write = true) : page'.frame ≠ page.frame := by
  intro heq
  rcases (hw.stands x hx).mapsPage hp with ⟨hlo, hhi⟩ | ⟨hro, -⟩
  · rcases (hw.stands y hy).mapsPage hp' with ⟨hlo', hhi'⟩ | ⟨-, code, hcode, hframe⟩
    · omega
    · -- the other task's code is no frame of any task
      obtain ⟨-, hout⟩ := hw.shared _ code (hw.code y hy) hcode
      have hx' := hout x hx
      omega
  · rw [hwrite] at hro
    exact nomatch hro

/-- **Task isolation.** However many tasks have been made, and however often making one failed and was rolled
    back: the objects of a task are distinct, and made during its own call; they are none of another task's
    objects; each task is set up exactly as its configuration asks; and a page that one task can write is
    mapped in no other. -/
theorem tasks_isolated (hr : Reachable (RootTask.step h) (Initial h) Allowed w) :
    (∀ x ∈ w.tasks, ∀ p q object, x.task.HasPart w.state.kernel p object →
      x.task.HasPart w.state.kernel q object → p = q) ∧
    (∀ x ∈ w.tasks, ∀ p object, x.task.HasPart w.state.kernel p object →
      x.objects.1 ≤ object ∧ object < x.objects.2) ∧
    (w.tasks.Pairwise fun x y => ∀ p q object, x.task.HasPart w.state.kernel p object →
      ¬ y.task.HasPart w.state.kernel q object) ∧
    (∀ x ∈ w.tasks, ∃ c v p b i t code, Configured w.state.kernel x c v p b i t code) ∧
    (w.tasks.Pairwise fun x y => ∀ a a' page page', x.task.MapsPage w.state.kernel a page →
      y.task.MapsPage w.state.kernel a' page' → page.rights.write = true ∨ page'.rights.write = true →
      page.frame ≠ page'.frame) := by
  have hw : Isolated h w := hr.invariant (fun _ hi => hi.isolated h) fun _ _ _ hw ha hs => hw.step h ha hs
  refine ⟨fun x hx => (hw.stands x hx).distinct, fun x hx => (hw.stands x hx).numbered, ?_,
    fun x hx => (hw.stands x hx).configured, ?_⟩
  · refine List.Pairwise.imp_of_mem ?_ hw.ranges
    intro x y hx hy hxy p q object hp hq
    have hpx := (hw.stands x hx).numbered p object hp
    have hqy := (hw.stands y hy).numbered q object hq
    omega
  · refine List.Pairwise.imp_of_mem ?_ hw.ranges
    rintro x y hx hy hxy a a' page page' hp hp' (hwrite | hwrite)
    · exact (hw.not_shared h hx hy (Or.inl hxy) hp hp' hwrite).symm
    · exact hw.not_shared h hy hx (Or.inr hxy) hp' hp hwrite

/-- Two tasks that run the same code. -/
def twoTasks : List RootOp := [.allocateFrame, .allocateEndpoint, .createTask taskConfig, .createTask taskConfig]

theorem tasks_isolated_two : ∃ w : RootTask, w.tasks.length = 2 ∧
    w.tasks.Pairwise fun x y => ∀ p q object, x.task.HasPart w.state.kernel p object →
      ¬ y.task.HasPart w.state.kernel q object := by
  have hlength : (twoTasks.foldlM (guardedStep (step host) Allowed) start).map (fun w => w.tasks.length) =
      some 2 := by
    decide +kernel
  obtain ⟨w, hrun, hw⟩ := Option.map_eq_some_iff.mp hlength
  exact ⟨w, hw, (tasks_isolated host ((Reachable.refl start_initial).foldlM_guarded _ hrun)).2.2.1⟩

end RootTask
end Ricoq
