import Mathlib.Data.List.Pairwise
import Ricoq.Lib.Simulation
import Ricoq.Boot.Correctness.Supervision

/-!
# `Boot.Correctness.Lifecycle` — what a task's thread does is what was asked of it

Every task has its own TCB, in a slot of its own, so the operations of the root task act on the threads of
tasks one by one. Between a task's creation and any later state its thread has gone through exactly the events
of the operations on this task, and its own steps, in their order (`execution_run`): the construction, the
memory and the threads of other tasks have no part in it.

So a suspended task stays where it is until it is resumed, and can be inspected and given other registers at
leisure.
-/

namespace Ricoq

open Sel4 Bootstrap

/-! ## One thread -/

namespace Sel4.Execution

/-- The registers after a write, and after anything that does not run the thread. -/
def written (registers : RegisterFile) : ThreadEvent → RegisterFile
  | .writeRegisters registers' => registers'
  | _                          => registers

/-- A thread that is not resumed stays suspended, with the registers last written to it. -/
theorem inactive_run {events : List ThreadEvent} {registers : RegisterFile} {e : Execution}
    (hno : .resume ∉ events) (hrun : events.foldlM step ⟨.inactive, registers⟩ = some e) :
    e = ⟨.inactive, events.foldl written registers⟩ := by
  induction events generalizing registers with
  | nil => exact (Option.some.inj hrun).symm
  | cons event events ih =>
      obtain ⟨hne, hrest⟩ := not_or.mp (mt List.mem_cons.mpr hno)
      rw [List.foldlM_cons] at hrun
      obtain ⟨e₁, hstep, hrun⟩ := Option.bind_eq_some_iff.mp hrun
      cases event with
      | resume => exact absurd rfl hne
      | suspend =>
          obtain rfl := Option.some.inj hstep
          exact ih hrest hrun
      | writeRegisters registers' =>
          obtain rfl := Option.some.inj hstep
          exact ih hrest hrun
      | _ =>
          -- what comes from the thread itself does not happen
          cases hstep

end Sel4.Execution

/-! ## The thread of a task -/

/-- What the thread of a task does. -/
def HeldTask.execution (x : HeldTask) (w : Supervisor) : Option Execution :=
  (w.root.state.kernel.root x.task.thread.tcb).bind fun cap => w.live.execution cap.object

/-- The events of an operation at the TCB in a slot. -/
def SupervisorOp.eventsAt (slot : Nat) (op : SupervisorOp) : List ThreadEvent :=
  match op.event with
  | some (slot', event) => if slot' = slot then [event] else []
  | none                => []

theorem HeldTask.execution_of_hasPart {x : HeldTask} {w : Supervisor} {t : Nat}
    (ht : x.task.HasPart w.root.state.kernel .tcb t) : x.execution w = w.live.execution t := by
  obtain ⟨-, -, cap, hcap, rfl, -⟩ := ht
  have hcap' : w.root.state.kernel.root x.task.thread.tcb = some cap := hcap
  rw [HeldTask.execution, hcap', Option.bind_some]

theorem SupervisorOp.eventsAt_of_none {op : SupervisorOp} (hop : op.event = none) (slot : Nat) :
    op.eventsAt slot = [] := by
  rw [eventsAt, hop]

/-- Unmapping a frame is no event at a thread. -/
theorem SupervisorOp.event_of_unmaps {op : SupervisorOp} {slot : Nat} (hop : op.unmaps = some slot) :
    op.event = none := by
  cases op with
  | unmap frame answer | unmapMapping mapping answer => rfl
  | _ => cases hop

/-- Parts in the same slot are the same object. -/
theorem Task.HasPart.object_eq {task task' : Task} {part part' : Part} {k : ObjectStore} {object object' : Nat}
    (heq : task.slot part = task'.slot part') (hp : task.HasPart k part object)
    (hp' : task'.HasPart k part' object') : object = object' := by
  obtain ⟨-, -, cap, hcap, rfl, -⟩ := hp
  obtain ⟨-, -, cap', hcap', rfl, -⟩ := hp'
  rw [heq, hcap'] at hcap
  rw [Option.some.inj hcap]

namespace Supervisor

variable {h : Host} {w w' : Supervisor}

/-- The thread of a task is one. -/
theorem Intact.execution {x : HeldTask} (hw : Intact h w) (hx : x ∈ w.tasks) : ∃ e, x.execution w = some e := by
  obtain ⟨t, context, registers, ht, htcb⟩ := (hw.alive x hx).tcb
  exact ⟨_, (x.execution_of_hasPart ht).trans (Live.execution_of_tcb htcb)⟩

/-- The TCBs of two tasks are in different slots. -/
theorem Intact.tcbs_ne (hw : Intact h w) : w.tasks.Pairwise fun x y => x.task.thread.tcb ≠ y.task.thread.tcb := by
  apply List.Pairwise.imp_of_mem _ hw.ranges
  intro x y hx hy hle heq
  obtain ⟨t, -, -, ht, -⟩ := (hw.alive x hx).tcb
  obtain ⟨t', -, -, ht', -⟩ := (hw.alive y hy).tcb
  have hbelow := ((hw.alive x hx).numbered _ _ ht).2
  have habove := ((hw.alive y hy).numbered _ _ ht').1
  have hslot : x.task.slot .tcb = y.task.slot .tcb := heq
  have hsame := Task.HasPart.object_eq hslot ht ht'
  omega

/-- The objects of two tasks have numbers apart from each other. -/
theorem Intact.apart {x y : HeldTask} (hw : Intact h w) (hx : x ∈ w.tasks) (hy : y ∈ w.tasks) (hne : x ≠ y) :
    x.objects.2 ≤ y.objects.1 ∨ y.objects.2 ≤ x.objects.1 := by
  have hsymm : Std.Symm fun x y : HeldTask => x.objects.2 ≤ y.objects.1 ∨ y.objects.2 ≤ x.objects.1 :=
    ⟨fun _ _ => Or.symm⟩
  have hapart : w.tasks.Pairwise fun x y => x.objects.2 ≤ y.objects.1 ∨ y.objects.2 ≤ x.objects.1 :=
    hw.ranges.imp Or.inl
  exact hapart.forall hx hy hne

/-- One operation has its events at the thread happen, and nothing else. -/
theorem Intact.execution_step {op : SupervisorOp} {x : HeldTask} {e : Execution} (hw : Intact h w)
    (ha : w.Owned op) (hs : Supervisor.step h w op = some w') (hx : x ∈ w.tasks) (he : x.execution w = some e) :
    ∃ e', (op.eventsAt x.task.thread.tcb).foldlM Execution.step e = some e' ∧ x.execution w' = some e' := by
  have hc := hw.change ha hs
  have hretains := hc.retains hw
  have halive := hw.alive x hx
  obtain ⟨t, context, registers, ht, htcb⟩ := halive.tcb
  have ht' : x.task.HasPart w'.root.state.kernel .tcb t := (Task.hasPart_retained hretains halive.slots_le).mpr ht
  have hlt : t < w.root.state.kernel.nextObject := Nat.lt_of_lt_of_le (halive.numbered _ _ ht).2 halive.objects_le
  rw [x.execution_of_hasPart ht] at he
  rw [x.execution_of_hasPart ht']
  -- an operation without an event at this TCB leaves its object and its state alone
  have hquiet : op.eventsAt x.task.thread.tcb = [] → w'.root.state.kernel.objects t = w.root.state.kernel.objects t →
      w'.threads t = w.threads t →
      ∃ e', (op.eventsAt x.task.thread.tcb).foldlM Execution.step e = some e' ∧ w'.live.execution t = some e' := by
    intro hnone hobject hthread
    refine ⟨e, by rw [hnone]; rfl, ?_⟩
    have hbefore : w.live.execution t = some ⟨w.threads t, _⟩ := Live.execution_of_tcb htcb
    have hafter : w'.live.execution t = some ⟨w'.threads t, _⟩ := Live.execution_of_tcb (hobject.trans htcb)
    rw [hafter, hthread, ← he, hbefore]
  cases hc with
  | builds hp hnew => exact hquiet rfl (hp.objects t hlt not_false) rfl
  | grants hav hsource hmapped hv =>
      refine hquiet rfl ((congrFun hmapped.objects t).trans (Function.update_of_ne ?_ _ _)) rfl
      rintro rfl
      cases hmapped.vspace.symm.trans htcb
  | @happens op slot event k hop hk =>
      by_cases hslot : slot = x.task.thread.tcb
      · subst hslot
        obtain ⟨t', tcb, e', htcb', htcbs, hstep, hadvanced⟩ := hw.advanced hx hk
        obtain rfl := Task.HasPart.object_eq rfl ht htcb'
        have hbefore : w.live.execution t = some ⟨w.threads t, tcb.file⟩ := Live.execution_of_tcb htcbs
        obtain rfl := Option.some.inj (he.symm.trans hbefore)
        refine ⟨e', ?_, hadvanced.execution⟩
        simp [SupervisorOp.eventsAt, hop, hstep]
      · obtain ⟨y, hy, rfl⟩ := ha.event hop
        obtain ⟨t', tcb, e', htcb', htcbs, hstep, hadvanced⟩ := hw.advanced hy hk
        have hne : t ≠ t' := by
          have hxn := halive.numbered _ _ ht
          have hyn := (hw.alive y hy).numbered _ _ htcb'
          have hxy : x ≠ y := fun heq => hslot (heq ▸ rfl)
          have hapart := hw.apart hx hy hxy
          omega
        obtain ⟨hobject, hthread⟩ := hadvanced.other hne
        refine hquiet ?_ hobject hthread
        simp [SupervisorOp.eventsAt, hop, hslot]
  | maps hk =>
      obtain ⟨cap, object, vs, hcap, -, -, rfl⟩ := ObjectStore.remapFrame_cases hk
      exact hquiet rfl (ObjectStore.withPages_same fun vs hvs => nomatch htcb.symm.trans hvs) rfl
  | unmaps hop hk =>
      obtain ⟨cap, hcap, -, rfl⟩ := ObjectStore.unmapFrame_cases hk
      exact hquiet (SupervisorOp.eventsAt_of_none (SupervisorOp.event_of_unmaps hop) _)
        (ObjectStore.withPages_same fun vs hvs => nomatch htcb.symm.trans hvs) rfl
  | nothing hop => exact hquiet (SupervisorOp.eventsAt_of_none hop _) rfl rfl

theorem Change.mem_tasks {op : SupervisorOp} (hc : Change h w op w') {x : HeldTask} (hx : x ∈ w.tasks) :
    x ∈ w'.tasks := by
  rcases hc.tasks with hsame | ⟨y, hsnoc, -⟩
  · rw [hsame]
    exact hx
  · rw [hsnoc]
    exact List.mem_append_left _ hx

/-- The system, with a task in it, against the thread of this task alone. -/
theorem execution_simulates (h : Host) (x : HeldTask) :
    Simulates (guardedStep (Supervisor.step h) Owned) Execution.step
      (SupervisorOp.eventsAt x.task.thread.tcb)
      fun w e => Intact h w ∧ x ∈ w.tasks ∧ x.execution w = some e := by
  rintro w e op w' ⟨hw, hx, he⟩ hs
  unfold guardedStep at hs
  by_cases ha : w.Owned op
  · rw [if_pos ha] at hs
    obtain ⟨e', hrun, he'⟩ := hw.execution_step ha hs hx he
    exact ⟨e', hrun, hw.step ha hs, (hw.change ha hs).mem_tasks hx, he'⟩
  · rw [if_neg ha] at hs
    cases hs

/-- What the thread of a task created from a configuration begins with. -/
def begins (h : Host) (config : TaskConfig) : Execution :=
  ⟨.inactive, (UserContext.mk config.code.entry (config.stackAddress + h.machine.pageBytes)
    config.initialArguments.toList).file⟩

/-- A task just made is suspended, at its entry, with its stack and arguments. -/
theorem Intact.execution_fresh {op : SupervisorOp} {x : HeldTask} (hw : Intact h w) (ha : w.Owned op)
    (hs : Supervisor.step h w op = some w') (hx : x ∈ w'.tasks) (hnew : x ∉ w.tasks) :
    x.execution w' = some (begins h x.config) := by
  have hw' := hw.step ha hs
  rcases (hw.change ha hs).tasks with hsame | ⟨y, hsnoc, ⟨-, hobjects, hpristine⟩, hthreads⟩
  · exact absurd (hsame ▸ hx) hnew
  · rw [hsnoc] at hx
    rcases List.mem_append.mp hx with hold | hlast
    · exact absurd hold hnew
    · obtain rfl := List.mem_singleton.mp hlast
      obtain ⟨t, -, -, ht, -⟩ := (hw'.alive x (hsnoc ▸ hx)).tcb
      obtain ⟨cap, context, hcap, htcb⟩ := hpristine.thread
      obtain ⟨-, -, cap', hcap', rfl, -⟩ := id ht
      obtain rfl := Option.some.inj (hcap.symm.trans hcap')
      -- the TCB is new, so nothing has happened to it yet
      have hlo := ((hw'.alive x (hsnoc ▸ hx)).numbered _ _ ht).1
      rw [hobjects] at hlo
      have hinactive : w'.threads cap.object = .inactive := hthreads ▸ hw.inactive _ hlo
      rw [x.execution_of_hasPart ht]
      refine (Live.execution_of_tcb htcb).trans ?_
      show some (Execution.mk (w'.threads cap.object) _) = _
      rw [hinactive]
      rfl

/-- A task whose code is in the frame in slot 100, which was made after an endpoint was. -/
def firstTask : Task where
  thread := ⟨115⟩
  cspace := ⟨102, 4, ⟨16, (Vector.replicate maxSlots .free).set 1 .occupied, RootTask.sixteen_le_maxSlots⟩⟩
  vspace := ⟨103⟩
  privateMemory := ⟨109⟩
  stack := ⟨111⟩
  ipcBuffer := ⟨113⟩
  rootSlots := (102, 116)

/-- Two tasks are made; the first one is started, runs to another instruction, and is suspended. -/
def supervised : List SupervisorOp :=
  RootTask.twoTasks.map .root ++
    [.start firstTask none, .runs firstTask (.execute ⟨0x400020, 0x403000, Vector.replicate 31 1⟩),
      .suspend firstTask none]

/-- **The thread of a task follows the operations on this task.** Whatever the root task does, for however many
    tasks and with whatever failures of the kernel: a task just made is suspended with its initial registers;
    the TCBs of different tasks are in different slots; and from any state on, the thread of a task goes
    exactly through the events of the operations at its TCB. -/
theorem threads_follow (hr : Reachable (Supervisor.step h) (Initial h) Owned w) :
    (∀ op w', w.Owned op → Supervisor.step h w op = some w' → ∀ x ∈ w'.tasks, x ∉ w.tasks →
      x.execution w' = some (begins h x.config)) ∧
    (w.tasks.Pairwise fun x y => x.task.thread.tcb ≠ y.task.thread.tcb) ∧
    (∀ x ∈ w.tasks, ∃ e, x.execution w = some e ∧ ∀ (ops : List SupervisorOp) w',
      ops.foldlM (guardedStep (Supervisor.step h) Owned) w = some w' →
      ∃ e', (ops.flatMap (SupervisorOp.eventsAt x.task.thread.tcb)).foldlM Execution.step e = some e' ∧
        x.execution w' = some e') := by
  have hw := intact_reachable hr
  refine ⟨fun op w' ha hs x hx hnew => hw.execution_fresh ha hs hx hnew, hw.tcbs_ne, ?_⟩
  intro x hx
  obtain ⟨e, he⟩ := hw.execution hx
  refine ⟨e, he, fun ops w' hrun => ?_⟩
  obtain ⟨e', hevents, -, -, he'⟩ := (execution_simulates h x).run ⟨hw, hx, he⟩ hrun
  exact ⟨e', hevents, he'⟩

theorem supervised_runs : ∃ w, supervised.foldlM (guardedStep (Supervisor.step RootTask.host) Owned) start =
    some w ∧ w.tasks.map (fun x => (x.execution w).map Execution.state) = [some .inactive, some .inactive] := by
  have hstates : (supervised.foldlM (guardedStep (Supervisor.step RootTask.host) Owned) start).map
      (fun w => w.tasks.map fun x => (x.execution w).map Execution.state) =
        some [some .inactive, some .inactive] := by
    decide +kernel
  exact Option.map_eq_some_iff.mp hstates

theorem threads_follow_supervised : ∃ w : Supervisor, w.tasks.length = 2 ∧
    w.tasks.Pairwise fun x y => x.task.thread.tcb ≠ y.task.thread.tcb := by
  obtain ⟨w, hrun, hstates⟩ := supervised_runs
  have hlength := congrArg List.length hstates
  rw [List.length_map] at hlength
  exact ⟨w, hlength, (threads_follow ((Reachable.refl start_initial).foldlM_guarded _ hrun)).2.1⟩

/-! ## Inspecting a suspended task -/

/-- Reading the registers of a task gives what its thread holds, and changes nothing. -/
theorem Intact.readRegisters {x : HeldTask} {e : Execution} (hw : Intact h w) (hx : x ∈ w.tasks)
    (he : x.execution w = some e) : x.task.readRegisters none w.live = (.ok ⟨e.registers⟩, w.live) := by
  obtain ⟨t, context, registers, ht, htcb⟩ := (hw.alive x hx).tcb
  rw [x.execution_of_hasPart ht] at he
  obtain rfl := Option.some.inj ((Live.execution_of_tcb htcb).symm.trans he)
  obtain ⟨-, -, cap, hcap, rfl, -⟩ := ht
  have hat : w.live.store.tcbAt x.task.thread.tcb = .ok (cap.object, ⟨some context, some registers⟩) :=
    ObjectStore.tcbAt_eq_ok.mpr ⟨cap, hcap, rfl, htcb⟩
  have hread : w.live.readAllRegisters x.task.thread.tcb = .ok (TcbObject.file ⟨some context, some registers⟩) :=
    except_bind_eq_ok.mpr ⟨_, hat, rfl⟩
  have hcall : readControl none x.task.thread.tcb w.live =
      (.ok (TcbObject.file ⟨some context, some registers⟩), w.live) := by
    simp only [readControl, hread]
  exact Prog.run_bind_ok (Prog.run_mapErr_ok hcall)

/-- Resuming a task makes it run from where its registers say, unless the kernel refuses. -/
theorem Intact.execution_resume {x : HeldTask} {e : Execution} {answer : Option Sel4Error} (hw : Intact h w)
    (hx : x ∈ w.tasks) (he : x.execution w = some e)
    (hs : Supervisor.step h w (.resume x.task answer) = some w') :
    x.execution w' = some { e with state := if answer = none then .running else e.state } := by
  have ha : w.Owned (.resume x.task answer) := List.mem_map_of_mem hx
  obtain ⟨e', hevents, he'⟩ := hw.execution_step ha hs hx he
  rw [he']
  cases answer with
  | none =>
      simp [SupervisorOp.eventsAt, SupervisorOp.event, Execution.step] at hevents
      simp [← hevents]
  | some error =>
      simp [SupervisorOp.eventsAt, SupervisorOp.event] at hevents
      simp [← hevents]

/-- **A suspended task waits.** As long as a suspended task is not started or resumed, it stays suspended,
    whatever else the root task does and the other tasks do; its registers are what was last written to them;
    reading gives exactly these and changes nothing; and when it is resumed it runs with them, unless the
    kernel refuses. -/
theorem suspended_waits (hr : Reachable (Supervisor.step h) (Initial h) Owned w) {x : HeldTask} (hx : x ∈ w.tasks)
    {registers : RegisterFile} (hsuspended : x.execution w = some ⟨.inactive, registers⟩)
    {ops : List SupervisorOp} (hno : ∀ op ∈ ops, .resume ∉ op.eventsAt x.task.thread.tcb)
    (hrun : ops.foldlM (guardedStep (Supervisor.step h) Owned) w = some w') :
    ∃ last, last = (ops.flatMap (SupervisorOp.eventsAt x.task.thread.tcb)).foldl Execution.written registers ∧
      x.execution w' = some ⟨.inactive, last⟩ ∧
      x.task.readRegisters none w'.live = (.ok ⟨last⟩, w'.live) ∧
      ∀ answer w'', Supervisor.step h w' (.resume x.task answer) = some w'' →
        x.execution w'' = some ⟨if answer = none then .running else .inactive, last⟩ := by
  obtain ⟨e', hevents, hw', hx', he'⟩ := (execution_simulates h x).run ⟨intact_reachable hr, hx, hsuspended⟩ hrun
  have hquiet : .resume ∉ ops.flatMap (SupervisorOp.eventsAt x.task.thread.tcb) := by
    intro hmem
    obtain ⟨op, hop, hresume⟩ := List.mem_flatMap.mp hmem
    exact hno op hop hresume
  obtain rfl := Execution.inactive_run hquiet hevents
  refine ⟨_, rfl, he', hw'.readRegisters hx' he', fun answer w'' hs => ?_⟩
  exact hw'.execution_resume hx' he' hs

/-- The suspended task gets other registers, and something is allocated after that. -/
def rewritten : List SupervisorOp :=
  [.writeRegisters firstTask ⟨0x400030, 0x403000, Vector.replicate 31 2⟩ none, .root .allocateFrame]

theorem suspended_waits_rewritten : ∃ (w : Supervisor) (x : HeldTask) (w' : Supervisor), x ∈ w.tasks ∧
    rewritten.foldlM (guardedStep (Supervisor.step RootTask.host) Owned) w = some w' ∧
    x.execution w' = some ⟨.inactive, ⟨0x400030, 0x403000, Vector.replicate 31 2⟩⟩ := by
  have hboth : ((supervised.foldlM (guardedStep (Supervisor.step RootTask.host) Owned) start).bind fun w =>
      w.tasks.head?.map fun x => (x.execution w, x.task.thread.tcb,
        (rewritten.foldlM (guardedStep (Supervisor.step RootTask.host) Owned) w).isSome)) =
      some (some ⟨.inactive, ⟨0x400020, 0x403000, Vector.replicate 31 1⟩⟩, 115, true) := by
    decide +kernel
  obtain ⟨w, hrun, hw⟩ := Option.bind_eq_some_iff.mp hboth
  obtain ⟨x, hhead, hx⟩ := Option.map_eq_some_iff.mp hw
  obtain ⟨hexecution, hrest⟩ := Prod.mk.inj hx
  obtain ⟨htcb, hsome⟩ := Prod.mk.inj hrest
  obtain ⟨w', hrun'⟩ := Option.isSome_iff_exists.mp hsome
  have hmem : x ∈ w.tasks := List.mem_of_mem_head? hhead
  have hno : ∀ op ∈ rewritten, .resume ∉ op.eventsAt x.task.thread.tcb := by
    rw [htcb]
    decide
  obtain ⟨last, hlast, he, -⟩ :=
    suspended_waits ((Reachable.refl start_initial).foldlM_guarded _ hrun) hmem hexecution hno hrun'
  rw [htcb] at hlast
  refine ⟨w, x, w', hmem, hrun', ?_⟩
  rw [he, hlast]
  rfl

end Supervisor
end Ricoq
