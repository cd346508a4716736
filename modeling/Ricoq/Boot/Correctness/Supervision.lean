import Ricoq.Boot.Supervisor
import Ricoq.Boot.Correctness.Isolation
import Ricoq.Boot.Correctness.Population

/-!
# `Boot.Correctness.Supervision` — what an operation of the supervisor changes

An operation does one of six things (`Change`): it constructs something and leaves alone what was there, maps
one page into a task, has an event happen at one thread, maps or unmaps a frame through a capability, or
nothing. None of them takes a capability away from a slot or an object from its number (`Retains`), so a task
keeps its parts (`Alive`), whatever happens to it later.

What is shown about runs of the supervisor goes through these cases.
-/

namespace Ricoq

open Sel4 Bootstrap

/-! ## What stays -/

/-- A capability, apart from where it is mapped. -/
def Sel4.Cap.unmapped (cap : Cap) : Cap := { cap with mapping := none }

/-- Slots in use keep their capabilities, apart from where these are mapped, and objects stay what they are. -/
structure Retains (s s' : BootState) : Prop where
  start_le : s.slots.start ≤ s'.slots.start
  nextObject_le : s.kernel.nextObject ≤ s'.kernel.nextObject
  below : ∀ i, i < s.slots.start → (s'.kernel.root i).map Cap.unmapped = (s.kernel.root i).map Cap.unmapped
  kept : ∀ i, (s.kernel.root i).isSome → (s'.kernel.root i).map Cap.unmapped = (s.kernel.root i).map Cap.unmapped
  vspaces : ∀ id vs, id < s.kernel.nextObject → s.kernel.objects id = .vspace vs →
    ∃ vs', s'.kernel.objects id = .vspace vs'
  cnodes : ∀ id cnode, id < s.kernel.nextObject → s.kernel.objects id = .cnode cnode →
    s'.kernel.objects id = .cnode cnode
  tcbs : ∀ id tcb, id < s.kernel.nextObject → s.kernel.objects id = .tcb tcb →
    ∃ tcb', s'.kernel.objects id = .tcb tcb' ∧ tcb'.context = tcb.context ∧
      (tcb.registers.isSome → tcb'.registers.isSome)

namespace Retains

variable {s s' : BootState}

theorem refl (s : BootState) : Retains s s :=
  ⟨Nat.le_refl _, Nat.le_refl _, fun _ _ => rfl, fun _ _ => rfl, fun _ vs _ hvs => ⟨vs, hvs⟩,
    fun _ _ _ hcnode => hcnode, fun _ tcb _ htcb => ⟨tcb, htcb, rfl, id⟩⟩

/-- What leaves alone what was there retains it. -/
theorem of_preserves (hp : Preserves s s') : Retains s s' where
  start_le := hp.start_le
  nextObject_le := hp.nextObject_le
  below i hi := by rw [hp.below i hi]
  kept i hi := by
    obtain ⟨cap, hcap⟩ := Option.isSome_iff_exists.mp hi
    rw [hp.keeps i cap hcap, hcap]
  vspaces id vs hid hvs := ⟨vs, (hp.objects id hid not_false).trans hvs⟩
  cnodes id cnode hid hcnode := (hp.objects id hid not_false).trans hcnode
  tcbs id tcb hid htcb := ⟨tcb, (hp.objects id hid not_false).trans htcb, rfl, fun h => h⟩

/-- One slot has its capability mapped somewhere else, and only pages have changed. -/
theorem of_remap {frame : Nat} {cap cap' : Cap} {pages : Nat → VSpaceObject → Nat → Option Page}
    (hcap : s.kernel.root frame = some cap) (hsame : cap'.unmapped = cap.unmapped) :
    Retains s { s with kernel := (s.kernel.withPages pages).setRoot frame (some cap') } where
  start_le := Nat.le_refl _
  nextObject_le := Nat.le_refl _
  below i _ := by
    show (Function.update s.kernel.root frame (some cap') i).map Cap.unmapped = _
    by_cases hi : i = frame
    · rw [hi, Function.update_self, hcap]
      simp [hsame]
    · rw [Function.update_of_ne hi]
  kept i _ := by
    show (Function.update s.kernel.root frame (some cap') i).map Cap.unmapped = _
    by_cases hi : i = frame
    · rw [hi, Function.update_self, hcap]
      simp [hsame]
    · rw [Function.update_of_ne hi]
  vspaces id vs _ hvs := ⟨_, ObjectStore.withPages_vspace hvs⟩
  cnodes id cnode _ hcnode :=
    (ObjectStore.withPages_same fun vs hvs => nomatch hcnode.symm.trans hvs).trans hcnode
  tcbs id tcb _ htcb := by
    refine ⟨tcb, ?_, rfl, fun h => h⟩
    exact (ObjectStore.withPages_same fun vs hvs => nomatch htcb.symm.trans hvs).trans htcb

/-- One thread was given other registers. -/
theorem of_registers {object : Nat} {tcb : TcbObject} {registers : UserContext}
    (htcb : s.kernel.objects object = .tcb tcb) :
    Retains s { s with kernel := s.kernel.setObject object (.tcb { tcb with registers := some registers }) } where
  start_le := Nat.le_refl _
  nextObject_le := Nat.le_refl _
  below _ _ := rfl
  kept _ _ := rfl
  vspaces id vs _ hvs := by
    refine ⟨vs, (Function.update_of_ne ?_ _ _).trans hvs⟩
    rintro rfl
    exact nomatch htcb.symm.trans hvs
  cnodes id cnode _ hcnode := by
    refine (Function.update_of_ne ?_ _ _).trans hcnode
    rintro rfl
    exact nomatch htcb.symm.trans hcnode
  tcbs id tcb' _ htcb' := by
    by_cases hid : id = object
    · subst hid
      obtain rfl := Object.tcb.inj (htcb.symm.trans htcb')
      exact ⟨_, Function.update_self _ _ _, rfl, fun _ => rfl⟩
    · exact ⟨tcb', (Function.update_of_ne hid _ _).trans htcb', rfl, fun h => h⟩

end Retains

/-- What holds of a capability apart from its mapping holds of it before and after. -/
theorem exists_cap_iff {o o' : Option Cap} {P : Cap → Prop} (hsame : o'.map Cap.unmapped = o.map Cap.unmapped)
    (hP : ∀ c c', c.unmapped = c'.unmapped → P c → P c') :
    (∃ cap, o' = some cap ∧ P cap) ↔ ∃ cap, o = some cap ∧ P cap := by
  constructor
  · rintro ⟨cap, rfl, hp⟩
    obtain ⟨cap₀, rfl, heq⟩ := Option.map_eq_some_iff.mp (hsame.symm.trans (Option.map_some ..))
    exact ⟨cap₀, rfl, hP cap cap₀ heq.symm hp⟩
  · rintro ⟨cap, rfl, hp⟩
    obtain ⟨cap₀, rfl, heq⟩ := Option.map_eq_some_iff.mp (hsame.trans (Option.map_some ..))
    exact ⟨cap₀, rfl, hP cap cap₀ heq.symm hp⟩

theorem Sel4.Cap.eq_of_unmapped {c c' : Cap} (h : c.unmapped = c'.unmapped) :
    c.object = c'.object ∧ c.blueprint = c'.blueprint ∧ c.rights = c'.rights := by
  obtain ⟨hobject, hblueprint, hrights, -, -⟩ := Cap.mk.inj h
  exact ⟨hobject, hblueprint, hrights⟩

variable {s s' : BootState} {x : HeldTask}

/-- A task keeps its parts. -/
theorem Task.hasPart_retained {task : Task} {part : Part} {object : Nat} (hr : Retains s s')
    (hle : task.rootSlots.2 ≤ s.slots.start) :
    task.HasPart s'.kernel part object ↔ task.HasPart s.kernel part object := by
  unfold Task.HasPart
  refine and_congr_right fun _ => and_congr_right fun hhi => ?_
  apply exists_cap_iff (hr.below _ (Nat.lt_of_lt_of_le hhi hle))
  rintro c c' heq ⟨hobject, hfits⟩
  obtain ⟨heqo, heqb, -⟩ := Cap.eq_of_unmapped heq
  exact ⟨heqo.symm.trans hobject, heqb ▸ hfits⟩

/-! ## Tasks that were made -/

/-- What a task keeps, whatever is mapped into it and written to its registers. -/
structure Alive (x : HeldTask) (s : BootState) : Prop where
  slots_le : x.task.rootSlots.2 ≤ s.slots.start
  objects_le : x.objects.2 ≤ s.kernel.nextObject
  numbered : ∀ part object, x.task.HasPart s.kernel part object → x.objects.1 ≤ object ∧ object < x.objects.2
  distinct : ∀ p q object, x.task.HasPart s.kernel p object → x.task.HasPart s.kernel q object → p = q
  code : (s.kernel.root x.config.code.frame.cap).isSome
  vspace : ∃ v vs, x.task.HasPart s.kernel .vspace v ∧ s.kernel.objects v = .vspace vs
  frames : ∀ part ∈ [Part.privateMemory, .stack, .ipcBuffer], ∃ object, x.task.HasPart s.kernel part object
  tcb : ∃ t context registers, x.task.HasPart s.kernel .tcb t ∧
    s.kernel.objects t = .tcb ⟨some context, some registers⟩

theorem Stands.alive (hs : Stands x s) : Alive x s := by
  obtain ⟨c, v, p, b, i, t, code, hc⟩ := hs.configured
  obtain ⟨vs, hvs, -⟩ := hc.pages
  obtain ⟨registers, hbound⟩ := hc.bound
  refine ⟨hs.slots_le, hs.objects_le, hs.numbered, hs.distinct, ?_, ⟨v, vs, hc.vspace, hvs⟩, ?_,
    ⟨t, _, registers, hc.tcb, hbound⟩⟩
  · rw [hc.codeFrame]
    rfl
  · intro part hpart
    simp only [List.mem_cons, List.not_mem_nil, or_false] at hpart
    rcases hpart with rfl | rfl | rfl
    · exact ⟨p, hc.privateMemory⟩
    · exact ⟨b, hc.stack⟩
    · exact ⟨i, hc.ipcBuffer⟩

theorem Alive.mono (ha : Alive x s) (hr : Retains s s') : Alive x s' := by
  have hpart : ∀ part object, x.task.HasPart s'.kernel part object ↔ x.task.HasPart s.kernel part object :=
    fun _ _ => Task.hasPart_retained hr ha.slots_le
  have hlt : ∀ {part object}, x.task.HasPart s.kernel part object → object < s.kernel.nextObject :=
    fun hh => Nat.lt_of_lt_of_le (ha.numbered _ _ hh).2 ha.objects_le
  constructor
  case slots_le => exact Nat.le_trans ha.slots_le hr.start_le
  case objects_le => exact Nat.le_trans ha.objects_le hr.nextObject_le
  case numbered => exact fun part object hh => ha.numbered part object ((hpart part object).mp hh)
  case distinct =>
    intro p q object hh hh'
    exact ha.distinct p q object ((hpart p object).mp hh) ((hpart q object).mp hh')
  case code =>
    have hsame := congrArg Option.isSome (hr.kept _ ha.code)
    simp only [Option.isSome_map] at hsame
    exact hsame.trans ha.code
  case vspace =>
    obtain ⟨v, vs, hv, hvs⟩ := ha.vspace
    obtain ⟨vs', hvs'⟩ := hr.vspaces v vs (hlt hv) hvs
    exact ⟨v, vs', (hpart _ _).mpr hv, hvs'⟩
  case frames =>
    intro part hmem
    obtain ⟨object, hh⟩ := ha.frames part hmem
    exact ⟨object, (hpart _ _).mpr hh⟩
  case tcb =>
    obtain ⟨t, context, registers, ht, htcb⟩ := ha.tcb
    obtain ⟨⟨context', registers'⟩, htcb', rfl, hsome⟩ := hr.tcbs t _ (hlt ht) htcb
    obtain ⟨r, rfl⟩ := Option.isSome_iff_exists.mp (hsome rfl)
    exact ⟨t, context, r, (hpart _ _).mpr ht, htcb'⟩

/-! ## A task just made -/

section Made

variable (h : Host) {T : Nat → Prop} {s₁ : BootState}

/-- A kernel operation that returned had its effect. -/
theorem kernelOp_eq_ok {i : Invocation} (hi : ∀ slot, i ≠ .delete slot) {error : BootstrapError}
    (hok : kernelOp (invoke h.machine i) error s = (.ok (), s')) :
    ∃ k log, s.kernel.effect h.machine.toPlatform i = .ok k ∧ s' = { s with kernel := { k with log } } := by
  rcases kernelOp_cases h hi error s with ⟨k, log, heffect, hrun⟩ | ⟨log, hrun⟩
  · exact ⟨k, log, heffect, (congrArg Prod.snd (hok.symm.trans hrun))⟩
  · cases (Prod.mk.inj (hok.symm.trans hrun)).1

/-- A slot holds a capability that is mapped nowhere. -/
def Unmapped (slot : Nat) (s : BootState) : Prop :=
  slot < s.slots.start ∧ ∃ cap, s.kernel.root slot = some cap ∧ cap.mapping = none

theorem Bootstrap.Created.unmapped {blueprint : ObjectBlueprint} (hc : Created blueprint s s') :
    Unmapped s.slots.start s' := by
  refine ⟨hc.holds.slot_lt, ⟨s.kernel.nextObject, blueprint, .all, 0, none⟩, ?_, rfl⟩
  rw [hc.root, Function.update_self]

theorem Unmapped.mono {slot : Nat} (hu : Unmapped slot s) (hext : Extends T s s') : Unmapped slot s' := by
  obtain ⟨hlt, cap, hcap, hnone⟩ := hu
  exact ⟨Nat.lt_of_lt_of_le hlt hext.start_le, cap, hext.root_of_some hlt hcap, hnone⟩

/-- The frame of one's own is mapped through a copy, so that its owner's capability is not. -/
theorem allocateMapped_unmapped (vspace : VSpace) (address : Nat) :
    Builds (fun _ => True) (allocateMapped h vspace address) s fun r s' => Unmapped r.1.cap s' := by
  unfold allocateMapped allocateFrame
  have hallocate : Builds (fun _ => True) (do return (⟨← allocateBlueprint h .granule⟩ : Frame)) s
      fun frame s₁ => Unmapped frame.cap s₁ := by
    refine Builds.bind_same (allocateBlueprint_builds h _ .granule s) ?_
    rintro slot s₁ - ⟨rfl, hcreated⟩
    exact Builds.pure hcreated.unmapped
  refine Builds.bind_same hallocate ?_
  intro frame s₁ _ hunmapped
  refine Builds.bind_same (VSpace.mapFrame_builds h frame address .readWrite fun _ _ _ _ _ _ => Or.inl trivial) ?_
  intro mapping s₂ hext _
  exact Builds.pure (hunmapped.mono hext)

/-- What a thread begins with. -/
def Thread.Begins (thread : Thread) (config : ThreadConfig) (s : BootState) : Prop :=
  ∃ cap context, s.kernel.root thread.tcb = some cap ∧
    s.kernel.objects cap.object = .tcb
      ⟨some context, some ⟨config.entry, config.stackPointer, config.arguments.toList⟩⟩

theorem Thread.create_begins (cspace : CSpace) (vspace : VSpace) (config : ThreadConfig) :
    Builds (fun _ => True) (Thread.create h cspace vspace config) s fun thread s' => thread.Begins config s' := by
  unfold Thread.create
  refine Builds.bind_same (allocateBlueprint_builds h _ .tcb s) ?_
  rintro tcb s₁ hext ⟨rfl, hcreated⟩
  refine Builds.bind_same (D := fun _ s₂ => ∃ cap context registers, s₂.kernel.root s.slots.start = some cap ∧
    s₂.kernel.objects cap.object = .tcb ⟨some context, registers⟩) ?_ ?_
  · refine kernelOp_builds h (by nofun) _ ?_
    intro k log heffect
    obtain ⟨object, tcb, _, _, _, _, _, htcb, -, -, -, rfl⟩ := ObjectStore.effect_tcbConfigure heffect
    obtain ⟨cap, hcap, rfl, htcbs⟩ := ObjectStore.tcbAt_eq_ok.mp htcb
    exact ⟨Extends.of_object rfl rfl rfl rfl (Or.inl trivial), cap, _, tcb.registers, hcap,
      Function.update_self _ _ _⟩
  · rintro - s₂ - ⟨cap, context, registers, hcap, hobject⟩
    refine Builds.bind_same (D := fun _ s₃ => Thread.Begins ⟨s.slots.start⟩ config s₃) ?_ ?_
    · refine kernelOp_builds h (by nofun) _ ?_
      intro k log heffect
      obtain ⟨object, tcb, htcb, rfl⟩ := ObjectStore.effect_tcbWriteAllRegisters heffect
      obtain ⟨cap', hcap', rfl, htcbs⟩ := ObjectStore.tcbAt_eq_ok.mp htcb
      obtain rfl := Option.some.inj (hcap.symm.trans hcap')
      obtain rfl := Object.tcb.inj (hobject.symm.trans htcbs)
      exact ⟨Extends.of_object rfl rfl rfl rfl (Or.inl trivial), cap, context, hcap, Function.update_self _ _ _⟩
    · exact fun _ s₃ _ hbegins => Builds.pure hbegins

/-- What the root task relies on of a task it just made: its configuration passed the checks, its frames are
    mapped through copies only, and its thread begins as configured. -/
structure Task.Pristine (task : Task) (config : TaskConfig) (s : BootState) : Prop where
  valid : CSpace.validate config.cspaceSizeBits config.delegatedCapabilities config.faultRoute = .ok ()
  privateMemory : Unmapped task.privateMemory.cap s
  stack : Unmapped task.stack.cap s
  ipcBuffer : Unmapped task.ipcBuffer.cap s
  thread : ∃ cap context, s.kernel.root task.thread.tcb = some cap ∧
    s.kernel.objects cap.object = .tcb ⟨some context,
      some ⟨config.code.entry, config.stackAddress + h.machine.pageBytes, config.initialArguments.toList⟩⟩

theorem createTask_pristine {config : TaskConfig} {task : Task}
    (hok : createTask h config s = (.ok task, s')) : task.Pristine h config s' := by
  obtain ⟨s₀, hcspace⟩ := createTask_cspace h hok
  obtain ⟨layout, hlayout, hinner⟩ := (createTask_eq_ok h).mp hok
  obtain ⟨-, -, -, -, rfl⟩ := TaskLayout.validate_eq_ok.mp hlayout
  unfold createTaskInner at hinner
  obtain ⟨cspace, s₁, -, hinner⟩ := Prog.run_bind_eq_ok.mp hinner
  obtain ⟨vspace, s₂, -, hinner⟩ := Prog.run_bind_eq_ok.mp hinner
  obtain ⟨codeMapping, s₃, -, hinner⟩ := Prog.run_bind_eq_ok.mp hinner
  obtain ⟨privateMemory, s₄, hrun₄, hinner⟩ := Prog.run_bind_eq_ok.mp hinner
  obtain ⟨stack, s₅, hrun₅, hinner⟩ := Prog.run_bind_eq_ok.mp hinner
  obtain ⟨ipcBuffer, s₆, hrun₆, hinner⟩ := Prog.run_bind_eq_ok.mp hinner
  obtain ⟨thread, s₇, hrun₇, hinner⟩ := Prog.run_bind_eq_ok.mp hinner
  obtain ⟨rootSlots, s₈, hrun₈, hinner⟩ := Prog.run_bind_eq_ok.mp hinner
  obtain ⟨houtcome, rfl⟩ := Prod.mk.inj hinner
  obtain rfl := Outcome.ok.inj houtcome
  obtain ⟨-, hprivate⟩ := (allocateMapped_unmapped h vspace config.privateMemoryAddress).of_ok hrun₄
  obtain ⟨ext₅, hstack⟩ := (allocateMapped_unmapped h vspace config.stackAddress).of_ok hrun₅
  obtain ⟨ext₆, hipc⟩ := (allocateMapped_unmapped h vspace config.ipcBufferAddress).of_ok hrun₆
  obtain ⟨ext₇, hbegins⟩ := (Thread.create_begins h cspace vspace _).of_ok hrun₇
  -- asking for the slots changes nothing
  have hsame : s₈ = s₇ := by
    unfold committedSlots at hrun₈
    cases hrange : s₇.slots.allocatedSince s.slots.start with
    | none =>
        rw [hrange] at hrun₈
        cases (Prod.mk.inj hrun₈).1
    | some range =>
        rw [hrange] at hrun₈
        exact (Prod.mk.inj hrun₈).2.symm
  subst hsame
  exact ⟨CSpace.create_valid h hcspace, hprivate.mono (ext₅.trans_same (ext₆.trans_same ext₇)),
    hstack.mono (ext₆.trans_same ext₇), hipc.mono ext₇, hbegins⟩

end Made

/-! ## Changes -/

/-- The slot of the capability that an operation unmaps, if the kernel goes along. -/
def SupervisorOp.unmaps : SupervisorOp → Option Nat
  | .unmap frame none          => some frame.cap
  | .unmapMapping mapping none => some mapping.mapping
  | _                          => none

namespace Supervisor

variable (h : Host) {w w' : Supervisor}

/-- What is known of a handle that was just returned. -/
def Fresh (s s' : BootState) : Handle → Prop
  | .frame f    => Unmapped f.cap s'
  | .endpoint i => i < s'.slots.start ∧ ∃ object, s'.kernel.root i = some ⟨object, .endpoint, .all, 0, none⟩
  | .task x     => Stands x s' ∧ x.objects = (s.kernel.nextObject, s'.kernel.nextObject) ∧
      x.task.Pristine h x.config s'
  | .mapping _  => False
  | _           => True

/-- What an operation does. -/
inductive Change (w : Supervisor) : SupervisorOp → Supervisor → Prop
  | builds {op : RootOp} {s : BootState} {new : Option Handle} (hp : Preserves w.root.state s)
      (hnew : ∀ handle, new = some handle → Fresh h w.root.state s handle) :
      Change w (.root op) { w with root := ⟨s, w.root.handles ++ new.toList⟩ }
  | grants {task : Task} {frame : Frame} {address v : Nat} {cap : Cap} {vs : VSpaceObject} {s : BootState}
      (hav : w.root.state.slots.Available) (hsource : w.root.state.kernel.root frame.cap = some cap)
      (hmapped : VSpace.Mapped v address cap vs .readWrite w.root.state s)
      (hv : ∀ object, Holds task.vspace.root object .vspace w.root.state → v = object) :
      Change w (.root (.mapRecoveryFrame task frame address)) { w with root :=
        ⟨s, w.root.handles ++ [.mapping ⟨w.root.state.slots.start, w.root.state.slots.start⟩]⟩ }
  | happens {op : SupervisorOp} {slot : Nat} {event : ThreadEvent} {k : Live}
      (hop : op.event = some (slot, event)) (hk : w.live.advanceAt slot event = .ok k) : Change w op (w.withLive k)
  | maps {frame : Frame} {address : Nat} {k : ObjectStore}
      (hk : w.root.state.kernel.remapFrame h.machine.toPlatform frame.cap initVspace address .readWrite = .ok k) :
      Change w (.map frame address none) (w.withLive ⟨k, w.threads⟩)
  | unmaps {op : SupervisorOp} {slot : Nat} {k : ObjectStore} (hop : op.unmaps = some slot)
      (hk : w.root.state.kernel.unmapFrame h.machine.toPlatform slot = .ok k) :
      Change w op (w.withLive ⟨k, w.threads⟩)
  | nothing {op : SupervisorOp} (hop : op.event = none) : Change w op w

end Supervisor

/-- Mapping a recovery frame maps one page into the task, or leaves alone what was there. -/
theorem mapRecoveryFrame_ensures {h : Host} (task : Task) (frame : Frame) (address : Nat) (hvacant : Vacant s)
    (hle : s.slots.start ≤ s.slots.stop) :
    Prog.Ensures (mapRecoveryFrame h task frame address) s
      (fun mapping s' => mapping = ⟨s.slots.start, s.slots.start⟩ ∧ s.slots.Available ∧ ∃ v cap vs,
        s.kernel.root frame.cap = some cap ∧ VSpace.Mapped v address cap vs .readWrite s s' ∧
        ∀ object, Holds task.vspace.root object .vspace s → v = object)
      fun _ s' => Preserves s s' := by
  -- whether an old object may be touched depends on whether the mapping returns
  let T : Nat → Prop := fun _ => ∃ slot s₁, task.vspace.mapFrame h frame address .readWrite s = (.ok slot, s₁)
  have hbuilds : (∀ id, T id) → Builds T (task.vspace.mapFrame h frame address .readWrite) s _ :=
    fun hT => VSpace.mapFrame_builds h frame address .readWrite fun _ _ object _ _ _ => Or.inl (hT object)
  have hsettles := mapRecoveryFrame_settles_of h (T := T) task frame address s fun slot s₁ hrun =>
    ((hbuilds fun _ => ⟨slot, s₁, hrun⟩).of_ok hrun).1
  have hfails : ∀ {e s₁}, task.vspace.mapFrame h frame address .readWrite s = (.err e, s₁) → ∀ id, ¬ T id := by
    rintro e s₁ hrun id ⟨slot, s₂, hok⟩
    cases (Prod.mk.inj (hrun.symm.trans hok)).1
  generalize hcall : mapRecoveryFrame h task frame address s = r at hsettles
  cases hsettles with
  | done hrun hext hmade =>
      obtain ⟨-, rfl, v, cap, vs, hsource, hmapped, hv⟩ := (hbuilds fun _ => ⟨_, _, hrun⟩).of_ok hrun
      obtain ⟨rfl, -⟩ := hmade
      have hav : s.slots.Available := by
        have hstop := hext.le_stop
        have hstart := hmapped.start
        show s.slots.start < s.slots.stop
        omega
      exact Prog.Ensures.ok hcall ⟨rfl, hav, v, cap, vs, hsource, hmapped, hv⟩
  | undone hrun hext hdeleted hback hkept =>
      refine Prog.Ensures.err hcall (.of_rolledBack (VSpace.mapFrame_fails h hrun) hback ?_ hvacant)
      exact fun id hid _ => hkept id hid (hfails hrun id)
  | stuck hrun hext hfailed hcleared hkept =>
      refine Prog.Ensures.err hcall (.of_cleared (VSpace.mapFrame_fails h hrun) hcleared ?_ hvacant hle)
      exact fun id hid _ => hkept id hid (hfails hrun id)

namespace Supervisor

variable (h : Host) {w w' : Supervisor}

/-! ## Which change an operation is -/

/-- A system call has its effect, or changes nothing. -/
theorem perform_control {answer : Option Sel4Error} {i : ControlInvocation} {f : Sel4Error → ControlError}
    (hs : w.perform ((invokeControl h.machine.toPlatform answer i).mapErr f) = some w') :
    (∃ k, answer = none ∧ w.live.effect h.machine.toPlatform i = .ok k ∧ w' = w.withLive k) ∨
    (w' = w ∧ ∀ k, answer = none → w.live.effect h.machine.toPlatform i ≠ .ok k) := by
  unfold perform Prog.mapErr invokeControl at hs
  cases answer with
  | some e => exact Or.inr ⟨(Option.some.inj hs).symm, by nofun⟩
  | none =>
      cases heffect : w.live.effect h.machine.toPlatform i with
      | ok k =>
          rw [heffect] at hs
          exact Or.inl ⟨k, rfl, rfl, (Option.some.inj hs).symm⟩
      | error e =>
          rw [heffect] at hs
          exact Or.inr ⟨(Option.some.inj hs).symm, by nofun⟩

/-- A system call that is an event at a thread. -/
theorem Change.of_event {op : SupervisorOp} {answer : Option Sel4Error} {i : ControlInvocation} {slot : Nat}
    {event : ThreadEvent} {f : Sel4Error → ControlError}
    (hevent : op.event = if answer = none then some (slot, event) else none)
    (heffect : ∀ k : Live, k.effect h.machine.toPlatform i = k.advanceAt slot event)
    (hok : ∃ k, w.live.advanceAt slot event = .ok k)
    (hs : w.perform ((invokeControl h.machine.toPlatform answer i).mapErr f) = some w') : Change h w op w' := by
  rcases perform_control h hs with ⟨k, hanswer, hk, rfl⟩ | ⟨rfl, hno⟩
  · rw [if_pos hanswer] at hevent
    exact .happens hevent ((heffect _).symm.trans hk)
  · by_cases hanswer : answer = none
    · obtain ⟨k, hk⟩ := hok
      exact absurd ((heffect _).trans hk) (hno k hanswer)
    · rw [if_neg hanswer] at hevent
      exact .nothing hevent

/-- A system call that unmaps a frame. -/
theorem Change.of_unmap {op : SupervisorOp} {answer : Option Sel4Error} {slot : Nat}
    {f : Sel4Error → ControlError} (hnone : answer = none → op.unmaps = some slot) (hevent : op.event = none)
    (hs : w.perform ((invokeControl h.machine.toPlatform answer (.frameUnmap slot)).mapErr f) = some w') :
    Change h w op w' := by
  rcases perform_control h hs with ⟨k, hanswer, hk, rfl⟩ | ⟨rfl, -⟩
  · obtain ⟨store, hstore, hk⟩ := except_bind_eq_ok.mp hk
    obtain rfl := Except.ok.inj hk
    exact .unmaps (hnone hanswer) hstore
  · exact .nothing hevent

/-- An operation that returns no handle, and leaves alone what was there. -/
theorem Change.of_preserves {op : RootOp} {s : BootState} (hp : Preserves w.root.state s) :
    Change h w (.root op) { w with root := { w.root with state := s } } := by
  have hsame : w.root.handles = w.root.handles ++ (none : Option Handle).toList := by simp
  show Change h w (.root op) { w with root := RootTask.mk s w.root.handles }
  rw [hsame]
  exact .builds hp (by nofun)

/-- An operation of the root task that leaves alone what was there. -/
theorem Change.of_leaves {α : Type} {op : RootOp} {x : Boot α} {keep : α → BootState → Handle} {r : RootTask}
    (hx : RootTask.Leaves x w.root.state fun a s => Fresh h w.root.state s (keep a s))
    (hs : w.root.perform x keep = some r) : Change h w (.root op) { w with root := r } := by
  rcases RootTask.perform_cases hx hs with ⟨a, s, -, ⟨hp, hfresh⟩, rfl⟩ | ⟨e, s, -, hp, rfl⟩
  · have hnew : ∀ handle, some (keep a s) = some handle → Fresh h w.root.state s handle := by
      rintro handle ⟨⟩
      exact hfresh
    exact .builds hp hnew
  · exact Change.of_preserves h hp

/-- What holds of all tasks, and of the allocator, throughout. -/
structure Intact (w : Supervisor) : Prop where
  ordered : RootTask.Ordered h w.root
  alive : ∀ x ∈ w.tasks, Alive x w.root.state
  ranges : w.tasks.Pairwise fun x y => x.objects.2 ≤ y.objects.1
  inactive : ∀ object, w.root.state.kernel.nextObject ≤ object → w.threads object = .inactive

variable {h}

/-- The slot of a frame is below the next slot or outside the range. -/
theorem Intact.obtainable_lt (hw : Intact h w) {slot : Nat} (ho : w.root.Obtainable slot) :
    slot < w.root.state.slots.start ∨ w.root.state.slots.stop ≤ slot := by
  have hfirst := w.root.state.slots.first_le
  rcases ho with hframe | htask | hlt | hle
  · obtain ⟨handle, hmem, hcap⟩ := List.mem_filterMap.mp hframe
    cases handle with
    | frame f =>
        obtain rfl := Option.some.inj hcap
        exact Or.inl (hw.ordered.within _ hmem).2
    | _ => cases hcap
  · obtain ⟨x, hx, hslot⟩ := List.mem_flatMap.mp htask
    have halive := hw.alive x hx
    have hpart : ∀ part ∈ [Part.privateMemory, .stack, .ipcBuffer], x.task.slot part < w.root.state.slots.start := by
      intro part hpart
      obtain ⟨object, -, hlt, -⟩ := halive.frames part hpart
      exact Nat.lt_of_lt_of_le hlt halive.slots_le
    simp only [List.mem_cons, List.not_mem_nil, or_false] at hslot
    rcases hslot with rfl | rfl | rfl
    · exact Or.inl (hpart .privateMemory (by simp))
    · exact Or.inl (hpart .stack (by simp))
    · exact Or.inl (hpart .ipcBuffer (by simp))
  · omega
  · exact Or.inr hle

/-- What the root task asks of the thread of a task can always be done. -/
theorem Intact.advances {task : Task} {event : ThreadEvent} (hw : Intact h w)
    (ha : task ∈ w.tasks.map HeldTask.task) (hevent : ∀ e : Execution, ∃ e', e.step event = some e') :
    ∃ k, w.live.advanceAt task.thread.tcb event = .ok k := by
  obtain ⟨x, hx, rfl⟩ := List.mem_map.mp ha
  obtain ⟨t, context, registers, ⟨-, -, cap, hcap, rfl, -⟩, htcb⟩ := (hw.alive x hx).tcb
  obtain ⟨e, he⟩ := hevent ⟨w.threads cap.object, TcbObject.file ⟨some context, some registers⟩⟩
  exact ⟨⟨_, _⟩, Live.advanceAt_eq_ok.mpr ⟨cap, _, e, hcap, htcb, he, rfl, rfl⟩⟩

/-- Creating a task leaves alone what was there, and the new task is as it should be. -/
theorem createTask_fresh (hvacant : Vacant s) (hle : s.slots.start ≤ s.slots.stop) {config : TaskConfig}
    (hcode : config.code.frame.cap < s.slots.start ∨ s.slots.stop ≤ config.code.frame.cap) :
    RootTask.Leaves (createTask h config) s fun task s' =>
      Fresh h s s' (.task ⟨task, config, (s.kernel.nextObject, s'.kernel.nextObject)⟩) := by
  rcases (RootTask.createTask_leaves h hvacant hle config hcode).cases with
    ⟨task, s', hrun, hp, hstands⟩ | ⟨e, s', hrun, hp⟩
  · exact Prog.Ensures.ok hrun ⟨hp, hstands, rfl, createTask_pristine h hrun⟩
  · exact Prog.Ensures.err hrun hp

/-- **Every step is one of the changes.** -/
theorem Intact.change {op : SupervisorOp} (hw : Intact h w) (ha : w.Owned op) (hs : step h w op = some w') :
    Change h w op w' := by
  have hvacant := hw.ordered.vacant
  have hle := hw.ordered.start_le
  unfold step at hs
  cases op with
  | root op =>
      obtain ⟨r, hr, rfl⟩ := Option.map_eq_some_iff.mp hs
      unfold RootTask.step at hr
      cases op with
      | allocateFrame =>
          refine Change.of_leaves h ((RootTask.allocateFrame_leaves h hvacant hle).conseq ?_ ?_) hr
          · rintro frame s ⟨hp, rfl, hcreated⟩
            exact ⟨hp, hcreated.unmapped⟩
          · exact fun _ _ hp => hp
      | allocateEndpoint =>
          refine Change.of_leaves h ((RootTask.allocateBlueprint_leaves h hvacant hle .endpoint).conseq ?_ ?_) hr
          · rintro slot s ⟨hp, rfl, hcreated⟩
            exact ⟨hp, hcreated.holds.slot_lt, _, (congrFun hcreated.root _).trans (Function.update_self _ _ _)⟩
          · exact fun _ _ hp => hp
      | allocateNotification =>
          refine Change.of_leaves h ((RootTask.allocateBlueprint_leaves h hvacant hle .notification).conseq ?_ ?_) hr
          · exact fun _ _ hd => ⟨hd.1, trivial⟩
          · exact fun _ _ hp => hp
      | allocateFaultEndpoint =>
          refine Change.of_leaves h ((RootTask.allocateBlueprint_leaves h hvacant hle .endpoint).conseq ?_ ?_) hr
          · rintro slot s ⟨hp, rfl, hcreated⟩
            exact ⟨hp, hcreated.holds.slot_lt, _, (congrFun hcreated.root _).trans (Function.update_self _ _ _)⟩
          · exact fun _ _ hp => hp
      | allocateReplyPool capacity =>
          exact Change.of_leaves h (RootTask.allocateReplyPool_leaves capacity) hr
      | createTask config =>
          exact Change.of_leaves h (createTask_fresh hvacant hle (hw.obtainable_lt ha)) hr
      | mapRecoveryFrame task frame address =>
          rcases RootTask.perform_cases (mapRecoveryFrame_ensures task frame address hvacant hle) hr with
            ⟨mapping, s, -, ⟨rfl, hav, v, cap, vs, hsource, hmapped, hv⟩, rfl⟩ | ⟨e, s, -, hp, rfl⟩
          · exact .grants hav hsource hmapped hv
          · exact Change.of_preserves h hp
  | start task answer =>
      exact Change.of_event h (by cases answer <;> rfl) (fun _ => rfl) (hw.advances ha fun e => ⟨_, rfl⟩) hs
  | suspend task answer =>
      exact Change.of_event h (by cases answer <;> rfl) (fun _ => rfl) (hw.advances ha fun e => ⟨_, rfl⟩) hs
  | resume task answer =>
      exact Change.of_event h (by cases answer <;> rfl) (fun _ => rfl) (hw.advances ha fun e => ⟨_, rfl⟩) hs
  | writeRegisters task registers answer =>
      exact Change.of_event h (by cases answer <;> rfl) (fun _ => rfl) (hw.advances ha fun e => ⟨_, rfl⟩) hs
  | map frame address answer =>
      dsimp only at hs
      unfold Bootstrap.Frame.map at hs
      by_cases haligned : address % h.machine.pageBytes ≠ 0
      · rw [if_pos haligned] at hs
        obtain rfl := Option.some.inj hs
        exact .nothing rfl
      · rw [if_neg haligned] at hs
        rcases perform_control h hs with ⟨k, rfl, hk, rfl⟩ | ⟨rfl, -⟩
        · obtain ⟨store, hstore, hk⟩ := except_bind_eq_ok.mp hk
          obtain rfl := Except.ok.inj hk
          exact .maps hstore
        · exact .nothing rfl
  | unmap frame answer => exact Change.of_unmap h (by rintro rfl; rfl) rfl hs
  | unmapMapping mapping answer => exact Change.of_unmap h (by rintro rfl; rfl) rfl hs
  | runs task event =>
      dsimp only at hs
      by_cases hevent : event.Spontaneous
      · rw [if_pos hevent] at hs
        cases hk : w.live.advanceAt task.thread.tcb event with
        | ok k =>
            rw [hk] at hs
            obtain rfl := Option.some.inj hs
            exact .happens rfl hk
        | error e =>
            rw [hk] at hs
            cases hs
      · rw [if_neg hevent] at hs
        cases hs

/-! ## What every operation keeps -/

/-- The event of an operation is at the thread of a task. -/
theorem Owned.event {op : SupervisorOp} {slot : Nat} {event : ThreadEvent} (ha : w.Owned op)
    (hop : op.event = some (slot, event)) : ∃ x ∈ w.tasks, x.task.thread.tcb = slot := by
  have hmem : ∀ {task : Task}, task ∈ w.tasks.map HeldTask.task → task.thread.tcb = slot →
      ∃ x ∈ w.tasks, x.task.thread.tcb = slot := by
    rintro task htask rfl
    obtain ⟨x, hx, rfl⟩ := List.mem_map.mp htask
    exact ⟨x, hx, rfl⟩
  cases op with
  | start task answer | suspend task answer | resume task answer =>
      cases answer with
      | none => exact hmem ha (Prod.mk.inj (Option.some.inj hop)).1
      | some e => cases hop
  | writeRegisters task registers answer =>
      cases answer with
      | none => exact hmem ha (Prod.mk.inj (Option.some.inj hop)).1
      | some e => cases hop
  | runs task event' => exact hmem ha (Prod.mk.inj (Option.some.inj hop)).1
  | _ => cases hop

/-- An event at the thread of a task is one at its TCB. -/
theorem Intact.advanced {x : HeldTask} {event : ThreadEvent} {k : Live} (hw : Intact h w) (hx : x ∈ w.tasks)
    (hk : w.live.advanceAt x.task.thread.tcb event = .ok k) :
    ∃ t tcb e, x.task.HasPart w.root.state.kernel .tcb t ∧ w.root.state.kernel.objects t = .tcb tcb ∧
      Execution.step ⟨w.threads t, tcb.file⟩ event = some e ∧ Live.Advanced t tcb e w.live k := by
  obtain ⟨cap, tcb, e, hcap, htcb, hstep, hadvanced⟩ := Live.advanceAt_eq_ok.mp hk
  obtain ⟨t, context, registers, ⟨hlo, hhi, cap', hcap', rfl, hfits⟩, -⟩ := (hw.alive x hx).tcb
  obtain rfl := Option.some.inj (hcap.symm.trans hcap')
  exact ⟨cap.object, tcb, e, ⟨hlo, hhi, cap, hcap, rfl, hfits⟩, htcb, hstep, hadvanced⟩

/-- **No operation takes away what a task was made of.** -/
theorem Change.retains {op : SupervisorOp} (hw : Intact h w) (hc : Change h w op w') :
    Retains w.root.state w'.root.state := by
  cases hc with
  | builds hp hnew => exact .of_preserves hp
  | @grants task frame address v cap vs s hav hsource hmapped hv =>
      have hempty : w.root.state.kernel.root w.root.state.slots.start = none :=
        hw.ordered.vacant _ (Nat.le_refl _) hav
      have hroot : ∀ i, i ≠ w.root.state.slots.start → s.kernel.root i = w.root.state.kernel.root i := by
        intro i hi
        rw [hmapped.root]
        exact Function.update_of_ne hi _ _
      have hobjects : ∀ id, id ≠ v → s.kernel.objects id = w.root.state.kernel.objects id := by
        intro id hid
        rw [hmapped.objects]
        exact Function.update_of_ne hid _ _
      constructor
      case start_le =>
        show w.root.state.slots.start ≤ s.slots.start
        rw [hmapped.start]
        exact Nat.le_succ _
      case nextObject_le => exact Nat.le_of_eq hmapped.nextObject.symm
      case below =>
        intro i hi
        rw [hroot i (Nat.ne_of_lt hi)]
      case kept =>
        intro i hi
        rw [hroot i]
        rintro rfl
        rw [hempty] at hi
        cases hi
      case vspaces =>
        intro id vs' _ hvs'
        by_cases hid : id = v
        · subst hid
          exact ⟨_, (congrFun hmapped.objects id).trans (Function.update_self _ _ _)⟩
        · exact ⟨vs', (hobjects id hid).trans hvs'⟩
      case cnodes =>
        intro id cnode _ hcnode
        refine (hobjects id ?_).trans hcnode
        rintro rfl
        cases hmapped.vspace.symm.trans hcnode
      case tcbs =>
        intro id tcb _ htcb
        refine ⟨tcb, (hobjects id ?_).trans htcb, rfl, fun hsome => hsome⟩
        rintro rfl
        cases hmapped.vspace.symm.trans htcb
  | happens hop hk =>
      obtain ⟨cap, tcb, e, -, htcb, -, hadvanced⟩ := Live.advanceAt_eq_ok.mp hk
      show Retains w.root.state { w.root.state with kernel := _ }
      rw [hadvanced.store]
      exact .of_registers htcb
  | maps hk =>
      obtain ⟨cap, object, vs, hcap, -, -, rfl⟩ := ObjectStore.remapFrame_cases hk
      exact .of_remap hcap rfl
  | unmaps hop hk =>
      obtain ⟨cap, hcap, -, rfl⟩ := ObjectStore.unmapFrame_cases hk
      exact .of_remap hcap rfl
  | nothing hop => exact .refl _

/-- The tasks after an operation are those before it, and one just made if it made one. -/
theorem Change.tasks {op : SupervisorOp} (hc : Change h w op w') :
    w'.tasks = w.tasks ∨
    ∃ x, w'.tasks = w.tasks ++ [x] ∧ Fresh h w.root.state w'.root.state (.task x) ∧ w'.threads = w.threads := by
  cases hc with
  | @builds op s new hp hnew =>
      have htasks : (RootTask.mk s (w.root.handles ++ new.toList)).tasks =
          w.tasks ++ new.toList.filterMap Handle.held := List.filterMap_append ..
      cases new with
      | none => exact Or.inl (htasks.trans (List.append_nil _))
      | some handle =>
          cases handle with
          | task x => exact Or.inr ⟨x, htasks, hnew _ rfl, rfl⟩
          | _ => exact Or.inl (htasks.trans (List.append_nil _))
  | grants hav hsource hmapped hv =>
      refine Or.inl ?_
      show List.filterMap Handle.held (_ ++ _) = List.filterMap Handle.held _
      simp [Handle.held]
  | happens hop hk => exact Or.inl rfl
  | maps hk => exact Or.inl rfl
  | unmaps hop hk => exact Or.inl rfl
  | nothing hop => exact Or.inl rfl

/-- Where a capability is mapped has no part in the order of slots. -/
theorem ordered_withLive {k : Live} {frame : Nat} {cap cap' : Cap} (ho : RootTask.Ordered h w.root)
    (hcap : w.root.state.kernel.root frame = some cap)
    (hroot : k.store.root = Function.update w.root.state.kernel.root frame (some cap')) :
    RootTask.Ordered h (w.withLive k).root := by
  refine ⟨ho.first, ho.stop, ho.start_le, ?_, ho.within, ho.ordered⟩
  intro i hlo hhi
  show k.store.root i = none
  have hi := ho.vacant i hlo hhi
  rw [hroot, Function.update_of_ne]
  · exact hi
  · rintro rfl
    cases hi.symm.trans hcap

/-- **One operation keeps every task in place.** -/
theorem Intact.step {op : SupervisorOp} (hw : Intact h w) (ha : w.Owned op) (hs : Supervisor.step h w op = some w') :
    Intact h w' := by
  have hc := hw.change ha hs
  have hretains := hc.retains hw
  constructor
  case ordered =>
    cases hc with
    | builds hp hnew | grants hav hsource hmapped hv =>
        obtain ⟨r, hr, heq⟩ := Option.map_eq_some_iff.mp hs
        have hroot : r = _ := congrArg Supervisor.root heq
        exact hroot ▸ hw.ordered.step h hr
    | happens hop hk =>
        obtain ⟨cap, tcb, e, -, -, -, hadvanced⟩ := Live.advanceAt_eq_ok.mp hk
        refine ⟨hw.ordered.first, hw.ordered.stop, hw.ordered.start_le, ?_, hw.ordered.within, hw.ordered.ordered⟩
        intro i hlo hhi
        show (_ : Live).store.root i = none
        rw [hadvanced.store]
        exact hw.ordered.vacant i hlo hhi
    | maps hk =>
        obtain ⟨cap, object, vs, hcap, -, -, rfl⟩ := ObjectStore.remapFrame_cases hk
        exact ordered_withLive hw.ordered hcap rfl
    | unmaps hop hk =>
        obtain ⟨cap, hcap, -, rfl⟩ := ObjectStore.unmapFrame_cases hk
        exact ordered_withLive hw.ordered hcap rfl
    | nothing hop => exact hw.ordered
  case alive =>
    intro x hx
    rcases hc.tasks with hsame | ⟨y, hsnoc, ⟨hstands, -, -⟩, -⟩
    · exact (hw.alive x (hsame ▸ hx)).mono hretains
    · rw [hsnoc] at hx
      rcases List.mem_append.mp hx with hold | hnew
      · exact (hw.alive x hold).mono hretains
      · rw [List.mem_singleton.mp hnew]
        exact hstands.alive
  case ranges =>
    rcases hc.tasks with hsame | ⟨y, hsnoc, ⟨-, hobjects, -⟩, -⟩
    · rw [hsame]
      exact hw.ranges
    · rw [hsnoc, List.pairwise_append]
      refine ⟨hw.ranges, List.pairwise_singleton _ _, ?_⟩
      intro x hx z hz
      rw [List.mem_singleton.mp hz, hobjects]
      exact (hw.alive x hx).objects_le
  case inactive =>
    intro object hobject
    have hold : w.root.state.kernel.nextObject ≤ object := Nat.le_trans hretains.nextObject_le hobject
    cases hc with
    | @happens op slot event k hop hk =>
        obtain ⟨x, hx, rfl⟩ := ha.event hop
        obtain ⟨t, tcb, e, ht, -, -, hadvanced⟩ := hw.advanced hx hk
        have hlt := ((hw.alive x hx).numbered _ _ ht).2
        have hle := (hw.alive x hx).objects_le
        show k.threads object = .inactive
        rw [(hadvanced.other (by omega)).2]
        exact hw.inactive object hold
    | _ => exact hw.inactive object hold

theorem Initial.intact (hi : Initial h w) : Intact h w := by
  have htasks : w.tasks = [] := by
    unfold tasks RootTask.tasks
    rw [hi.root.handles]
    rfl
  refine ⟨hi.root.ordered h, ?_, ?_, hi.threads⟩
  · rw [htasks]
    nofun
  · rw [htasks]
    exact List.Pairwise.nil

theorem intact_reachable (hr : Reachable (Supervisor.step h) (Initial h) Owned w) : Intact h w :=
  hr.invariant (fun _ hi => hi.intact) fun _ _ _ hw ha hs => hw.step ha hs

end Supervisor
end Ricoq
