import Ricoq.Boot.Correctness.Task
import Ricoq.Boot.Correctness.Rollback

/-!
# `Boot.Correctness.Atomic` — constructions are all or nothing

`createTask` and `mapRecoveryFrame` run a construction and roll back when it fails. Whatever step it failed
at, there are three ways this can end (`Settles`): done, undone, or stuck on a delete that failed.
-/

namespace Ricoq

open Sel4 Bootstrap

/-! ## How a construction ends -/

/-- The old objects outside `T` are as before. -/
def Unchanged (T : Nat → Prop) (s s' : BootState) : Prop :=
  ∀ id, id < s.kernel.nextObject → ¬ T id → s'.kernel.objects id = s.kernel.objects id

/-- How running `construction` from `s`, with a rollback if it fails, can end. `D` is what holds on return. -/
inductive Settles (h : Host) {α β : Type} (T : Nat → Prop) (construction : Boot α) (D : β → BootState → Prop)
    (s : BootState) : Outcome BootstrapError β × BootState → Prop where
  | done {a : α} {b : β} {s' : BootState} (hrun : construction s = (.ok a, s')) (hext : Extends T s s')
      (hD : D b s') : Settles h T construction D s (.ok b, s')
  | undone {e : BootstrapError} {m s' : BootState} (hrun : construction s = (.err e, m))
      (hext : Extends T s m)
      (hdeleted : (deleteRootSlots h s.slots.start (m.slots.start - s.slots.start) m).1 = .ok ())
      (hback : RolledBack s m s') (hkept : Unchanged T s s') : Settles h T construction D s (.err e, s')
  | stuck {e : BootstrapError} {m s' : BootState} (hrun : construction s = (.err e, m))
      (hext : Extends T s m)
      (hfailed : deleteRootSlots h s.slots.start (m.slots.start - s.slots.start) m =
        (.err .rollbackFailed, s'))
      (hcleared : Cleared s.slots.start m.slots.start m s') (hkept : Unchanged T s s') :
      Settles h T construction D s (.err .rollbackFailed, s')

variable (h : Host) {T : Nat → Prop} {s s' : BootState}

/-- A construction that failed settles as its rollback does. -/
theorem Settles.of_rollback {α β : Type} {construction : Boot α} {D : β → BootState → Prop} {e : BootstrapError}
    {s₁ : BootState} {r : Outcome BootstrapError β × BootState} (hrun : construction s = (.err e, s₁))
    (hext : Extends T s s₁)
    (hundone : ∀ s', rollback h s.slots.start s₁ = (.ok (), s') → r = (.err e, s'))
    (hstuck : ∀ s', rollback h s.slots.start s₁ = (.err .rollbackFailed, s') → r = (.err .rollbackFailed, s')) :
    Settles h T construction D s r := by
  obtain ⟨s', ⟨hback, hdeleted, hrolled⟩ | ⟨hback, hfailed, hcleared⟩, hkept⟩ := rollback_cases hext
  · rw [hundone s' hback]
    exact .undone hrun hext hdeleted hrolled hkept
  · rw [hstuck s' hback]
    exact .stuck hrun hext hfailed hcleared hkept

/-- The construction of a task, without the rollback. -/
def TaskConfig.construct (config : TaskConfig) : Boot Task := fun s =>
  match config.layout h with
  | .error _   => (.err .invalidTaskConfiguration, s)
  | .ok layout => createTaskInner h config layout s.slots.start s

/-- A task was made of the configuration, with a layout that passed the checks. -/
def TaskMade (config : TaskConfig) (s : BootState) (task : Task) (s' : BootState) : Prop :=
  (∃ layout, config.layout h = .ok layout) ∧ ∃ code width, Built config code width s task s'

/-- **`createTask` settles.** It touches no object that existed before. -/
theorem createTask_settles (T : Nat → Prop) (config : TaskConfig) (s : BootState) :
    Settles h T (config.construct h) (TaskMade h config s) s (createTask h config s) := by
  unfold createTask
  cases hlayout : config.layout h with
  | error e =>
      have hrun : config.construct h s = (.err .invalidTaskConfiguration, s) := by
        rw [TaskConfig.construct, hlayout]
      refine .undone hrun (Extends.refl T s) ?_ (RolledBack.refl s) fun _ _ _ => rfl
      rw [Nat.sub_self]
      rfl
  | ok layout =>
      have hconstruct : config.construct h s = createTaskInner h config layout s.slots.start s := by
        rw [TaskConfig.construct, hlayout]
      have hcheckpoint : getCheckpoint s = (.ok s.slots.start, s) := rfl
      dsimp only
      rw [Prog.run_bind_ok hcheckpoint]
      rcases (createTaskInner_builds h T config layout s).cases with
        ⟨task, s₁, hrun, hext, hbuilt⟩ | ⟨e, s₁, hrun, hext⟩
      · rw [Prog.run_bind_ok (Prog.run_attempt_ok BootstrapError hrun)]
        exact .done (hconstruct.trans hrun) hext ⟨⟨layout, hlayout⟩, hbuilt⟩
      · rw [Prog.run_bind_ok (Prog.run_attempt_err BootstrapError hrun)]
        refine .of_rollback h (hconstruct.trans hrun) hext ?_ ?_
        · exact fun s' hback => Prog.run_bind_ok (Prog.run_attempt_ok BootstrapError hback)
        · exact fun s' hback => Prog.run_bind_ok (Prog.run_attempt_err BootstrapError hback)

/-- A recovery frame was mapped through one slot. -/
def MappingMade (s : BootState) (mapping : TaskMapping) (s' : BootState) : Prop :=
  mapping = ⟨s.slots.start, s.slots.start⟩ ∧ s'.slots.start = s.slots.start + 1 ∧
  s'.kernel.nextObject = s.kernel.nextObject

/-- `mapRecoveryFrame` settles. It touches nothing old when it fails, and what `T` allows when it returns. -/
theorem mapRecoveryFrame_settles_of (task : Task) (frame : Frame) (address : Nat) (s : BootState)
    (hdone : ∀ slot s₁, task.vspace.mapFrame h frame address .readWrite s = (.ok slot, s₁) → Extends T s s₁) :
    Settles h T (task.vspace.mapFrame h frame address .readWrite) (MappingMade s) s
      (mapRecoveryFrame h task frame address s) := by
  unfold mapRecoveryFrame
  have hcheckpoint : getCheckpoint s = (.ok s.slots.start, s) := rfl
  rw [Prog.run_bind_ok hcheckpoint]
  have hbuilds : Builds (fun _ => True) (task.vspace.mapFrame h frame address .readWrite) s _ :=
    VSpace.mapFrame_builds h frame address .readWrite fun _ _ _ _ _ _ => Or.inl trivial
  rcases hbuilds.cases with ⟨slot, s₁, hrun, -, rfl, v, cap, vs, -, hmapped, -⟩ | ⟨e, s₁, hrun, -⟩
  · rw [Prog.run_bind_ok (Prog.run_attempt_ok BootstrapError hrun)]
    have hext := hdone _ _ hrun
    have hfirst : s₁.slots.first ≤ s.slots.start := hext.first ▸ s.slots.first_le
    have hstart := hmapped.start
    dsimp only
    rw [Prog.run_bind_ok (committedSlots_of_le hfirst hext.start_le), if_pos (by omega)]
    exact .done hrun hext ⟨rfl, hstart, hmapped.nextObject⟩
  · rw [Prog.run_bind_ok (Prog.run_attempt_err BootstrapError hrun)]
    have hext : Extends T s s₁ := (VSpace.mapFrame_fails h hrun).weaken fun _ => False.elim
    refine .of_rollback h hrun hext ?_ ?_
    · exact fun s' hback => Prog.run_bind_ok hback
    · exact fun s' hback => Prog.run_bind_err hback

/-- **`mapRecoveryFrame` settles.** The VSpace it touches is the task's, whatever that is. -/
theorem mapRecoveryFrame_settles (task : Task) (frame : Frame) (address : Nat) (s : BootState) :
    Settles h (fun _ => True) (task.vspace.mapFrame h frame address .readWrite) (MappingMade s) s
      (mapRecoveryFrame h task frame address s) := by
  refine mapRecoveryFrame_settles_of h task frame address s fun slot s₁ hrun => ?_
  have hbuilds : Builds (fun _ => True) (task.vspace.mapFrame h frame address .readWrite) s _ :=
    VSpace.mapFrame_builds h frame address .readWrite fun _ _ _ _ _ _ => Or.inl trivial
  exact (hbuilds.of_ok hrun).1

/-! ## All or nothing -/

/-- Exactly the slots from the old next slot to the new one were filled, and each new object is behind one of
    them. -/
structure Filled (s s' : BootState) : Prop where
  inside : ∀ i, s.slots.start ≤ i → i < s'.slots.start → s'.kernel.root i ≠ none
  outside : ∀ i, i < s.slots.start ∨ s'.slots.start ≤ i → s'.kernel.root i = s.kernel.root i
  objects : ∀ id, s.kernel.nextObject ≤ id → id < s'.kernel.nextObject → ∃ i cap,
    s.slots.start ≤ i ∧ i < s'.slots.start ∧ s'.kernel.root i = some cap ∧ cap.object = id

/-- A call is all or nothing from `s`, where `construction` is the call without its rollback. -/
structure Atomic {α β : Type} (construction : Boot α) (call : Boot β) (reported : β → Nat × Nat)
    (s : BootState) : Prop where
  returns : (call s).1 ≠ .panic
  -- on return the reported slots are those that were filled
  filled : ∀ b s', call s = (.ok b, s') →
    reported b = (s.slots.start, s'.slots.start) ∧ s.slots.start < s'.slots.start ∧ Filled s s'
  -- on an error the slots filled until then are empty again, and are the next ones as before
  restored : ∀ e s', call s = (.err e, s') → e ≠ .rollbackFailed →
    (∃ m, construction s = (.err e, m) ∧ RolledBack s m s') ∧ s'.slots = s.slots ∧
    (Vacant s → s'.kernel.root = s.kernel.root)
  -- if a delete fails, the error says so and the allocator stays ahead of everything that was filled
  stuck : ∀ e m e' s', construction s = (.err e, m) →
    deleteRootSlots h s.slots.start (m.slots.start - s.slots.start) m = (.err e', s') →
    call s = (.err .rollbackFailed, s') ∧ s'.slots = m.slots ∧
    ∀ i, s'.slots.start ≤ i → s'.kernel.root i = s.kernel.root i

theorem Settles.atomic {α β : Type} {construction : Boot α} {call : Boot β} {D : β → BootState → Prop}
    {reported : β → Nat × Nat} (hs : Settles h T construction D s (call s))
    (hD : ∀ b s', D b s' → Extends T s s' → reported b = (s.slots.start, s'.slots.start) ∧
      s.slots.start < s'.slots.start ∧ ∀ id, s.kernel.nextObject ≤ id → id < s'.kernel.nextObject →
        ∃ i cap, s.slots.start ≤ i ∧ i < s'.slots.start ∧ s'.kernel.root i = some cap ∧ cap.object = id) :
    Atomic h construction call reported s := by
  generalize hcall : call s = r at hs
  cases hs with
  | done hrun hext hDb =>
      obtain ⟨hreported, hlt, hobjects⟩ := hD _ _ hDb hext
      constructor
      · rw [hcall]
        nofun
      · intro b s' hb
        obtain ⟨hbeq, rfl⟩ := Prod.mk.inj (hcall.symm.trans hb)
        obtain rfl := Outcome.ok.inj hbeq
        exact ⟨hreported, hlt, hext.filled, hext.outside, hobjects⟩
      · intro e s' he
        exact nomatch (Prod.mk.inj (hcall.symm.trans he)).1
      · intro e m e' s' hfail
        exact nomatch (Prod.mk.inj (hrun.symm.trans hfail)).1
  | undone hrun hext hdeleted hback hkept =>
      constructor
      · rw [hcall]
        nofun
      · intro b s' hb
        exact nomatch (Prod.mk.inj (hcall.symm.trans hb)).1
      · intro e s' he hne
        obtain ⟨heq, rfl⟩ := Prod.mk.inj (hcall.symm.trans he)
        obtain rfl := Outcome.err.inj heq
        exact ⟨⟨_, hrun, hback⟩, hback.slots, hback.root_eq hext⟩
      · intro e m e' s' hfail hdelete
        obtain ⟨-, rfl⟩ := Prod.mk.inj (hrun.symm.trans hfail)
        rw [hdelete] at hdeleted
        exact nomatch hdeleted
  | stuck hrun hext hfailed hcleared hkept =>
      constructor
      · rw [hcall]
        nofun
      · intro b s' hb
        exact nomatch (Prod.mk.inj (hcall.symm.trans hb)).1
      · intro e s' he hne
        exact absurd (Outcome.err.inj (Prod.mk.inj (hcall.symm.trans he)).1).symm hne
      · intro e m e' s' hfail hdelete
        obtain ⟨-, rfl⟩ := Prod.mk.inj (hrun.symm.trans hfail)
        obtain ⟨-, rfl⟩ := Prod.mk.inj (hfailed.symm.trans hdelete)
        refine ⟨hcall, hcleared.slots, ?_⟩
        intro i hi
        rw [hcleared.slots] at hi
        rw [hcleared.outside i (Or.inr hi), hext.outside i (Or.inr hi)]

/-- Each object made for a task is behind one of its slots. -/
theorem Built.object_slot {config : TaskConfig} {code : Cap} {width : Nat} {task : Task}
    (hb : Built config code width s task s') {id : Nat} (hlo : s.kernel.nextObject ≤ id)
    (hhi : id < s'.kernel.nextObject) :
    ∃ i cap, s.slots.start ≤ i ∧ i < s'.slots.start ∧ s'.kernel.root i = some cap ∧ cap.object = id := by
  have hstart := hb.start
  have hnext := hb.nextObject
  have hheld : ∃ i b, s.slots.start ≤ i ∧ Holds i id b s' := by
    obtain ⟨k, rfl⟩ := Nat.exists_eq_add_of_le hlo
    have hk : k = 0 ∨ k = 1 ∨ (1 < k ∧ k < width) ∨ k = width ∨ k = width + 1 ∨ k = width + 2 ∨
        k = width + 3 := by omega
    rcases hk with rfl | rfl | ⟨hlo, hhi⟩ | rfl | rfl | rfl | rfl
    · exact ⟨_, _, Nat.le_refl _, hb.cnode⟩
    · exact ⟨_, _, Nat.le_add_right _ _, hb.vspace⟩
    · obtain ⟨level, htable⟩ := hb.tables (s.slots.start + k) (by omega) (by omega)
      exact ⟨_, _, Nat.le_add_right _ _, htable.of_eq rfl (by omega)⟩
    · exact ⟨_, _, by omega, hb.privateFrame⟩
    · exact ⟨_, _, by omega, hb.stackFrame⟩
    · exact ⟨_, _, by omega, hb.ipcBufferFrame⟩
    · exact ⟨_, _, by omega, hb.tcb⟩
  obtain ⟨i, b, hi, hholds⟩ := hheld
  obtain ⟨cap, hcap, hobject, -⟩ := hholds.cap
  exact ⟨i, cap, hi, hholds.slot_lt, hcap, hobject⟩

/-- **All-or-nothing construction.** Whatever the configuration, the allocator and the answers of the kernel,
    `createTask` and `mapRecoveryFrame` either fill exactly the slots they report, or empty what they filled
    and leave the allocator as it was, or say that this failed and leave the allocator beyond what they
    filled. -/
theorem constructions_atomic (s : BootState) :
    (∀ config, Atomic h (config.construct h) (createTask h config) Task.rootSlots s) ∧
    (∀ (task : Task) (frame : Frame) (address : Nat),
      Atomic h (task.vspace.mapFrame h frame address .readWrite) (mapRecoveryFrame h task frame address)
        (fun mapping => (mapping.rootSlot, mapping.rootSlot + 1)) s) := by
  constructor
  · intro config
    refine (createTask_settles h (fun _ => False) config s).atomic h ?_
    rintro task s' ⟨-, code, width, hbuilt⟩ -
    have hstart := hbuilt.start
    exact ⟨hbuilt.rootSlots, by omega, fun id hlo hhi => hbuilt.object_slot hlo hhi⟩
  · intro task frame address
    refine (mapRecoveryFrame_settles h task frame address s).atomic h ?_
    rintro mapping s' ⟨rfl, hstart, hnext⟩ -
    refine ⟨?_, by omega, fun id hlo hhi => absurd hlo (by omega)⟩
    rw [hstart]

end Ricoq
