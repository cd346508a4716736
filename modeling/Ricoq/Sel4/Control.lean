import Ricoq.Sel4.Objects

/-!
# `Sel4.Control` — system calls on frames and threads that exist

`Sel4.Objects` has the system calls that make objects and set them up. These are the ones made afterwards: a
frame is mapped and unmapped through one and the same capability, and a thread is resumed, suspended, and has
its registers read and written.

* What a thread does is an `Execution`: its state, and what its registers hold. `Execution.step` has the
  events of one thread, those the system calls bring about and those that come from the thread itself.
* Whether the kernel goes along with a system call is up to the environment; here each call is given the
  `answer` directly. A call that is refused changes nothing.
* The registers are those the code can name. The saved program status and the thread identifiers, which it
  only hands through, are left out.
-/

namespace Ricoq
namespace Sel4

/-! ## Threads -/

/-- What registers X0 to X30, the program counter and the stack pointer hold. -/
structure RegisterFile where
  pc : Nat
  sp : Nat
  gpr : Vector Nat 31
deriving DecidableEq

/-- All registers, where the ones not given are zero. -/
def UserContext.file (context : UserContext) : RegisterFile :=
  ⟨context.pc, context.sp, Vector.ofFn fun i => context.arguments.getD i 0⟩

/-- The context that sets all registers. -/
def RegisterFile.context (file : RegisterFile) : UserContext := ⟨file.pc, file.sp, file.gpr.toList⟩

@[simp] theorem RegisterFile.file_context (file : RegisterFile) : file.context.file = file := by
  obtain ⟨pc, sp, gpr⟩ := file
  simp [RegisterFile.context, UserContext.file]

/-- The registers of a thread that none were written to. -/
def RegisterFile.zero : RegisterFile := ⟨0, 0, Vector.replicate 31 0⟩

/-- What the registers of a thread hold. -/
def TcbObject.file (tcb : TcbObject) : RegisterFile := (tcb.registers.map UserContext.file).getD .zero

inductive ThreadState where
  | inactive
  | running
  | blocked
deriving DecidableEq, Repr

/-- What a thread does, and what its registers hold. -/
structure Execution where
  state : ThreadState
  registers : RegisterFile
deriving DecidableEq

/-- What can happen to a thread. The last three come from the thread itself: it runs on, it stops at a fault
    or waits for a message, and it goes on after that. -/
inductive ThreadEvent where
  | resume
  | suspend
  | writeRegisters (registers : RegisterFile)
  | execute (registers : RegisterFile)
  | block
  | wake (registers : RegisterFile)
deriving DecidableEq

/-- Whether an event comes from the thread itself. -/
def ThreadEvent.Spontaneous : ThreadEvent → Prop
  | .execute _ | .block | .wake _ => True
  | _ => False

instance : DecidablePred ThreadEvent.Spontaneous
  | .execute _        => .isTrue trivial
  | .block            => .isTrue trivial
  | .wake _           => .isTrue trivial
  | .resume           => .isFalse id
  | .suspend          => .isFalse id
  | .writeRegisters _ => .isFalse id

/-- What an event makes of a thread; a thread only runs on when it is running, and wakes when it is blocked. -/
def Execution.step (e : Execution) : ThreadEvent → Option Execution
  | .resume                   => some { e with state := .running }
  | .suspend                  => some { e with state := .inactive }
  | .writeRegisters registers => some { e with registers }
  | .execute registers        => if e.state = .running then some { e with registers } else none
  | .block                    => if e.state = .running then some { e with state := .blocked } else none
  | .wake registers           => if e.state = .blocked then some ⟨.running, registers⟩ else none

/-! ## System calls -/

/-- The objects, and what the threads among them do. -/
structure Live where
  store : ObjectStore
  threads : Nat → ThreadState

/-- The system calls; capabilities are named by their slots in the root CNode. -/
inductive ControlInvocation where
  | frameMap (frame vspace address : Nat) (rights : CapRights)
  | frameUnmap (frame : Nat)
  | tcbResume (tcb : Nat)
  | tcbSuspend (tcb : Nat)
  | tcbWriteAllRegisters (tcb : Nat) (registers : RegisterFile)

namespace ObjectStore

variable (p : Platform) (k : ObjectStore)

/-- Map a frame through a capability that may be mapped already, though then only where it is. -/
def remapFrame (frame vspace address : Nat) (rights : CapRights) : Except Sel4Error ObjectStore := do
  let cap ← k.rootCap frame
  let (object, _) ← k.vspaceAt vspace
  if cap.mapping = none ∨ cap.mapping = some (object, address) then
    k.effect p (.frameMap frame vspace address rights)
  else
    .error .invalidArgument

/-- Unmap a frame from where the capability has it mapped, if it is. -/
def unmapFrame (frame : Nat) : Except Sel4Error ObjectStore := do
  let cap ← k.rootCap frame
  if cap.blueprint = .granule then
    return (k.unmap p cap).setRoot frame (some { cap with mapping := none })
  else
    .error .illegalOperation

/-- The page mapped at an address of the VSpace behind a root slot. -/
def pageAt (vspace address : Nat) : Option Page :=
  match k.vspaceAt vspace with
  | .ok (_, vs) => vs.pages address
  | .error _    => none

end ObjectStore

namespace Live

variable (p : Platform) (k : Live)

/-- The thread behind an object number. -/
def execution (object : Nat) : Option Execution :=
  match k.store.objects object with
  | .tcb tcb => some ⟨k.threads object, tcb.file⟩
  | _        => none

/-- An event at the thread behind an object number. -/
def advance (object : Nat) (event : ThreadEvent) : Option Live :=
  match k.store.objects object with
  | .tcb tcb =>
      (Execution.step ⟨k.threads object, tcb.file⟩ event).map fun e =>
        { store := k.store.setObject object (.tcb { tcb with registers := some e.registers.context })
          threads := Function.update k.threads object e.state }
  | _ => none

/-- An event at the thread behind a root slot. -/
def advanceAt (slot : Nat) (event : ThreadEvent) : Except Sel4Error Live := do
  let (object, _) ← k.store.tcbAt slot
  match k.advance object event with
  | some k' => .ok k'
  | none    => .error .illegalOperation

/-- What a system call does when the kernel goes along with it. -/
def effect : ControlInvocation → Except Sel4Error Live
  | .frameMap frame vspace address rights => do
      return { k with store := ← k.store.remapFrame p frame vspace address rights }
  | .frameUnmap frame => do
      return { k with store := ← k.store.unmapFrame p frame }
  | .tcbResume tcb => k.advanceAt tcb .resume
  | .tcbSuspend tcb => k.advanceAt tcb .suspend
  | .tcbWriteAllRegisters tcb registers => k.advanceAt tcb (.writeRegisters registers)

/-- What the registers of the thread behind a root slot hold. -/
def readAllRegisters (tcb : Nat) : Except Sel4Error RegisterFile := do
  let (_, thread) ← k.store.tcbAt tcb
  return thread.file

end Live

/-- Make a system call; `answer` is the error of a kernel that refuses. -/
def invokeControl (p : Platform) (answer : Option Sel4Error) (i : ControlInvocation) : Prog Sel4Error Live Unit :=
  fun k =>
    match answer with
    | some e => (.err e, k)
    | none =>
      match k.effect p i with
      | .ok k'   => (.ok (), k')
      | .error e => (.err e, k)

/-- Read all registers; reading changes nothing. -/
def readControl (answer : Option Sel4Error) (tcb : Nat) : Prog Sel4Error Live RegisterFile := fun k =>
  match answer with
  | some e => (.err e, k)
  | none =>
    match k.readAllRegisters tcb with
    | .ok registers => (.ok registers, k)
    | .error e      => (.err e, k)

/-! ## What a system call changes -/

namespace ObjectStore

variable {p : Platform} {k k' : ObjectStore} {frame : Nat}

/-- The store with other pages in its VSpaces. -/
def withPages (k : ObjectStore) (pages : Nat → VSpaceObject → Nat → Option Page) : ObjectStore :=
  { k with objects := fun id =>
      match k.objects id with
      | .vspace vs => .vspace { vs with pages := pages id vs }
      | object     => object }

/-- The pages after `page` was mapped at an address of the VSpace `object`. -/
def pagesWith (object address : Nat) (page : Page) (id : Nat) (vs : VSpaceObject) : Nat → Option Page :=
  if id = object then Function.update vs.pages address (some page) else vs.pages

/-- The pages after the capability was unmapped: the page where it was mapped is gone, if it was this frame. -/
def pagesWithout (cap : Cap) (id : Nat) (vs : VSpaceObject) : Nat → Option Page := fun a =>
  if cap.mapping = some (id, a) ∧ (vs.pages a).map (·.frame) = some cap.object then none else vs.pages a

@[simp] theorem withPages_root (pages : Nat → VSpaceObject → Nat → Option Page) :
    (k.withPages pages).root = k.root := rfl

@[simp] theorem withPages_nextObject (pages : Nat → VSpaceObject → Nat → Option Page) :
    (k.withPages pages).nextObject = k.nextObject := rfl

section Pages

variable {pages : Nat → VSpaceObject → Nat → Option Page} {id object address : Nat} {vs : VSpaceObject}

theorem withPages_vspace (hvs : k.objects id = .vspace vs) :
    (k.withPages pages).objects id = .vspace { vs with pages := pages id vs } := by
  simp [withPages, hvs]

/-- What is no VSpace, or a VSpace with the same pages, stays as it is. -/
theorem withPages_same (hsame : ∀ vs, k.objects id = .vspace vs → pages id vs = vs.pages) :
    (k.withPages pages).objects id = k.objects id := by
  unfold withPages
  dsimp only
  cases hid : k.objects id with
  | vspace vs => simp [hsame vs hid]
  | _ => rfl

/-- Replacing one VSpace, when the others have the same pages. -/
theorem setObject_eq_withPages (hvs : k.objects object = .vspace vs)
    (hothers : ∀ id, id ≠ object → ∀ vs, k.objects id = .vspace vs → pages id vs = vs.pages) :
    k.setObject object (.vspace { vs with pages := pages object vs }) = k.withPages pages := by
  have hobjects : Function.update k.objects object (.vspace { vs with pages := pages object vs }) =
      (k.withPages pages).objects := by
    funext id
    by_cases hid : id = object
    · rw [hid, Function.update_self, withPages_vspace hvs]
    · rw [Function.update_of_ne hid, withPages_same (hothers id hid)]
  show ObjectStore.mk _ _ _ _ = _
  rw [hobjects]
  rfl

/-- Entering a page into one VSpace. -/
theorem setObject_pagesWith {page : Page} (hvs : k.objects object = .vspace vs) :
    k.setObject object (.vspace { vs with pages := Function.update vs.pages address (some page) }) =
      k.withPages (pagesWith object address page) := by
  have hself : pagesWith object address page object vs = Function.update vs.pages address (some page) :=
    if_pos rfl
  rw [← hself]
  exact setObject_eq_withPages hvs fun id hid vs _ => if_neg hid

/-- Taking a frame out of the VSpace it is mapped in. -/
theorem unmap_granule {cap : Cap} (hgranule : cap.blueprint = .granule) :
    k.unmap p cap = k.withPages (pagesWithout cap) := by
  have hnone : (∀ id vs, k.objects id = .vspace vs → pagesWithout cap id vs = vs.pages) →
      k = k.withPages (pagesWithout cap) := by
    intro hsame
    have hobjects : k.objects = (k.withPages (pagesWithout cap)).objects :=
      funext fun id => (withPages_same (hsame id)).symm
    exact congrArg (fun objects => { k with objects }) hobjects
  unfold unmap
  cases hmapping : cap.mapping with
  | none => exact hnone fun id vs _ => funext fun a => if_neg (by simp [hmapping])
  | some mapping =>
      obtain ⟨object, address⟩ := mapping
      dsimp only
      -- away from where the capability is mapped nothing changes
      have hother : ∀ id a, (id, a) ≠ (object, address) → ∀ vs : VSpaceObject,
          pagesWithout cap id vs a = vs.pages a := by
        intro id a hne vs
        refine if_neg fun h => hne ?_
        exact (Option.some.inj (hmapping.symm.trans h.1)).symm
      cases hvs : k.objects object with
      | vspace vs =>
          rw [hgranule]
          dsimp only
          by_cases hframe : (vs.pages address).map (·.frame) = some cap.object
          · rw [if_pos hframe]
            have hself : pagesWithout cap object vs = Function.update vs.pages address none := by
              funext a
              by_cases ha : a = address
              · rw [ha, Function.update_self]
                exact if_pos ⟨hmapping, hframe⟩
              · rw [Function.update_of_ne ha]
                exact hother object a (by simp [ha]) vs
            rw [← hself]
            exact setObject_eq_withPages hvs fun id hid vs _ => funext fun a => hother id a (by simp [hid]) vs
          · rw [if_neg hframe]
            apply hnone
            intro id vs' hvs'
            funext a
            by_cases hid : (id, a) = (object, address)
            · obtain ⟨rfl, rfl⟩ := Prod.mk.inj hid
              obtain rfl := Object.vspace.inj (hvs.symm.trans hvs')
              exact if_neg fun h => hframe h.2
            · exact hother id a hid vs'
      | _ =>
          apply hnone
          intro id vs' hvs'
          funext a
          refine hother id a ?_ vs'
          rintro ⟨⟩
          exact nomatch hvs.symm.trans hvs'

end Pages

theorem remapFrame_cases {vspace address : Nat} {rights : CapRights}
    (h : k.remapFrame p frame vspace address rights = .ok k') :
    ∃ cap object vs, k.root frame = some cap ∧ k.vspaceAt vspace = .ok (object, vs) ∧
      (cap.mapping = none ∨ cap.mapping = some (object, address)) ∧
      k' = (k.withPages (pagesWith object address ⟨cap.object, cap.rights.inter rights⟩)).setRoot frame
        (some { cap with mapping := some (object, address) }) := by
  obtain ⟨cap, hcap, h⟩ := except_bind_eq_ok.mp h
  obtain ⟨⟨object, vs⟩, hvspace, h⟩ := except_bind_eq_ok.mp h
  dsimp only at h
  by_cases hmapping : cap.mapping = none ∨ cap.mapping = some (object, address)
  · rw [if_pos hmapping] at h
    obtain ⟨cap', object', vs', hcap', hvspace', -, -, rfl⟩ := effect_frameMap h
    obtain rfl := Option.some.inj ((rootCap_eq_ok.mp hcap).symm.trans hcap')
    obtain ⟨rfl, rfl⟩ := Prod.mk.inj (Except.ok.inj (hvspace.symm.trans hvspace'))
    obtain ⟨-, -, -, hobject⟩ := vspaceAt_eq_ok.mp hvspace
    exact ⟨cap, object, vs, hcap', hvspace, hmapping, by rw [setObject_pagesWith hobject]⟩
  · rw [if_neg hmapping] at h
    cases h

theorem unmapFrame_cases (h : k.unmapFrame p frame = .ok k') :
    ∃ cap, k.root frame = some cap ∧ cap.blueprint = .granule ∧
      k' = (k.withPages (pagesWithout cap)).setRoot frame (some { cap with mapping := none }) := by
  obtain ⟨cap, hcap, h⟩ := except_bind_eq_ok.mp h
  by_cases hgranule : cap.blueprint = .granule
  · rw [if_pos hgranule] at h
    exact ⟨cap, rootCap_eq_ok.mp hcap, hgranule, by rw [← unmap_granule hgranule]; exact (Except.ok.inj h).symm⟩
  · rw [if_neg hgranule] at h
    cases h

end ObjectStore

namespace Live

variable {k k' : Live} {object slot : Nat} {event : ThreadEvent} {tcb : TcbObject} {e : Execution}

theorem execution_of_tcb (htcb : k.store.objects object = .tcb tcb) :
    k.execution object = some ⟨k.threads object, tcb.file⟩ := by
  rw [execution, htcb]

theorem execution_eq_some : k.execution object = some e ↔
    ∃ tcb, k.store.objects object = .tcb tcb ∧ e = ⟨k.threads object, tcb.file⟩ := by
  constructor
  · intro h
    unfold execution at h
    cases htcb : k.store.objects object with
    | tcb tcb =>
        rw [htcb] at h
        exact ⟨tcb, rfl, (Option.some.inj h).symm⟩
    | _ =>
        rw [htcb] at h
        cases h
  · rintro ⟨tcb, htcb, rfl⟩
    exact execution_of_tcb htcb

/-- The store after an event at a thread. -/
structure Advanced (object : Nat) (tcb : TcbObject) (e : Execution) (k k' : Live) : Prop where
  store : k'.store = k.store.setObject object (.tcb { tcb with registers := some e.registers.context })
  threads : k'.threads = Function.update k.threads object e.state

theorem advanceAt_eq_ok : k.advanceAt slot event = .ok k' ↔
    ∃ cap tcb e, k.store.root slot = some cap ∧ k.store.objects cap.object = .tcb tcb ∧
      Execution.step ⟨k.threads cap.object, tcb.file⟩ event = some e ∧ Advanced cap.object tcb e k k' := by
  unfold advanceAt
  rw [except_bind_eq_ok]
  constructor
  · rintro ⟨⟨object, tcb⟩, hat, h⟩
    obtain ⟨cap, hcap, rfl, htcb⟩ := ObjectStore.tcbAt_eq_ok.mp hat
    dsimp only at h
    unfold advance at h
    rw [htcb] at h
    dsimp only at h
    cases hstep : Execution.step ⟨k.threads cap.object, tcb.file⟩ event with
    | none =>
        rw [hstep] at h
        cases h
    | some e =>
        rw [hstep] at h
        obtain rfl := Except.ok.inj h
        exact ⟨cap, tcb, e, hcap, htcb, hstep, rfl, rfl⟩
  · rintro ⟨cap, tcb, e, hcap, htcb, hstep, hadvanced⟩
    refine ⟨(cap.object, tcb), ObjectStore.tcbAt_eq_ok.mpr ⟨cap, hcap, rfl, htcb⟩, ?_⟩
    obtain ⟨store, threads⟩ := k'
    obtain rfl : store = _ := hadvanced.store
    obtain rfl : threads = _ := hadvanced.threads
    simp only [advance, htcb, hstep, Option.map_some]

/-- The thread is then where the event took it. -/
theorem Advanced.execution (hadvanced : Advanced object tcb e k k') : k'.execution object = some e := by
  have htcb : k'.store.objects object = .tcb { tcb with registers := some e.registers.context } := by
    rw [hadvanced.store]
    exact Function.update_self _ _ _
  rw [execution_of_tcb htcb, hadvanced.threads, Function.update_self]
  simp [TcbObject.file]

/-- Every other object is as it was, and so is every other thread. -/
theorem Advanced.other (hadvanced : Advanced object tcb e k k') {id : Nat} (hid : id ≠ object) :
    k'.store.objects id = k.store.objects id ∧ k'.threads id = k.threads id := by
  rw [hadvanced.store, hadvanced.threads]
  exact ⟨Function.update_of_ne hid _ _, Function.update_of_ne hid _ _⟩

end Live

end Sel4
end Ricoq
