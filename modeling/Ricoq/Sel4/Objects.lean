import Mathlib.Logic.Function.Basic
import Ricoq.Lib.Word
import Ricoq.Lib.Outcome
import Ricoq.Lib.Prog

/-!
# `Sel4.Objects` — kernel objects, capabilities and invocations

The kernel as the construction of tasks sees it: the capabilities in the initial thread's CNode by slot, and
the objects they refer to by number. Every system call is an `Invocation`; `effect` is what it does when the
kernel goes along with it. Whether the kernel does is up to the environment: a `Machine` answers each
invocation, given everything that was invoked before, with nothing or with a `Refusal`. Any pattern of
successes and failures is some machine.

* A retype creates an object with a number no object has had before, in its initial state.
* A refused invocation changes nothing, except that a refused delete may have emptied its slot all the same.
* Deleting the capability of a mapped frame or table removes that mapping. What else happens to an object
  whose last capability goes away is not modelled: nothing here looks at it any more.
* The kernel also refuses to put a capability into an occupied slot. The code never gets that far, and the
  model does without the check.
-/

namespace Ricoq
namespace Sel4

/-! ## Capabilities and objects -/

structure CapRights where
  read : Bool
  write : Bool
  grant : Bool
  grantReply : Bool
deriving DecidableEq, Repr

namespace CapRights

def all : CapRights := ⟨true, true, true, true⟩
def readOnly : CapRights := ⟨true, false, false, false⟩
def writeOnly : CapRights := ⟨false, true, false, false⟩
def readWrite : CapRights := ⟨true, true, false, false⟩

/-- The rights both allow. -/
def inter (a b : CapRights) : CapRights :=
  ⟨a.read && b.read, a.write && b.write, a.grant && b.grant, a.grantReply && b.grantReply⟩

@[simp] theorem inter_inter_self (a b : CapRights) : (a.inter b).inter b = a.inter b := by
  simp [inter]

end CapRights

inductive ObjectBlueprint where
  | endpoint
  | notification
  | tcb
  | cnode (sizeBits : Nat)
  | vspace
  | granule
  | table (level : Nat)
deriving DecidableEq, Repr

inductive Sel4Error where
  | invalidArgument
  | invalidCapability
  | illegalOperation
  | rangeError
  | alignmentError
  | failedLookup
  | truncatedMessage
  | deleteFirst
  | revokeFirst
  | notEnoughMemory
deriving DecidableEq, Repr

/-- A capability; `mapping` is the VSpace object and the address at which a frame or table is mapped through
    this very capability. -/
structure Cap where
  object : Nat
  blueprint : ObjectBlueprint
  rights : CapRights
  badge : Word
  mapping : Option (Nat × Nat)
deriving DecidableEq, Repr

/-- A copy with reduced rights; it is not mapped, whatever the original is. -/
def Cap.derive (cap : Cap) (rights : CapRights) : Cap :=
  { cap with rights := cap.rights.inter rights, mapping := none }

/-- A copy with reduced rights and, if it has none yet, a badge. -/
def Cap.mint (cap : Cap) (rights : CapRights) (badge : Word) : Cap :=
  { cap.derive rights with badge := if cap.badge = 0 then badge else cap.badge }

/-- A page of an address space: the frame object and the rights it is mapped with. -/
structure Page where
  frame : Nat
  rights : CapRights
deriving DecidableEq, Repr

structure CNodeObject where
  sizeBits : Nat
  slots : Nat → Option Cap

/-- `tables` lists the translation tables in place, each by its level and the region it covers. -/
structure VSpaceObject where
  assigned : Bool
  tables : List (Nat × Nat)
  pages : Nat → Option Page

structure ThreadContext where
  faultEndpoint : Nat
  cspace : Nat
  guard : Nat
  guardBits : Nat
  vspace : Nat
  ipcBuffer : Nat
  ipcFrame : Nat
deriving DecidableEq, Repr

structure UserContext where
  pc : Nat
  sp : Nat
  arguments : List Nat
deriving DecidableEq, Repr

structure TcbObject where
  context : Option ThreadContext
  registers : Option UserContext
deriving DecidableEq, Repr

/-- An object with the state that is looked at here; `plain` stands for all others. -/
inductive Object where
  | cnode (cnode : CNodeObject)
  | vspace (vspace : VSpaceObject)
  | tcb (tcb : TcbObject)
  | plain

/-- The initial state of an object. -/
def ObjectBlueprint.fresh : ObjectBlueprint → Object
  | .cnode sizeBits => .cnode ⟨sizeBits, fun _ => none⟩
  | .vspace         => .vspace ⟨false, [], fun _ => none⟩
  | .tcb            => .tcb ⟨none, none⟩
  | _               => .plain

/-! ## Invocations -/

/-- The system calls of task construction. Capabilities are named by their slots in the root CNode. -/
inductive Invocation where
  | untypedRetype (untyped : Nat) (blueprint : ObjectBlueprint) (slot : Nat)
  | asidPoolAssign (vspace : Nat)
  | tableMap (table level vspace address : Nat)
  | mint (cnode index depth source : Nat) (rights : CapRights) (badge : Word)
  | copy (slot source : Nat) (rights : CapRights)
  | frameMap (frame vspace address : Nat) (rights : CapRights)
  | tcbConfigure (tcb faultEndpoint cspace guard guardBits vspace ipcBuffer ipcFrame : Nat)
  | tcbWriteAllRegisters (tcb : Nat) (registers : UserContext)
  | delete (slot : Nat)
deriving DecidableEq, Repr

/-- Why the kernel refused, and, for a delete, whether the slot is empty nevertheless. -/
structure Refusal where
  error : Sel4Error
  emptied : Bool
deriving DecidableEq, Repr

/-- The type of a translation table. -/
structure TableType where
  level : Nat
deriving DecidableEq, Repr

/-- The parts of the platform the code takes from the `sel4` crate, with the properties of the page size
    that it asserts at compile time. -/
structure Platform where
  pageBytes : Nat
  numLevels : Nat
  spanBits : Nat → Nat
  fromLevel : Nat → Option TableType
  physicalSizeBits : ObjectBlueprint → Nat
  pageBytes_pow : ∃ k, pageBytes = 2 ^ k
  pageBytes_mul : 16 ∣ pageBytes

/-- The region of its level's span in which an address lies. -/
def Platform.region (p : Platform) (level address : Nat) : Nat := address / 2 ^ p.spanBits level

/-- A platform and the answers of its kernel, which may depend on everything invoked before (the newest
    first). -/
structure Machine extends Platform where
  refuses : List Invocation → Invocation → Option Refusal

/-- The kernel state: the root CNode, the objects by number, the next number, and the invocations made so
    far. -/
structure ObjectStore where
  nextObject : Nat
  root : Nat → Option Cap
  objects : Nat → Object
  log : List Invocation

namespace ObjectStore

variable (p : Platform) (k : ObjectStore)

def setRoot (slot : Nat) (cap : Option Cap) : ObjectStore :=
  { k with root := Function.update k.root slot cap }

def setObject (object : Nat) (value : Object) : ObjectStore :=
  { k with objects := Function.update k.objects object value }

/-- A new object, and its capability in `slot`. -/
def create (blueprint : ObjectBlueprint) (slot : Nat) : ObjectStore :=
  { k.setRoot slot (some ⟨k.nextObject, blueprint, .all, 0, none⟩) with
    objects := Function.update k.objects k.nextObject blueprint.fresh
    nextObject := k.nextObject + 1 }

/-- The capability in a root slot. -/
def rootCap (slot : Nat) : Except Sel4Error Cap :=
  match k.root slot with
  | some cap => .ok cap
  | none     => .error .failedLookup

/-- The object behind a root slot, if it is a CNode. -/
def cnodeAt (slot : Nat) : Except Sel4Error (Nat × CNodeObject) := do
  let cap ← k.rootCap slot
  match k.objects cap.object with
  | .cnode cnode => .ok (cap.object, cnode)
  | _            => .error .invalidCapability

def vspaceAt (slot : Nat) : Except Sel4Error (Nat × VSpaceObject) := do
  let cap ← k.rootCap slot
  match k.objects cap.object with
  | .vspace vspace => .ok (cap.object, vspace)
  | _              => .error .invalidCapability

def tcbAt (slot : Nat) : Except Sel4Error (Nat × TcbObject) := do
  let cap ← k.rootCap slot
  match k.objects cap.object with
  | .tcb tcb => .ok (cap.object, tcb)
  | _        => .error .invalidCapability

/-- Whether every level above `level` has a table for the address. -/
def hasTables (vspace : VSpaceObject) (level address : Nat) : Prop :=
  ∀ l, 1 ≤ l → l < level → (l, p.region l address) ∈ vspace.tables

instance (vspace : VSpaceObject) (level address : Nat) : Decidable (hasTables p vspace level address) :=
  decidable_of_iff (∀ l, l < level → 1 ≤ l → (l, p.region l address) ∈ vspace.tables)
    ⟨fun h l h1 hl => h l hl h1, fun h l hl h1 => h l h1 hl⟩

/-- A CNode capability with a guard resolves an index at exactly the depth of guard and radix, if the guard
    matches. -/
def resolve (guard guardBits radix index depth : Nat) : Except Sel4Error Nat :=
  if depth = guardBits + radix ∧ index / 2 ^ radix % 2 ^ guardBits = guard then
    .ok (index % 2 ^ radix)
  else
    .error .failedLookup

/-- The CNode and the slot in it that the root task reaches through the capability in a root slot. The
    capability of a retyped CNode has no guard. -/
def lookupTargetSlot (root index depth : Nat) : Except Sel4Error (Nat × Nat) := do
  let (object, cnode) ← k.cnodeAt root
  let slot ← resolve 0 0 cnode.sizeBits index depth
  return (object, slot)

/-- The CNode and the slot in it that a thread reaches with a full-word CPtr, through its CSpace root. -/
def lookupSlot (tcb cptr : Nat) : Except Sel4Error (Nat × Nat) := do
  let (_, thread) ← k.tcbAt tcb
  match thread.context with
  | none => .error .failedLookup
  | some context =>
    match k.objects context.cspace with
    | .cnode cnode => do
        let slot ← resolve context.guard context.guardBits cnode.sizeBits cptr wordBits
        return (context.cspace, slot)
    | _ => .error .invalidCapability

/-- The mapping a capability stands for is removed. -/
def unmap (cap : Cap) : ObjectStore :=
  match cap.mapping with
  | none => k
  | some (object, address) =>
    match k.objects object with
    | .vspace vspace =>
      match cap.blueprint with
      | .granule =>
        if (vspace.pages address).map (·.frame) = some cap.object then
          k.setObject object (.vspace { vspace with pages := Function.update vspace.pages address none })
        else k
      | .table level =>
        k.setObject object (.vspace { vspace with
          tables := vspace.tables.erase (level, p.region level address) })
      | _ => k
    | _ => k

/-- A root slot emptied. -/
def empty (slot : Nat) : ObjectStore :=
  match k.root slot with
  | none => k
  | some cap => (k.unmap p cap).setRoot slot none

/-- What an invocation does when the kernel goes along with it. -/
def effect : Invocation → Except Sel4Error ObjectStore
  | .untypedRetype _ blueprint slot => .ok (k.create blueprint slot)
  | .asidPoolAssign slot => do
      let (object, vspace) ← k.vspaceAt slot
      return k.setObject object (.vspace { vspace with assigned := true })
  | .tableMap table level slot address => do
      let cap ← k.rootCap table
      let (object, vspace) ← k.vspaceAt slot
      if ¬ hasTables p vspace level address then
        .error .failedLookup
      else if (level, p.region level address) ∈ vspace.tables then
        .error .deleteFirst
      else
        return (k.setObject object (.vspace { vspace with
            tables := (level, p.region level address) :: vspace.tables })).setRoot table
          (some { cap with mapping := some (object, address) })
  | .mint slot index depth source rights badge => do
      let cap ← k.rootCap source
      let (object, cnode) ← k.cnodeAt slot
      -- the capability of a retyped CNode has no guard
      let destination ← resolve 0 0 cnode.sizeBits index depth
      return k.setObject object (.cnode { cnode with
        slots := Function.update cnode.slots destination (some (cap.mint rights badge)) })
  | .copy slot source rights => do
      let cap ← k.rootCap source
      return k.setRoot slot (some (cap.derive rights))
  | .frameMap frame slot address rights => do
      let cap ← k.rootCap frame
      let (object, vspace) ← k.vspaceAt slot
      if cap.blueprint ≠ .granule then
        .error .invalidCapability
      else if ¬ hasTables p vspace p.numLevels address then
        .error .failedLookup
      else
        return (k.setObject object (.vspace { vspace with
            pages := Function.update vspace.pages address
              (some ⟨cap.object, cap.rights.inter rights⟩) })).setRoot frame
          (some { cap with mapping := some (object, address) })
  | .tcbConfigure slot faultEndpoint cspace guard guardBits vspace ipcBuffer ipcFrame => do
      let (object, tcb) ← k.tcbAt slot
      let (cspaceObject, _) ← k.cnodeAt cspace
      let (vspaceObject, _) ← k.vspaceAt vspace
      let frame ← k.rootCap ipcFrame
      return k.setObject object (.tcb { tcb with
        context := some ⟨faultEndpoint, cspaceObject, guard, guardBits, vspaceObject, ipcBuffer,
          frame.object⟩ })
  | .tcbWriteAllRegisters slot registers => do
      let (object, tcb) ← k.tcbAt slot
      return k.setObject object (.tcb { tcb with registers := some registers })
  | .delete slot => .ok (k.empty p slot)

/-- What is left of a refused invocation. -/
def refused (refusal : Refusal) : Invocation → ObjectStore
  | .delete slot => if refusal.emptied then k.empty p slot else k
  | _            => k

end ObjectStore

/-- Make a system call. -/
def invoke (m : Machine) (i : Invocation) : Prog Sel4Error ObjectStore Unit := fun k =>
  match m.refuses k.log i with
  | some refusal => (.err refusal.error, { k.refused m.toPlatform refusal i with log := i :: k.log })
  | none =>
    match k.effect m.toPlatform i with
    | .ok k'   => (.ok (), { k' with log := i :: k.log })
    | .error e => (.err e, { k with log := i :: k.log })

/-! ## What an invocation can do -/

variable {m : Machine} {i : Invocation} {k k' : ObjectStore}

/-- An invocation that returned had its effect, and is on record. -/
theorem invoke_ok (h : invoke m i k = (.ok (), k')) :
    ∃ k₁, k.effect m.toPlatform i = .ok k₁ ∧ k' = { k₁ with log := i :: k.log } := by
  unfold invoke at h
  cases hr : m.refuses k.log i with
  | some refusal =>
      rw [hr] at h
      exact nomatch congrArg Prod.fst h
  | none =>
      rw [hr] at h
      cases he : k.effect m.toPlatform i with
      | ok k₁ =>
          rw [he] at h
          exact ⟨k₁, rfl, (congrArg Prod.snd h).symm⟩
      | error e =>
          rw [he] at h
          exact nomatch congrArg Prod.fst h

/-- An invocation that is not refused and can have its effect returns. -/
theorem invoke_of_effect {k₁ : ObjectStore} (hr : m.refuses k.log i = none)
    (he : k.effect m.toPlatform i = .ok k₁) : invoke m i k = (.ok (), { k₁ with log := i :: k.log }) := by
  simp only [invoke, hr, he]

/-- An invocation other than a delete that failed left only its record. -/
theorem invoke_err {e : Sel4Error} (hi : ∀ slot, i ≠ .delete slot) (h : invoke m i k = (.err e, k')) :
    k' = { k with log := i :: k.log } := by
  unfold invoke at h
  cases hr : m.refuses k.log i with
  | some refusal =>
      rw [hr] at h
      have hkeep : k.refused m.toPlatform refusal i = k := by
        cases i with
        | delete slot => exact absurd rfl (hi slot)
        | _ => rfl
      refine (congrArg Prod.snd h).symm.trans ?_
      show ({ k.refused m.toPlatform refusal i with log := i :: k.log } : ObjectStore) = _
      rw [hkeep]
  | none =>
      rw [hr] at h
      cases he : k.effect m.toPlatform i with
      | ok k₁ =>
          rw [he] at h
          exact nomatch congrArg Prod.fst h
      | error e =>
          rw [he] at h
          exact (congrArg Prod.snd h).symm

/-- No invocation aborts. -/
theorem invoke_ne_panic : (invoke m i k).1 ≠ .panic := by
  unfold invoke
  cases m.refuses k.log i with
  | some refusal => nofun
  | none =>
      cases k.effect m.toPlatform i with
      | ok k₁ => nofun
      | error e => nofun

/-! ## What a successful invocation found, and what it left -/

namespace ObjectStore

variable {p : Platform} {k k' : ObjectStore} {slot object : Nat}

theorem rootCap_eq_ok {cap : Cap} : k.rootCap slot = .ok cap ↔ k.root slot = some cap := by
  unfold rootCap
  cases k.root slot with
  | none => simp
  | some c => simp

/-- What the capability in a root slot leads to, if it is an object of the kind looked for. -/
theorem at_eq_ok {α : Type} {kind : α → Object} {a : α} {f : Cap → Except Sel4Error (Nat × α)}
    (hf : ∀ cap, f cap = .ok (object, a) ↔ cap.object = object ∧ k.objects cap.object = kind a) :
    (k.rootCap slot >>= f) = .ok (object, a) ↔
      ∃ cap, k.root slot = some cap ∧ cap.object = object ∧ k.objects object = kind a := by
  rw [except_bind_eq_ok]
  constructor
  · rintro ⟨cap, hcap, h⟩
    obtain ⟨rfl, ho⟩ := (hf cap).mp h
    exact ⟨cap, rootCap_eq_ok.mp hcap, rfl, ho⟩
  · rintro ⟨cap, hcap, rfl, ho⟩
    exact ⟨cap, rootCap_eq_ok.mpr hcap, (hf cap).mpr ⟨rfl, ho⟩⟩

theorem cnodeAt_eq_ok {cnode : CNodeObject} :
    k.cnodeAt slot = .ok (object, cnode) ↔
      ∃ cap, k.root slot = some cap ∧ cap.object = object ∧ k.objects object = .cnode cnode := by
  apply at_eq_ok
  intro cap
  cases k.objects cap.object <;> simp

theorem vspaceAt_eq_ok {vspace : VSpaceObject} :
    k.vspaceAt slot = .ok (object, vspace) ↔
      ∃ cap, k.root slot = some cap ∧ cap.object = object ∧ k.objects object = .vspace vspace := by
  apply at_eq_ok
  intro cap
  cases k.objects cap.object <;> simp

theorem tcbAt_eq_ok {tcb : TcbObject} :
    k.tcbAt slot = .ok (object, tcb) ↔
      ∃ cap, k.root slot = some cap ∧ cap.object = object ∧ k.objects object = .tcb tcb := by
  apply at_eq_ok
  intro cap
  cases k.objects cap.object <;> simp

/-- Without a guard, an index below the number of slots is resolved to itself, at the depth of the radix. -/
theorem resolve_unguarded {bits index : Nat} (hindex : index < 2 ^ bits) :
    resolve 0 0 bits index bits = .ok index := by
  have hzero : index / 2 ^ bits % 2 ^ 0 = 0 := Nat.mod_one _
  rw [resolve, if_pos ⟨(Nat.zero_add bits).symm, hzero⟩, Nat.mod_eq_of_lt hindex]

/-- With a zero guard for the rest of the word, so is a full word below the number of slots. -/
theorem resolve_guarded {bits cptr : Nat} (hbits : bits ≤ wordBits) (hcptr : cptr < 2 ^ bits) :
    resolve 0 (wordBits - bits) bits cptr wordBits = .ok cptr := by
  have hzero : cptr / 2 ^ bits % 2 ^ (wordBits - bits) = 0 := by
    rw [Nat.div_eq_of_lt hcptr, Nat.zero_mod]
  rw [resolve, if_pos ⟨(Nat.sub_add_cancel hbits).symm, hzero⟩, Nat.mod_eq_of_lt hcptr]

/-- A full word beyond them has a bit in the guard that is not zero. -/
theorem resolve_beyond {bits cptr : Nat} (hbits : bits ≤ wordBits) (hlo : 2 ^ bits ≤ cptr)
    (hhi : cptr < 2 ^ wordBits) : resolve 0 (wordBits - bits) bits cptr wordBits = .error .failedLookup := by
  have hpos : 0 < cptr / 2 ^ bits := Nat.div_pos hlo (Nat.two_pow_pos bits)
  have hlt : cptr / 2 ^ bits < 2 ^ (wordBits - bits) := by
    apply Nat.div_lt_of_lt_mul
    calc cptr < 2 ^ wordBits := hhi
      _ = 2 ^ bits * 2 ^ (wordBits - bits) := by rw [← Nat.pow_add, Nat.add_sub_cancel' hbits]
  refine if_neg ?_
  rintro ⟨-, hguard⟩
  rw [Nat.mod_eq_of_lt hlt] at hguard
  omega

theorem effect_asidPoolAssign (h : k.effect p (.asidPoolAssign slot) = .ok k') :
    ∃ object vspace, k.vspaceAt slot = .ok (object, vspace) ∧
      k' = k.setObject object (.vspace { vspace with assigned := true }) := by
  obtain ⟨⟨object, vspace⟩, hv, h⟩ := except_bind_eq_ok.mp h
  exact ⟨object, vspace, hv, (Except.ok.inj h).symm⟩

theorem effect_tableMap {table level address : Nat}
    (h : k.effect p (.tableMap table level slot address) = .ok k') :
    ∃ cap object vspace, k.root table = some cap ∧ k.vspaceAt slot = .ok (object, vspace) ∧
      hasTables p vspace level address ∧ (level, p.region level address) ∉ vspace.tables ∧
      k' = (k.setObject object (.vspace { vspace with
          tables := (level, p.region level address) :: vspace.tables })).setRoot table
        (some { cap with mapping := some (object, address) }) := by
  obtain ⟨cap, hcap, h⟩ := except_bind_eq_ok.mp h
  obtain ⟨⟨object, vspace⟩, hv, h⟩ := except_bind_eq_ok.mp h
  dsimp only at h
  by_cases htables : hasTables p vspace level address
  · rw [if_neg (not_not_intro htables)] at h
    by_cases hpresent : (level, p.region level address) ∈ vspace.tables
    · rw [if_pos hpresent] at h
      exact nomatch h
    · rw [if_neg hpresent] at h
      exact ⟨cap, object, vspace, rootCap_eq_ok.mp hcap, hv, htables, hpresent, (Except.ok.inj h).symm⟩
  · rw [if_pos htables] at h
    exact nomatch h

theorem effect_tableMap_of {table level address : Nat} {cap : Cap} {vspace : VSpaceObject}
    (hcap : k.root table = some cap) (hv : k.vspaceAt slot = .ok (object, vspace))
    (htables : hasTables p vspace level address) (hnew : (level, p.region level address) ∉ vspace.tables) :
    k.effect p (.tableMap table level slot address) = .ok ((k.setObject object (.vspace { vspace with
        tables := (level, p.region level address) :: vspace.tables })).setRoot table
      (some { cap with mapping := some (object, address) })) := by
  refine except_bind_eq_ok.mpr ⟨cap, rootCap_eq_ok.mpr hcap, except_bind_eq_ok.mpr ⟨(object, vspace), hv, ?_⟩⟩
  dsimp only
  rw [if_neg (not_not_intro htables), if_neg hnew]
  rfl

theorem effect_mint {index depth source : Nat} {rights : CapRights} {badge : Word}
    (h : k.effect p (.mint slot index depth source rights badge) = .ok k') :
    ∃ cap object cnode destination, k.root source = some cap ∧ k.cnodeAt slot = .ok (object, cnode) ∧
      resolve 0 0 cnode.sizeBits index depth = .ok destination ∧
      k' = k.setObject object (.cnode { cnode with
        slots := Function.update cnode.slots destination (some (cap.mint rights badge)) }) := by
  obtain ⟨cap, hcap, h⟩ := except_bind_eq_ok.mp h
  obtain ⟨⟨object, cnode⟩, hc, h⟩ := except_bind_eq_ok.mp h
  obtain ⟨destination, hd, h⟩ := except_bind_eq_ok.mp h
  exact ⟨cap, object, cnode, destination, rootCap_eq_ok.mp hcap, hc, hd, (Except.ok.inj h).symm⟩

theorem effect_copy {source : Nat} {rights : CapRights} (h : k.effect p (.copy slot source rights) = .ok k') :
    ∃ cap, k.root source = some cap ∧ k' = k.setRoot slot (some (cap.derive rights)) := by
  obtain ⟨cap, hcap, h⟩ := except_bind_eq_ok.mp h
  exact ⟨cap, rootCap_eq_ok.mp hcap, (Except.ok.inj h).symm⟩

theorem effect_frameMap {frame address : Nat} {rights : CapRights}
    (h : k.effect p (.frameMap frame slot address rights) = .ok k') :
    ∃ cap object vspace, k.root frame = some cap ∧ k.vspaceAt slot = .ok (object, vspace) ∧
      cap.blueprint = .granule ∧ hasTables p vspace p.numLevels address ∧
      k' = (k.setObject object (.vspace { vspace with
          pages := Function.update vspace.pages address
            (some ⟨cap.object, cap.rights.inter rights⟩) })).setRoot frame
        (some { cap with mapping := some (object, address) }) := by
  obtain ⟨cap, hcap, h⟩ := except_bind_eq_ok.mp h
  obtain ⟨⟨object, vspace⟩, hv, h⟩ := except_bind_eq_ok.mp h
  dsimp only at h
  by_cases hgranule : cap.blueprint = .granule
  · rw [if_neg (not_not_intro hgranule)] at h
    by_cases htables : hasTables p vspace p.numLevels address
    · rw [if_neg (not_not_intro htables)] at h
      exact ⟨cap, object, vspace, rootCap_eq_ok.mp hcap, hv, hgranule, htables, (Except.ok.inj h).symm⟩
    · rw [if_pos htables] at h
      exact nomatch h
  · rw [if_pos hgranule] at h
    exact nomatch h

theorem effect_frameMap_of {frame address : Nat} {rights : CapRights} {cap : Cap} {vspace : VSpaceObject}
    (hcap : k.root frame = some cap) (hv : k.vspaceAt slot = .ok (object, vspace))
    (hgranule : cap.blueprint = .granule) (htables : hasTables p vspace p.numLevels address) :
    k.effect p (.frameMap frame slot address rights) = .ok ((k.setObject object (.vspace { vspace with
        pages := Function.update vspace.pages address (some ⟨cap.object, cap.rights.inter rights⟩) })).setRoot
      frame (some { cap with mapping := some (object, address) })) := by
  refine except_bind_eq_ok.mpr ⟨cap, rootCap_eq_ok.mpr hcap, except_bind_eq_ok.mpr ⟨(object, vspace), hv, ?_⟩⟩
  dsimp only
  rw [if_neg (not_not_intro hgranule), if_neg (not_not_intro htables)]
  rfl

theorem effect_tcbConfigure {faultEndpoint cspace guard guardBits vspace ipcBuffer ipcFrame : Nat}
    (h : k.effect p (.tcbConfigure slot faultEndpoint cspace guard guardBits vspace ipcBuffer ipcFrame) =
      .ok k') :
    ∃ object tcb cspaceObject cnode vspaceObject vs frame, k.tcbAt slot = .ok (object, tcb) ∧
      k.cnodeAt cspace = .ok (cspaceObject, cnode) ∧ k.vspaceAt vspace = .ok (vspaceObject, vs) ∧
      k.root ipcFrame = some frame ∧
      k' = k.setObject object (.tcb { tcb with
        context := some ⟨faultEndpoint, cspaceObject, guard, guardBits, vspaceObject, ipcBuffer,
          frame.object⟩ }) := by
  obtain ⟨⟨object, tcb⟩, ht, h⟩ := except_bind_eq_ok.mp h
  obtain ⟨⟨cspaceObject, cnode⟩, hc, h⟩ := except_bind_eq_ok.mp h
  obtain ⟨⟨vspaceObject, vs⟩, hv, h⟩ := except_bind_eq_ok.mp h
  obtain ⟨frame, hf, h⟩ := except_bind_eq_ok.mp h
  exact ⟨object, tcb, cspaceObject, cnode, vspaceObject, vs, frame, ht, hc, hv, rootCap_eq_ok.mp hf,
    (Except.ok.inj h).symm⟩

theorem effect_tcbWriteAllRegisters {registers : UserContext}
    (h : k.effect p (.tcbWriteAllRegisters slot registers) = .ok k') :
    ∃ object tcb, k.tcbAt slot = .ok (object, tcb) ∧
      k' = k.setObject object (.tcb { tcb with registers := some registers }) := by
  obtain ⟨⟨object, tcb⟩, ht, h⟩ := except_bind_eq_ok.mp h
  exact ⟨object, tcb, ht, (Except.ok.inj h).symm⟩

end ObjectStore
end Sel4
end Ricoq
