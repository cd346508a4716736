import Ricoq.Boot.Correctness.Atomic
import Ricoq.Boot.Correctness.Layout

/-!
# `Boot.Correctness.Domain` — a task as a protection domain

The objects of a task are its parts: CNode, VSpace, translation tables, the three frames and the TCB.
`Configured` says that they are set up as the configuration asks. `Stands` is what is kept of a task while
other tasks come and go: its parts are distinct and within the numbers of its own call, and it is configured.
A construction establishes it (`TaskMade.stands`), and whatever leaves old objects and capabilities alone
keeps it (`Stands.mono`).
-/

namespace Ricoq

open Sel4 Bootstrap

/-! ## Parts -/

/-- The objects of a task, tables by their root slots. -/
inductive Part where
  | cnode
  | vspace
  | table (slot : Nat)
  | privateMemory
  | stack
  | ipcBuffer
  | tcb
deriving DecidableEq

/-- The kind of object a part is. -/
def Part.Fits : Part → ObjectBlueprint → Prop
  | .cnode, .cnode _ => True
  | .vspace, .vspace => True
  | .table _, .table _ => True
  | .privateMemory, .granule => True
  | .stack, .granule => True
  | .ipcBuffer, .granule => True
  | .tcb, .tcb => True
  | _, _ => False

namespace Task

/-- The root slot of a part. -/
def slot (task : Task) : Part → Nat
  | .cnode         => task.cspace.root
  | .vspace        => task.vspace.root
  | .table i       => i
  | .privateMemory => task.privateMemory.cap
  | .stack         => task.stack.cap
  | .ipcBuffer     => task.ipcBuffer.cap
  | .tcb           => task.thread.tcb

/-- The object of a part: what the capability in its slot, one of the task's own, refers to. -/
def HasPart (task : Task) (k : ObjectStore) (part : Part) (object : Nat) : Prop :=
  task.rootSlots.1 ≤ task.slot part ∧ task.slot part < task.rootSlots.2 ∧
  ∃ cap, k.root (task.slot part) = some cap ∧ cap.object = object ∧ part.Fits cap.blueprint

/-- A page is mapped in the task's VSpace. -/
def MapsPage (task : Task) (k : ObjectStore) (address : Nat) (page : Page) : Prop :=
  ∃ v vs, task.HasPart k .vspace v ∧ k.objects v = .vspace vs ∧ vs.pages address = some page

end Task

/-- The address space maps the four configured pages and no other. -/
structure MapsExactly (config : TaskConfig) (code : Cap) (privateMemory stack ipcBuffer : Nat)
    (pages : Nat → Option Page) : Prop where
  code : pages config.code.address = some ⟨code.object, code.rights.inter .readOnly⟩
  privateMemory : pages config.privateMemoryAddress = some ⟨privateMemory, .readWrite⟩
  stack : pages config.stackAddress = some ⟨stack, .readWrite⟩
  ipcBuffer : pages config.ipcBufferAddress = some ⟨ipcBuffer, .readWrite⟩
  nothing_else : ∀ a, a ∉ config.pageAddresses → pages a = none
  reserved : ∀ a ∈ config.reservedPages, pages a = none

/-- The table of pages the construction leaves is that, when the layout is valid. -/
theorem TaskConfig.mapsExactly {h : Host} {config : TaskConfig} {layout : TaskLayout}
    (hok : config.layout h = .ok layout) (code : Cap) (privateMemory stack ipcBuffer : Nat) :
    MapsExactly config code privateMemory stack ipcBuffer
      (config.pageTable ⟨code.object, code.rights.inter .readOnly⟩ privateMemory stack ipcBuffer) := by
  obtain ⟨hnodup, hreserved, -⟩ := config.layout_ok hok
  have hnone : ∀ a, a ∉ config.pageAddresses → config.pageTable ⟨code.object, code.rights.inter .readOnly⟩
      privateMemory stack ipcBuffer a = none := by
    intro a ha
    simp only [pageAddresses, List.mem_cons, List.not_mem_nil, or_false, not_or] at ha
    obtain ⟨hcode, hprivate, hstack, hipc⟩ := ha
    rw [pageTable, Function.update_of_ne hipc, Function.update_of_ne hstack, Function.update_of_ne hprivate,
      Function.update_of_ne hcode]
  simp only [pageAddresses, List.nodup_cons, List.mem_cons, List.not_mem_nil, or_false, not_or] at hnodup
  obtain ⟨⟨hcp, hcs, hci⟩, ⟨hps, hpi⟩, hsi, -⟩ := hnodup
  constructor
  case code =>
    rw [pageTable, Function.update_of_ne hci, Function.update_of_ne hcs, Function.update_of_ne hcp,
      Function.update_self]
  case privateMemory =>
    rw [pageTable, Function.update_of_ne hpi, Function.update_of_ne hps, Function.update_self]
  case stack => rw [pageTable, Function.update_of_ne hsi, Function.update_self]
  case ipcBuffer => rw [pageTable, Function.update_self]
  case nothing_else => exact hnone
  case reserved => exact fun a ha => hnone a (hreserved a ha)

/-- A task is set up as its configuration asks; `c`, `v`, `p`, `b`, `i` and `t` are its CNode, VSpace, private
    frame, stack frame, IPC buffer frame and TCB. -/
structure Configured (k : ObjectStore) (x : HeldTask) (c v p b i t : Nat) (code : Cap) : Prop where
  -- the parts
  cnode : x.task.HasPart k .cnode c
  vspace : x.task.HasPart k .vspace v
  privateMemory : x.task.HasPart k .privateMemory p
  stack : x.task.HasPart k .stack b
  ipcBuffer : x.task.HasPart k .ipcBuffer i
  tcb : x.task.HasPart k .tcb t
  -- the four pages, the code page from the configured frame
  codeFrame : k.root x.config.code.frame.cap = some code
  pages : ∃ vs, k.objects v = .vspace vs ∧ MapsExactly x.config code p b i vs.pages
  -- the delegations
  contents : ∃ slots, k.objects c = .cnode ⟨x.config.cspaceSizeBits, slots⟩ ∧
    CSpace.Delegated k.root x.config.delegations slots
  -- the thread
  bound : ∃ registers, k.objects t = .tcb ⟨some ⟨x.config.faultEndpoint, c, 0,
    wordBits - x.config.cspaceSizeBits, v, x.config.ipcBufferAddress, i⟩, some registers⟩

/-- What holds of a task from its construction on. -/
structure Stands (x : HeldTask) (s : BootState) : Prop where
  slots_le : x.task.rootSlots.2 ≤ s.slots.start
  objects_le : x.objects.2 ≤ s.kernel.nextObject
  numbered : ∀ part object, x.task.HasPart s.kernel part object →
    x.objects.1 ≤ object ∧ object < x.objects.2
  distinct : ∀ p q object, x.task.HasPart s.kernel p object → x.task.HasPart s.kernel q object → p = q
  configured : ∃ c v p b i t code, Configured s.kernel x c v p b i t code

/-! ## A task that was made stands -/

section Made

variable {h : Host} {T : Nat → Prop} {config : TaskConfig} {code : Cap} {width : Nat} {task : Task}
  {s s' : BootState}

/-- The numbers of the parts, given where slots and numbers began. -/
def Part.number (slot object width : Nat) : Part → Nat
  | .cnode         => object
  | .vspace        => object + 1
  | .table i       => object + (i - slot)
  | .privateMemory => object + width
  | .stack         => object + width + 1
  | .ipcBuffer     => object + width + 2
  | .tcb           => object + width + 3

/-- Parts with the same number are the same, if the tables lie between the VSpace and the frames. -/
theorem Part.number_injective {slot object width : Nat} {p q : Part}
    (heq : p.number slot object width = q.number slot object width) (htwo : 2 ≤ width)
    (hp : ∀ i, p = .table i → slot + 1 < i ∧ i < slot + width)
    (hq : ∀ i, q = .table i → slot + 1 < i ∧ i < slot + width) : p = q := by
  cases p with
  | table i =>
      have hi := hp i rfl
      cases q with
      | table j =>
          have hj := hq j rfl
          simp only [Part.number] at heq
          exact congrArg Part.table (by omega)
      | _ =>
          simp only [Part.number] at heq
          omega
  | _ =>
      cases q with
      | table j =>
          have hj := hq j rfl
          simp only [Part.number] at heq
          omega
      | _ =>
          simp only [Part.number] at heq
          first
            | rfl
            | omega

/-- Only the slots after the VSpace and before the code mapping hold tables. -/
theorem Built.table_slot (hb : Built config code width s task s') {i level : Nat} {cap : Cap}
    (hlo : s.slots.start ≤ i) (hhi : i < s'.slots.start) (hcap : s'.kernel.root i = some cap)
    (hlevel : cap.blueprint = .table level) : s.slots.start + 1 < i ∧ i < s.slots.start + width := by
  have hstart := hb.start
  have htwo := hb.two_le
  by_contra hnot
  have hi : i = s.slots.start ∨ i = s.slots.start + 1 ∨ i = s.slots.start + width ∨
      i = s.slots.start + width + 1 ∨ i = s.slots.start + width + 2 ∨ i = s.slots.start + width + 3 ∨
      i = s.slots.start + width + 4 ∨ i = s.slots.start + width + 5 ∨ i = s.slots.start + width + 6 ∨
      i = s.slots.start + width + 7 := by omega
  -- each of these holds something else
  rcases hi with rfl | rfl | rfl | rfl | rfl | rfl | rfl | rfl | rfl | rfl
  · exact nomatch (hb.cnode.blueprint_eq hcap).symm.trans hlevel
  · exact nomatch (hb.vspace.blueprint_eq hcap).symm.trans hlevel
  · obtain ⟨cap', hcap', hgranule⟩ := hb.codeMapping
    obtain rfl := Option.some.inj (hcap.symm.trans hcap')
    exact nomatch hgranule.symm.trans hlevel
  · exact nomatch (hb.privateFrame.blueprint_eq hcap).symm.trans hlevel
  · exact nomatch (hb.privateMapping.blueprint_eq hcap).symm.trans hlevel
  · exact nomatch (hb.stackFrame.blueprint_eq hcap).symm.trans hlevel
  · exact nomatch (hb.stackMapping.blueprint_eq hcap).symm.trans hlevel
  · exact nomatch (hb.ipcBufferFrame.blueprint_eq hcap).symm.trans hlevel
  · exact nomatch (hb.ipcBufferMapping.blueprint_eq hcap).symm.trans hlevel
  · exact nomatch (hb.tcb.blueprint_eq hcap).symm.trans hlevel

/-- The object of each part has the number of the part. -/
theorem Built.part_number (hb : Built config code width s task s') {part : Part} {object : Nat}
    (hp : task.HasPart s'.kernel part object) : object = part.number s.slots.start s.kernel.nextObject width ∧
      ∀ i, part = .table i → s.slots.start + 1 < i ∧ i < s.slots.start + width := by
  obtain ⟨hlo, hhi, cap, hcap, rfl, hfits⟩ := hp
  cases part with
  | cnode => exact ⟨(hb.cspaceRoot ▸ hb.cnode).object_eq hcap, by nofun⟩
  | vspace => exact ⟨(hb.vspaceRoot ▸ hb.vspace).object_eq hcap, by nofun⟩
  | table i =>
      rw [hb.rootSlots] at hlo hhi
      cases hkind : cap.blueprint with
      | table level =>
          have hi := hb.table_slot hlo hhi hcap hkind
          obtain ⟨level', hheld⟩ := hb.tables i hi.1 hi.2
          refine ⟨hheld.object_eq hcap, ?_⟩
          rintro j hj
          obtain rfl := Part.table.inj hj
          exact hi
      | _ =>
          rw [hkind] at hfits
          exact hfits.elim
  | privateMemory =>
      rw [Task.slot, hb.privateMemory] at hcap
      exact ⟨hb.privateFrame.object_eq hcap, by nofun⟩
  | stack =>
      rw [Task.slot, hb.stack] at hcap
      exact ⟨hb.stackFrame.object_eq hcap, by nofun⟩
  | ipcBuffer =>
      rw [Task.slot, hb.ipcBuffer] at hcap
      exact ⟨hb.ipcBufferFrame.object_eq hcap, by nofun⟩
  | tcb =>
      rw [Task.slot, hb.thread] at hcap
      exact ⟨hb.tcb.object_eq hcap, by nofun⟩

/-- A held object is the part whose slot holds it. -/
theorem Built.hasPart (hb : Built config code width s task s') {part : Part} {slot object : Nat}
    {blueprint : ObjectBlueprint} (hh : Holds slot object blueprint s') (hslot : task.slot part = slot)
    (hlo : s.slots.start ≤ slot) (hfits : part.Fits blueprint) : task.HasPart s'.kernel part object := by
  obtain ⟨cap, hcap, hobject, hkind⟩ := hh.cap
  refine ⟨?_, ?_, cap, hslot ▸ hcap, hobject, hkind ▸ hfits⟩
  · rw [hb.rootSlots, hslot]
    exact hlo
  · rw [hb.rootSlots, hslot]
    exact hh.slot_lt

/-- A task is configured when it has been made, provided its code frame was there before. -/
theorem Built.configured (hb : Built config code width s task s') {layout : TaskLayout}
    (hlayout : config.layout h = .ok layout) (hvacant : Vacant s) (hext : Extends T s s')
    (hcode : config.code.frame.cap < s.slots.start ∨ s'.slots.start ≤ config.code.frame.cap)
    (objects : Nat × Nat) :
    Configured s'.kernel ⟨task, config, objects⟩ s.kernel.nextObject (s.kernel.nextObject + 1)
      (s.kernel.nextObject + width) (s.kernel.nextObject + width + 1) (s.kernel.nextObject + width + 2)
      (s.kernel.nextObject + width + 3) code := by
  obtain ⟨vs, hvs, hpages⟩ := hb.pages
  constructor
  case cnode => exact hb.hasPart hb.cnode hb.cspaceRoot (Nat.le_refl _) trivial
  case vspace => exact hb.hasPart hb.vspace hb.vspaceRoot (by omega) trivial
  case privateMemory => exact hb.hasPart hb.privateFrame (congrArg Frame.cap hb.privateMemory) (by omega) trivial
  case stack => exact hb.hasPart hb.stackFrame (congrArg Frame.cap hb.stack) (by omega) trivial
  case ipcBuffer => exact hb.hasPart hb.ipcBufferFrame (congrArg Frame.cap hb.ipcBuffer) (by omega) trivial
  case tcb => exact hb.hasPart hb.tcb (congrArg Thread.tcb hb.thread) (by omega) trivial
  case codeFrame => exact hext.keeps hvacant (hb.source hcode)
  case pages => exact ⟨vs, hvs, hpages ▸ config.mapsExactly hlayout code _ _ _⟩
  case contents => exact hb.contents hvacant
  case bound => exact hb.bound

/-- **A task that was made stands.** -/
theorem TaskMade.stands (hm : TaskMade h config s task s') (hvacant : Vacant s) (hext : Extends T s s')
    (hcode : config.code.frame.cap < s.slots.start ∨ s'.slots.start ≤ config.code.frame.cap) :
    Stands ⟨task, config, (s.kernel.nextObject, s'.kernel.nextObject)⟩ s' := by
  obtain ⟨⟨layout, hlayout⟩, code, width, hb⟩ := hm
  have hnext := hb.nextObject
  have htwo := hb.two_le
  constructor
  case slots_le =>
    show task.rootSlots.2 ≤ s'.slots.start
    exact Nat.le_of_eq (congrArg Prod.snd hb.rootSlots)
  case objects_le => exact Nat.le_refl _
  case numbered =>
    intro part object hp
    obtain ⟨rfl, htable⟩ := hb.part_number hp
    show s.kernel.nextObject ≤ _ ∧ _ < s'.kernel.nextObject
    cases part with
    | table i =>
        have hi := htable i rfl
        simp only [Part.number]
        omega
    | _ =>
        simp only [Part.number]
        omega
  case distinct =>
    intro p q object hp hq
    obtain ⟨hpn, hpt⟩ := hb.part_number hp
    obtain ⟨hqn, hqt⟩ := hb.part_number hq
    exact Part.number_injective (hpn.symm.trans hqn) htwo hpt hqt
  case configured => exact ⟨_, _, _, _, _, _, code, hb.configured hlayout hvacant hext hcode _⟩

end Made

/-! ## Standing while other things happen -/

/-- Nothing that was there has changed: capabilities and objects are as before. -/
structure Preserves (s s' : BootState) : Prop where
  start_le : s.slots.start ≤ s'.slots.start
  nextObject_le : s.kernel.nextObject ≤ s'.kernel.nextObject
  below : ∀ i, i < s.slots.start → s'.kernel.root i = s.kernel.root i
  beyond : ∀ i, s.slots.stop ≤ i → s'.kernel.root i = s.kernel.root i
  keeps : ∀ i cap, s.kernel.root i = some cap → s'.kernel.root i = some cap
  objects : Unchanged (fun _ => False) s s'

namespace Preserves

variable {s m s' : BootState}

theorem of_extends (hext : Extends (fun _ => False) s s') (hvacant : Vacant s)
    (hle : s.slots.start ≤ s.slots.stop) : Preserves s s' where
  start_le := hext.start_le
  nextObject_le := hext.nextObject_le
  below i hi := hext.outside i (Or.inl hi)
  beyond i hi := by
    have hstop := hext.le_stop
    exact hext.outside i (Or.inr (by omega))
  keeps i cap hcap := hext.keeps hvacant hcap
  objects := hext.objects

/-- Taken back or not, a construction that failed has changed nothing that was there. -/
theorem of_rolledBack (hext : Extends (fun _ => False) s m) (hback : RolledBack s m s')
    (hkept : Unchanged (fun _ => False) s s') (hvacant : Vacant s) : Preserves s s' where
  start_le := Nat.le_of_eq (by rw [hback.slots])
  nextObject_le := by
    rw [hback.nextObject]
    exact hext.nextObject_le
  below i _ := by rw [hback.root_eq hext hvacant]
  beyond i _ := by rw [hback.root_eq hext hvacant]
  keeps i cap hcap := by
    rw [hback.root_eq hext hvacant]
    exact hcap
  objects := hkept

theorem of_cleared (hext : Extends (fun _ => False) s m)
    (hcleared : Cleared s.slots.start m.slots.start m s') (hkept : Unchanged (fun _ => False) s s')
    (hvacant : Vacant s) (hle : s.slots.start ≤ s.slots.stop) : Preserves s s' where
  start_le := by
    rw [hcleared.slots]
    exact hext.start_le
  nextObject_le := by
    rw [hcleared.nextObject]
    exact hext.nextObject_le
  below i hi := by rw [hcleared.outside i (Or.inl hi), hext.outside i (Or.inl hi)]
  beyond i hi := by
    have hstop := hext.le_stop
    have hi' : m.slots.start ≤ i := by omega
    rw [hcleared.outside i (Or.inr hi'), hext.outside i (Or.inr hi')]
  keeps i cap hcap := by
    have hstop := hext.le_stop
    by_cases hi : i < s.slots.start ∨ m.slots.start ≤ i
    · rw [hcleared.outside i hi, hext.outside i hi]
      exact hcap
    · exact absurd (hcap.symm.trans (hvacant i (by omega) (by omega))) nofun
  objects := hkept

end Preserves

variable {s s' : BootState} {x : HeldTask}

/-- The parts of a task are in slots that do not change. -/
theorem Task.hasPart_iff {task : Task} {part : Part} {object : Nat} (hp : Preserves s s')
    (hle : task.rootSlots.2 ≤ s.slots.start) :
    task.HasPart s'.kernel part object ↔ task.HasPart s.kernel part object := by
  unfold Task.HasPart
  constructor
  · rintro ⟨hlo, hhi, hcap⟩
    rw [hp.below _ (Nat.lt_of_lt_of_le hhi hle)] at hcap
    exact ⟨hlo, hhi, hcap⟩
  · rintro ⟨hlo, hhi, hcap⟩
    rw [← hp.below _ (Nat.lt_of_lt_of_le hhi hle)] at hcap
    exact ⟨hlo, hhi, hcap⟩

/-- **A task stands** through whatever leaves the old objects and capabilities alone. -/
theorem Stands.mono (hs : Stands x s) (hp : Preserves s s') : Stands x s' := by
  have hpart : ∀ part object, x.task.HasPart s'.kernel part object ↔ x.task.HasPart s.kernel part object :=
    fun _ _ => Task.hasPart_iff hp hs.slots_le
  have hobject : ∀ {part object}, x.task.HasPart s.kernel part object →
      s'.kernel.objects object = s.kernel.objects object := by
    intro part object hh
    exact hp.objects object (Nat.lt_of_lt_of_le (hs.numbered part object hh).2 hs.objects_le) not_false
  constructor
  case slots_le => exact Nat.le_trans hs.slots_le hp.start_le
  case objects_le => exact Nat.le_trans hs.objects_le hp.nextObject_le
  case numbered => exact fun part object hh => hs.numbered part object ((hpart part object).mp hh)
  case distinct =>
    intro p q object hh hh'
    exact hs.distinct p q object ((hpart p object).mp hh) ((hpart q object).mp hh')
  case configured =>
    obtain ⟨c, v, p, b, i, t, code, hc⟩ := hs.configured
    obtain ⟨vs, hvs, hpages⟩ := hc.pages
    obtain ⟨slots, hslots, hdelegated⟩ := hc.contents
    obtain ⟨registers, hbound⟩ := hc.bound
    exact ⟨c, v, p, b, i, t, code,
      { cnode := (hpart _ _).mpr hc.cnode
        vspace := (hpart _ _).mpr hc.vspace
        privateMemory := (hpart _ _).mpr hc.privateMemory
        stack := (hpart _ _).mpr hc.stack
        ipcBuffer := (hpart _ _).mpr hc.ipcBuffer
        tcb := (hpart _ _).mpr hc.tcb
        codeFrame := hp.keeps _ _ hc.codeFrame
        pages := ⟨vs, (hobject hc.vspace).trans hvs, hpages⟩
        contents := ⟨slots, (hobject hc.cnode).trans hslots,
          hdelegated.mono fun _ _ cap hcap => hp.keeps _ cap hcap⟩
        bound := ⟨registers, (hobject hc.tcb).trans hbound⟩ }⟩

end Ricoq
