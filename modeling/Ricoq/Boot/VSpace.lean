import Ricoq.Boot.Bootstrap

/-!
# `Boot.VSpace` — VSpace creation and base-page mappings

A VSpace is created with every intermediate translation table its pages need, each distinct one once, and
frames are then mapped through copies of their capabilities, so that the owner's capability stays unmapped.
-/

namespace Ricoq

open Sel4 Bootstrap

structure VSpace where
  root : Nat
deriving DecidableEq, Repr

/-- A root-held capability for one frame mapping in a task VSpace. -/
structure TaskMapping where
  mapping : Nat
  rootSlot : Nat
deriving DecidableEq, Repr

namespace VSpace

variable (h : Host)

/-- Allocate one table and map it at an address. -/
def mapTable (vspace : VSpace) (level address : Nat) : Boot Unit :=
  match h.machine.fromLevel level with
  | none => Prog.throw .invalidTaskConfiguration
  | some tableType => do
      let table ← allocateBlueprint h (.table tableType.level)
      kernelOp (invoke h.machine (.tableMap table tableType.level vspace.root address)) .vspaceCreationFailed

/-- The tables of one level: one for each region that no earlier address lies in. -/
def mapLevel (vspace : VSpace) (level span : Nat) (prior : List Nat) : List Nat → Boot Unit
  | [] => return ()
  | address :: rest => do
      if ∃ p ∈ prior, p / span = address / span then
        mapLevel vspace level span (prior ++ [address]) rest
      else
        mapTable h vspace level address
        mapLevel vspace level span (prior ++ [address]) rest

/-- The bytes one table of a level spans. -/
def span (level : Nat) : Option Nat := (tryFromU32 (h.machine.spanBits level)).bind (checkedShl 1)

/-- Maps each distinct intermediate translation table once, level by level. -/
def mapTranslationTables (vspace : VSpace) (pageAddresses reservedPages : List Nat) : List Nat → Boot Unit
  | [] => return ()
  | level :: levels =>
      match span h level with
      | none => Prog.throw .invalidTaskConfiguration
      | some span => do
          mapLevel h vspace level span [] (pageAddresses ++ reservedPages)
          mapTranslationTables vspace pageAddresses reservedPages levels

/-- The levels below the root, `1..NUM_LEVELS`. -/
def levels : List Nat := List.range' 1 (h.machine.numLevels - 1)

/-- Creates an ASID-backed VSpace covering the requested pages. -/
def create (pageAddresses reservedPages : List Nat) : Boot VSpace := do
  let root ← allocateBlueprint h .vspace
  kernelOp (invoke h.machine (.asidPoolAssign root)) .vspaceCreationFailed
  let vspace : VSpace := ⟨root⟩
  mapTranslationTables h vspace pageAddresses reservedPages (levels h)
  return vspace

/-- Maps a rights-restricted copy while retaining the owner capability unmapped. -/
def mapFrame (vspace : VSpace) (frame : Frame) (address : Nat) (rights : CapRights) : Boot Nat :=
  if address % h.machine.pageBytes ≠ 0 then
    Prog.throw .invalidTaskConfiguration
  else do
    let mapping ← copyToRoot h frame.cap rights
    kernelOp (invoke h.machine (.frameMap mapping vspace.root address rights)) .frameMappingFailed
    return mapping

end VSpace
end Ricoq
