import Mathlib.Logic.Function.Basic
import Ricoq.Lib.Slice
import Ricoq.Sel4.MessageInfo

/-!
# `Sel4.Ipc` — the classic (non-MCS) kernel as the IPC code sees it

The root task has a single thread, and with it one implicit caller slot, one IPC buffer and one receive
path. What the kernel does on each system call the code makes:

* `recv` / `nbRecv` on any endpoint first empties the caller slot; a message from a Call or a fault then
  leaves its sender there;
* `reply` answers the client in the caller slot and empties it, and does nothing when it is empty;
* `saveCaller` moves the caller slot into an empty root CSpace slot, and reports success without moving
  anything when the caller slot is empty;
* a message or reply that reaches the root thread carries capabilities by `transferCaps`: one that refers
  to the endpoint the message came through is unwrapped to its badge, the first other one is installed in
  the slot the receive path names if that slot is empty, and the transfer stops where neither applies.

What the environment decides (which message arrives, whether the kernel refuses an operation for reasons
of its own) is an argument of the operation.
-/

namespace Ricoq
namespace Sel4

/-- A client blocked on a reply; `fault` tells a faulting thread from one that used Call. -/
structure Caller where
  client : Nat
  fault : Bool
deriving DecidableEq, Repr

/-- A capability the sender of a message attached to it. -/
structure OfferedCap where
  sameEndpoint : Bool
  cap : Word
deriving DecidableEq, Repr

/-- A message on its way to the root thread, as its sender described it. -/
structure Delivery where
  label : Word
  length : Nat
  regs : List Word
  caps : List OfferedCap
  badge : Word
  caller : Option Caller
deriving DecidableEq, Repr

/-- What a non-blocking receive finds. Without a sender the kernel reports badge 0 and transfers nothing;
    the info register keeps whatever it held. -/
inductive NbOutcome where
  | message (delivery : Delivery)
  | noSender (info : MessageInfo)
deriving DecidableEq, Repr

/-- A reply the kernel delivered: to whom, and what. -/
structure Reply where
  recipient : Caller
  info : MessageInfo
  words : List Word
deriving DecidableEq, Repr

/-! ## Capability transfer -/

/-- For each capability that was transferred, whether it was unwrapped, and the one that was installed.
    `dest` says whether an empty receive slot is available. -/
def transferCaps : Bool → List OfferedCap → List Bool × Option Word
  | _, [] => ([], none)
  | dest, c :: cs =>
      if c.sameEndpoint then
        let r := transferCaps dest cs
        (true :: r.1, r.2)
      else if dest then
        let r := transferCaps false cs
        (false :: r.1, some c.cap)
      else
        ([], none)

/-- The `caps_unwrapped` mask: bit `i` for the `i`-th capability. -/
def unwrappedMask : List Bool → Nat
  | [] => 0
  | b :: bs => b.toNat + 2 * unwrappedMask bs

theorem testBit_unwrappedMask (bs : List Bool) (i : Nat) : (unwrappedMask bs).testBit i = bs[i]?.getD false := by
  induction bs generalizing i with
  | nil => simp [unwrappedMask]
  | cons b bs ih =>
      cases i with
      | zero => cases b <;> simp [unwrappedMask, Nat.testBit_zero]
      | succ i =>
          have hdiv : unwrappedMask (b :: bs) / 2 = unwrappedMask bs := by
            have hb := Bool.toNat_lt b
            simp only [unwrappedMask]
            omega
          rw [Nat.testBit_succ, hdiv, ih]
          simp

theorem unwrappedMask_lt (bs : List Bool) : unwrappedMask bs < 2 ^ bs.length := by
  induction bs with
  | nil => simp [unwrappedMask]
  | cons b bs ih =>
      have hb := Bool.toNat_lt b
      simp only [unwrappedMask, List.length_cons, Nat.pow_succ]
      omega

theorem length_transferCaps_le (dest : Bool) (cs : List OfferedCap) :
    (transferCaps dest cs).1.length ≤ cs.length := by
  induction cs generalizing dest with
  | nil => simp [transferCaps]
  | cons c cs ih =>
      unfold transferCaps
      have ht := ih dest
      have hf := ih false
      by_cases hs : c.sameEndpoint <;> by_cases hd : dest <;> simp_all

/-- Without a destination nothing is installed. -/
theorem transferCaps_false_snd (cs : List OfferedCap) : (transferCaps false cs).2 = none := by
  induction cs with
  | nil => rfl
  | cons c cs ih => by_cases hs : c.sameEndpoint <;> simp [transferCaps, hs, ih]

/-- **The transfer rule.** A capability was installed exactly when some transferred one was not unwrapped. -/
theorem transferCaps_installed_iff (dest : Bool) (cs : List OfferedCap) :
    (transferCaps dest cs).2 ≠ none ↔ false ∈ (transferCaps dest cs).1 := by
  induction cs generalizing dest with
  | nil => simp [transferCaps]
  | cons c cs ih =>
      unfold transferCaps
      by_cases hs : c.sameEndpoint
      · simp [hs, ih]
      · by_cases hd : dest <;> simp [hs, hd]

/-- With a destination, a capability is installed exactly when one is offered that cannot be unwrapped. -/
theorem transferCaps_true_installed_iff (cs : List OfferedCap) :
    (transferCaps true cs).2 ≠ none ↔ ∃ c ∈ cs, c.sameEndpoint = false := by
  induction cs with
  | nil => simp [transferCaps]
  | cons c cs ih =>
      unfold transferCaps
      by_cases hs : c.sameEndpoint
      · simp [hs, ih]
      · simp [hs]

/-! ## Kernel state and system calls -/

/-- The kernel state behind the root thread's IPC: the implicit caller slot, reply capabilities saved in
    root CSpace slots, the contents of the child CNodes (by CNode capability and index), the IPC buffer, and
    every reply delivered so far, the newest first. -/
structure Kernel where
  caller : Option Caller
  replyCaps : Nat → Option Caller
  children : Nat → Nat → Option Word
  buffer : IpcBuffer
  replies : List Reply

namespace Kernel

/-- Empty or fill one child CNode slot. -/
def setChild (k : Kernel) (root index : Nat) (cap : Option Word) : Kernel :=
  { k with children := Function.update k.children root (Function.update (k.children root) index cap) }

/-- The receive path names an empty child slot: the kernel would install a capability there. -/
def destAvailable (k : Kernel) : Bool :=
  k.buffer.recvSlot.root ≠ 0 && (k.children k.buffer.recvSlot.root k.buffer.recvSlot.index).isNone

/-- The outcome of the capability transfer of a message. -/
def transferred (k : Kernel) (d : Delivery) : List Bool × Option Word :=
  transferCaps k.destAvailable (d.caps.take msgMaxExtraCaps)

/-- The info word the root thread sees. -/
def deliveredInfo (k : Kernel) (d : Delivery) : MessageInfo :=
  MessageInfo.build d.label (unwrappedMask (k.transferred d).1) (k.transferred d).1.length d.length

/-- The slot the receive path names, filled with what was installed. -/
def install (k : Kernel) (installed : Option Word) : Kernel :=
  match installed with
  | none => k
  | some cap => k.setChild k.buffer.recvSlot.root k.buffer.recvSlot.index (some cap)

/-- A message or a reply reaches the root thread. -/
def deliver (k : Kernel) (d : Delivery) : Kernel :=
  let k' := k.install (k.transferred d).2
  { k' with buffer := { k.buffer with
      msgRegs := overwrite k.buffer.msgRegs (d.regs.take (k.deliveredInfo d).length) } }

/-- `seL4_Recv`. -/
def recv (k : Kernel) (d : Delivery) : (MessageInfo × Word) × Kernel :=
  ((k.deliveredInfo d, d.badge), { k.deliver d with caller := d.caller })

/-- `seL4_NBRecv`. -/
def nbRecv (k : Kernel) : NbOutcome → (MessageInfo × Word) × Kernel
  | .message d     => k.recv d
  | .noSender info => ((info, 0), { k with caller := none })

/-- The reply an IPC buffer and info word amount to. -/
def replyTo (k : Kernel) (c : Caller) (info : MessageInfo) : Reply :=
  ⟨c, info, k.buffer.msgRegs.toList.take info.length⟩

/-- `seL4_Reply`. -/
def reply (k : Kernel) (info : MessageInfo) : Kernel :=
  match k.caller with
  | none   => k
  | some c => { k with caller := none, replies := k.replyTo c info :: k.replies }

/-- `seL4_CNode_SaveCaller`; `refused` is a failure the kernel reports for reasons of its own. -/
def saveCaller (k : Kernel) (slot : Nat) (refused : Bool) : Bool × Kernel :=
  if refused || (k.replyCaps slot).isSome then
    (false, k)
  else
    match k.caller with
    | none   => (true, k)
    | some c => (true, { k with caller := none, replyCaps := Function.update k.replyCaps slot (some c) })

/-- `seL4_Send` on a saved reply capability, which the kernel consumes. -/
def sendReplyCap (k : Kernel) (slot : Nat) (info : MessageInfo) : Kernel :=
  match k.replyCaps slot with
  | none   => k
  | some c => { k with
      replyCaps := Function.update k.replyCaps slot none
      replies := k.replyTo c info :: k.replies }

/-- `seL4_CNode_Delete` of a root slot. -/
def deleteRootSlot (k : Kernel) (slot : Nat) (refused : Bool) : Bool × Kernel :=
  if refused then (false, k)
  else (true, { k with replyCaps := Function.update k.replyCaps slot none })

/-- `set_recv_slot`: the path stays until it is set again. -/
def setRecvSlot (k : Kernel) (path : AbsoluteCPtr) : Kernel :=
  { k with buffer := { k.buffer with recvSlot := path } }

/-! ### What a delivery transfers -/

/-- The info word reports the transfer exactly: its count and its mask fit their fields. -/
theorem deliveredInfo_fields (k : Kernel) (d : Delivery) :
    (k.deliveredInfo d).extraCaps = (k.transferred d).1.length ∧
    (k.deliveredInfo d).capsUnwrapped = unwrappedMask (k.transferred d).1 := by
  have hlen : (k.transferred d).1.length ≤ 3 := by
    refine Nat.le_trans (length_transferCaps_le _ _) ?_
    rw [List.length_take]
    exact Nat.min_le_left _ _
  have hmask : unwrappedMask (k.transferred d).1 < 2 ^ 3 :=
    Nat.lt_of_lt_of_le (unwrappedMask_lt _) (Nat.pow_le_pow_right (by decide) hlen)
  rw [deliveredInfo, MessageInfo.build_extraCaps, MessageInfo.build_capsUnwrapped]
  exact ⟨Nat.mod_eq_of_lt (by omega), Nat.mod_eq_of_lt hmask⟩

/-- A capability was installed exactly when one of the reported ones was not unwrapped. -/
theorem installed_iff_reported (k : Kernel) (d : Delivery) :
    (k.transferred d).2 ≠ none ↔
      ∃ i, i < (k.deliveredInfo d).extraCaps ∧ (k.deliveredInfo d).capsUnwrapped.testBit i = false := by
  obtain ⟨hcount, hmask⟩ := k.deliveredInfo_fields d
  rw [hcount, hmask, transferred, transferCaps_installed_iff, List.mem_iff_getElem]
  constructor
  · rintro ⟨i, hi, hfalse⟩
    refine ⟨i, hi, ?_⟩
    rw [testBit_unwrappedMask, List.getElem?_eq_getElem hi, hfalse]
    rfl
  · rintro ⟨i, hi, hbit⟩
    refine ⟨i, hi, ?_⟩
    rw [testBit_unwrappedMask, List.getElem?_eq_getElem hi] at hbit
    exact hbit

/-- A capability is installed only into the empty slot that the receive path names. -/
theorem destAvailable_of_transferred {k : Kernel} {d : Delivery} (h : (k.transferred d).2 ≠ none) :
    k.destAvailable = true := by
  apply Decidable.byContradiction
  intro hdest
  rw [transferred, Bool.eq_false_iff.mpr hdest, transferCaps_false_snd] at h
  exact h rfl

/-- The child slots after a delivery. -/
theorem children_deliver (k : Kernel) (d : Delivery) (root i : Nat) :
    (k.deliver d).children root i =
      if root = k.buffer.recvSlot.root ∧ i = k.buffer.recvSlot.index ∧ (k.transferred d).2 ≠ none
      then (k.transferred d).2 else k.children root i := by
  unfold deliver install
  cases (k.transferred d).2 with
  | none => simp
  | some cap =>
      show Function.update k.children _ _ root i = _
      by_cases hr : root = k.buffer.recvSlot.root
      · subst hr
        rw [Function.update_self]
        by_cases hi : i = k.buffer.recvSlot.index
        · simp [hi]
        · simp [hi]
      · simp [hr]

/-- A delivery changes a child slot exactly when it is the one the receive path names and a capability is
    installed; it was empty before. -/
theorem children_deliver_ne_iff (k : Kernel) (d : Delivery) (root i : Nat) :
    (k.deliver d).children root i ≠ k.children root i ↔
      root = k.buffer.recvSlot.root ∧ i = k.buffer.recvSlot.index ∧ (k.transferred d).2 ≠ none := by
  rw [children_deliver]
  constructor
  · intro h
    apply Decidable.byContradiction
    intro hno
    exact h (if_neg hno)
  · rintro ⟨rfl, rfl, hsome⟩
    rw [if_pos ⟨rfl, rfl, hsome⟩]
    have hdest := destAvailable_of_transferred hsome
    rw [destAvailable, Bool.and_eq_true, Option.isNone_iff_eq_none] at hdest
    rw [hdest.2]
    exact hsome

end Kernel
end Sel4
end Ricoq
