import Ricoq.Lib.Word

/-!
# `Sel4.MessageInfo` — the message-info word and the IPC buffer

The part of the seL4 ABI that messages pass through: the packed info word, and the buffer a thread shares
with the kernel. The info word holds, from the top, the label (52 bits), `caps_unwrapped` (3 bits),
`extra_caps` (2 bits) and `length` (7 bits); a field keeps the low bits of what is stored in it.
-/

namespace Ricoq
namespace Sel4

/-- `seL4_MsgMaxLength`, the message registers of the IPC buffer. -/
def numMessageRegisters : Nat := 120

/-- `seL4_MsgMaxExtraCaps`, the extra-capability words of the IPC buffer. -/
def msgMaxExtraCaps : Nat := 3

/-- The message-info word. -/
structure MessageInfo where
  raw : Word
deriving DecidableEq, Repr

namespace MessageInfo

def label (info : MessageInfo) : Word := BitVec.ofNat 64 (info.raw.toNat / 2 ^ 12)

def capsUnwrapped (info : MessageInfo) : Nat := info.raw.toNat / 2 ^ 9 % 2 ^ 3

def extraCaps (info : MessageInfo) : Nat := info.raw.toNat / 2 ^ 7 % 2 ^ 2

def length (info : MessageInfo) : Nat := info.raw.toNat % 2 ^ 7

/-- `MessageInfoBuilder::build`. -/
def build (label : Word) (capsUnwrapped extraCaps length : Nat) : MessageInfo :=
  ⟨BitVec.ofNat 64 (label.toNat % 2 ^ 52 * 2 ^ 12 + capsUnwrapped % 2 ^ 3 * 2 ^ 9 +
    extraCaps % 2 ^ 2 * 2 ^ 7 + length % 2 ^ 7)⟩

variable (l : Word) (c e n : Nat)

/-- The four fields fill the word and do not overlap. -/
theorem build_toNat :
    (build l c e n).raw.toNat =
      l.toNat % 2 ^ 52 * 2 ^ 12 + c % 2 ^ 3 * 2 ^ 9 + e % 2 ^ 2 * 2 ^ 7 + n % 2 ^ 7 := by
  simp only [build, BitVec.toNat_ofNat]
  omega

@[simp] theorem build_length : (build l c e n).length = n % 2 ^ 7 := by
  rw [length, build_toNat]; omega

@[simp] theorem build_extraCaps : (build l c e n).extraCaps = e % 2 ^ 2 := by
  rw [extraCaps, build_toNat]; omega

@[simp] theorem build_capsUnwrapped : (build l c e n).capsUnwrapped = c % 2 ^ 3 := by
  rw [capsUnwrapped, build_toNat]; omega

@[simp] theorem build_label_toNat : (build l c e n).label.toNat = l.toNat % 2 ^ 52 := by
  rw [label, build_toNat, BitVec.toNat_ofNat]; omega

/-- A label comes back unchanged exactly when it fits its 52 bits. -/
theorem build_label_eq_iff : (build l c e n).label = l ↔ l.toNat < 2 ^ 52 := by
  rw [← BitVec.toNat_inj, build_label_toNat]
  constructor
  · intro h; omega
  · exact Nat.mod_eq_of_lt

theorem extraCaps_le (info : MessageInfo) : info.extraCaps ≤ msgMaxExtraCaps := by
  unfold extraCaps msgMaxExtraCaps; omega

end MessageInfo

/-- A capability address: an index to be resolved in the CNode `root` at `depth` bits. -/
structure AbsoluteCPtr where
  root : Nat
  index : Nat
  depth : Nat
deriving DecidableEq, Repr

/-- The address that names no slot: the null capability as root. -/
def AbsoluteCPtr.null : AbsoluteCPtr := ⟨0, 0, 0⟩

/-- The IPC buffer of a thread: message registers, extra-capability words, and the receive path that
    stays in place until it is overwritten. -/
structure IpcBuffer where
  msgRegs : Vector Word numMessageRegisters
  capsOrBadges : Vector Word msgMaxExtraCaps
  recvSlot : AbsoluteCPtr
deriving DecidableEq, Repr

end Sel4
end Ricoq
