import Ricoq.Lib.Word

/-!
# `Ipc.ReplyPool` — bounded pools of root slots for saved replies

A pool owns a contiguous range of at most 64 root slots and one machine word with a bit for each slot in
use. `reserve` takes the lowest clear bit, `release` clears the bit of a slot that lies in the range.
-/

namespace Ricoq

/-- `MAX_DEFERRED_REPLIES`. -/
def maxDeferredReplies : Nat := 64

/-- A pool over the root slots `start .. stop`. -/
structure ReplyPool where
  start : Nat
  stop : Nat
  occupied : BitVec 64
  start_le : start ≤ stop
  stop_le : stop ≤ wordMax
  len_le : stop - start ≤ maxDeferredReplies
deriving DecidableEq

/-- The word with the lowest `count` bits set. -/
def lowBits (count : Nat) : BitVec 64 :=
  if count = 64 then BitVec.allOnes 64 else (1#64 <<< count) - 1#64

namespace ReplyPool

def len (pool : ReplyPool) : Nat := pool.stop - pool.start

/-- A pool without slots. -/
def none : ReplyPool := ⟨0, 0, 0, Nat.le_refl _, Nat.zero_le _, Nat.zero_le _⟩

def reserve (pool : ReplyPool) : Option Nat × ReplyPool :=
  let available := ~~~pool.occupied &&& lowBits pool.len
  if available = 0 then
    (Option.none, pool)
  else
    let offset := available.ctz.toNat
    (checkedAdd pool.start offset, { pool with occupied := pool.occupied ||| (1#64 <<< offset) })

def release (pool : ReplyPool) (slot : Nat) : ReplyPool :=
  if pool.start ≤ slot ∧ slot - pool.start < pool.len then
    { pool with occupied := pool.occupied &&& ~~~(1#64 <<< (slot - pool.start)) }
  else
    pool

/-! ## The bitmap as a set of slots -/

/-- The slot belongs to the pool. -/
def Owns (pool : ReplyPool) (slot : Nat) : Prop := pool.start ≤ slot ∧ slot < pool.stop

/-- The slot's bit is set. -/
def InUse (pool : ReplyPool) (slot : Nat) : Prop := pool.occupied.getLsbD (slot - pool.start) = true

theorem getLsbD_lowBits {count : Nat} (hc : count ≤ 64) (i : Nat) :
    (lowBits count).getLsbD i = decide (i < count) := by
  unfold lowBits
  by_cases h : count = 64
  · rw [if_pos h, BitVec.getLsbD_allOnes, h]
  · have hlt : count < 64 := by omega
    have hpow : 2 ^ count < 2 ^ 64 := Nat.pow_lt_pow_right (by decide) hlt
    have hpos : 0 < 2 ^ count := Nat.two_pow_pos count
    have hval : ((1#64 <<< count) - 1#64).toNat = 2 ^ count - 1 := by
      rw [BitVec.toNat_sub, BitVec.toNat_shiftLeft]
      simp only [BitVec.toNat_ofNat, Nat.one_shiftLeft, Nat.one_mod_eq_one.mpr (by decide : 2 ^ 64 ≠ 1)]
      omega
    rw [if_neg h, BitVec.getLsbD, hval, Nat.testBit_two_pow_sub_one]

theorem getLsbD_bit {offset : Nat} (h : offset < 64) (i : Nat) :
    (1#64 <<< offset).getLsbD i = decide (i = offset) := by
  rw [BitVec.getLsbD_shiftLeft, BitVec.getLsbD_one]
  by_cases hi : i = offset
  · subst hi
    simp [h]
  · have : ¬ (i < 64 ∧ ¬ i < offset ∧ i - offset = 0) := by omega
    simp [hi]
    omega

/-- **`reserve` takes a slot of the pool that was not in use**, and marks that slot only. -/
theorem reserve_cases (pool : ReplyPool) :
    (pool.reserve = (Option.none, pool) ∧ ∀ slot, pool.Owns slot → pool.InUse slot) ∨
    (∃ slot occupied, pool.reserve = (some slot, { pool with occupied }) ∧ pool.Owns slot ∧
      ¬ pool.InUse slot ∧
      ∀ i, occupied.getLsbD i = (pool.occupied.getLsbD i || decide (i = slot - pool.start))) := by
  have hlen : pool.len ≤ 64 := pool.len_le
  have hstart := pool.start_le
  have hbit : ∀ i, (~~~pool.occupied &&& lowBits pool.len).getLsbD i =
      (decide (i < pool.len) && !pool.occupied.getLsbD i) := by
    intro i
    rw [BitVec.getLsbD_and, BitVec.getLsbD_not, getLsbD_lowBits hlen]
    by_cases hi : i < pool.len
    · have : i < 64 := by omega
      simp [hi, this]
    · simp [hi]
  unfold reserve
  by_cases h0 : ~~~pool.occupied &&& lowBits pool.len = 0
  · refine Or.inl ⟨if_pos h0, ?_⟩
    intro slot hown
    have hi := hbit (slot - pool.start)
    rw [h0] at hi
    have hlt : slot - pool.start < pool.len := by
      unfold len
      have := hown.2
      have := hown.1
      omega
    show pool.occupied.getLsbD (slot - pool.start) = true
    simpa [hlt] using hi.symm
  · have htrue := BitVec.getLsbD_true_ctz_of_ne_zero h0
    rw [hbit, Bool.and_eq_true, decide_eq_true_eq, Bool.not_eq_true'] at htrue
    obtain ⟨hlt, hfree⟩ := htrue
    obtain ⟨offset, hoffset⟩ : ∃ o, (~~~pool.occupied &&& lowBits pool.len).ctz.toNat = o := ⟨_, rfl⟩
    rw [hoffset] at hlt hfree
    have hstop := pool.stop_le
    have hsum : pool.start + offset < pool.stop := by unfold len at hlt; omega
    refine Or.inr ⟨pool.start + offset, pool.occupied ||| (1#64 <<< offset), ?_, ⟨by omega, hsum⟩, ?_, ?_⟩
    · simp only [if_neg h0, hoffset]
      rw [checkedAdd_of_le (by omega)]
    · unfold InUse
      rw [Nat.add_sub_cancel_left, hfree]
      decide
    · intro i
      rw [BitVec.getLsbD_or, getLsbD_bit (by omega), Nat.add_sub_cancel_left]

/-- **`release` frees exactly the slot it is given.** -/
theorem getLsbD_release {pool : ReplyPool} {slot : Nat} (h : pool.Owns slot) (i : Nat) :
    (pool.release slot).occupied.getLsbD i =
      (pool.occupied.getLsbD i && decide (i ≠ slot - pool.start)) := by
  obtain ⟨hlo, hhi⟩ := h
  have hlen := pool.len_le
  have hlt : slot - pool.start < pool.len := by unfold len; omega
  have h64 : slot - pool.start < 64 := by unfold len maxDeferredReplies at *; omega
  unfold release
  rw [if_pos ⟨hlo, hlt⟩, BitVec.getLsbD_and, BitVec.getLsbD_not, getLsbD_bit h64]
  by_cases hi : i < 64
  · simp [hi]
  · rw [BitVec.getLsbD_of_ge pool.occupied i (by omega)]
    simp

@[simp] theorem start_release (pool : ReplyPool) (slot : Nat) : (pool.release slot).start = pool.start := by
  unfold release; split <;> rfl

@[simp] theorem stop_release (pool : ReplyPool) (slot : Nat) : (pool.release slot).stop = pool.stop := by
  unfold release; split <;> rfl

/-- Releasing a slot that was just reserved restores the pool. -/
theorem release_reserve {pool pool' : ReplyPool} {slot : Nat} (h : pool.reserve = (some slot, pool')) :
    pool'.release slot = pool := by
  rcases pool.reserve_cases with ⟨hnone, _⟩ | ⟨slot', occupied, hsome, hown, hfree, hocc⟩
  · rw [hnone] at h
    exact nomatch h
  · rw [hsome] at h
    injection h with hslot hpool
    injection hslot with hslot
    subst hslot
    have hbits : (pool'.release slot').occupied = pool.occupied := by
      apply BitVec.eq_of_getLsbD_eq
      intro i _
      have hown' : pool'.Owns slot' := hpool ▸ hown
      rw [getLsbD_release hown', ← hpool, hocc]
      by_cases hi : i = slot' - pool.start
      · have hclear : pool.occupied.getLsbD (slot' - pool.start) = false := Bool.eq_false_iff.mpr hfree
        rw [hi, hclear]
        simp
      · simp [hi]
    have hstart : (pool'.release slot').start = pool.start := by rw [start_release, ← hpool]
    have hstop : (pool'.release slot').stop = pool.stop := by rw [stop_release, ← hpool]
    generalize pool'.release slot' = released at *
    obtain ⟨_, _, _, _, _, _⟩ := released
    obtain ⟨_, _, _, _, _, _⟩ := pool
    cases hstart
    cases hstop
    cases hbits
    rfl

/-! ## The operations on that set -/

/-- No bit is set that stands for no slot. -/
def Bounded (pool : ReplyPool) : Prop := ∀ i, pool.len ≤ i → pool.occupied.getLsbD i = false

section Sets

variable {pool pool' : ReplyPool} {slot : Nat}

theorem owns_release {i : Nat} : (pool.release slot).Owns i ↔ pool.Owns i := by
  rw [Owns, start_release, stop_release]
  exact Iff.rfl

/-- Releasing takes one slot out. -/
theorem inUse_release {i : Nat} (h : pool.Owns slot) (hi : pool.Owns i) :
    (pool.release slot).InUse i ↔ pool.InUse i ∧ i ≠ slot := by
  rw [InUse, start_release, getLsbD_release h, Bool.and_eq_true, decide_eq_true_eq]
  have hlo := h.1
  have hlo' := hi.1
  refine and_congr Iff.rfl (not_congr ?_)
  omega

theorem bounded_release (hb : pool.Bounded) (h : pool.Owns slot) : (pool.release slot).Bounded := by
  intro i hi
  have hlen : (pool.release slot).len = pool.len := by rw [len, len, start_release, stop_release]
  rw [getLsbD_release h, hb i (hlen ▸ hi), Bool.false_and]

/-- Reserving puts in one slot of the pool that was not in. -/
theorem reserve_some (h : pool.reserve = (some slot, pool')) :
    pool.Owns slot ∧ ¬ pool.InUse slot ∧ (∀ i, pool'.Owns i ↔ pool.Owns i) ∧
    (∀ i, pool.Owns i → (pool'.InUse i ↔ pool.InUse i ∨ i = slot)) ∧ (pool.Bounded → pool'.Bounded) := by
  rcases pool.reserve_cases with ⟨hnone, _⟩ | ⟨slot', occupied, hsome, hown, hfree, hbits⟩
  · exact nomatch (Prod.mk.inj (h.symm.trans hnone)).1
  obtain ⟨hslot, rfl⟩ := Prod.mk.inj (h.symm.trans hsome)
  obtain rfl := Option.some.inj hslot
  have hlo := hown.1
  have hhi := hown.2
  refine ⟨hown, hfree, fun _ => Iff.rfl, ?_, ?_⟩
  · intro i hi
    have hlo' := hi.1
    show occupied.getLsbD _ = true ↔ _
    rw [hbits, Bool.or_eq_true, decide_eq_true_eq]
    refine or_congr Iff.rfl ?_
    show i - pool.start = slot - pool.start ↔ i = slot
    omega
  · intro hb i hi
    have hi' : pool.len ≤ i := hi
    show occupied.getLsbD i = false
    rw [hbits, hb i hi', Bool.false_or, decide_eq_false_iff_not]
    unfold len at hi'
    omega

/-- Reserving finds nothing exactly when every slot is in. -/
theorem reserve_none_iff : pool.reserve.1 = Option.none ↔ ∀ i, pool.Owns i → pool.InUse i := by
  rcases pool.reserve_cases with ⟨hnone, hfull⟩ | ⟨slot', occupied, hsome, hown, hfree, -⟩
  · rw [hnone]
    exact ⟨fun _ => hfull, fun _ => rfl⟩
  · rw [hsome]
    constructor
    · exact nofun
    · exact fun hfull => absurd (hfull slot' hown) hfree

end Sets

end ReplyPool
end Ricoq
