import Ricoq.Ipc.Endpoint

/-!
# `Ipc.Notification` — asynchronous signals

The kernel keeps one word for a notification, into which the badges of signals are or-ed until somebody looks.
An observer sees the bits that were signalled since the last look, and neither how often nor in which order.
A signal with badge 0 can be waited for, but it looks like no signal at all.

`Reflects` puts next to the word the badges that were signalled since the last look; the operations keep it.
-/

namespace Ricoq

namespace Sel4

/-- The words of the notifications, by their objects; `none` if nothing was signalled since the last look. -/
abbrev Signals : Type := Nat → Option Word

namespace Signals

/-- `seL4_Signal` with a capability that has this badge. -/
def signal (words : Signals) (object : Nat) (badge : Word) : Signals :=
  Function.update words object (some ((words object).getD 0 ||| badge))

/-- `seL4_Poll`: what was signalled, or else badge 0. -/
def poll (words : Signals) (object : Nat) : Word × Signals :=
  ((words object).getD 0, Function.update words object none)

/-- `seL4_Wait` returns once there was a signal. -/
def wait (words : Signals) (object : Nat) : Option (Word × Signals) :=
  if (words object).isSome then some (words.poll object) else none

end Signals
end Sel4

open Sel4

namespace Notification

/-- Signals this notification without waiting for an observer; the root task's capability has no badge. -/
def signal (words : Signals) (object : Nat) : Signals := words.signal object 0

/-- Blocks until signalled and returns a nonzero observed badge when present. There is no result as long as it
    blocks. -/
def wait (words : Signals) (object : Nat) : Option (Option Badge × Signals) :=
  (words.wait object).map fun (raw, words) => (Badge.new raw, words)

/-- Polls without blocking and returns a nonzero observed badge when present. -/
def poll (words : Signals) (object : Nat) : Option Badge × Signals :=
  ((Badge.new (words.poll object).1), (words.poll object).2)

end Notification

/-! ## Several badges in one word -/

/-- The bits of several badges. -/
def badgeUnion (badges : List Word) : Word := badges.foldr (· ||| ·) 0

theorem getLsbD_badgeUnion {badges : List Word} {i : Nat} :
    (badgeUnion badges).getLsbD i = true ↔ ∃ badge ∈ badges, badge.getLsbD i = true := by
  induction badges with
  | nil => simp [badgeUnion]
  | cons badge badges ih =>
      show (badge ||| badgeUnion badges).getLsbD i = true ↔ _
      rw [BitVec.getLsbD_or, Bool.or_eq_true, ih]
      simp only [List.mem_cons, exists_eq_or_imp]

/-- No badge is seen exactly when all that was signalled had none. -/
theorem badgeUnion_eq_zero {badges : List Word} : badgeUnion badges = 0 ↔ ∀ badge ∈ badges, badge = 0 := by
  induction badges with
  | nil => simp [badgeUnion]
  | cons badge badges ih =>
      have hor : badge ||| badgeUnion badges = 0 ↔ badge = 0 ∧ badgeUnion badges = 0 := BitVec.or_eq_zero_iff
      show badge ||| badgeUnion badges = 0 ↔ _
      rw [hor, ih, List.forall_mem_cons]

/-! ## What a word stands for -/

/-- The word stands for these badges, the last signal first. -/
def Reflects (word : Option Word) (badges : List Word) : Prop :=
  word = if badges = [] then none else some (badgeUnion badges)

theorem Reflects.getD {word : Option Word} {badges : List Word} (h : Reflects word badges) :
    word.getD 0 = badgeUnion badges := by
  unfold Reflects at h
  by_cases hnil : badges = []
  · rw [h, if_pos hnil, hnil]
    rfl
  · rw [h, if_neg hnil]
    rfl

theorem Reflects.isSome_iff {word : Option Word} {badges : List Word} (h : Reflects word badges) :
    word.isSome ↔ badges ≠ [] := by
  unfold Reflects at h
  by_cases hnil : badges = [] <;> simp [h, hnil]

/-- One more signal. -/
theorem Reflects.signal {words : Signals} {object : Nat} {badges : List Word} (badge : Word)
    (h : Reflects (words object) badges) : Reflects (words.signal object badge object) (badge :: badges) := by
  show Function.update words object (some ((words object).getD 0 ||| badge)) object = _
  rw [Function.update_self, if_neg (List.cons_ne_nil _ _), h.getD, BitVec.or_comm]
  rfl

/-- A look takes everything. -/
theorem Reflects.poll {words : Signals} {object : Nat} : Reflects ((words.poll object).2 object) [] :=
  Function.update_self _ _ _

/-- Other notifications keep what they have. -/
theorem Sel4.Signals.signal_of_ne {words : Signals} {object other : Nat} {badge : Word} (hne : other ≠ object) :
    words.signal object badge other = words other :=
  Function.update_of_ne hne _ _

theorem Sel4.Signals.poll_of_ne {words : Signals} {object other : Nat} (hne : other ≠ object) :
    (words.poll object).2 other = words other :=
  Function.update_of_ne hne _ _

end Ricoq
