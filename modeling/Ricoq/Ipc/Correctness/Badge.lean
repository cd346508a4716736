import Mathlib.Data.List.Nodup
import Ricoq.Ipc.Badge

/-!
# `Ipc.Correctness.Badge` — badges over whole runs

A call either hands out the counter and moves it on by one, or finds it at the largest word and changes nothing;
the conversions in between never fail. So the results of any number of calls are the words from the start up to
the one before the largest, in order, and exhaustion from there on (`calls_eq`).
-/

namespace Ricoq
namespace BadgeAllocator

/-- The results with their badges as numbers. -/
def numbers (results : List (Except BadgeAllocationError Badge)) : List (Except BadgeAllocationError Nat) :=
  results.map (Except.map fun badge => badge.raw.toNat)

/-- The badges among the results. -/
def issued (results : List (Except BadgeAllocationError Badge)) : List Badge :=
  results.filterMap Except.toOption

/-- How many of `n` calls succeed. -/
def successes (first n : Nat) : Nat := min n (wordMax - first)

theorem successes_succ {first : Nat} (h : first < wordMax) (n : Nat) :
    successes first (n + 1) = successes (first + 1) n + 1 := by
  unfold successes
  omega

@[simp] theorem successes_max (n : Nat) : successes wordMax n = 0 := by
  simp [successes]

/-- Once the counter is at the largest word, all calls fail and change nothing. -/
theorem calls_of_eq {allocator : BadgeAllocator} (h : allocator.sequence.next.val = wordMax) (n : Nat) :
    calls n allocator = (List.replicate n (.error .exhausted), allocator) := by
  induction n with
  | zero => rfl
  | succ n ih =>
      rw [calls, allocate_of_eq h, ih]
      rfl

/-- **The results of `n` calls**, and the counter after them. -/
theorem calls_eq (n : Nat) (allocator : BadgeAllocator) :
    numbers (calls n allocator).1 =
      (List.range' allocator.sequence.next.val (successes allocator.sequence.next.val n)).map .ok ++
        List.replicate (n - successes allocator.sequence.next.val n) (.error .exhausted) ∧
    (calls n allocator).2.sequence.next.val =
      allocator.sequence.next.val + successes allocator.sequence.next.val n := by
  induction n generalizing allocator with
  | zero => simp [calls, numbers, successes]
  | succ n ih =>
      by_cases hlt : allocator.sequence.next.val < wordMax
      · obtain ⟨badge, allocator', hcall, hraw, hnext⟩ := allocate_of_lt hlt
        obtain ⟨hresults, hcounter⟩ := ih allocator'
        rw [calls, hcall, successes_succ hlt]
        rw [hnext] at hresults hcounter
        refine ⟨?_, ?_⟩
        · show Except.map _ (.ok badge) :: numbers (calls n allocator').1 = _
          rw [hresults, List.range'_succ]
          simp [Except.map, hraw]
        · show (calls n allocator').2.sequence.next.val = _
          rw [hcounter]
          omega
      · have heq : allocator.sequence.next.val = wordMax :=
          Nat.le_antisymm allocator.sequence.next.2 (Nat.not_lt.mp hlt)
        rw [calls_of_eq heq, heq]
        simp [numbers, Except.map]

/-- The badges handed out by `n` calls are consecutive words. -/
theorem issued_eq (n : Nat) (allocator : BadgeAllocator) :
    (issued (calls n allocator).1).map (fun badge => badge.raw.toNat) =
      List.range' allocator.sequence.next.val (successes allocator.sequence.next.val n) := by
  have hfilter : ∀ results : List (Except BadgeAllocationError Badge),
      (issued results).map (fun badge => badge.raw.toNat) =
        (numbers results).filterMap Except.toOption := by
    intro results
    rw [issued, numbers, List.map_filterMap, List.filterMap_map]
    congr 1
    funext result
    cases result with
    | ok badge => rfl
    | error e => rfl
  rw [hfilter, (calls_eq n allocator).1, List.filterMap_append]
  simp [List.filterMap_map, Function.comp_def, Except.toOption]

theorem next_of_new {first : Word} (hne : first ≠ 0) :
    ∃ allocator, new first = .ok allocator ∧ allocator.sequence.next.val = first.toNat := by
  have hle : first.toNat ≤ wordMax := Nat.le_of_lt_succ first.isLt
  have hnat : first.toNat ≠ 0 := by
    intro hzero
    exact hne (BitVec.eq_of_toNat_eq hzero)
  refine ⟨⟨⟨first.toNat, hle⟩, hnat⟩, ?_, rfl⟩
  simp [new, usizeTryFrom, BadgeSequence.new, hle, hnat]

/-- What any number of calls on an allocator that began at this word amount to. -/
structure Sequential (first : Word) (allocator : BadgeAllocator) : Prop where
  results : ∀ n, numbers (calls n allocator).1 =
    (List.range' first.toNat (successes first.toNat n)).map .ok ++
      List.replicate (n - successes first.toNat n) (.error .exhausted)
  issued_eq : ∀ n, (issued (calls n allocator).1).map (fun badge => badge.raw.toNat) =
    List.range' first.toNat (successes first.toNat n)
  distinct : ∀ n, (issued (calls n allocator).1).Nodup
  nonzero : ∀ n badge, badge ∈ issued (calls n allocator).1 → badge.raw ≠ 0
  exhausted : ∀ n e, (calls n allocator).2.allocate.1 = .error e → e = .exhausted ∧
    ∀ m, calls m (calls n allocator).2 = (List.replicate m (.error .exhausted), (calls n allocator).2)
  converted : ∀ n raw sequence, (calls n allocator).2.sequence.allocate = (some raw, sequence) →
    ∃ badge, (calls n allocator).2.allocate = (.ok badge, ⟨sequence⟩) ∧ badge.raw.toNat = raw.val

/-- **Badges are unique.** From any nonzero start, however many calls are made: the badges handed out are the
    start and the words after it, one by one, the last being the largest word less one. After that every call
    reports exhaustion and changes nothing, and no conversion loses a badge the sequence has given out. -/
theorem badges_sequential (first : Word) (hne : first ≠ 0) :
    ∃ allocator, new first = .ok allocator ∧ Sequential first allocator := by
  obtain ⟨allocator, hnew, hnext⟩ := next_of_new hne
  have hissued : ∀ n, (issued (calls n allocator).1).map (fun badge => badge.raw.toNat) =
      List.range' first.toNat (successes first.toNat n) := by
    intro n
    rw [issued_eq, hnext]
  refine ⟨allocator, hnew, ?_, hissued, ?_, ?_, ?_, ?_⟩
  · intro n
    rw [(calls_eq n allocator).1, hnext]
  · intro n
    have hnodup := List.nodup_range' (s := first.toNat) (n := successes first.toNat n)
    rw [← hissued n] at hnodup
    exact hnodup.of_map _
  · intro n badge _
    exact badge.raw_ne
  · intro n e he
    by_cases hlt : (calls n allocator).2.sequence.next.val < wordMax
    · obtain ⟨badge, allocator', hcall, -⟩ := allocate_of_lt hlt
      rw [hcall] at he
      exact nomatch he
    · have heq := Nat.le_antisymm (calls n allocator).2.sequence.next.2 (Nat.not_lt.mp hlt)
      rw [allocate_of_eq heq] at he
      exact ⟨(Except.error.inj he).symm, calls_of_eq heq⟩
  · intro n raw sequence hsequence
    obtain rfl := BadgeSequence.allocate_some hsequence
    exact allocate_of_sequence hsequence (calls n allocator).2.sequence.next_ne

/-- The last badge, from the largest word less one. -/
theorem badges_sequential_top :
    ∃ allocator, new 18446744073709551614 = .ok allocator ∧ Sequential 18446744073709551614 allocator :=
  badges_sequential 18446744073709551614 (by decide)

end BadgeAllocator
end Ricoq
