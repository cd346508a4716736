import Ricoq.Ipc.Correctness.Attribution

/-!
# `Ipc.Correctness.Signals` — what a look at a notification tells

The kernel keeps one word for a notification. A look tells which bits were signalled since the last look, and
these bits lead back to delegations as the badges of messages do (`signals_attributed`).
-/

namespace Ricoq

open Sel4 Bootstrap Relation

/-! ## The signals since the last look -/

/-- The badges that were signalled at a notification since the last look at it, the newest first. -/
def heard (object : Nat) : List SignalEvent → List Word
  | [] => []
  | .signalled object' badge _ :: log => if object' = object then badge :: heard object log else heard object log
  | .observed object' _ :: log        => if object' = object then [] else heard object log

section Log

variable {words : Signals} {log : List SignalEvent} (hwords : ∀ object, Reflects (words object) (heard object log))
include hwords

/-- A signal is heard at its notification, and nowhere else. -/
theorem reflects_signal (object : Nat) (badge : Word) (source : Option (Nat × Nat)) (other : Nat) :
    Reflects (words.signal object badge other) (heard other (.signalled object badge source :: log)) := by
  by_cases hobject : object = other
  · subst hobject
    rw [heard, if_pos rfl]
    exact (hwords object).signal badge
  · rw [heard, if_neg hobject, Signals.signal_of_ne (Ne.symm hobject)]
    exact hwords other

/-- A look takes what there is at its notification, and nothing else. -/
theorem reflects_look (object : Nat) (look : Option Badge) (other : Nat) :
    Reflects ((words.poll object).2 other) (heard other (.observed object look :: log)) := by
  by_cases hobject : object = other
  · subst hobject
    rw [heard, if_pos rfl]
    exact Reflects.poll
  · rw [heard, if_neg hobject, Signals.poll_of_ne (Ne.symm hobject)]
    exact hwords other

end Log

namespace ClientSystem

variable {h : Host} {s s' : ClientSystem} {op : ClientOp}

/-- The words stand for what was signalled, looks told what they had to, and signals come from where they say. -/
structure Heard (s : ClientSystem) : Prop where
  words : ∀ object, Reflects (s.words object) (heard object s.signals)
  looks : ∀ newer object look older, s.signals = newer ++ .observed object look :: older →
    look = Badge.new (badgeUnion (heard object older))
  own : ∀ object badge, .signalled object badge none ∈ s.signals → badge = 0
  sources : ∀ object badge tcb cptr, .signalled object badge (some (tcb, cptr)) ∈ s.signals →
    s.Reaches .notification tcb cptr object badge

theorem Initial.heard (hi : Initial h s) : Heard s := by
  constructor
  case words =>
    intro object
    rw [hi.words, hi.signals]
    rfl
  case looks =>
    intro newer object look older hlog
    rw [hi.signals] at hlog
    simp at hlog
  case own =>
    rw [hi.signals]
    nofun
  case sources =>
    rw [hi.signals]
    nofun

/-- One more event: what it tells, and where it comes from, is all there is to see to. -/
theorem Heard.cons {event : SignalEvent} (hh : Heard s) (hlog : s'.signals = event :: s.signals)
    (hwords : ∀ object, Reflects (s'.words object) (Ricoq.heard object s'.signals))
    (hlook : ∀ object look, event = .observed object look →
      look = Badge.new (badgeUnion (Ricoq.heard object s.signals)))
    (hown : ∀ object badge, event = .signalled object badge none → badge = 0)
    (hsource : ∀ object badge tcb cptr, event = .signalled object badge (some (tcb, cptr)) →
      s'.Reaches .notification tcb cptr object badge)
    (hkept : ∀ tcb cptr object badge, s.Reaches .notification tcb cptr object badge →
      s'.Reaches .notification tcb cptr object badge) : Heard s' := by
  constructor
  case words => exact hwords
  case looks =>
    intro newer object look older hsplit
    rw [hlog] at hsplit
    cases newer with
    | nil =>
        obtain ⟨hhead, rfl⟩ := List.cons.inj hsplit
        exact hlook object look hhead
    | cons first newer =>
        obtain ⟨-, hrest⟩ := List.cons.inj hsplit
        exact hh.looks newer object look older hrest
  case own =>
    intro object badge hmem
    rw [hlog] at hmem
    rcases List.mem_cons.mp hmem with hnew | hold
    · exact hown object badge hnew.symm
    · exact hh.own object badge hold
  case sources =>
    intro object badge tcb cptr hmem
    rw [hlog] at hmem
    rcases List.mem_cons.mp hmem with hnew | hold
    · exact hsource object badge tcb cptr hnew.symm
    · exact hkept tcb cptr object badge (hh.sources object badge tcb cptr hold)

theorem Heard.step (hh : Heard s) (hw : Charted h s) (ha : s.Orderly op)
    (hs : ClientSystem.step h s op = some s') : Heard s' := by
  have hkept : ∀ tcb cptr object badge, s.Reaches .notification tcb cptr object badge →
      s'.Reaches .notification tcb cptr object badge :=
    fun _ _ _ _ hreach => hw.reaches_step ha hs hreach
  cases moves_of_step hs with
  | @signals task cptr place cap hfind hcap hkind =>
      refine hh.cons rfl (reflects_signal hh.words cap.object cap.badge _) nofun ?_ ?_ hkept
      · rintro object badge ⟨⟩
      · rintro object badge tcb cptr' ⟨⟩
        obtain ⟨y, hy, htask⟩ := List.mem_map.mp ha
        exact ⟨y, hy, htask ▸ rfl, cap, ⟨place, hfind, hcap⟩, hkind, rfl, rfl⟩
  | @signalsOwn notification cap hcap =>
      refine hh.cons rfl (reflects_signal hh.words cap.object 0 none) nofun ?_ nofun hkept
      intro object badge hevent
      cases hevent
      rfl
  | @looks _ notification cap hop hcap =>
      refine hh.cons rfl (reflects_look hh.words cap.object _) ?_ nofun nofun hkept
      intro object look hevent
      cases hevent
      -- the look is at the word that stands for what was heard
      exact congrArg Badge.new (hh.words cap.object).getD
  | _ =>
      refine ⟨hh.words, hh.looks, hh.own, ?_⟩
      intro object badge tcb cptr hmem
      exact hkept tcb cptr object badge (hh.sources object badge tcb cptr hmem)

theorem heard_reachable (hr : Reachable (ClientSystem.step h) (Initial h) Orderly s) : Heard s :=
  invariant_of_charted hr (fun _ hi => hi.heard) fun _ _ _ hw hh ha hs => hh.step hw ha hs

/-- Waiting returns exactly when something was signalled since the last look. -/
theorem wait_isSome_iff (hh : Heard s) {notification : Nat} {cap : Cap}
    (hcap : s.kernel.root notification = some cap) :
    (ClientSystem.step h s (.wait notification)).isSome ↔ heard cap.object s.signals ≠ [] := by
  rw [← (hh.words cap.object).isSome_iff]
  have hstep : ClientSystem.step h s (.wait notification) =
      (Notification.wait s.words cap.object).map fun look => s.observe cap.object look := by
    show (s.kernel.root notification).bind _ = _
    rw [hcap]
    cases hlook : Notification.wait s.words cap.object <;> simp [hlook]
  rw [hstep, Option.isSome_map, Notification.wait, Option.isSome_map, Signals.wait]
  by_cases hsome : (s.words cap.object).isSome
  · rw [if_pos hsome]
    exact iff_of_true rfl hsome
  · rw [if_neg hsome]
    exact iff_of_false (by nofun) hsome

/-- **What a look at a notification tells.** Whoever signals, and in whatever order: a look tells a badge exactly if
    one with a bit was signalled since the last look at this notification, and its bits are exactly those that were
    signalled since then. A signal with a badge comes from the thread of a task, to which a chain of transfers leads
    from a delegation of this notification with this badge. The root task waits in vain exactly as long as there was
    no signal since the last look. -/
theorem signals_attributed (hr : Reachable (ClientSystem.step h) (Initial h) Orderly s) :
    (∀ newer object look older, s.signals = newer ++ .observed object look :: older →
      (look = none ↔ ∀ badge ∈ heard object older, badge = 0) ∧
      ∀ badge i, look = some badge →
        (badge.raw.getLsbD i = true ↔ ∃ badge' ∈ heard object older, badge'.getLsbD i = true)) ∧
    (∀ object badge source, .signalled object badge source ∈ s.signals → badge ≠ 0 →
      ∃ tcb cptr, source = some (tcb, cptr) ∧ s.Delegates tcb cptr object badge) ∧
    ∀ notification cap, s.kernel.root notification = some cap →
      ((ClientSystem.step h s (.wait notification)).isSome ↔ heard cap.object s.signals ≠ []) := by
  have hh := heard_reachable hr
  refine ⟨?_, ?_, fun notification cap hcap => wait_isSome_iff hh hcap⟩
  · intro newer object look older hlog
    obtain rfl := hh.looks newer object look older hlog
    constructor
    · rw [Badge.new_eq_none, badgeUnion_eq_zero]
    · intro badge i hbadge
      rw [← Badge.new_eq_some hbadge, getLsbD_badgeUnion]
  · intro object badge source hmem hne
    cases source with
    | none => exact absurd (hh.own object badge hmem) hne
    | some caller =>
        obtain ⟨tcb, cptr⟩ := caller
        exact ⟨tcb, cptr, rfl, delegates_of_reaches (charted_reachable hr) (supplied_reachable hr)
          (hh.sources object badge tcb cptr hmem)⟩

/-- The second task has signalled the notification it was handed; the root task sees the badge, and bit 0 of it was
    signalled. -/
theorem signals_attributed_handed : ∃ (s : ClientSystem) (object : Nat) (badge : Badge) (older : List SignalEvent),
    s.signals = .observed object (some badge) :: older ∧ badge.raw = 5 ∧
      ∃ badge' ∈ heard object older, badge'.getLsbD 0 = true := by
  obtain ⟨s, -, -, -, -, -, s', hs, -, -, -, -, -, -, -, hs', hlook⟩ := handed_outcome
  obtain ⟨older, holder⟩ := List.head?_eq_some_iff.mp hlook
  obtain ⟨-, hbits⟩ := (signals_attributed ((handed_reachable hs).foldlM_guarded _ hs')).1 [] 102 _ older holder
  exact ⟨s', 102, _, older, holder, rfl, (hbits _ 0 rfl).mp rfl⟩

end ClientSystem
end Ricoq
