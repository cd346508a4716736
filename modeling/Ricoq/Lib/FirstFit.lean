/-!
# `Lib.FirstFit` — trying candidates in order

A search tries the candidates of a list one after the other. The environment answers each attempt: it accepts
the candidate, it declines it and the next one is tried, or it ends the search with an error. Its answer may
depend on the attempts made before.

`firstFit` returns the outcome together with the attempts made. A list splits at its first candidate that is
not declined (`declined_or_decided`); up to there the search only tries (`firstFit_append`), and so each
outcome is characterised by what was declined before it (`firstFit_found`, `firstFit_failed`,
`firstFit_exhausted`).
-/

namespace Ricoq

/-- The answer to an attempt. -/
inductive Answer (ε : Type) where
  | accept
  | decline
  | abort (e : ε)

/-- The outcome of a search. -/
inductive Search (ε α : Type) where
  | found (a : α)
  | failed (e : ε)
  | exhausted

variable {ε α : Type}

/-- How the search ends with this answer to `a`, if it does. -/
def Answer.verdict (a : α) : Answer ε → Option (Search ε α)
  | .accept  => some (.found a)
  | .decline => none
  | .abort e => some (.failed e)

theorem Answer.verdict_eq_none {a : α} {x : Answer ε} : x.verdict a = none ↔ x = .decline := by
  cases x <;> simp [verdict]

theorem Answer.verdict_eq_found {a b : α} {x : Answer ε} :
    x.verdict a = some (.found b) ↔ x = .accept ∧ a = b := by
  cases x <;> simp [verdict]

theorem Answer.verdict_eq_failed {a : α} {e : ε} {x : Answer ε} :
    x.verdict a = some (.failed e) ↔ x = .abort e := by
  cases x <;> simp [verdict]

theorem Answer.verdict_ne_exhausted {a : α} {x : Answer ε} : x.verdict a ≠ some .exhausted := by
  cases x <;> simp [verdict]

variable (answer : List α → α → Answer ε)

/-- Try the candidates in order, after those of `tried`; the second component is everything tried then. -/
def firstFit (tried : List α) : List α → Search ε α × List α
  | [] => (.exhausted, tried)
  | a :: rest =>
      match (answer tried a).verdict a with
      | some outcome => (outcome, tried ++ [a])
      | none         => firstFit (tried ++ [a]) rest

/-- All candidates of `before` are declined when they are tried in order, after those of `tried`. -/
def Declined (tried before : List α) : Prop :=
  ∀ p a q, before = p ++ a :: q → answer (tried ++ p) a = .decline

section Declined

variable {answer} {tried before : List α} {a : α}

theorem declined_nil (tried : List α) : Declined answer tried [] := by
  intro p a q h
  simp at h

theorem declined_cons :
    Declined answer tried (a :: before) ↔
      answer tried a = .decline ∧ Declined answer (tried ++ [a]) before := by
  constructor
  · intro h
    refine ⟨?_, ?_⟩
    · simpa using h [] a before rfl
    · rintro p b q rfl
      simpa using h (a :: p) b q rfl
  · rintro ⟨hhead, htail⟩ p b q hq
    cases p with
    | nil =>
        obtain ⟨rfl, -⟩ := List.cons.inj hq
        simpa using hhead
    | cons c p =>
        obtain ⟨rfl, hrest⟩ := List.cons.inj hq
        simpa using htail p b q hrest

/-- A list of candidates is declined altogether, or has a first one that ends the search. -/
theorem declined_or_decided (answer : List α → α → Answer ε) (tried candidates : List α) :
    Declined answer tried candidates ∨
      ∃ before a after outcome, candidates = before ++ a :: after ∧ Declined answer tried before ∧
        (answer (tried ++ before) a).verdict a = some outcome := by
  induction candidates generalizing tried with
  | nil => exact Or.inl (declined_nil tried)
  | cons b rest ih =>
      cases hb : (answer tried b).verdict b with
      | some outcome =>
          refine Or.inr ⟨[], b, rest, outcome, rfl, declined_nil tried, ?_⟩
          rw [List.append_nil, hb]
      | none =>
          have hdecline := Answer.verdict_eq_none.mp hb
          rcases ih (tried ++ [b]) with hrest | ⟨before, a, after, outcome, rfl, hbefore, ha⟩
          · exact Or.inl (declined_cons.mpr ⟨hdecline, hrest⟩)
          · refine Or.inr ⟨b :: before, a, after, outcome, rfl, declined_cons.mpr ⟨hdecline, hbefore⟩, ?_⟩
            simpa using ha

/-! ## The search -/

/-- What is declined is tried, and the search goes on. -/
theorem firstFit_append (h : Declined answer tried before) (rest : List α) :
    firstFit answer tried (before ++ rest) = firstFit answer (tried ++ before) rest := by
  induction before generalizing tried with
  | nil => simp
  | cons b before ih =>
      obtain ⟨hb, hbefore⟩ := declined_cons.mp h
      rw [List.cons_append, firstFit, hb]
      show firstFit answer (tried ++ [b]) (before ++ rest) = _
      rw [ih hbefore]
      simp

theorem firstFit_of_declined (h : Declined answer tried before) :
    firstFit answer tried before = (.exhausted, tried ++ before) := by
  have hall := firstFit_append h []
  rwa [List.append_nil] at hall

theorem firstFit_of_decided {outcome : Search ε α} (h : Declined answer tried before)
    (ha : (answer (tried ++ before) a).verdict a = some outcome) (after : List α) :
    firstFit answer tried (before ++ a :: after) = (outcome, tried ++ before ++ [a]) := by
  rw [firstFit_append h, firstFit, ha]

/-! ## The outcomes -/

variable {candidates attempts : List α} {e : ε}

/-- The search ends with a candidate exactly if all before it were declined and its answer says so. -/
theorem firstFit_decided {outcome : Search ε α} (hne : outcome ≠ .exhausted) :
    firstFit answer tried candidates = (outcome, attempts) ↔
      ∃ before a after, candidates = before ++ a :: after ∧ Declined answer tried before ∧
        (answer (tried ++ before) a).verdict a = some outcome ∧ attempts = tried ++ before ++ [a] := by
  constructor
  · intro h
    rcases declined_or_decided answer tried candidates with hall | ⟨before, a, after, o, rfl, hbefore, ha⟩
    · rw [firstFit_of_declined hall] at h
      exact absurd (Prod.mk.inj h).1.symm hne
    · rw [firstFit_of_decided hbefore ha] at h
      obtain ⟨rfl, rfl⟩ := Prod.mk.inj h
      exact ⟨before, a, after, rfl, hbefore, ha, rfl⟩
  · rintro ⟨before, a, after, rfl, hbefore, ha, rfl⟩
    exact firstFit_of_decided hbefore ha after

/-- A candidate is found exactly if it is accepted after all before it were declined. -/
theorem firstFit_found :
    firstFit answer tried candidates = (.found a, attempts) ↔
      ∃ before after, candidates = before ++ a :: after ∧ Declined answer tried before ∧
        answer (tried ++ before) a = .accept ∧ attempts = tried ++ before ++ [a] := by
  have hne : Search.found a ≠ (Search.exhausted : Search ε α) := nofun
  rw [firstFit_decided hne]
  simp only [Answer.verdict_eq_found]
  constructor
  · rintro ⟨before, b, after, hsplit, hbefore, ⟨hb, rfl⟩, hattempts⟩
    exact ⟨before, after, hsplit, hbefore, hb, hattempts⟩
  · rintro ⟨before, after, hsplit, hbefore, ha, hattempts⟩
    exact ⟨before, a, after, hsplit, hbefore, ⟨ha, rfl⟩, hattempts⟩

/-- The search fails exactly if a candidate ends it with an error after all before it were declined. -/
theorem firstFit_failed :
    firstFit answer tried candidates = (.failed e, attempts) ↔
      ∃ before a after, candidates = before ++ a :: after ∧ Declined answer tried before ∧
        answer (tried ++ before) a = .abort e ∧ attempts = tried ++ before ++ [a] := by
  have hne : Search.failed e ≠ (Search.exhausted : Search ε α) := nofun
  rw [firstFit_decided hne]
  simp only [Answer.verdict_eq_failed]

/-- The search exhausts the candidates exactly if they are all declined. -/
theorem firstFit_exhausted :
    firstFit answer tried candidates = (.exhausted, attempts) ↔
      Declined answer tried candidates ∧ attempts = tried ++ candidates := by
  constructor
  · intro h
    rcases declined_or_decided answer tried candidates with hall | ⟨before, a, after, o, rfl, hbefore, ha⟩
    · rw [firstFit_of_declined hall] at h
      exact ⟨hall, (Prod.mk.inj h).2.symm⟩
    · rw [firstFit_of_decided hbefore ha] at h
      obtain ⟨rfl, -⟩ := Prod.mk.inj h
      exact absurd ha Answer.verdict_ne_exhausted
  · rintro ⟨hall, rfl⟩
    exact firstFit_of_declined hall

/-- Only candidates are tried, and in their order. -/
theorem firstFit_attempts (answer : List α → α → Answer ε) (tried candidates : List α) :
    ∃ attempts, (firstFit answer tried candidates).2 = tried ++ attempts ∧ attempts <+: candidates := by
  rcases declined_or_decided answer tried candidates with hall | ⟨before, a, after, o, rfl, hbefore, ha⟩
  · rw [firstFit_of_declined hall]
    exact ⟨candidates, rfl, List.prefix_refl _⟩
  · rw [firstFit_of_decided hbefore ha]
    exact ⟨before ++ [a], by simp, after, by simp⟩

end Declined
end Ricoq
