import Ricoq.Ipc.Correctness.Routing

/-!
# `Ipc.Correctness.Defer` — what a deferred reply holds

`defer` takes a successful `save_caller` for proof that the caller slot was saved. The kernel also reports
success when the caller slot is empty, and moves nothing. Deferring a message that was sent one-way therefore
returns a deferred reply whose slot is empty (`one_way_deferred`), where `NoReplyAuthority` is documented.

A deferral is `Authoritative` if a deferred reply is returned only with the authority to answer the client of
its message, and a message without such authority is refused. `deferral_authoritative_iff` says when it is.
-/

namespace Ricoq

open Sel4

namespace HeldMessage

/-- A returned reply holds the capability of the client, and a message that carried none is refused, with the
    pools as they were and the endpoint able to receive. -/
structure Authoritative (m : HeldMessage) (pool : Nat) (refused : Bool) (s : IpcState) : Prop where
  holds : ∀ d s', m.received.defer pool refused s = (.ok d, s') →
    ∃ c, m.caller = some c ∧ s'.kernel.replyCaps d.slot = some c
  refuses : m.caller = none → ∃ s', m.received.defer pool refused s = (.err .noReplyAuthority, s') ∧
    s'.pools = s.pools ∧ s'.pending m.received.endpoint = false

/-- Every slot of the pool is in use. -/
def PoolFull (s : IpcState) (pool : Nat) : Prop := (s.pools pool).reserve.1 = none

/-- The pool has a slot, and the kernel fails to save the caller slot to it. -/
def SaveFails (s : IpcState) (pool : Nat) (refused : Bool) : Prop :=
  ∃ slot pool', (s.pools pool).reserve = (some slot, pool') ∧
    (refused || (s.kernel.replyCaps slot).isSome) = true

/-- The condition: the client of the message is in the caller slot, or there is none and saving fails for
    another reason. -/
def Savable (m : HeldMessage) (pool : Nat) (refused : Bool) (s : IpcState) : Prop :=
  match m.caller with
  | some c => s.kernel.caller = some c ∨ PoolFull s pool ∨ SaveFails s pool refused
  | none   => SaveFails s pool refused

/-- The three ways a deferral can go, by what the pool and the kernel do. -/
theorem defer_trichotomy (m : HeldMessage) (pool : Nat) (refused : Bool) (s : IpcState) :
    (PoolFull s pool ∧ ¬ SaveFails s pool refused ∧
      m.received.defer pool refused s = (.err .noReplySlots, s.cleared m.received.endpoint)) ∨
    (¬ PoolFull s pool ∧ SaveFails s pool refused ∧
      m.received.defer pool refused s = (.err .noReplyAuthority, s.cleared m.received.endpoint)) ∨
    (¬ PoolFull s pool ∧ ¬ SaveFails s pool refused ∧ ∃ d s',
      m.received.defer pool refused s = (.ok d, s') ∧ s'.kernel.replyCaps d.slot = s.kernel.caller) := by
  rcases m.received.defer_cases pool refused s with
    ⟨hfull, hrun⟩ | ⟨slot, pool', hres, hfails, hrun⟩ | ⟨slot, pool', hres, hgoes, hempty, hrun⟩
  · refine Or.inl ⟨congrArg Prod.fst hfull, ?_, hrun⟩
    rintro ⟨slot, pool', hres, -⟩
    exact nomatch (Prod.mk.inj (hfull.symm.trans hres)).1
  · refine Or.inr (Or.inl ⟨?_, ⟨slot, pool', hres, hfails⟩, hrun⟩)
    exact fun hfull => nomatch (congrArg Prod.fst hres).symm.trans hfull
  · refine Or.inr (Or.inr ⟨?_, ?_, _, _, hrun, Function.update_self ..⟩)
    · exact fun hfull => nomatch (congrArg Prod.fst hres).symm.trans hfull
    · rintro ⟨slot', pool'', hres', hfails⟩
      obtain ⟨hslot, -⟩ := Prod.mk.inj (hres.symm.trans hres')
      obtain rfl := Option.some.inj hslot
      rw [hgoes, hempty] at hfails
      exact nomatch hfails

theorem authoritative_iff (m : HeldMessage) (pool : Nat) (refused : Bool) (s : IpcState) :
    m.Authoritative pool refused s ↔ m.Savable pool refused s := by
  unfold Savable
  rcases m.defer_trichotomy pool refused s with
    ⟨hfull, hsave, hrun⟩ | ⟨-, hsave, hrun⟩ | ⟨hfull, hsave, d, s', hrun, hsaved⟩
  · -- no slot: fine for a message that has a client
    cases hc : m.caller with
    | some c =>
        refine iff_of_true ⟨?_, ?_⟩ (Or.inr (Or.inl hfull))
        · exact fun d s' hok => nomatch (Prod.mk.inj (hrun.symm.trans hok)).1
        · exact fun hnone => nomatch hc.symm.trans hnone
    | none =>
        refine iff_of_false (fun hauth => ?_) hsave
        obtain ⟨s', herr, -⟩ := hauth.refuses hc
        exact nomatch (Prod.mk.inj (hrun.symm.trans herr)).1
  · -- saving failed
    have hauth : m.Authoritative pool refused s := by
      refine ⟨?_, fun _ => ⟨_, hrun, rfl, Function.update_self ..⟩⟩
      exact fun d s' hok => nomatch (Prod.mk.inj (hrun.symm.trans hok)).1
    cases m.caller with
    | some c => exact iff_of_true hauth (Or.inr (Or.inr hsave))
    | none => exact iff_of_true hauth hsave
  · -- whatever was in the caller slot has been saved
    cases hc : m.caller with
    | some c =>
        constructor
        · intro hauth
          obtain ⟨c', hc', hslot⟩ := hauth.holds d s' hrun
          obtain rfl := Option.some.inj (hc.symm.trans hc')
          exact Or.inl (hsaved.symm.trans hslot)
        · rintro (hcaller | hfull' | hsave')
          · refine ⟨?_, fun hnone => nomatch hc.symm.trans hnone⟩
            intro d' s'' hok
            obtain ⟨hd, rfl⟩ := Prod.mk.inj (hrun.symm.trans hok)
            obtain rfl := Outcome.ok.inj hd
            exact ⟨c, hc, hsaved.trans hcaller⟩
          · exact absurd hfull' hfull
          · exact absurd hsave' hsave
    | none =>
        refine iff_of_false (fun hauth => ?_) hsave
        obtain ⟨c, hc', -⟩ := hauth.holds d s' hrun
        exact nomatch hc.symm.trans hc'

end HeldMessage

namespace World

/-- **When a deferral is authoritative.** In any state: the client of the message is in the caller slot or no
    reply is returned, and a message without a client fails to be saved for another reason. In a run whose
    receives find every other flag clear, the client of a held message is in the caller slot, so that only
    messages without a client are left. -/
theorem deferral_authoritative_iff (pool : Nat) (refused : Bool) :
    (∀ (m : HeldMessage) s, m.Authoritative pool refused s ↔ m.Savable pool refused s) ∧
    (∀ w, Reachable World.step World.Initial Unshared w → ∀ i m, w.messages i = some m →
      (m.Authoritative pool refused w.state ↔
        (m.caller = none → HeldMessage.SaveFails w.state pool refused))) := by
  refine ⟨fun m s => m.authoritative_iff pool refused s, ?_⟩
  intro w h i m hm
  have hclient := (routed_reachable h).client i m hm
  rw [m.authoritative_iff, HeldMessage.Savable]
  cases hc : m.caller with
  | some c => exact iff_of_true (Or.inl (hclient.trans hc)) nofun
  | none => exact ⟨fun hsave _ => hsave, fun hsave => hsave rfl⟩

/-- A badged message sent one-way. -/
def notice : Delivery := ⟨0, 0, [], [], 1, none⟩

/-- A request deferred: the reply holds its client. -/
theorem deferral_authoritative_iff_request :
    ∃ w m, start.step (.receive 0 none (request 1 [])) = some w ∧ w.messages 0 = some m ∧
      m.Authoritative 0 false w.state := by
  have hready : Unshared start (.receive 0 none (request 1 [])) := fun _ _ _ _ _ _ => rfl
  refine ⟨_, _, rfl, rfl, ?_⟩
  exact ((deferral_authoritative_iff 0 false).2 _ ((Reachable.refl initial_start).tail hready rfl) 0 _ rfl).mpr
    nofun

/-- A one-way message is received and deferred. A deferred reply is returned, and its slot is empty. -/
theorem one_way_deferred :
    ∃ w m d s', Reachable World.step World.Initial Unshared w ∧ w.messages 0 = some m ∧ m.caller = none ∧
      m.received.defer 0 false w.state = (.ok d, s') ∧ s'.kernel.replyCaps d.slot = none ∧
      ¬ m.Authoritative 0 false w.state := by
  have hready : Unshared start (.receive 0 none notice) := fun _ _ _ _ _ _ => rfl
  obtain ⟨w, hstep, hobs⟩ : ∃ w, start.step (.receive 0 none notice) = some w ∧
      w.state.kernel.caller = none ∧ (w.messages 0).map (·.caller) = some none ∧
      (w.state.pools 0).reserve.1 = some 100 ∧ w.state.kernel.replyCaps 100 = none :=
    ⟨_, rfl, rfl, rfl, by decide +kernel, rfl⟩
  obtain ⟨hcaller, hmessage, hslot, hempty⟩ := hobs
  obtain ⟨m, hm, hnone⟩ := Option.map_eq_some_iff.mp hmessage
  have hfree : ¬ HeldMessage.SaveFails w.state 0 false := by
    rintro ⟨slot, pool', hres, hfails⟩
    obtain rfl := Option.some.inj (hslot.symm.trans (congrArg Prod.fst hres))
    rw [hempty] at hfails
    exact nomatch hfails
  rcases m.defer_trichotomy 0 false w.state with ⟨hfull, -⟩ | ⟨-, hsave, -⟩ | ⟨-, -, d, s', hrun, hsaved⟩
  · exact nomatch hslot.symm.trans hfull
  · exact absurd hsave hfree
  · refine ⟨w, m, d, s', (Reachable.refl initial_start).tail hready hstep, hm, hnone, hrun,
      hsaved.trans hcaller, ?_⟩
    intro hauth
    obtain ⟨c, hc, -⟩ := hauth.holds d s' hrun
    exact nomatch hnone.symm.trans hc

end World
end Ricoq
