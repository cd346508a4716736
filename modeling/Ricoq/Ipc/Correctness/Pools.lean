import Ricoq.Boot.Correctness.Ownership
import Ricoq.Ipc.Correctness.Effect

/-!
# `Ipc.Correctness.Pools` — who owns the slots of the reply pools

A pool comes from `allocateReplyPool` with a range of empty root slots and no bit set. From then on a bit is
set exactly while its slot belongs to a deferred reply, or for good once discarding the reply in it has failed:
the handle is gone, the capability may still be there, and nobody will clear the bit. `Ledger` keeps a record
of those next to the world; `Pooled` is the invariant.

Every slot whose bit is clear is empty, so `defer` never aims `save_caller` at a slot in use.
-/

namespace Ricoq

open Sel4 Bootstrap

/-! ## Pools as bootstrap makes them -/

/-- The pool a handle stands for. -/
def Handle.pool : Handle → Option ReplyPool
  | .replyPool pool => some pool
  | _               => none

namespace RootTask

/-- The reply pools allocated so far. -/
def pools (w : RootTask) : List ReplyPool := w.handles.filterMap Handle.pool

/-- The pools have slots, none of them is in use, and all of them are empty. -/
def PoolsVacant (w : RootTask) : Prop :=
  ∀ pool, .replyPool pool ∈ w.handles → pool.occupied = 0 ∧ 0 < pool.len ∧
    ∀ slot, pool.Owns slot → w.state.kernel.root slot = none

theorem mem_pools {w : RootTask} {pool : ReplyPool} : pool ∈ w.pools ↔ .replyPool pool ∈ w.handles := by
  unfold pools
  rw [List.mem_filterMap]
  constructor
  · rintro ⟨handle, hmem, hpool⟩
    cases handle with
    | replyPool p =>
        obtain rfl := Option.some.inj hpool
        exact hmem
    | _ => exact nomatch hpool
  · exact fun hmem => ⟨.replyPool pool, hmem, rfl⟩

variable (h : Host) {w w' : RootTask}

/-- What is behind the allocator stays, so pools stay empty; a pool that is returned is empty as well. -/
theorem PoolsVacant.perform {α : Type} {x : Boot α} {keep : α → BootState → Handle} (ho : Ordered h w)
    (hw : w.PoolsVacant) (hx : Yields x w.state fun a s => (keep a s).slots)
    (hs : w.perform x keep = some w')
    (hnew : ∀ a s, x w.state = (.ok a, s) → ∀ pool, keep a s = .replyPool pool →
      pool.occupied = 0 ∧ 0 < pool.len ∧ ∀ slot, pool.Owns slot → s.kernel.root slot = none) :
    w'.PoolsVacant := by
  have hold : ∀ s, Advances w.state s → ∀ pool, .replyPool pool ∈ w.handles → pool.occupied = 0 ∧
      0 < pool.len ∧ ∀ slot, pool.Owns slot → s.kernel.root slot = none := by
    intro s ha pool hmem
    obtain ⟨hocc, hlen, hempty⟩ := hw pool hmem
    refine ⟨hocc, hlen, fun slot hslot => ?_⟩
    have hlt : slot < w.state.slots.start := Nat.lt_of_lt_of_le hslot.2 (ho.within _ hmem).2
    rw [ha.below slot hlt]
    exact hempty slot hslot
  rcases RootTask.perform_cases hx hs with ⟨a, s, hrun, ⟨ha, -⟩, rfl⟩ | ⟨e, s, -, ha, rfl⟩
  · intro pool hmem
    rcases List.mem_append.mp hmem with hmem | hlast
    · exact hold s ha pool hmem
    · exact hnew a s hrun pool (List.mem_singleton.mp hlast).symm
  · exact hold s ha

/-- One operation keeps the pools empty. -/
theorem PoolsVacant.step {op : RootOp} (ho : Ordered h w) (hw : w.PoolsVacant) (hs : step h w op = some w') :
    w'.PoolsVacant := by
  unfold RootTask.step at hs
  cases op with
  | allocateFrame => exact hw.perform h ho (allocateFrame_yields h _) hs fun _ _ _ _ hpool => nomatch hpool
  | allocateEndpoint =>
      exact hw.perform h ho (allocateBlueprint_yields h _ .endpoint) hs fun _ _ _ _ hpool => nomatch hpool
  | allocateNotification =>
      exact hw.perform h ho (allocateBlueprint_yields h _ .notification) hs fun _ _ _ _ hpool => nomatch hpool
  | allocateFaultEndpoint =>
      exact hw.perform h ho (allocateBlueprint_yields h _ .endpoint) hs fun _ _ _ _ hpool => nomatch hpool
  | allocateReplyPool capacity =>
      refine hw.perform h ho (allocateReplyPool_yields _ capacity) hs ?_
      rintro pool s hrun _ ⟨⟩
      rcases allocateReplyPool_cases w.state capacity with
        ⟨e, hrun'⟩ | ⟨pool', slots, hrun', hreserve, hocc, hcap⟩
      · exact nomatch (Prod.mk.inj (hrun.symm.trans hrun')).1
      · obtain ⟨hpool, rfl⟩ := Prod.mk.inj (hrun.symm.trans hrun')
        obtain rfl := Outcome.ok.inj hpool
        obtain ⟨hfit, hrange, -⟩ := FreeSlots.reserve_eq_some.mp hreserve
        obtain ⟨hlo, hhi⟩ := Prod.mk.inj hrange
        refine ⟨hocc, by unfold ReplyPool.len; omega, ?_⟩
        rintro slot ⟨hslot, hslot'⟩
        -- the range was ahead of the allocator
        exact ho.vacant slot (by omega) (by omega)
  | createTask config =>
      refine hw.perform h ho ((createTask_settles h (fun _ => False) config _).yields ?_) hs
        fun _ _ _ _ hpool => nomatch hpool
      rintro task s ⟨-, code, width, hbuilt⟩
      exact hbuilt.rootSlots
  | mapRecoveryFrame task frame address =>
      refine hw.perform h ho ((mapRecoveryFrame_settles h task frame address _).yields ?_) hs
        fun _ _ _ _ hpool => nomatch hpool
      rintro mapping s ⟨rfl, hstart, -⟩
      rw [hstart]
      rfl

/-- Pools that were allocated at different times have no slot in common. -/
theorem Ordered.pools_disjoint (ho : Ordered h w) {p q : Nat} {pool pool' : ReplyPool}
    (hp : w.pools[p]? = some pool) (hq : w.pools[q]? = some pool') {slot : Nat} (hslot : pool.Owns slot)
    (hslot' : pool'.Owns slot) : p = q := by
  have hordered : w.pools.Pairwise fun x y => x.stop ≤ y.start := by
    unfold pools
    rw [List.pairwise_filterMap]
    apply ho.ordered.imp
    intro x y hxy pool hx pool' hy
    cases x with
    | replyPool p =>
        cases y with
        | replyPool q =>
            obtain rfl := Option.some.inj hx
            obtain rfl := Option.some.inj hy
            exact hxy
        | _ => exact nomatch hy
    | _ => exact nomatch hx
  obtain ⟨hplt, rfl⟩ := List.getElem?_eq_some_iff.mp hp
  obtain ⟨hqlt, rfl⟩ := List.getElem?_eq_some_iff.mp hq
  rw [List.pairwise_iff_getElem] at hordered
  have hlo := hslot.1
  have hhi := hslot.2
  have hlo' := hslot'.1
  have hhi' := hslot'.2
  rcases Nat.lt_trichotomy p q with hlt | heq | hgt
  · have := hordered p q hplt hqlt hlt
    omega
  · exact heq
  · have := hordered q p hqlt hplt hgt
    omega

end RootTask

/-! ## The ledger -/

/-- A world, and the deferred replies whose discard has failed. -/
structure Ledger where
  world : World
  retired : List DeferredReply

namespace Ledger

/-- The deferred reply that an operation retires. -/
def retires (w : World) : Op → List DeferredReply
  | .discard handle refused =>
    match w.deferred handle with
    | some d => if (d.reply.discard refused w.state).1 = .ok () then [] else [d.reply]
    | none   => []
  | _ => []

def step (x : Ledger) (op : Op) : Option Ledger := do
  let world ← x.world.step op
  return ⟨world, retires x.world op ++ x.retired⟩

/-- The IPC layer starts without handles and with the pools the root task holds, whose slots hold no reply
    capability as long as they are empty; trackers and child slots agree. -/
structure Initial (rt : RootTask) (x : Ledger) : Prop where
  pending : ∀ e, x.world.state.pending e = false
  messages : ∀ h, x.world.messages h = none
  deferred : ∀ h, x.world.deferred h = none
  slots : ∀ h, x.world.slots h = none
  settled : ∀ root i, (x.world.state.cspaces root).slots.stateOf i ≠ .reserved
  tracked : ∀ root i, (x.world.state.cspaces root).slots.stateOf i = .free →
    x.world.state.kernel.children root i = none
  pools : ∀ p, x.world.state.pools p = (rt.pools[p]?).getD .none
  replyCaps : ∀ slot, rt.state.kernel.root slot = none → x.world.state.kernel.replyCaps slot = none
  retired : x.retired = []

/-- The slot belongs to a deferred reply that is held. -/
def Live (x : Ledger) (p slot : Nat) : Prop := ∃ i d, x.world.deferred i = some d ∧ d.reply = ⟨p, slot⟩

/-- A discard of the reply in the slot has failed. -/
def Retired (x : Ledger) (p slot : Nat) : Prop := ⟨p, slot⟩ ∈ x.retired

/-! ## The invariant -/

structure Pooled (x : Ledger) : Prop where
  fresh : ∀ i, x.world.next ≤ i → x.world.deferred i = none
  disjoint : ∀ p q slot, (x.world.state.pools p).Owns slot → (x.world.state.pools q).Owns slot → p = q
  bounded : ∀ p, (x.world.state.pools p).Bounded
  owns : ∀ p slot, x.Live p slot ∨ x.Retired p slot → (x.world.state.pools p).Owns slot
  distinct : ∀ i j d d', x.world.deferred i = some d → x.world.deferred j = some d' →
    d.reply = d'.reply → i = j
  exclusive : ∀ p slot, x.Live p slot → ¬ x.Retired p slot
  inUse : ∀ p slot, (x.world.state.pools p).Owns slot →
    ((x.world.state.pools p).InUse slot ↔ x.Live p slot ∨ x.Retired p slot)
  vacant : ∀ p slot, (x.world.state.pools p).Owns slot → ¬ (x.world.state.pools p).InUse slot →
    x.world.state.kernel.replyCaps slot = none

section Changes

variable {x x' : Ledger}

/-- Neither the deferred replies nor the pools change. -/
theorem Pooled.of_eq (hx : x.Pooled) (hdeferred : x'.world.deferred = x.world.deferred)
    (hpools : x'.world.state.pools = x.world.state.pools)
    (hcaps : x'.world.state.kernel.replyCaps = x.world.state.kernel.replyCaps)
    (hnext : x.world.next ≤ x'.world.next) (hretired : x'.retired = x.retired) : x'.Pooled := by
  obtain ⟨w, retired⟩ := x
  obtain ⟨w', retired'⟩ := x'
  subst hretired
  have hlive : ∀ p slot, Live ⟨w', retired'⟩ p slot ↔ Live ⟨w, retired'⟩ p slot := by
    intro p slot
    show (∃ i d, w'.deferred i = some d ∧ _) ↔ _
    rw [hdeferred]
    exact Iff.rfl
  refine ⟨?_, ?_, ?_, ?_, ?_, ?_, ?_, ?_⟩
  · intro i hi
    exact (congrFun hdeferred i).trans (hx.fresh i (Nat.le_trans hnext hi))
  · dsimp only
    rw [hpools]
    exact hx.disjoint
  · dsimp only
    rw [hpools]
    exact hx.bounded
  · intro p slot h
    dsimp only
    rw [hpools]
    exact hx.owns p slot (h.imp_left (hlive p slot).mp)
  · dsimp only
    rw [hdeferred]
    exact hx.distinct
  · intro p slot h
    exact hx.exclusive p slot ((hlive p slot).mp h)
  · intro p slot hown
    dsimp only at hown ⊢
    rw [hpools] at hown ⊢
    rw [hlive]
    exact hx.inUse p slot hown
  · dsimp only
    rw [hpools, hcaps]
    exact hx.vacant

/-- A deferred reply that is no longer held is not live any more; every other one is. -/
theorem Pooled.live_drop (hx : x.Pooled) {h : Nat} {d : HeldReply} (hd : x.world.deferred h = some d)
    (hdeferred : x'.world.deferred = (x.world.dropDeferred h).deferred) (p slot : Nat) :
    x'.Live p slot ↔ x.Live p slot ∧ d.reply ≠ ⟨p, slot⟩ := by
  rw [Live, hdeferred]
  constructor
  · rintro ⟨i, d', hi, hreply⟩
    obtain ⟨hne, hi⟩ := update_none_eq_some.mp hi
    refine ⟨⟨i, d', hi, hreply⟩, fun heq => hne ?_⟩
    exact hx.distinct i h d' d hi hd (hreply.trans heq.symm)
  · rintro ⟨⟨i, d', hi, hreply⟩, hne⟩
    refine ⟨i, d', update_none_eq_some.mpr ⟨?_, hi⟩, hreply⟩
    rintro rfl
    obtain rfl := Option.some.inj (hd.symm.trans hi)
    exact hne hreply

theorem Pooled.drop_cases {h i : Nat} {d : HeldReply}
    (hdeferred : x'.world.deferred = (x.world.dropDeferred h).deferred) (hi : x'.world.deferred i = some d) :
    x.world.deferred i = some d := by
  rw [hdeferred] at hi
  exact (update_none_eq_some.mp hi).2

theorem Pooled.fresh_drop (hx : x.Pooled) {h : Nat} (hnext : x'.world.next = x.world.next)
    (hdeferred : x'.world.deferred = (x.world.dropDeferred h).deferred) (i : Nat) (hi : x'.world.next ≤ i) :
    x'.world.deferred i = none := by
  cases hi' : x'.world.deferred i with
  | none => rfl
  | some d => exact nomatch (hx.fresh i (hnext ▸ hi)).symm.trans (drop_cases hdeferred hi')

/-- Using or deleting the reply in a slot releases the slot. -/
theorem Pooled.release (hx : x.Pooled) {h : Nat} {d : HeldReply} (hd : x.world.deferred h = some d)
    {kernel : Kernel}
    (hcaps : kernel.replyCaps = Function.update x.world.state.kernel.replyCaps d.reply.slot none)
    (hworld : x'.world = { x.world.dropDeferred h with state := x.world.state.released d.reply kernel })
    (hretired : x'.retired = x.retired) : x'.Pooled := by
  have hdeferred : x'.world.deferred = (x.world.dropDeferred h).deferred := by rw [hworld]
  have hstate : x'.world.state = x.world.state.released d.reply kernel := by rw [hworld]
  have hmine : (x.world.state.pools d.reply.pool).Owns d.reply.slot := hx.owns _ _ (Or.inl ⟨h, d, hd, rfl⟩)
  have howns : ∀ p slot, (x'.world.state.pools p).Owns slot ↔ (x.world.state.pools p).Owns slot := by
    rw [hstate]
    exact IpcState.owns_released
  have huse : ∀ p slot, (x.world.state.pools p).Owns slot → ((x'.world.state.pools p).InUse slot ↔
      (x.world.state.pools p).InUse slot ∧ d.reply ≠ ⟨p, slot⟩) := by
    rw [hstate]
    exact fun p slot hown => IpcState.inUse_released hmine hown
  have hlive := hx.live_drop hd hdeferred
  have hnot : ∀ p slot, x.Retired p slot → d.reply ≠ ⟨p, slot⟩ :=
    fun p slot hr heq => hx.exclusive p slot ⟨h, d, hd, heq⟩ hr
  have hsame : ∀ p slot, x'.Retired p slot ↔ x.Retired p slot := by
    intro p slot
    rw [Retired, hretired]
    exact Iff.rfl
  refine ⟨hx.fresh_drop (by rw [hworld]; rfl) hdeferred, ?_, ?_, ?_, ?_, ?_, ?_, ?_⟩
  · intro p q slot hp hq
    exact hx.disjoint p q slot ((howns p slot).mp hp) ((howns q slot).mp hq)
  · rw [hstate]
    exact IpcState.bounded_released hmine hx.bounded
  · intro p slot h'
    refine (howns p slot).mpr (hx.owns p slot ?_)
    exact h'.imp (fun hl => ((hlive p slot).mp hl).1) (hsame p slot).mp
  · intro i j d₁ d₂ hi hj
    exact hx.distinct i j d₁ d₂ (drop_cases hdeferred hi) (drop_cases hdeferred hj)
  · intro p slot hl hr
    exact hx.exclusive p slot ((hlive p slot).mp hl).1 ((hsame p slot).mp hr)
  · intro p slot hown
    have hown' := (howns p slot).mp hown
    rw [huse p slot hown', hx.inUse p slot hown', hlive, hsame]
    constructor
    · rintro ⟨hl | hr, hne⟩
      · exact Or.inl ⟨hl, hne⟩
      · exact Or.inr hr
    · rintro (⟨hl, hne⟩ | hr)
      · exact ⟨Or.inl hl, hne⟩
      · exact ⟨Or.inr hr, hnot p slot hr⟩
  · intro p slot hown hfree
    have hown' := (howns p slot).mp hown
    rw [huse p slot hown'] at hfree
    rw [hworld]
    show kernel.replyCaps slot = none
    rw [hcaps]
    by_cases hslot : slot = d.reply.slot
    · rw [hslot, Function.update_self]
    · rw [Function.update_of_ne hslot]
      refine hx.vacant p slot hown' fun hu => hfree ⟨hu, fun heq => hslot ?_⟩
      exact (congrArg DeferredReply.slot heq).symm

/-- A reply whose discard fails takes its slot out of circulation. -/
theorem Pooled.retire (hx : x.Pooled) {h : Nat} {d : HeldReply} (hd : x.world.deferred h = some d)
    (hworld : x'.world = x.world.dropDeferred h) (hretired : x'.retired = d.reply :: x.retired) : x'.Pooled := by
  have hdeferred : x'.world.deferred = (x.world.dropDeferred h).deferred := by rw [hworld]
  have hstate : x'.world.state = x.world.state := by rw [hworld]; rfl
  have hlive := hx.live_drop hd hdeferred
  have hmine : x.Live d.reply.pool d.reply.slot := ⟨h, d, hd, rfl⟩
  have hsame : ∀ p slot, x'.Retired p slot ↔ d.reply = ⟨p, slot⟩ ∨ x.Retired p slot := by
    intro p slot
    rw [Retired, hretired, List.mem_cons, eq_comm]
    exact Iff.rfl
  -- a slot changes from live to retired, or stays what it was
  have hboth : ∀ p slot, x'.Live p slot ∨ x'.Retired p slot ↔ x.Live p slot ∨ x.Retired p slot := by
    intro p slot
    rw [hlive, hsame]
    by_cases heq : d.reply = ⟨p, slot⟩
    · have hl : x.Live p slot := ⟨h, d, hd, heq⟩
      simp [heq, hl]
    · simp [heq]
  refine ⟨hx.fresh_drop (by rw [hworld]; rfl) hdeferred, ?_, ?_, ?_, ?_, ?_, ?_, ?_⟩
  · rw [hstate]
    exact hx.disjoint
  · rw [hstate]
    exact hx.bounded
  · intro p slot h'
    rw [hstate]
    exact hx.owns p slot ((hboth p slot).mp h')
  · intro i j d₁ d₂ hi hj
    exact hx.distinct i j d₁ d₂ (drop_cases hdeferred hi) (drop_cases hdeferred hj)
  · intro p slot hl hr
    obtain ⟨hl, hne⟩ := (hlive p slot).mp hl
    rcases (hsame p slot).mp hr with heq | hr
    · exact hne heq
    · exact hx.exclusive p slot hl hr
  · intro p slot hown
    rw [hboth, hstate]
    exact hx.inUse p slot (hstate ▸ hown)
  · rw [hstate]
    exact hx.vacant

/-- A deferred reply that is returned makes its slot live. -/
theorem Pooled.live_add (hx : x.Pooled) {d : HeldReply}
    (hdeferred : x'.world.deferred = Function.update x.world.deferred x.world.next (some d)) (p slot : Nat) :
    x'.Live p slot ↔ x.Live p slot ∨ d.reply = ⟨p, slot⟩ := by
  rw [Live, hdeferred]
  constructor
  · rintro ⟨i, d', hi, hreply⟩
    rcases update_some_eq_some.mp hi with ⟨-, rfl⟩ | ⟨-, hi⟩
    · exact Or.inr hreply
    · exact Or.inl ⟨i, d', hi, hreply⟩
  · rintro (⟨i, d', hi, hreply⟩ | hreply)
    · refine ⟨i, d', update_some_eq_some.mpr (Or.inr ⟨?_, hi⟩), hreply⟩
      rintro rfl
      exact nomatch (hx.fresh _ (Nat.le_refl _)).symm.trans hi
    · exact ⟨_, d, update_some_eq_some.mpr (Or.inl ⟨rfl, rfl⟩), hreply⟩

/-- Saving a reply takes a slot that was neither live nor retired. -/
theorem Pooled.defer (hx : x.Pooled) {h pool slot : Nat} {m : HeldMessage} {pool' : ReplyPool}
    (hreserve : (x.world.state.pools pool).reserve = (some slot, pool'))
    (hworld : x'.world = { x.world.dropMessage h with
      state := x.world.state.deferred m.received.endpoint pool slot pool' }.addDeferred
        ⟨⟨pool, slot⟩, m.caller⟩) (hretired : x'.retired = x.retired) : x'.Pooled := by
  obtain ⟨hown, hfree, -⟩ := ReplyPool.reserve_some hreserve
  have hdeferred : x'.world.deferred = Function.update x.world.deferred x.world.next
      (some ⟨⟨pool, slot⟩, m.caller⟩) := by rw [hworld]; rfl
  have hstate : x'.world.state = x.world.state.deferred m.received.endpoint pool slot pool' := by
    rw [hworld]
    rfl
  have howns : ∀ p i, (x'.world.state.pools p).Owns i ↔ (x.world.state.pools p).Owns i := by
    rw [hstate]
    exact IpcState.owns_deferred hreserve m.received.endpoint
  have huse : ∀ p i, (x.world.state.pools p).Owns i → ((x'.world.state.pools p).InUse i ↔
      (x.world.state.pools p).InUse i ∨ (p = pool ∧ i = slot)) := by
    rw [hstate]
    exact fun p i hi => IpcState.inUse_deferred hreserve m.received.endpoint hi
  have hnone : ¬ (x.Live pool slot ∨ x.Retired pool slot) := by
    exact fun h' => hfree ((hx.inUse pool slot hown).mpr h')
  have hlive : ∀ p i, x'.Live p i ↔ x.Live p i ∨ (p = pool ∧ i = slot) := by
    intro p i
    rw [hx.live_add hdeferred]
    simp [eq_comm]
  have hsame : ∀ p i, x'.Retired p i ↔ x.Retired p i := by
    intro p i
    rw [Retired, hretired]
    exact Iff.rfl
  refine ⟨?_, ?_, ?_, ?_, ?_, ?_, ?_, ?_⟩
  · intro i hi
    have hnext : x'.world.next = x.world.next + 1 := by rw [hworld]; rfl
    rw [hdeferred, Function.update_of_ne (by omega)]
    exact hx.fresh i (by omega)
  · intro p q i hp hq
    exact hx.disjoint p q i ((howns p i).mp hp) ((howns q i).mp hq)
  · rw [hstate]
    exact IpcState.bounded_deferred hreserve m.received.endpoint hx.bounded
  · intro p i h'
    refine (howns p i).mpr ?_
    rw [hlive, hsame] at h'
    rcases h' with (hl | ⟨rfl, rfl⟩) | hr
    · exact hx.owns p i (Or.inl hl)
    · exact hown
    · exact hx.owns p i (Or.inr hr)
  · intro i j d d' hi hj heq
    rw [hdeferred] at hi hj
    rcases update_some_eq_some.mp hi with ⟨hin, rfl⟩ | ⟨-, hd⟩ <;>
      rcases update_some_eq_some.mp hj with ⟨hjn, rfl⟩ | ⟨-, hd'⟩
    · exact hin.trans hjn.symm
    · exact absurd (Or.inl ⟨j, d', hd', heq.symm⟩) hnone
    · exact absurd (Or.inl ⟨i, d, hd, heq⟩) hnone
    · exact hx.distinct i j d d' hd hd' heq
  · intro p i hl hr
    have hr' := (hsame p i).mp hr
    rcases (hlive p i).mp hl with hl | ⟨rfl, rfl⟩
    · exact hx.exclusive p i hl hr'
    · exact hnone (Or.inr hr')
  · intro p i hi
    have hi' := (howns p i).mp hi
    rw [huse p i hi', hx.inUse p i hi', hlive, hsame, or_right_comm]
  · intro p i hi hnot
    have hi' := (howns p i).mp hi
    rw [huse p i hi'] at hnot
    rw [hworld]
    show Function.update x.world.state.kernel.replyCaps slot _ i = none
    rw [Function.update_of_ne ?_]
    · exact hx.vacant p i hi' fun hu => hnot (Or.inl hu)
    · -- another slot, since no two pools share one
      rintro rfl
      exact hnot (Or.inr ⟨hx.disjoint p pool i hi' hown, rfl⟩)

end Changes

/-! ## Steps and runs -/

/-- Only a discard can retire a reply. -/
theorem retires_of_ne {w : World} {op : Op} (hop : ∀ i refused, op ≠ .discard i refused) :
    retires w op = [] := by
  cases op with
  | discard i refused => exact absurd rfl (hop i refused)
  | _ => rfl

/-- An operation that is no discard. -/
theorem Pooled.of_effect {x : Ledger} {op : Op} {w' : World} (hx : x.Pooled)
    (hop : ∀ i refused, op ≠ .discard i refused) (h : World.Effect x.world op w') :
    Pooled ⟨w', x.retired⟩ := by
  cases h with
  | refused hopr htake hp =>
      have hstate := World.state_of_takeSlot htake
      have hnext := World.next_of_takeSlot htake
      refine hx.of_eq (World.deferred_of_takeSlot htake) ?_ ?_ (Nat.le_of_eq hnext.symm) rfl
      · exact congrArg IpcState.pools hstate
      · exact congrArg (fun s => s.kernel.replyCaps) hstate
  | @kept _ e _ o slot _ m hopr htake hready hm =>
      have hdeferred := World.deferred_of_takeSlot htake
      have hnext := World.next_of_takeSlot htake
      refine hx.of_eq hdeferred (World.pools_settled x.world.state e slot o)
        (World.replyCaps_settled x.world.state e slot o) ?_ rfl
      exact Nat.le_succ_of_le (Nat.le_of_eq hnext.symm)
  | @rejected _ e _ o slot _ hopr htake hready =>
      have hdeferred := World.deferred_of_takeSlot htake
      have hnext := World.next_of_takeSlot htake
      refine hx.of_eq hdeferred (World.pools_settled x.world.state e slot o) ?_ (Nat.le_of_eq hnext.symm) rfl
      exact (IpcState.replyCaps_answered ..).trans (World.replyCaps_settled x.world.state e slot o)
  | @empty _ e _ o slot _ hopr htake hready =>
      have hdeferred := World.deferred_of_takeSlot htake
      have hnext := World.next_of_takeSlot htake
      exact hx.of_eq hdeferred (World.pools_settled x.world.state e slot o)
        (World.replyCaps_settled x.world.state e slot o) (Nat.le_of_eq hnext.symm) rfl
  | answered hopr hm hpath => exact hx.of_eq rfl rfl (IpcState.replyCaps_answered ..) (Nat.le_refl _) rfl
  | deferred hm hreserve => exact hx.defer hreserve rfl rfl
  | @replied _ _ d buffer info hd hpath =>
      have hcaps := Kernel.replyCaps_sendReplyCap { x.world.state.kernel with buffer } info d.reply.slot
      exact hx.release hd hcaps rfl rfl
  | discarded => exact absurd rfl (hop _ _)
  | discardRefused => exact absurd rfl (hop _ _)
  | called hpath => exact hx.of_eq rfl rfl (Kernel.replyCaps_deliver ..) (Nat.le_refl _) rfl
  | sent hpath => exact hx.of_eq rfl rfl rfl (Nat.le_refl _) rfl
  | granted slot => exact hx.of_eq rfl rfl rfl (Nat.le_succ _) rfl
  | denied => exact hx

theorem pooled_step {x x' : Ledger} {op : Op} (hslots : x.world.SlotsReserved) (hx : x.Pooled)
    (h : x.step op = some x') : x'.Pooled := by
  obtain ⟨w', hstep, hrest⟩ := Option.bind_eq_some_iff.mp h
  obtain rfl := Option.some.inj hrest
  by_cases hop : ∃ i refused, op = .discard i refused
  · obtain ⟨i, refused, rfl⟩ := hop
    obtain ⟨d, hd, hrun⟩ := Option.bind_eq_some_iff.mp hstep
    cases refused with
    | true =>
        have hretires : retires x.world (.discard i true) = [d.reply] := by
          simp only [retires, hd, d.reply.discard_refused]
          rfl
        refine hx.retire hd (World.perform_err hrun rfl (d.reply.discard_refused x.world.state)) ?_
        rw [hretires]
        rfl
    | false =>
        have hretires : retires x.world (.discard i false) = [] := by
          simp only [retires, hd, d.reply.discard_done]
          rfl
        refine hx.release hd rfl (World.perform_ok hrun rfl (d.reply.discard_done x.world.state)) ?_
        rw [hretires]
        rfl
  · have hne : ∀ i refused, op ≠ .discard i refused := fun i refused heq => hop ⟨i, refused, heq⟩
    rw [retires_of_ne hne]
    exact hx.of_effect hne (World.effect_of_step hslots hstep)

section Runs

variable {h : Host} {rt : RootTask} {x : Ledger}

/-- Each pool is one the root task holds, or has no slots. -/
theorem Initial.pool_cases (hx : x.Initial rt) (p : Nat) :
    (∃ pool, rt.pools[p]? = some pool ∧ x.world.state.pools p = pool) ∨
    x.world.state.pools p = .none := by
  have hpool := hx.pools p
  cases hp : rt.pools[p]? with
  | none =>
      rw [hp] at hpool
      exact Or.inr hpool
  | some pool =>
      rw [hp] at hpool
      exact Or.inl ⟨pool, rfl, hpool⟩

theorem Initial.world (ho : RootTask.Ordered h rt) (hx : x.Initial rt) : x.world.Initial where
  pending := hx.pending
  messages := hx.messages
  deferred := hx.deferred
  slots := hx.slots
  disjoint p q slot hp hq := by
    rcases hx.pool_cases p with ⟨pool, hat, hpool⟩ | hpool
    · rcases hx.pool_cases q with ⟨pool', hat', hpool'⟩ | hpool'
      · exact ho.pools_disjoint h hat hat' (hpool ▸ hp) (hpool' ▸ hq)
      · rw [hpool'] at hq
        exact absurd hq.2 (Nat.not_lt_zero slot)
    · rw [hpool] at hp
      exact absurd hp.2 (Nat.not_lt_zero slot)
  settled := hx.settled
  tracked := hx.tracked

theorem pooled_initial (ho : RootTask.Ordered h rt) (hv : rt.PoolsVacant) (hx : x.Initial rt) : x.Pooled := by
  have hnolive : ∀ p slot, ¬ x.Live p slot := by
    rintro p slot ⟨i, d, hd, -⟩
    rw [hx.deferred i] at hd
    cases hd
  have hnoretired : ∀ p slot, ¬ x.Retired p slot := by
    intro p slot hr
    rw [Retired, hx.retired] at hr
    exact List.not_mem_nil hr
  have hclear : ∀ p, (x.world.state.pools p).occupied = 0 := by
    intro p
    rcases hx.pool_cases p with ⟨pool, hat, hpool⟩ | hpool
    · rw [hpool]
      exact (hv pool (RootTask.mem_pools.mp (List.mem_of_getElem? hat))).1
    · rw [hpool]
      rfl
  have hunused : ∀ p slot, ¬ (x.world.state.pools p).InUse slot := by
    intro p slot hu
    rw [ReplyPool.InUse, hclear] at hu
    exact Bool.false_ne_true (BitVec.getLsbD_zero.symm.trans hu)
  refine ⟨fun i _ => hx.deferred i, (hx.world ho).disjoint, ?_, ?_, ?_, ?_, ?_, ?_⟩
  · intro p i _
    rw [hclear]
    exact BitVec.getLsbD_zero
  · rintro p slot (hl | hr)
    · exact absurd hl (hnolive p slot)
    · exact absurd hr (hnoretired p slot)
  · intro i j d d' hd
    rw [hx.deferred i] at hd
    cases hd
  · intro p slot hl
    exact absurd hl (hnolive p slot)
  · intro p slot _
    constructor
    · exact fun hu => absurd hu (hunused p slot)
    · rintro (hl | hr)
      · exact absurd hl (hnolive p slot)
      · exact absurd hr (hnoretired p slot)
  · intro p slot hown _
    rcases hx.pool_cases p with ⟨pool, hat, hpool⟩ | hpool
    · apply hx.replyCaps
      exact (hv pool (RootTask.mem_pools.mp (List.mem_of_getElem? hat))).2.2 slot (hpool ▸ hown)
    · rw [hpool] at hown
      exact absurd hown.2 (Nat.not_lt_zero slot)

/-- **Ownership of pool slots.** Whatever pools the root task has allocated, and however replies were deferred,
    used and discarded since, with whatever failures: the deferred replies own slots of their pools, no two the
    same; a bit is set exactly for the slots that belong to one or were retired by a failed discard, and no bit
    is set beyond the capacity; a slot whose bit is clear is empty, in particular the one that `defer` would
    save into; and `defer` finds no slot exactly when each one belongs to a reply or is retired. -/
theorem pools_owned (hrt : Reachable (RootTask.step h) (RootTask.Initial h) anyStep rt)
    (hx : Reachable Ledger.step (Initial rt) anyStep x) :
    (∀ i d, x.world.deferred i = some d → (x.world.state.pools d.reply.pool).Owns d.reply.slot) ∧
    (∀ i j d d', x.world.deferred i = some d → x.world.deferred j = some d' →
      d.reply.slot = d'.reply.slot → i = j) ∧
    (∀ p slot, (x.world.state.pools p).Owns slot →
      ((x.world.state.pools p).InUse slot ↔ x.Live p slot ∨ x.Retired p slot) ∧
      ¬ (x.Live p slot ∧ x.Retired p slot)) ∧
    (∀ p i, (x.world.state.pools p).len ≤ i → (x.world.state.pools p).occupied.getLsbD i = false) ∧
    (∀ p slot, (x.world.state.pools p).Owns slot → ¬ (x.world.state.pools p).InUse slot →
      x.world.state.kernel.replyCaps slot = none) ∧
    (∀ p slot pool', (x.world.state.pools p).reserve = (some slot, pool') →
      x.world.state.kernel.replyCaps slot = none) ∧
    (∀ (m : ReceivedMessage) p refused, (m.defer p refused x.world.state).1 = .err .noReplySlots ↔
      ∀ slot, (x.world.state.pools p).Owns slot → x.Live p slot ∨ x.Retired p slot) := by
  have hroot : RootTask.Ordered h rt ∧ rt.PoolsVacant := by
    refine hrt.invariant (I := fun rt => RootTask.Ordered h rt ∧ rt.PoolsVacant) ?_ ?_
    · intro rt hi
      refine ⟨hi.ordered h, fun pool hmem => ?_⟩
      rw [hi.handles] at hmem
      exact absurd hmem List.not_mem_nil
    · rintro rt op rt' ⟨ho, hv⟩ - hs
      exact ⟨ho.step h hs, hv.step h ho hs⟩
  obtain ⟨-, hp⟩ : x.world.SlotsReserved ∧ x.Pooled := by
    refine hx.invariant (I := fun x => x.world.SlotsReserved ∧ x.Pooled) ?_ ?_
    · exact fun x hi => ⟨World.slotsReserved_initial (hi.world hroot.1), pooled_initial hroot.1 hroot.2 hi⟩
    · rintro x op x' ⟨hslots, hp⟩ - hs
      refine ⟨?_, pooled_step hslots hp hs⟩
      obtain ⟨w', hstep, hrest⟩ := Option.bind_eq_some_iff.mp hs
      obtain rfl := Option.some.inj hrest
      exact World.slotsReserved_step hslots (World.effect_of_step hslots hstep)
  refine ⟨?_, ?_, ?_, hp.bounded, hp.vacant, ?_, ?_⟩
  · intro i d hd
    exact hp.owns _ _ (Or.inl ⟨i, d, hd, rfl⟩)
  · intro i j d d' hd hd' hslot
    -- replies with the same slot have the same pool
    have hown := hp.owns _ _ (Or.inl ⟨i, d, hd, rfl⟩)
    have hown' := hp.owns _ _ (Or.inl ⟨j, d', hd', rfl⟩)
    have hpool := hp.disjoint _ _ d.reply.slot hown (hslot ▸ hown')
    refine hp.distinct i j d d' hd hd' ?_
    obtain ⟨⟨p, slot⟩, c⟩ := d
    obtain ⟨⟨p', slot'⟩, c'⟩ := d'
    obtain rfl : p = p' := hpool
    obtain rfl : slot = slot' := hslot
    rfl
  · intro p slot hown
    exact ⟨hp.inUse p slot hown, fun hb => hp.exclusive p slot hb.1 hb.2⟩
  · intro p slot pool' hreserve
    obtain ⟨hown, hfree, -⟩ := ReplyPool.reserve_some hreserve
    exact hp.vacant p slot hown hfree
  · intro m p refused
    have hfull : (∀ slot, (x.world.state.pools p).Owns slot → x.Live p slot ∨ x.Retired p slot) ↔
        (x.world.state.pools p).reserve.1 = none := by
      rw [ReplyPool.reserve_none_iff]
      exact forall₂_congr fun slot hown => (hp.inUse p slot hown).symm
    rw [hfull]
    rcases m.defer_cases p refused x.world.state with
      ⟨hnone, hrun⟩ | ⟨slot, pool', hsome, -, hrun⟩ | ⟨slot, pool', hsome, -, -, hrun⟩
    · simp [hrun, hnone]
    · simp [hrun, hsome]
    · simp [hrun, hsome]

/-- The ledger of the root task that has allocated one pool of four slots. -/
theorem initial_start {rt : RootTask} (hpools : rt.pools = [World.start.state.pools 0]) :
    Initial rt ⟨World.start, []⟩ where
  pending := World.initial_start.pending
  messages := World.initial_start.messages
  deferred := World.initial_start.deferred
  slots := World.initial_start.slots
  settled := World.initial_start.settled
  tracked := World.initial_start.tracked
  pools p := by
    rw [hpools]
    cases p with
    | zero => rfl
    | succ p =>
        have hp : World.start.state.pools (p + 1) = .none := by simp [World.start]
        exact hp
  replyCaps _ _ := rfl
  retired := rfl

/-- Two requests deferred; the first is discarded, which the kernel refuses. -/
def deferrals : List Op :=
  [.receive 0 none (World.request 1 []), .defer 0 0 false, .discard 1 true,
    .receive 0 none (World.request 2 []), .defer 2 0 false]

/-- The slot of the first deferral is never free again, and the second one got the slot after it. -/
theorem pools_owned_run :
    ∃ rt x, RootTask.step RootTask.host RootTask.start (.allocateReplyPool 4) = some rt ∧
      deferrals.foldlM step ⟨World.start, []⟩ = some x ∧ x.retired = [⟨0, 100⟩] ∧
      (x.world.state.pools 0).Owns 100 ∧ (x.world.state.pools 0).InUse 100 := by
  have hpools : (RootTask.step RootTask.host RootTask.start (.allocateReplyPool 4)).map RootTask.pools =
      some [World.start.state.pools 0] := by decide +kernel
  have hledger : (deferrals.foldlM step ⟨World.start, []⟩).map
      (fun x => (x.retired, (x.world.state.pools 0).start, (x.world.state.pools 0).stop)) =
      some ([⟨0, 100⟩], 100, 104) := by decide +kernel
  obtain ⟨rt, hrt, hrtpools⟩ := Option.map_eq_some_iff.mp hpools
  obtain ⟨x, hx, hobs⟩ := Option.map_eq_some_iff.mp hledger
  obtain ⟨hretired, hrange⟩ := Prod.mk.inj hobs
  obtain ⟨hstart, hstop⟩ := Prod.mk.inj hrange
  have hroot : Reachable (RootTask.step RootTask.host) (RootTask.Initial RootTask.host) anyStep rt :=
    (Reachable.refl RootTask.start_initial).tail trivial hrt
  have hown : (x.world.state.pools 0).Owns 100 := by
    unfold ReplyPool.Owns
    omega
  refine ⟨rt, x, hrt, hx, hretired, hown, ?_⟩
  have howned := pools_owned hroot ((Reachable.refl (initial_start hrtpools)).foldlM deferrals hx)
  refine ((howned.2.2.1 0 100 hown).1).mpr (Or.inr ?_)
  rw [Retired, hretired]
  exact List.mem_singleton.mpr rfl

end Runs

end Ledger
end Ricoq
