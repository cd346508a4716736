import Ricoq.Ipc.Correctness.Authority

/-!
# `Ipc.Correctness.Attribution` — who sent a message

The kernel puts the badge of the capability a message was sent through next to the message, and the root task
chose that badge when it delegated the capability. So what the root task reads as the badge of a message leads
back to a delegation, and to a task that has the capability from there (`requests_attributed`).
-/

namespace Ricoq

open Sel4 Bootstrap Relation

/-! ## Where a held message comes from -/

/-- The badge a receive is told. -/
def Sel4.NbOutcome.badge : NbOutcome → Word
  | .message d  => d.badge
  | .noSender _ => 0

namespace Endpoint

variable {e : Nat} {slot : Option ReceiveSlot} {s s' : IpcState} {m : ReceivedMessage}

theorem complete_badge {info : MessageInfo} {raw : Word} (hok : complete e slot info raw s = (.ok m, s')) :
    m.endpoint = e ∧ m.badge = Badge.new raw := by
  -- what follows once the slot is settled
  have hrest : ∀ (s₁ : IpcState) (capacity : Nat) (finish : Except IpcError Message → Ipc ReceivedMessage),
      (∀ message, finish (.ok message) = pure { endpoint := e, badge := Badge.new raw, message }) →
      (∀ error, finish (.error error) = do
        clearImplicitReply e
        Prog.throw error) →
      (if info.extraCaps > capacity then do
          clearImplicitReply e
          Prog.throw (.receiveCapacityExceeded info.extraCaps capacity)
        else
          Prog.attempt (received info) >>= finish : Ipc ReceivedMessage) s₁ = (.ok m, s') →
      m.endpoint = e ∧ m.badge = Badge.new raw := by
    intro s₁ capacity finish hmessage herror hok
    by_cases hcount : info.extraCaps > capacity
    · rw [if_pos hcount] at hok
      obtain ⟨u, s₂, -, hok⟩ := Prog.run_bind_eq_ok.mp hok
      cases (Prod.mk.inj hok).1
    · rw [if_neg hcount] at hok
      obtain ⟨result, s₂, -, hok⟩ := Prog.run_bind_eq_ok.mp hok
      cases result with
      | ok message =>
          rw [hmessage] at hok
          obtain rfl := Outcome.ok.inj (Prod.mk.inj hok).1
          exact ⟨rfl, rfl⟩
      | error error =>
          rw [herror] at hok
          obtain ⟨u, s₃, -, hok⟩ := Prog.run_bind_eq_ok.mp hok
          cases (Prod.mk.inj hok).1
  unfold complete at hok
  cases slot with
  | none => exact hrest s _ _ (fun _ => rfl) (fun _ => rfl) hok
  | some slot =>
      obtain ⟨u, s₁, -, hok⟩ := Prog.run_bind_eq_ok.mp hok
      exact hrest s₁ _ _ (fun _ => rfl) (fun _ => rfl) hok

theorem receive_badge {d : Delivery} (hok : receive e slot d s = (.ok m, s')) :
    m.endpoint = e ∧ m.badge = Badge.new d.badge := by
  unfold receive at hok
  obtain ⟨pending, s₁, -, hok⟩ := Prog.run_bind_eq_ok.mp hok
  cases pending with
  | true => cases (Prod.mk.inj hok).1
  | false =>
      obtain ⟨u, s₂, -, hok⟩ := Prog.run_bind_eq_ok.mp hok
      obtain ⟨⟨info, raw⟩, s₃, hcall, hok⟩ := Prog.run_bind_eq_ok.mp hok
      obtain ⟨-, rfl⟩ := Prod.mk.inj (Outcome.ok.inj (Prod.mk.inj hcall).1)
      exact complete_badge hok

theorem tryReceive_badge {o : NbOutcome} (hok : tryReceive e slot o s = (.ok (some m), s')) :
    m.endpoint = e ∧ m.badge = Badge.new o.badge := by
  unfold tryReceive at hok
  obtain ⟨pending, s₁, -, hok⟩ := Prog.run_bind_eq_ok.mp hok
  cases pending with
  | true => cases (Prod.mk.inj hok).1
  | false =>
      obtain ⟨u, s₂, -, hok⟩ := Prog.run_bind_eq_ok.mp hok
      obtain ⟨⟨info, raw⟩, s₃, hcall, hok⟩ := Prog.run_bind_eq_ok.mp hok
      have hraw : raw = o.badge := by
        have hreport := Outcome.ok.inj (Prod.mk.inj hcall).1
        cases o with
        | message d => exact (Prod.mk.inj hreport).2.symm
        | noSender info' => exact (Prod.mk.inj hreport).2.symm
      subst hraw
      dsimp only at hok
      split at hok
      · obtain ⟨u, s₄, -, hok⟩ := Prog.run_bind_eq_ok.mp hok
        cases slot with
        | none => cases Outcome.ok.inj (Prod.mk.inj hok).1
        | some slot =>
            obtain ⟨u, s₅, -, hok⟩ := Prog.run_bind_eq_ok.mp hok
            cases Outcome.ok.inj (Prod.mk.inj hok).1
      · obtain ⟨message, s₄, hcomplete, hok⟩ := Prog.run_bind_eq_ok.mp hok
        obtain rfl := Option.some.inj (Outcome.ok.inj (Prod.mk.inj hok).1)
        exact complete_badge hcomplete

end Endpoint

namespace World

variable {w w' : World} {op : Op}

/-- A message that is kept comes from a run that returned it. -/
theorem perform_messages {ε α : Type} {x : Prog ε IpcState α} {keep : World → α → World} {P : Prop} {i : Nat}
    {m : HeldMessage} (hs : w.perform x keep = some w') (hm : w'.messages i = some m)
    (hkeep : ∀ a s, x w.state = (.ok a, s) → (keep { w with state := s } a).messages i = some m →
      w.messages i = some m ∨ P) : w.messages i = some m ∨ P := by
  unfold perform at hs
  cases hrun : x w.state with
  | mk outcome s =>
      rw [hrun] at hs
      cases outcome with
      | ok a =>
          obtain rfl := Option.some.inj hs
          exact hkeep a s hrun hm
      | err e =>
          obtain rfl := Option.some.inj hs
          exact Or.inl hm
      | panic => cases hs

/-- Every message that is held was returned by a receive, with the badge it was told, and stands next to its
    sender. -/
theorem messages_step (hop : ∀ e d, op ≠ .faultReceive e d) (hs : w.step op = some w') {i : Nat} {m : HeldMessage}
    (hm : w'.messages i = some m) : w.messages i = some m ∨ ∃ e slot o, op.receives = some (e, slot, o) ∧
      m.received.endpoint = e ∧ m.received.badge = Badge.new o.badge ∧ m.caller = o.caller := by
  have hdrop : ∀ {handle : Nat}, (w.dropMessage handle).messages i = some m → w.messages i = some m :=
    fun h => (update_none_eq_some.mp h).2
  cases op with
  | receive e slot d =>
      obtain ⟨⟨held, w₀⟩, htake, hs⟩ := Option.bind_eq_some_iff.mp hs
      rw [← messages_of_takeSlot htake]
      refine perform_messages hs hm ?_
      intro received s hok hadded
      rcases update_some_eq_some.mp hadded with ⟨-, rfl⟩ | ⟨-, hold⟩
      · obtain ⟨hendpoint, hbadge⟩ := Endpoint.receive_badge hok
        exact Or.inr ⟨e, slot, _, rfl, hendpoint, hbadge, rfl⟩
      · exact Or.inl hold
  | tryReceive e slot o =>
      obtain ⟨⟨held, w₀⟩, htake, hs⟩ := Option.bind_eq_some_iff.mp hs
      rw [← messages_of_takeSlot htake]
      refine perform_messages hs hm ?_
      intro received s hok hadded
      cases received with
      | none => exact Or.inl hadded
      | some received =>
          rcases update_some_eq_some.mp hadded with ⟨-, rfl⟩ | ⟨-, hold⟩
          · obtain ⟨hendpoint, hbadge⟩ := Endpoint.tryReceive_badge hok
            exact Or.inr ⟨e, slot, o, rfl, hendpoint, hbadge, rfl⟩
          · exact Or.inl hold
  | faultReceive e d => exact absurd rfl (hop e d)
  | reply handle message | faultReply handle | finish handle | defer handle pool refused =>
      obtain ⟨held, -, hs⟩ := Option.bind_eq_some_iff.mp hs
      exact (perform_messages hs hm fun _ _ _ h => Or.inl h).imp_left hdrop
  | deferredReply handle message | discard handle refused =>
      obtain ⟨held, -, hs⟩ := Option.bind_eq_some_iff.mp hs
      exact perform_messages (w := w.dropDeferred handle) hs hm fun _ _ _ h => Or.inl h
  | call message answer | send message | receiveSlot root index =>
      rw [step] at hs
      exact perform_messages hs hm fun _ _ _ h => Or.inl h

end World

/-! ## Attribution -/

theorem receives_receiveOp {endpoint : Nat} {slot : Option Nat} {blocking : Bool} {d : Delivery} :
    (receiveOp endpoint slot blocking d).receives = some (endpoint, slot, .message d) := by
  cases blocking <;> rfl

theorem Badge.new_eq_none {raw : Word} : Badge.new raw = none ↔ raw = 0 := by
  by_cases hzero : raw = 0
  · rw [Badge.new, dif_pos hzero]
    exact iff_of_true rfl hzero
  · rw [Badge.new, dif_neg hzero]
    exact iff_of_false (Option.some_ne_none _) hzero

theorem Badge.new_eq_some {raw : Word} {badge : Badge} (hbadge : Badge.new raw = some badge) : raw = badge.raw := by
  unfold Badge.new at hbadge
  split at hbadge
  · cases hbadge
  · obtain rfl := Option.some.inj hbadge
    rfl

namespace ClientSystem

variable {h : Host} {s s' : ClientSystem} {op : ClientOp} {blueprint : ObjectBlueprint}
  {tcb cptr object : Nat} {badge : Word}

/-- The thread of a task reaches an endpoint or a notification through a CPtr, with this badge. -/
def Reaches (s : ClientSystem) (blueprint : ObjectBlueprint) (tcb cptr object : Nat) (badge : Word) : Prop :=
  ∃ y ∈ s.tasks, y.task.thread.tcb = tcb ∧ ∃ cap, s.Names tcb cptr cap ∧ cap.blueprint = blueprint ∧
    cap.object = object ∧ cap.badge = badge

theorem Charted.reaches_step (hw : Charted h s) (ha : s.Orderly op) (hs : ClientSystem.step h s op = some s')
    (hreach : s.Reaches blueprint tcb cptr object badge) : s'.Reaches blueprint tcb cptr object badge := by
  obtain ⟨y, hy, rfl, cap, hnames, hcap⟩ := hreach
  obtain ⟨hy', hnames'⟩ := hw.names_step ha hs hy hnames
  exact ⟨y, hy', rfl, cap, hnames', hcap⟩

/-- The object was delegated to some task with this badge, and a chain of transfers leads from there to what the
    thread of a task finds under a CPtr. -/
def Delegates (s : ClientSystem) (tcb cptr object : Nat) (badge : Word) : Prop :=
  ∃ x ∈ s.tasks, ∃ d ∈ x.config.delegations, d.badge = badge ∧
    (s.kernel.root d.source).map Cap.object = some object ∧
    ∃ y ∈ s.tasks, y.task.thread.tcb = tcb ∧ ∃ origin place,
      s.kernel.find x.task.thread.tcb d.destination = some origin ∧
      ReflTransGen (CopiedTo s.transfers) origin place ∧ s.kernel.find tcb cptr = some place

/-- What is reached was delegated. -/
theorem delegates_of_reaches (hw : Charted h s) (hu : Supplied s) (hreach : s.Reaches blueprint tcb cptr object badge) :
    s.Delegates tcb cptr object badge := by
  obtain ⟨y, hy, rfl, cap, hnames, -, rfl, rfl⟩ := hreach
  obtain ⟨origin, place, horigin, hchain, hfind⟩ := (hw.names_iff hy).mp hnames
  obtain ⟨x, hx, d, hd, hdestination, hdelegated⟩ := hu.origin horigin
  have hobject : d.badge = cap.badge ∧ (s.kernel.root d.source).map Cap.object = some cap.object := by
    rcases hdelegated with ⟨object, hsource, -, rfl⟩ | ⟨object, hsource, rfl⟩
    · have hroot := congrArg (Option.map Cap.object) hsource
      rw [Option.map_map] at hroot
      exact ⟨rfl, hroot⟩
    · have hroot := congrArg (Option.map Cap.object) hsource
      rw [Option.map_map] at hroot
      exact ⟨rfl, hroot⟩
  exact ⟨x, hx, d, hd, hobject.1, hobject.2, y, hy, rfl, origin, place, hdestination, hchain, hfind⟩

/-- A root slot keeps its object. -/
theorem Charted.object_step (hw : Charted h s) (ha : s.Orderly op) (hs : ClientSystem.step h s op = some s')
    {slot : Nat} (hobject : (s.kernel.root slot).map Cap.object = some object) :
    (s'.kernel.root slot).map Cap.object = some object := by
  cases moves_of_step hs with
  | @supervises op w hw' =>
      have hsome : (s.kernel.root slot).isSome := by
        have := congrArg Option.isSome hobject
        simpa using this
      have hkept := congrArg (Option.map Cap.object) ((hw.retains ha.1 hw').kept slot hsome)
      rw [Option.map_map, Option.map_map] at hkept
      exact hkept.trans hobject
  | @copies endpoint slot' blocking r world source target hr hendpoint hworld hinstalled =>
      have hroot : (s.transfer source target).kernel.root = s.kernel.root := ObjectStore.root_putCap
      exact (congrArg (Option.map Cap.object) (congrFun hroot slot)).trans hobject
  | _ => exact hobject

/-- A message with this badge was sent through a capability that some task has, and it is the thread of this task
    that waits for the reply, if any does. -/
def Attributable (s : ClientSystem) (m : HeldMessage) (badge : Badge) : Prop :=
  ∃ tcb cptr object, (s.kernel.root m.received.endpoint).map Cap.object = some object ∧
    s.Reaches .endpoint tcb cptr object badge.raw ∧ ∀ c, m.caller = some c → c = ⟨tcb, false⟩

theorem Charted.attributable_step (hw : Charted h s) (ha : s.Orderly op)
    (hs : ClientSystem.step h s op = some s') {m : HeldMessage} {badge : Badge} (hb : s.Attributable m badge) :
    s'.Attributable m badge := by
  obtain ⟨tcb, cptr, object, hobject, hreach, hcaller⟩ := hb
  exact ⟨tcb, cptr, object, hw.object_step ha hs hobject, hw.reaches_step ha hs hreach, hcaller⟩

/-- The messages on their way, and those that are held, come with the badges of their senders. -/
structure Attributed (s : ClientSystem) : Prop where
  requests : ∀ r ∈ s.requests, s.Reaches .endpoint r.tcb r.cptr r.endpoint r.badge
  messages : ∀ i m badge, s.world.messages i = some m → m.received.badge = some badge →
    s.Attributable m badge

theorem Initial.attributed (hi : Initial h s) : Attributed s := by
  constructor
  case requests =>
    rw [hi.requests]
    nofun
  case messages =>
    intro i m badge hm
    rw [hi.world.messages] at hm
    cases hm

/-- In a quiet operation no message with a badge arrives. -/
theorem messages_quiet {op : Op} {world : World} (hquiet : s.Quiet op) (hs : World.step s.view op = some world)
    {i : Nat} {m : HeldMessage} {badge : Badge} (hm : world.messages i = some m)
    (hbadge : m.received.badge = some badge) : s.world.messages i = some m := by
  have hfault : ∀ e d, op ≠ .faultReceive e d := by
    rintro e d rfl
    exact hquiet
  rcases World.messages_step hfault hs hm with hold | ⟨e, slot, o, hop, -, hnew, -⟩
  · exact hold
  · rw [hbadge] at hnew
    cases op with
    | receive e' slot' d => exact hquiet.elim
    | tryReceive e' slot' o' =>
        obtain ⟨rfl, rfl, rfl⟩ : e' = e ∧ slot' = slot ∧ o' = o := by simpa [Op.receives] using hop
        cases o' with
        | message d => exact hquiet.elim
        | noSender info => cases hnew
    | faultReceive e' d => exact hquiet.elim
    | _ => cases hop

namespace Attributed

variable (hm : Attributed s) (hw : Charted h s) (ha : s.Orderly op) (hs : ClientSystem.step h s op = some s')
include hm hw ha hs

/-- What was received: a message that was held before, or the one that was on its way. -/
theorem messages_received {endpoint : Nat} {slot : Option Nat} {blocking : Bool} {r : Request} {world : World}
    (hr : r ∈ s.requests) (hobject : (s.kernel.root endpoint).map Cap.object = some r.endpoint)
    (hworld : World.step s.view (receiveOp endpoint slot blocking (r.delivery s.kernel)) = some world)
    {i : Nat} {m : HeldMessage} {badge : Badge} (hheld : world.messages i = some m)
    (hbadge : m.received.badge = some badge) : s'.Attributable m badge := by
  apply hw.attributable_step ha hs
  have hfault : ∀ e d, receiveOp endpoint slot blocking (r.delivery s.kernel) ≠ .faultReceive e d := by
    cases blocking <;> nofun
  rcases World.messages_step hfault hworld hheld with hold | ⟨e, slot', o, hop, hendpoint, hnew, hcaller⟩
  · exact hm.messages i m badge hold hbadge
  · rw [receives_receiveOp] at hop
    obtain ⟨rfl, rfl, rfl⟩ : endpoint = e ∧ slot = slot' ∧ NbOutcome.message (r.delivery s.kernel) = o := by
      simpa using hop
    have hraw : r.badge = badge.raw := Badge.new_eq_some (hnew.symm.trans hbadge)
    refine ⟨r.tcb, r.cptr, r.endpoint, hendpoint ▸ hobject, hraw ▸ hm.requests r hr, ?_⟩
    intro c hc
    have hsent : (if r.message.call ∧ r.grant then some ⟨r.tcb, false⟩ else none : Option Caller) = some c :=
      hcaller.symm.trans hc
    split at hsent
    · exact (Option.some.inj hsent).symm
    · cases hsent

theorem step : Attributed s' := by
  have hrequests : ∀ r ∈ s.requests, s'.Reaches .endpoint r.tcb r.cptr r.endpoint r.badge :=
    fun r hr => hw.reaches_step ha hs (hm.requests r hr)
  have hmessages : ∀ i m badge, s.world.messages i = some m → m.received.badge = some badge →
      s'.Attributable m badge :=
    fun i m badge hheld hbadge => hw.attributable_step ha hs (hm.messages i m badge hheld hbadge)
  have hreceived := @messages_received h s s' op hm hw ha hs
  cases moves_of_step hs with
  | supervises hw' => exact ⟨hrequests, hmessages⟩
  | works hquiet hworld =>
      exact ⟨hrequests, fun i m badge hheld hbadge =>
        hmessages i m badge (messages_quiet hquiet hworld hheld hbadge) hbadge⟩
  | @sends task cptr message place cap hfind hcap hkind hwrite =>
      refine ⟨?_, hmessages⟩
      intro r hr
      rcases List.mem_append.mp hr with hold | hlast
      · exact hrequests r hold
      · obtain rfl := List.mem_singleton.mp hlast
        obtain ⟨y, hy, htask⟩ := List.mem_map.mp ha
        exact ⟨y, hy, htask ▸ rfl, cap, ⟨place, hfind, hcap⟩, hkind, rfl, rfl⟩
  | refused hr hobject hworld =>
      exact ⟨hrequests, fun i m badge => hreceived hr hobject hworld⟩
  | takes hr hobject hworld hinstalled =>
      exact ⟨fun r hmem => hrequests r (List.mem_of_mem_erase hmem), fun i m badge => hreceived hr hobject hworld⟩
  | copies hr hobject hworld hinstalled =>
      exact ⟨fun r hmem => hrequests r (List.mem_of_mem_erase hmem), fun i m badge => hreceived hr hobject hworld⟩
  | signals | signalsOwn | looks => exact ⟨hrequests, hmessages⟩

end Attributed

end ClientSystem
end Ricoq
