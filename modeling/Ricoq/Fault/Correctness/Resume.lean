import Ricoq.Ipc.Correctness.Routing

/-!
# `Fault.Correctness.Resume` — when a faulting thread runs again

The kernel restarts a faulting thread when its fault is answered with the empty message of label 0.
`FaultEndpoint::reply` sends that message, and so does `clear_implicit_reply`, with which
`FaultEndpoint::receive` disposes of a message it rejects. A thread with a fault that the decoder does not
support is therefore restarted by the receive itself (`unsupported_fault_resumes`).

`Supervision` puts next to the world the threads whose faults have been answered by `reply`. In runs in which
every fault that is received is well formed, these are exactly the threads that have been restarted
(`resumed_iff_decided`); and a received fault restarts nobody exactly when it is well formed.
-/

namespace Ricoq

open Sel4

/-! ## Restarts -/

/-- The reply restarts its recipient. -/
def Sel4.Reply.restarts (r : Reply) : Bool := r.recipient.fault && r.info.label == 0 && r.info.length == 0

/-- The threads that replies have restarted, the last one first. -/
def Sel4.Kernel.restarted (k : Kernel) : List Caller := (k.replies.filter Reply.restarts).map (·.recipient)

/-- The threads among the callers that wait because of a fault. -/
def faulting (caller : Option Caller) : List Caller := caller.toList.filter (·.fault)

/-- The empty reply restarts the thread in the caller slot, if it waits because of a fault. -/
theorem Sel4.Kernel.restarted_reply (k : Kernel) :
    (k.reply (MessageInfo.build 0 0 0 0)).restarted = faulting k.caller ++ k.restarted := by
  have hrestarts : ∀ c, (k.replyTo c (MessageInfo.build 0 0 0 0)).restarts = c.fault := by
    intro c
    show (c.fault && (MessageInfo.build 0 0 0 0).label == 0 && (MessageInfo.build 0 0 0 0).length == 0) = _
    exact (Bool.and_true _).trans (Bool.and_true _)
  rw [restarted, replies_reply, List.filter_append, List.map_append]
  congr 1
  cases k.caller with
  | none => rfl
  | some c =>
      show List.map _ (List.filter Reply.restarts [k.replyTo c _]) = List.filter _ [c]
      rw [List.filter_cons, List.filter_cons, hrestarts]
      cases c.fault <;> rfl

theorem restarted_settled (s : IpcState) (e : Nat) (slot : Option ReceiveSlot) (d : Delivery) :
    (s.settled e slot (.message d)).kernel.restarted = s.kernel.restarted := by
  have hreplies : (s.settled e slot (.message d)).kernel.replies = s.kernel.replies := by
    rw [IpcState.settled, IpcState.kernel_settleSlot]
    exact Kernel.replies_deliver _ d
  rw [Kernel.restarted, hreplies]
  rfl

/-- Rejecting a message restarts its sender, if it is a fault. -/
theorem restarted_cleared (s : IpcState) (e : Nat) (d : Delivery) :
    ((s.settled e none (.message d)).cleared e).kernel.restarted = faulting d.caller ++ s.kernel.restarted := by
  have hreply := Kernel.restarted_reply (s.settled e none (.message d)).kernel
  have hcaller : (s.settled e none (.message d)).kernel.caller = d.caller := rfl
  rw [hcaller, restarted_settled] at hreply
  exact hreply

/-- `FaultEndpoint::reply` always goes through, and sends the empty message. -/
theorem ReceivedMessage.reply_empty {ε : Type} (m : ReceivedMessage) (s : IpcState) : ∃ buffer,
    (m.reply Message.emptyReply : Prog ε IpcState Unit) s =
      (.ok (), s.answered m.endpoint buffer (MessageInfo.build 0 0 0 0)) := by
  have hcaps : Message.emptyReply.extraCaps ≤ msgMaxExtraCaps := Nat.zero_le _
  have hprepare := Message.prepare_of_le (ε := ε) hcaps s.kernel.buffer
  refine ⟨_, Prog.run_bind_ok ?_⟩
  rw [prepare, hprepare]
  rfl

/-! ## Faults received and answered on one endpoint -/

/-- A world, and the threads whose faults `FaultEndpoint::reply` has answered, the last one first. -/
structure Supervision where
  world : World
  decided : List Caller

namespace Supervision

/-- The thread an operation decides to restart: the one whose fault is held under the handle. -/
def decides (w : World) : Op → List Caller
  | .faultReply h =>
    match w.messages h with
    | some m => faulting m.caller
    | none   => []
  | _ => []

def step (x : Supervision) (op : Op) : Option Supervision := do
  let world ← x.world.step op
  return ⟨world, decides x.world op ++ x.decided⟩

structure Initial (x : Supervision) : Prop where
  world : x.world.Initial
  replies : x.world.state.kernel.replies = []
  decided : x.decided = []

/-- The operations of a fault endpoint. -/
def On (e : Nat) : Op → Prop
  | .faultReceive e' _ => e' = e
  | .faultReply _      => True
  | _                  => False

/-- The condition on a step: a fault that is received is well formed. -/
def Supported (e : Nat) (x : Supervision) (op : Op) : Prop :=
  On e op ∧ ∀ d c, op = .faultReceive e d → x.world.state.pending e = false → d.caller = some c →
    c.fault = true → FaultEndpoint.WellFormed x.world.state e d

/-- The four ways a step on a fault endpoint can go. -/
theorem step_cases {e : Nat} {w w' : World} {op : Op} (hop : On e op) (hstep : w.step op = some w') :
    (∃ d, op = .faultReceive e d ∧ w' = w) ∨
    (∃ d m, op = .faultReceive e d ∧ w' = { w with
      state := w.state.settled e none (.message d) }.addMessage ⟨m, d.caller⟩) ∨
    (∃ d, op = .faultReceive e d ∧ w.state.pending e = false ∧
      ¬ FaultEndpoint.WellFormed w.state e d ∧
      w' = { w with state := (w.state.settled e none (.message d)).cleared e }) ∨
    (∃ h m buffer, op = .faultReply h ∧ w.messages h = some m ∧ w' = { w.dropMessage h with
      state := w.state.answered m.received.endpoint buffer (MessageInfo.build 0 0 0 0) }) := by
  cases op with
  | faultReceive e' d =>
      obtain rfl : e' = e := hop
      rw [World.step] at hstep
      by_cases hp : w.state.pending e' = true
      · exact Or.inl ⟨d, rfl, World.perform_err hstep rfl (FaultEndpoint.receive_of_pending hp d)⟩
      · have hready := Bool.eq_false_iff.mpr hp
        rcases FaultEndpoint.receive_cases hready d with ⟨-, f, hrun, -⟩ | ⟨hbad, err, hrun, -⟩
        · exact Or.inr (Or.inl ⟨d, f.received, rfl, World.perform_ok hstep rfl hrun⟩)
        · exact Or.inr (Or.inr (Or.inl ⟨d, rfl, hready, hbad, World.perform_err hstep rfl hrun⟩))
  | faultReply h =>
      obtain ⟨m, hm, hrest⟩ := Option.bind_eq_some_iff.mp hstep
      obtain ⟨buffer, hrun⟩ := ReceivedMessage.reply_empty (ε := IpcError) m.received w.state
      exact Or.inr (Or.inr (Or.inr ⟨h, m, buffer, rfl, hm, World.perform_ok hrest rfl hrun⟩))
  | _ => exact hop.elim

/-! ## The invariant -/

/-- Only the one endpoint is in use, and replies go where they should. -/
structure Supervised (e : Nat) (x : Supervision) : Prop where
  slots : x.world.SlotsReserved
  routed : x.world.Routed
  others : ∀ e', e' ≠ e → x.world.state.pending e' = false

/-- While the flag of the endpoint is clear, every flag is. -/
theorem Supervised.unshared {e : Nat} {x : Supervision} {op : Op} (hx : x.Supervised e) (hop : On e op) :
    x.world.Unshared op := by
  intro e₀ slot o hreceives hready e'
  have he : e₀ = e := by
    cases op with
    | faultReceive e₁ d =>
        obtain rfl : e₁ = e := hop
        exact (congrArg Prod.fst (Option.some.inj hreceives)).symm
    | faultReply h => exact nomatch hreceives
    | _ => exact hop.elim
  by_cases hne : e' = e
  · rw [hne, ← he]
    exact hready
  · exact hx.others e' hne

theorem Supervised.step {e : Nat} {x x' : Supervision} {op : Op} (hx : x.Supervised e) (hop : On e op)
    (hs : x.step op = some x') : x'.Supervised e := by
  obtain ⟨w', hstep, hrest⟩ := Option.bind_eq_some_iff.mp hs
  obtain rfl := Option.some.inj hrest
  have heffect := World.effect_of_step hx.slots hstep
  refine ⟨World.slotsReserved_step hx.slots heffect, World.routed_step hx.routed (hx.unshared hop) heffect, ?_⟩
  intro e' hne
  have hother : ∀ b, Function.update x.world.state.pending e b e' = false :=
    fun b => (Function.update_of_ne hne _ _).trans (hx.others e' hne)
  rcases step_cases hop hstep with ⟨d, -, rfl⟩ | ⟨d, m, -, rfl⟩ | ⟨d, -, -, -, rfl⟩ | ⟨h, m, buffer, -, hm, rfl⟩
  · exact hx.others e' hne
  · exact hother true
  · show Function.update (Function.update x.world.state.pending e true) e false e' = false
    rw [Function.update_idem]
    exact hother false
  · show Function.update x.world.state.pending m.received.endpoint false e' = false
    by_cases hm' : e' = m.received.endpoint
    · rw [hm', Function.update_self]
    · rw [Function.update_of_ne hm']
      exact hx.others e' hne

/-- What one step restarts: the thread of a fault that is answered, and that of a fault that is rejected. -/
theorem restarted_step {e : Nat} {x x' : Supervision} {op : Op} (hx : x.Supervised e) (hop : On e op)
    (hs : x.step op = some x') :
    (x'.decided = decides x.world op ++ x.decided) ∧
    (x'.world.state.kernel.restarted = decides x.world op ++ x.world.state.kernel.restarted ∨
      ∃ d, op = .faultReceive e d ∧ x.world.state.pending e = false ∧
        ¬ FaultEndpoint.WellFormed x.world.state e d ∧
        x'.world.state.kernel.restarted = faulting d.caller ++ x.world.state.kernel.restarted) := by
  obtain ⟨w', hstep, hrest⟩ := Option.bind_eq_some_iff.mp hs
  obtain rfl := Option.some.inj hrest
  refine ⟨rfl, ?_⟩
  rcases step_cases hop hstep with
    ⟨d, rfl, rfl⟩ | ⟨d, m, rfl, rfl⟩ | ⟨d, rfl, hready, hbad, rfl⟩ | ⟨h, m, buffer, rfl, hm, rfl⟩
  · exact Or.inl rfl
  · exact Or.inl (restarted_settled x.world.state e none d)
  · exact Or.inr ⟨d, rfl, hready, hbad, restarted_cleared x.world.state e d⟩
  · have hreply := Kernel.restarted_reply { x.world.state.kernel with buffer }
    have hdecides : decides x.world (.faultReply h) = faulting m.caller := by
      simp only [decides, hm]
    -- the caller slot holds the thread whose fault is answered
    have hcaller : faulting x.world.state.kernel.caller = faulting m.caller := by
      rw [hx.routed.client h m hm]
    exact Or.inl (hreply.trans (by rw [hdecides, ← hcaller]; rfl))

theorem supervised_initial (e : Nat) {x : Supervision} (hi : x.Initial) : x.Supervised e :=
  ⟨World.slotsReserved_initial hi.world, World.routed_initial hi.world, fun e' _ => hi.world.pending e'⟩

/-! ## Resumption -/

/-- **When a faulting thread runs again.** In every run of a fault endpoint in which the faults that are
    received are well formed, the threads that have been restarted are those whose faults `reply` has answered.
    In any state, receiving a fault restarts nobody exactly if it is well formed. -/
theorem resumed_iff_decided (e : Nat) :
    (∀ x, Reachable step Initial (Supported e) x → x.world.state.kernel.restarted = x.decided) ∧
    (∀ (x : Supervision) (d : Delivery) (c : Caller), x.world.state.pending e = false →
      d.caller = some c → c.fault = true →
      ∃ x', x.step (.faultReceive e d) = some x' ∧ x'.decided = x.decided ∧
        (x'.world.state.kernel.restarted = x.world.state.kernel.restarted ↔
          FaultEndpoint.WellFormed x.world.state e d)) := by
  constructor
  · intro x h
    refine (h.invariant (I := fun x => x.Supervised e ∧ x.world.state.kernel.restarted = x.decided) ?_ ?_).2
    · intro x hi
      refine ⟨supervised_initial e hi, ?_⟩
      rw [Kernel.restarted, hi.replies, hi.decided]
      rfl
    · rintro x op x' ⟨hx, hsame⟩ ⟨hop, hgood⟩ hs
      refine ⟨hx.step hop hs, ?_⟩
      obtain ⟨hdecided, hrestarted | ⟨d, rfl, hready, hbad, hrestarted⟩⟩ := restarted_step hx hop hs
      · rw [hrestarted, hdecided, hsame]
      · -- a message was rejected: it was no fault
        have hnofault : faulting d.caller = [] := by
          cases hc : d.caller with
          | none => rfl
          | some c =>
              have hf : c.fault = false := by
                apply Bool.eq_false_iff.mpr
                exact fun hf => hbad (hgood d c rfl hready hc hf)
              show List.filter _ [c] = []
              rw [List.filter_cons, hf]
              rfl
        rw [hrestarted, hdecided, hnofault, hsame]
        rfl
  · intro x d c hready hc hf
    have hstep : ∀ {w'}, x.world.step (.faultReceive e d) = some w' →
        x.step (.faultReceive e d) = some ⟨w', x.decided⟩ := by
      intro w' hw
      rw [step, hw]
      rfl
    rcases FaultEndpoint.receive_cases hready d with ⟨hgood, f, hrun, -⟩ | ⟨hbad, err, hrun, -⟩
    · have hw : x.world.step (.faultReceive e d) = some ({ x.world with
          state := x.world.state.settled e none (.message d) }.addMessage ⟨f.received, d.caller⟩) := by
        rw [World.step, World.perform, hrun]
      refine ⟨_, hstep hw, rfl, iff_of_true ?_ hgood⟩
      exact restarted_settled x.world.state e none d
    · have hw : x.world.step (.faultReceive e d) = some { x.world with
          state := (x.world.state.settled e none (.message d)).cleared e } := by
        rw [World.step, World.perform, hrun]
      refine ⟨_, hstep hw, rfl, iff_of_false ?_ hbad⟩
      intro hsame
      have hlength := congrArg List.length ((restarted_cleared x.world.state e d).symm.trans hsame)
      rw [hc] at hlength
      simp [faulting, hf] at hlength

/-- A thread's access is refused: a well-formed fault. -/
def dataAbort : Delivery := ⟨5, 4, [0x400000, 0x10, 0, 0x92000007], [], 7, some ⟨1, true⟩⟩

/-- A thread executes an undefined instruction: a fault of a class that the decoder does not know. -/
def undefinedInstruction : Delivery := ⟨3, 5, [0x400000, 0x402000, 0, 0, 0], [], 7, some ⟨1, true⟩⟩

theorem initial_start : Initial ⟨World.start, []⟩ := ⟨World.initial_start, rfl, rfl⟩

/-- The fault is received, and answered: the thread runs again, as was decided. -/
theorem resumed_iff_decided_run : ∃ x x', step ⟨World.start, []⟩ (.faultReceive 0 dataAbort) = some x ∧
    x.step (.faultReply 0) = some x' ∧ x'.decided = [⟨1, true⟩] ∧
    x'.world.state.kernel.restarted = [⟨1, true⟩] := by
  have hgood : FaultEndpoint.WellFormed World.start.state 0 dataAbort := by
    refine ⟨by decide, by decide, by decide, .vmFault ⟨0x400000, 0x10, false, 0x92000007⟩, ?_⟩
    decide +kernel
  have hfirst : Supported 0 ⟨World.start, []⟩ (.faultReceive 0 dataAbort) := by
    refine ⟨rfl, fun d c hop _ _ _ => ?_⟩
    obtain ⟨-, rfl⟩ := Op.faultReceive.inj hop
    exact hgood
  have hsecond : ∀ x, Supported 0 x (.faultReply 0) := fun x => ⟨trivial, fun d c hop => nomatch hop⟩
  refine ⟨_, _, rfl, rfl, rfl, ?_⟩
  exact (resumed_iff_decided 0).1 _
    (((Reachable.refl initial_start).tail hfirst rfl).tail (hsecond _) rfl)

/-- Receiving a fault that the decoder does not know restarts the thread, although nothing was decided. -/
theorem unsupported_fault_resumes :
    ∃ x, Reachable step Initial (fun _ => On 0) x ∧
      x.world.state.kernel.restarted = [⟨1, true⟩] ∧ x.decided = [] := by
  have hrun : (step ⟨World.start, []⟩ (.faultReceive 0 undefinedInstruction)).map
      (fun x => (x.world.state.kernel.restarted, x.decided)) = some ([⟨1, true⟩], []) := by decide +kernel
  obtain ⟨x, hx, hobs⟩ := Option.map_eq_some_iff.mp hrun
  obtain ⟨hrestarted, hdecided⟩ := Prod.mk.inj hobs
  have hon : On 0 (.faultReceive 0 undefinedInstruction) := rfl
  exact ⟨x, (Reachable.refl initial_start).tail hon hx, hrestarted, hdecided⟩

end Supervision
end Ricoq
