import Ricoq.Boot.Correctness.Task
import Ricoq.Fault.Handling
import Ricoq.Ipc.Notification

/-!
# `Ipc.Clients` — tasks that use what was delegated to them

The tasks send messages through the endpoints in their CSpaces, and signal the notifications there. The root
task receives and observes. A task may attach capabilities to a message; if the root task receives with a slot
it reserved in a CSpace, the kernel copies one of them there, and from then on another task has it.

* The root task delegates endpoints and notifications, with the rights that the constructors of
  `DelegatedCapability` give them. So no task can receive messages or change a CSpace.
* Any number of messages of a thread may be on their way. A single thread sends one at a time, so more can
  happen here than in the system.
* Which message a receive gets is up to the environment.
* Faults are in `Fault.Handling`.
-/

namespace Ricoq

open Sel4 Bootstrap

/-- A slot of a CNode: the object and the index. -/
abbrev Place : Type := Nat × Nat

/-! ## The kernel's part -/

namespace Sel4.ObjectStore

variable (k : ObjectStore)

def capAt (place : Place) : Option Cap := k.capIn place.1 place.2

/-- Where a thread finds what it names with a CPtr. -/
def find (tcb cptr : Nat) : Option Place := (k.lookupSlot tcb cptr).toOption

/-- Put a capability into a slot of a CNode. -/
def putCap (place : Place) (cap : Option Cap) : ObjectStore :=
  match k.objects place.1 with
  | .cnode cnode =>
      k.setObject place.1 (.cnode { cnode with slots := Function.update cnode.slots place.2 cap })
  | _ => k

/-- The slots of the capabilities a thread attaches to a message. If one of them cannot be looked up, none is
    attached; an empty slot ends the list. -/
def attached (tcb : Nat) (cptrs : List Nat) : List Place :=
  let places := (cptrs.take msgMaxExtraCaps).filterMap (k.find tcb)
  if places.length = (cptrs.take msgMaxExtraCaps).length then
    places.takeWhile fun place => (k.capAt place).isSome
  else
    []

end Sel4.ObjectStore

/-- What a thread sends: its message registers, the CPtrs of the capabilities it attaches, and whether it waits
    for a reply. -/
structure Outgoing where
  label : Word
  length : Nat
  regs : List Word
  caps : List Nat
  call : Bool
deriving DecidableEq

/-- A message on its way: the endpoint it goes to, the badge it comes with and whether capabilities may come
    with it, the TCB slot of the sender, and the CPtr it was sent through. -/
structure Request where
  endpoint : Nat
  badge : Word
  grant : Bool
  tcb : Nat
  cptr : Nat
  message : Outgoing
deriving DecidableEq

namespace Request

variable (r : Request) (k : ObjectStore)

/-- The slots of the capabilities that come with a message. -/
def offers : List Place := if r.grant then k.attached r.tcb r.message.caps else []

/-- A capability for the endpoint the message goes through is not transferred, but reported by its badge. -/
def sameEndpoint (place : Place) : Bool :=
  match k.capAt place with
  | some cap => cap.blueprint = .endpoint ∧ cap.object = r.endpoint
  | none     => false

/-- The message as it arrives. A capability is named by its position among those offered. -/
def delivery : Delivery where
  label := r.message.label
  length := r.message.length
  regs := r.message.regs
  caps := (r.offers k).zipIdx.map fun (place, i) => ⟨r.sameEndpoint k place, BitVec.ofNat 64 i⟩
  badge := r.badge
  caller := if r.message.call ∧ r.grant then some ⟨r.tcb, false⟩ else none

end Request

/-! ## The system -/

/-- What happens at notifications. A signal of a task comes from a CPtr of the thread behind a TCB slot. -/
inductive SignalEvent where
  | signalled (object : Nat) (badge : Word) (source : Option (Nat × Nat))
  | observed (object : Nat) (badge : Option Badge)
deriving DecidableEq

/-- `transfers` records where capabilities were copied from and to, and `signals` what happened at the
    notifications, both the newest first. The CNodes of the IPC layer are read off the object store
    (`ClientSystem.view`). -/
structure ClientSystem where
  supervisor : Supervisor
  world : World
  requests : List Request
  words : Signals
  transfers : List (Place × Place)
  signals : List SignalEvent

/-- An operation of the root task or its threads; one of the IPC layer in which no message arrives; a message of a
    task; a receive, and the message it gets; a signal of a task and one of the root task; and its looks. -/
inductive ClientOp where
  | supervise (op : SupervisorOp)
  | layer (op : Op)
  | send (task : Task) (cptr : Nat) (message : Outgoing)
  | receive (endpoint : Nat) (slot : Option Nat) (blocking : Bool) (request : Request)
  | signal (task : Task) (cptr : Nat)
  | signalOwn (notification : Nat)
  | poll (notification : Nat)
  | wait (notification : Nat)

namespace Supervisor

variable (w : Supervisor)

/-- The notifications that were returned. -/
def notifications : List Nat := w.root.handles.filterMap fun handle =>
  match handle with
  | .notification i => some i
  | _               => none

/-- What the constructors of `DelegatedCapability` make of an endpoint or a notification that was returned. -/
def Delegable (d : DelegatedCapability) : Prop :=
  (d.source ∈ w.endpoints ∧ d.badge ≠ 0 ∧ d.rights = ⟨false, true, true, false⟩) ∨
  (d.source ∈ w.notifications ∧ d.rights = .writeOnly)

instance : DecidablePred w.Delegable := fun d =>
  inferInstanceAs (Decidable ((d.source ∈ w.endpoints ∧ d.badge ≠ 0 ∧ d.rights = ⟨false, true, true, false⟩) ∨
    (d.source ∈ w.notifications ∧ d.rights = .writeOnly)))

end Supervisor

/-- The delegations of the task an operation creates. -/
def SupervisorOp.delegations : SupervisorOp → List DelegatedCapability
  | .root (.createTask config) => config.delegations
  | _                          => []

/-- The receive that a message gets to. -/
def receiveOp (endpoint : Nat) (slot : Option Nat) (blocking : Bool) (delivery : Delivery) : Op :=
  if blocking then .receive endpoint slot delivery else .tryReceive endpoint slot (.message delivery)

/-- The CSpace of a new task. -/
def IpcState.addTask (s : IpcState) (x : HeldTask) : IpcState :=
  { s with cspaces := Function.update s.cspaces x.task.cspace.root ⟨x.task.cspace.sizeBits, x.task.cspace.slots⟩ }

namespace ClientSystem

variable (h : Host) (s : ClientSystem)

def kernel : ObjectStore := s.supervisor.root.state.kernel

def tasks : List HeldTask := s.supervisor.tasks

/-- A supervisor that may have one more task. -/
def adopt (supervisor : Supervisor) : ClientSystem :=
  let new := supervisor.tasks.drop s.tasks.length
  { s with supervisor, world := { s.world with state := new.foldl IpcState.addTask s.world.state } }

/-- The slot of the CSpace of a task that the root task names with an index. -/
def childPlace (root index : Nat) : Option Place := do
  let x ← s.tasks.find? fun x => x.task.cspace.root = root
  if index < 2 ^ x.task.cspace.sizeBits then
    (s.kernel.lookupTargetSlot root index x.task.cspace.sizeBits).toOption
  else
    none

/-- What is in the slots of the CSpaces of tasks; only whether there is something matters. -/
def children (root index : Nat) : Option Word :=
  ((s.childPlace root index).bind s.kernel.capAt).map fun _ => 0

/-- The world of the IPC layer, with the CNodes as they are. -/
def view : World :=
  { s.world with state := { s.world.state with kernel := { s.world.state.kernel with children := s.children } } }

/-- The slot of the capability that was copied, and where it is now, if the empty slot that a receive was given
    has been filled. -/
def installed (world : World) (slot : Option Nat) (r : Request) : Option (Place × Place) := do
  let handle ← slot
  let receiveSlot ← s.world.slots handle
  let target ← s.childPlace receiveSlot.root receiveSlot.reservation.slot
  if (s.kernel.capAt target).isNone then
    let position ← world.state.kernel.children receiveSlot.root receiveSlot.reservation.slot
    let source ← (r.offers s.kernel)[position.toNat]?
    return (source, target)
  else
    none

/-- A capability is copied. -/
def transfer (source target : Place) : ClientSystem :=
  { s with
    supervisor := s.supervisor.withLive
      ⟨s.kernel.putCap target ((s.kernel.capAt source).map fun cap => cap.derive cap.rights), s.supervisor.threads⟩
    transfers := (source, target) :: s.transfers }

/-- No message arrives in the operation: it is no receive, or one that finds nobody waiting. A call of the root
    task does not return, as no task can receive it. -/
def Quiet : Op → Prop
  | .tryReceive endpoint _ (.noSender _) =>
      ∀ r ∈ s.requests, (s.kernel.root endpoint).map (·.object) ≠ some r.endpoint
  | .receive _ _ _ | .tryReceive _ _ (.message _) | .faultReceive _ _ | .call _ _ => False
  | _ => True

instance : DecidablePred s.Quiet
  | .tryReceive endpoint _ (.noSender _) =>
      inferInstanceAs (Decidable (∀ r ∈ s.requests, (s.kernel.root endpoint).map (·.object) ≠ some r.endpoint))
  | .receive _ _ _             => .isFalse id
  | .tryReceive _ _ (.message _) => .isFalse id
  | .faultReceive _ _          => .isFalse id
  | .call _ _                  => .isFalse id
  | .reply _ _                 => .isTrue trivial
  | .faultReply _              => .isTrue trivial
  | .finish _                  => .isTrue trivial
  | .defer _ _ _               => .isTrue trivial
  | .deferredReply _ _         => .isTrue trivial
  | .discard _ _               => .isTrue trivial
  | .send _                    => .isTrue trivial
  | .receiveSlot _ _           => .isTrue trivial

/-- A message of a task goes to the endpoint it names, if it may send there. -/
def send (task : Task) (cptr : Nat) (message : Outgoing) : Option ClientSystem := do
  let cap ← (s.kernel.find task.thread.tcb cptr).bind s.kernel.capAt
  if cap.blueprint = .endpoint ∧ cap.rights.write then
    some { s with requests :=
      s.requests ++ [⟨cap.object, cap.badge, cap.rights.grant, task.thread.tcb, cptr, message⟩] }
  else
    none

/-- `Endpoint::receive` or `Endpoint::try_receive` gets a message. -/
def receive (endpoint : Nat) (slot : Option Nat) (blocking : Bool) (r : Request) : Option ClientSystem := do
  let cap ← s.kernel.root endpoint
  if r ∈ s.requests ∧ r.endpoint = cap.object then
    let world ← World.step s.view (receiveOp endpoint slot blocking (r.delivery s.kernel))
    -- a refused receive leaves the message where it is
    if s.world.state.pending endpoint then
      some { s with world }
    else
      let taken : ClientSystem := { s with world, requests := s.requests.erase r }
      match s.installed world slot r with
      | some (source, target) => some (taken.transfer source target)
      | none                  => some taken
  else
    none

/-- A signal of a task reaches the notification it names, if it may signal it. -/
def signal (task : Task) (cptr : Nat) : Option ClientSystem := do
  let cap ← (s.kernel.find task.thread.tcb cptr).bind s.kernel.capAt
  if cap.blueprint = .notification ∧ cap.rights.write then
    some { s with
      words := s.words.signal cap.object cap.badge
      signals := .signalled cap.object cap.badge (some (task.thread.tcb, cptr)) :: s.signals }
  else
    none

/-- After a look at a notification. -/
def observe (object : Nat) (look : Option Badge × Signals) : ClientSystem :=
  { s with words := look.2, signals := .observed object look.1 :: s.signals }

def step (s : ClientSystem) : ClientOp → Option ClientSystem
  | .supervise op => (Supervisor.step h s.supervisor op).map s.adopt
  | .layer op => if s.Quiet op then (World.step s.view op).map fun world => { s with world } else none
  | .send task cptr message => s.send task cptr message
  | .receive endpoint slot blocking request => s.receive endpoint slot blocking request
  | .signal task cptr => s.signal task cptr
  | .signalOwn notification => do
      let cap ← s.kernel.root notification
      return { s with
        words := Notification.signal s.words cap.object
        signals := .signalled cap.object 0 none :: s.signals }
  | .poll notification => do
      let cap ← s.kernel.root notification
      return s.observe cap.object (Notification.poll s.words cap.object)
  | .wait notification => do
      let cap ← s.kernel.root notification
      let look ← Notification.wait s.words cap.object
      return s.observe cap.object look

/-- Where runs start: nothing has been sent, received or signalled. -/
structure Initial (s : ClientSystem) : Prop where
  supervisor : s.supervisor.Initial h
  world : s.world.Initial
  requests : s.requests = []
  words : ∀ object, s.words object = none
  transfers : s.transfers = []
  signals : s.signals = []

/-- Operations are called on what was returned before, and only endpoints and notifications are delegated. -/
def Orderly (s : ClientSystem) : ClientOp → Prop
  | .supervise op => s.supervisor.Owned op ∧ ∀ d ∈ op.delegations, s.supervisor.Delegable d
  | .layer (.receiveSlot root _) => root ∈ s.tasks.map fun x => x.task.cspace.root
  | .layer _ => True
  | .send task _ _ | .signal task _ => task ∈ s.tasks.map HeldTask.task
  | .receive endpoint _ _ _ => endpoint ∈ s.supervisor.endpoints
  | .signalOwn notification | .poll notification | .wait notification => notification ∈ s.supervisor.notifications

instance : DecidablePred s.Orderly
  | .supervise op => inferInstanceAs (Decidable (s.supervisor.Owned op ∧ ∀ d ∈ op.delegations, _))
  | .layer op =>
      match op with
      | .receiveSlot root _ => inferInstanceAs (Decidable (root ∈ s.tasks.map fun x => x.task.cspace.root))
      | .receive _ _ _ | .tryReceive _ _ _ | .faultReceive _ _ | .reply _ _ | .faultReply _ | .finish _
      | .defer _ _ _ | .deferredReply _ _ | .discard _ _ | .call _ _ | .send _ => .isTrue trivial
  | .send task _ _          => inferInstanceAs (Decidable (task ∈ s.tasks.map HeldTask.task))
  | .signal task _          => inferInstanceAs (Decidable (task ∈ s.tasks.map HeldTask.task))
  | .receive endpoint _ _ _ => inferInstanceAs (Decidable (endpoint ∈ s.supervisor.endpoints))
  | .signalOwn notification => inferInstanceAs (Decidable (notification ∈ s.supervisor.notifications))
  | .poll notification      => inferInstanceAs (Decidable (notification ∈ s.supervisor.notifications))
  | .wait notification      => inferInstanceAs (Decidable (notification ∈ s.supervisor.notifications))

/-! ## Clients at work -/

/-- The root task before anything was allocated. -/
def start : ClientSystem := ⟨Supervisor.start, World.start, [], fun _ => none, [], []⟩

theorem start_initial : Initial RootTask.host start where
  supervisor := Supervisor.start_initial
  world := World.initial_start
  requests := rfl
  words _ := rfl
  transfers := rfl
  signals := rfl

/-- Follow a list of operations, as long as they are orderly. -/
def run (operations : List ClientOp) (s : ClientSystem) : Option ClientSystem :=
  operations.foldlM (guardedStep (step RootTask.host) Orderly) s

/-- An endpoint and a notification, a task that has both, and one that has neither. -/
def founding : List ClientOp :=
  let delegated := [⟨101, 1, ⟨false, true, true, false⟩, 7⟩, ⟨102, 2, .writeOnly, 5⟩]
  [.supervise (.root .allocateFrame), .supervise (.root .allocateEndpoint), .supervise (.root .allocateNotification),
    .supervise (.root (.createTask { RootTask.taskConfig with delegatedCapabilities := delegated })),
    .supervise (.root (.createTask { RootTask.taskConfig with delegatedCapabilities := [] }))]

/-- The first task attaches the notification to a call, and the root task receives the call with slot 5 of the
    second task, which then signals. -/
def handing : List Task → List ClientOp
  | [first, second] =>
      let message : Outgoing := ⟨9, 1, [3], [2], true⟩
      [.send first 1 message, .layer (.receiveSlot second.cspace.root 5),
        .receive 101 (some 0) true ⟨101, 7, true, first.thread.tcb, 1, message⟩, .signal second 5]
  | _ => []

/-- Clients at work: the second task has come to have the notification. -/
def handed : Option ClientSystem :=
  (run founding start).bind fun s => run (handing (s.tasks.map HeldTask.task)) s

theorem handed_reachable {s : ClientSystem} (hs : handed = some s) :
    Reachable (step RootTask.host) (Initial RootTask.host) Orderly s := by
  obtain ⟨s₀, hfounding, hhanding⟩ := Option.bind_eq_some_iff.mp hs
  exact ((Reachable.refl start_initial).foldlM_guarded _ hfounding).foldlM_guarded _ hhanding

/-- The second task, to which nothing was delegated, finds a capability in slot 5; the root task holds a message with
    badge 7, and would see badge 5 at the notification. -/
theorem handed_outcome : ∃ (s : ClientSystem) (y : HeldTask) (place : Place) (cap : Cap) (m : HeldMessage)
    (badge : Badge) (s' : ClientSystem), handed = some s ∧ y ∈ s.tasks ∧ y.config.delegations = [] ∧
    s.kernel.find y.task.thread.tcb 5 = some place ∧ s.kernel.capAt place = some cap ∧
    s.world.messages 1 = some m ∧ m.received.badge = some badge ∧ badge.raw = 7 ∧
    run [.poll 102] s = some s' ∧ s'.signals.head? = some (.observed 102 (some ⟨5, by decide⟩)) := by
  have hrun : (handed.bind fun s => s.tasks.getLast?.map fun y =>
      (y.config.delegations, ((s.kernel.find y.task.thread.tcb 5).bind s.kernel.capAt).isSome,
        (s.world.messages 1).bind fun m => m.received.badge.map Badge.raw,
        (run [.poll 102] s).bind fun s' => s'.signals.head?)) =
      some ([], true, some 7, some (.observed 102 (some ⟨5, by decide⟩))) := by
    decide +kernel
  obtain ⟨s, hs, hrun⟩ := Option.bind_eq_some_iff.mp hrun
  obtain ⟨y, hlast, hy⟩ := Option.map_eq_some_iff.mp hrun
  simp only [Prod.mk.injEq] at hy
  obtain ⟨hbare, hsome, hmessage, hlook⟩ := hy
  obtain ⟨cap, hcap⟩ := Option.isSome_iff_exists.mp hsome
  obtain ⟨place, hfind, hcap⟩ := Option.bind_eq_some_iff.mp hcap
  obtain ⟨m, hm, hraw⟩ := Option.bind_eq_some_iff.mp hmessage
  obtain ⟨badge, hbadge, hraw⟩ := Option.map_eq_some_iff.mp hraw
  obtain ⟨s', hs', hlook⟩ := Option.bind_eq_some_iff.mp hlook
  exact ⟨s, y, place, cap, m, badge, s', hs, List.mem_of_getLast? hlast, hbare, hfind, hcap, hm, hbadge, hraw, hs',
    hlook⟩

end ClientSystem
end Ricoq
