import Mathlib.Logic.Function.Basic
import ShardedWorld.Coordinator.Basic
import ShardedWorld.Server.Basic

/-! Two zone servers of one coordinator.

Both scan, answer each other and tick in any order. What is sent stays on its way: a request may be
served at any time, more than once or never, and so may its answers arrive. A scan waits for one
answer at a time and may give it up.
-/

set_option autoImplicit false

namespace ShardedWorld

namespace Scan

inductive Recipient where
  | coordinator
  | server (endpoint : Address)
  deriving DecidableEq

structure Message where
  recipient : Recipient
  request : Request
  deriving DecidableEq

/-- A question that is put over the network, and what its outcome means. -/
structure Errand (α : Type) where
  message : Message
  conclude : Except TransportError Response → α

namespace Errand

def ofCall {α : Type} (recipient : Recipient) (call : Call α) : Errand (Except TransportError α) :=
  ⟨⟨recipient, call.request⟩, call.conclude⟩

end Errand

/-- A server settles the other questions with itself and its pool of connections. -/
def errand? : (question : Question) → Option (Errand (Answer question))
  | .initiateTransfer player position =>
    some (.ofCall .coordinator (.initiateTransfer player position))
  | .completeTransfer player server => some (.ofCall .coordinator (.completeTransfer player server))
  | .locate position => some (.ofCall .coordinator (.serverForPosition position))
  | .push _ peer entity leftOriginMillis =>
    some (.ofCall (.server peer) (.transferEntity entity leftOriginMillis))
  | .connect _ | .isStale _ | .invalidate _ | .discard _ => none

@[elab_as_elim]
theorem errand?_cases
    {motive : (question : Question) → (errand : Errand (Answer question)) →
      errand? question = some errand → Prop}
    (initiateTransfer : ∀ player position, motive (.initiateTransfer player position)
      (.ofCall .coordinator (.initiateTransfer player position)) rfl)
    (completeTransfer : ∀ player server, motive (.completeTransfer player server)
      (.ofCall .coordinator (.completeTransfer player server)) rfl)
    (locate : ∀ position, motive (.locate position)
      (.ofCall .coordinator (.serverForPosition position)) rfl)
    (push : ∀ link peer entity leftOriginMillis,
      motive (.push link peer entity leftOriginMillis)
        (.ofCall (.server peer) (.transferEntity entity leftOriginMillis)) rfl)
    {question : Question} {errand : Errand (Answer question)}
    (known : errand? question = some errand) : motive question errand known := by
  cases question with
  | initiateTransfer player position =>
    obtain rfl := Option.some.inj known
    exact initiateTransfer player position
  | completeTransfer player server =>
    obtain rfl := Option.some.inj known
    exact completeTransfer player server
  | locate position =>
    obtain rfl := Option.some.inj known
    exact locate position
  | push link peer entity leftOriginMillis =>
    obtain rfl := Option.some.inj known
    exact push link peer entity leftOriginMillis
  | connect peer => cases known
  | isStale link => cases known
  | invalidate peer => cases known
  | discard id => cases known

end Scan

namespace Handover

open Scan (Message Talk errand?)

inductive Side where
  | left
  | right
  deriving DecidableEq

namespace Side

def other : Side → Side
  | left => right
  | right => left

end Side

/-- A server with the scan that it is at and the number of the request whose answer the scan waits
for. -/
structure Party where
  server : ZoneServer
  scan : Talk ScanReport
  awaited : Option Nat

namespace Party

/-- A server does not scan again before its last scan has finished. -/
def beginScan (p : Party) (now : Instant) : Party :=
  match p.scan with
  | .finished _ =>
    let (server, scan) := p.server.scan now
    { p with server, scan }
  | .ask .. => p

def goOn (p : Party) (scan : Talk ScanReport) : Party := { p with scan, awaited := none }

def conclude (p : Party) (outcome : Except TransportError Response) : Party :=
  match p.scan with
  | .finished _ => p
  | .ask question resume =>
    match errand? question with
    | none => p
    | some errand => p.goOn (resume (errand.conclude outcome))

end Party

/-- What decides where an entity is: a server told another one that it holds it now, or took it
out. -/
inductive Act where
  | accepted (at_ : Side) (id : EntityId)
  | removed (at_ : Side) (id : EntityId)
  deriving DecidableEq

def Act.ofResponse (side : Side) : Request → Response → List Act
  | .transferEntity entity _, .accepted true => [.accepted side entity.id]
  | _, _ => []

/-- Requests are numbered in the order in which they were sent, and responses carry the number of
their request. The last act stands last. -/
structure World (σ : Type) where
  coordinator : Coordinator σ
  party : Side → Party
  requests : List Message
  responses : List (Nat × Response)
  acts : List Act

inductive Event where
  | tick (side : Side) (seconds : Single) (timestamp : UInt64)
  | hear (side : Side) (now : Instant) (sender : Address) (datagram : Datagram)
  | scan (side : Side) (now : Instant)
  | send (side : Side)
  | serve (number : Nat) (now : Instant) (sender : Address)
  | receive (side : Side) (place : Nat)
  | fail (side : Side) (e : TransportError)
  | proceed (side : Side) (opened : Except TransportError LinkId) (stale : Bool)

namespace World

variable {σ : Type} [Store σ]

def update (w : World σ) (side : Side) (change : Party → Party) : World σ :=
  { w with party := Function.update w.party side (change (w.party side)) }

def listener? (w : World σ) (endpoint : Address) : Option Side :=
  if (w.party .left).server.endpoint = endpoint then some .left
  else if (w.party .right).server.endpoint = endpoint then some .right
  else none

def send (w : World σ) (side : Side) : World σ :=
  match (w.party side).scan, (w.party side).awaited with
  | .ask question _, none =>
    match errand? question with
    | none => w
    | some errand =>
      { w.update side fun p => { p with awaited := some w.requests.length } with
        requests := w.requests ++ [errand.message] }
  | _, _ => w

def serve (w : World σ) (number : Nat) (now : Instant) (sender : Address) : World σ :=
  match w.requests[number]? with
  | none => w
  | some ⟨.coordinator, request⟩ =>
    let (response, coordinator) := w.coordinator.handle now sender request
    { w with coordinator, responses := w.responses ++ [(number, response)] }
  | some ⟨.server endpoint, request⟩ =>
    match w.listener? endpoint with
    | none => w
    | some side =>
      let (response, server) := (w.party side).server.handle now sender request
      { w.update side fun p => { p with server } with
        responses := w.responses ++ [(number, response)]
        acts := w.acts ++ Act.ofResponse side request response }

def receive (w : World σ) (side : Side) (place : Nat) : World σ :=
  match w.responses[place]? with
  | none => w
  | some (number, response) =>
    if (w.party side).awaited = some number then
      w.update side fun p => p.conclude (Connection.outcome response)
    else w

def proceed (w : World σ) (side : Side) (opened : Except TransportError LinkId) (stale : Bool) :
    World σ :=
  match (w.party side).scan with
  | .ask (.connect _) resume => w.update side fun p => p.goOn (resume opened)
  | .ask (.isStale _) resume => w.update side fun p => p.goOn (resume stale)
  | .ask (.invalidate _) resume => w.update side fun p => p.goOn (resume ())
  | .ask (.discard id) resume =>
    { w.update side fun p => { p.goOn (resume ()) with server := p.server.discard id } with
      acts := w.acts ++ [.removed side id] }
  | _ => w

/-- Nothing happens where an event is not possible. -/
def step (w : World σ) : Event → World σ
  | .tick side seconds timestamp =>
    w.update side fun p => { p with server := (p.server.tick seconds timestamp).2 }
  | .hear side now sender datagram =>
    w.update side fun p => { p with server := p.server.hear now sender datagram }
  | .scan side now => w.update side fun p => p.beginScan now
  | .send side => w.send side
  | .serve number now sender => w.serve number now sender
  | .receive side place => w.receive side place
  | .fail side e => w.update side fun p => p.conclude (.error e)
  | .proceed side opened stale => w.proceed side opened stale

def run (w : World σ) (events : List Event) : World σ := events.foldl step w

def Holds (w : World σ) (player : PlayerId) : Prop :=
  ∃ side, (w.party side).server.population.contains player = true

end World

end Handover

end ShardedWorld
