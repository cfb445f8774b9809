import ShardedWorld.Dialogue
import ShardedWorld.Entity.Crossing
import ShardedWorld.Entity.Population
import ShardedWorld.Message.Record
import ShardedWorld.Network.Pool
import ShardedWorld.Network.TransportError

/-!
The scan that hands entities over which left the zone of their server.

A scan first looks at all entities at once and picks the candidates, then takes them one by one
while the world goes on. Players go where the registry directs them; other entities go to the
server that owns the zone they are in or about to enter, and are destroyed if they are outside and
no server owns that zone. A failure concerns one entity only, which stays and is tried again by the
next scan.
-/

set_option autoImplicit false

namespace ShardedWorld

structure TransferConfig where
  pushDeadline : Duration
  window : ProjectileWindow
  deriving DecidableEq

namespace TransferConfig

def standard : TransferConfig := ⟨.ofSeconds 2, .standard⟩

end TransferConfig

/-- What a scan did. `retained` are the players outside their zone that no server is to take. -/
structure ScanReport where
  scanned : Nat
  handedOff : Nat
  retained : Nat
  destroyed : Nat
  failed : Nat
  deriving DecidableEq, Inhabited

namespace Scan

inductive Question where
  | initiateTransfer (player : PlayerId) (position : Vec2)
  | completeTransfer (player : PlayerId) (server : ServerId)
  | locate (position : Vec2)
  | connect (peer : Address)
  | push (link : LinkId) (peer : Address) (entity : EntitySnapshot)
      (leftOriginMillis : Option UInt64)
  | isStale (link : LinkId)
  | invalidate (peer : Address)
  | discard (id : EntityId)
  deriving DecidableEq

abbrev Answer : Question → Type
  | .initiateTransfer .. => Except TransportError (Option TransferDirective)
  | .completeTransfer .. => Except TransportError Unit
  | .locate _ => Except TransportError (Option ServerInfo)
  | .connect _ => Except TransportError LinkId
  | .push .. => Except TransportError Bool
  | .isStale _ => Bool
  | .invalidate _ => Unit
  | .discard _ => Unit

abbrev Talk := Dialogue Question Answer

inductive Outcome where
  | handedOff
  | retained
  | destroyed
  | kept
  deriving DecidableEq

abbrev Attempt (α : Type) := Talk (Except HandoffError α)

def expect {α β : Type} (answer : Except TransportError α) (next : α → Attempt β) : Attempt β :=
  match answer with
  | .ok a => next a
  | .error e => .finished (.error (.ofTransport e))

def andThen {α β : Type} (attempt : Attempt α) (next : α → Attempt β) : Attempt β :=
  attempt.bind fun
    | .ok a => next a
    | .error e => .finished (.error e)

/-- Classifies every entity and notes since when it has been outside; gives the candidates in the
order of their numbers. -/
def collect (grid : Grid) (zone : Zone) (w : ProjectileWindow) (now : Instant) (p : Population) :
    Population × List (Entity × Crossing) :=
  let marked := p.map fun _ b =>
    match Crossing.classify grid zone w b with
    | .inside => { b with leftOriginAt := none }
    | .outside _ => { b with leftOriginAt := some (b.leftOriginAt.getD now) }
    | .leaving _ => b
  (marked,
    marked.toList.filterMap fun e =>
      match Crossing.classify grid zone w e.toBody with
      | .inside => none
      | crossing => some (e, crossing))

/-- What the outcome of an offer means. A failure on a connection whose peer has gone is told
apart. -/
def settleOffer (peer : Address) (link : LinkId) : Except TransportError Bool → Attempt Bool
  | .ok accepted => .finished (.ok accepted)
  | .error e =>
    .ask (.isStale link) fun stale =>
      .finished (.error (if stale then .staleConnection peer else .ofTransport e))

/-- Offers an entity to a peer, a second time if the first offer timed out. Tells whether the peer
took it. -/
def offer (peer : Address) (entity : EntitySnapshot) (leftOriginMillis : Option UInt64) :
    Attempt Bool :=
  .ask (.connect peer) fun opened =>
    expect opened fun link =>
      .ask (.push link peer entity leftOriginMillis) fun first =>
        match first with
        | .error (.timeout ..) =>
          .ask (.push link peer entity leftOriginMillis) (settleOffer peer link)
        | answer => settleOffer peer link answer

/-- A player outside its zone that is not to be moved. If the registry places it on another server,
it has lost track of the player; this server holds it and claims it, so that the next scan is
directed. -/
def reclaim (self : ServerId) (e : Entity) : Attempt Outcome :=
  .ask (.locate e.position) fun answer =>
    expect answer fun
      | some owner =>
        if owner.serverId = self then .finished (.ok .retained)
        else
          .ask (.completeTransfer e.id self) fun answer =>
            expect answer fun _ => .finished (.ok .retained)
      | none => .finished (.ok .retained)

/-- A player goes where the registry directs it. A confirmation that gets lost does no harm: the
order is repeated until it is confirmed, and the target accepts again. -/
def transferPlayer (self : ServerId) (e : Entity) : Attempt Outcome :=
  .ask (.initiateTransfer e.id e.position) fun answer =>
    expect answer fun
      | none => reclaim self e
      | some directive =>
        let target := directive.target
        if target.serverId = self then .finished (.ok .retained)
        else
          andThen (offer target.endpoint e.snapshot none) fun accepted =>
            if accepted then
              .ask (.completeTransfer e.id target.serverId) fun _ => .finished (.ok .handedOff)
            else
              .finished (.error (.misuse
                (target.serverId.name ++ " declined player " ++ toString e.id.toNat)))

/-- Any other entity goes to the server of the zone it is in or about to enter. -/
def transferByPosition (self : ServerId) (grid : Grid) (now : Instant) (e : Entity)
    (zone : Zone) (outside : Bool) : Attempt Outcome :=
  .ask (.locate (grid.bounds zone).center) fun answer =>
    expect answer fun owner =>
      match owner.filter fun owner => owner.serverId ≠ self with
      | none => .finished (.ok (if outside then .destroyed else .kept))
      | some target =>
        let leftOrigin := e.leftOriginAt.map fun at_ => .ofNat (now.since at_).millis
        andThen (offer target.endpoint e.snapshot leftOrigin) fun accepted =>
          .finished (.ok (if accepted then .handedOff else .kept))

def transfer (self : ServerId) (grid : Grid) (now : Instant) (e : Entity) (crossing : Crossing) :
    Attempt Outcome :=
  if e.kind = .player then transferPlayer self e
  else
    match crossing with
    | .inside => .finished (.ok .kept)
    | .outside zone => transferByPosition self grid now e zone true
    | .leaving zone => transferByPosition self grid now e zone false

/-- Takes an entity out that is gone, and counts what became of it. -/
def conclude (report : ScanReport) (e : Entity) : Except HandoffError Outcome → Talk ScanReport
  | .ok .handedOff =>
    .ask (.discard e.id) fun _ => .finished { report with handedOff := report.handedOff + 1 }
  | .ok .destroyed =>
    .ask (.discard e.id) fun _ => .finished { report with destroyed := report.destroyed + 1 }
  | .ok .retained => .finished { report with retained := report.retained + 1 }
  | .ok .kept => .finished report
  | .error (.staleConnection peer) =>
    .ask (.invalidate peer) fun _ => .finished { report with failed := report.failed + 1 }
  | .error _ => .finished { report with failed := report.failed + 1 }

def transferAll (self : ServerId) (grid : Grid) (now : Instant) :
    List (Entity × Crossing) → ScanReport → Talk ScanReport
  | [], report => .finished report
  | (e, crossing) :: rest, report =>
    (transfer self grid now e crossing).bind fun outcome =>
      (conclude report e outcome).bind (transferAll self grid now rest)

/-- A whole scan of a population at the time `now`: the population with its marks, and what is left
to be talked over. -/
def start (self : ServerId) (grid : Grid) (w : ProjectileWindow) (zone : Zone) (now : Instant)
    (p : Population) : Population × Talk ScanReport :=
  let (marked, candidates) := collect grid zone w now p
  (marked, transferAll self grid now candidates { (default : ScanReport) with scanned := p.size })

end Scan

end ShardedWorld
