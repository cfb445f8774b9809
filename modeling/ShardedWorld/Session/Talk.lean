import ShardedWorld.Dialogue
import ShardedWorld.Network.Call
import ShardedWorld.Session.Config
import ShardedWorld.Session.Error

/-!
What a player's session asks the coordinator and the zone servers: how it finds the server of a
zone, connects to it and joins.

Every answer comes with the time at which it arrived.
-/

set_option autoImplicit false

namespace ShardedWorld.Session

structure Link where
  server : ServerInfo
  id : LinkId
  deriving DecidableEq

inductive Question where
  | connect (peer : Address)
  | locate (position : Vec2)
  | join (link : LinkId) (player : PlayerId) (name sessionKey : String) (spawnAt : Option Vec2)
  | leave (link : LinkId) (player : PlayerId)
  deriving DecidableEq

structure Reply (α : Type) where
  time : Instant
  outcome : Except TransportError α

abbrev Answer : Question → Type
  | .connect _ => Reply LinkId
  | .locate _ => Reply (Option ServerInfo)
  | .join .. => Reply JoinAnswer
  | .leave .. => Reply Unit

abbrev Talk := Dialogue Question Answer

structure Setback where
  error : SessionError
  time : Instant
  deriving DecidableEq

abbrev Attempt (α : Type) := Talk (Except Setback α)

def expect {α β : Type} (reply : Reply α) (next : α → Attempt β) : Attempt β :=
  match reply.outcome with
  | .ok a => next a
  | .error e => .finished (.error ⟨.transport e, reply.time⟩)

def andThen {α β : Type} (attempt : Attempt α) (next : α → Attempt β) : Attempt β :=
  attempt.bind fun
    | .ok a => next a
    | .error e => .finished (.error e)

/-- Connects to the server that owns a zone; `position` is a place in this zone. -/
def reach (zone : Zone) (position : Vec2) : Attempt Link :=
  .ask (.locate position) fun reply =>
    expect reply fun
      | none => .finished (.error ⟨.noServer zone, reply.time⟩)
      | some server =>
        .ask (.connect server.endpoint) fun reply =>
          expect reply fun id => .finished (.ok ⟨server, id⟩)

/-- A server that let the player in, what it said and when. -/
structure Arrival where
  link : Link
  answer : JoinAnswer
  time : Instant

/-- Joins over a link; `spawnAt` is where the player may appear if the server does not hold it. -/
def enter (config : SessionConfig) (spawnAt : Option Vec2) (link : Link) : Attempt Arrival :=
  .ask (.join link.id config.playerId config.name config.sessionKey spawnAt) fun reply =>
    expect reply fun answer => .finished (.ok ⟨link, answer, reply.time⟩)

/-- Finds the coordinator, then the server of the place where the player appears, and joins it. -/
def arrive (config : SessionConfig) : Attempt Arrival :=
  .ask (.connect config.coordinator) fun reply =>
    expect reply fun _ =>
      andThen (reach (config.grid.zoneOf config.spawnAt) config.spawnAt)
        (enter config (some config.spawnAt))

end ShardedWorld.Session
