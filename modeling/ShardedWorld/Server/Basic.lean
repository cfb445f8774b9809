import ShardedWorld.Network.Service
import ShardedWorld.Server.Attendance
import ShardedWorld.Server.Config

/-!
A zone server: the entities of one zone, and the clients that it tells about them.

It takes entities in that neighbours hand over, lets players join, applies their moves and tells
every attached client the state of the zone at each tick.
-/

set_option autoImplicit false

namespace ShardedWorld

/-- `accepted` counts the entities taken in from neighbours. `unannounced` are the players that
appeared here and that the coordinator has not been told of yet, the oldest first. -/
structure ZoneServer where
  config : ServerConfig
  zone : Zone
  population : Population
  attendance : Attendance
  ticks : UInt32
  accepted : Nat
  unannounced : List PlayerRecord

namespace ZoneServer

def assigned (config : ServerConfig) (zone : Zone) : ZoneServer where
  config
  zone
  population := .empty config.maxEntities
  attendance := .empty config.maxClients config.clientTimeout
  ticks := 0
  accepted := 0
  unannounced := []

def endpoint (s : ZoneServer) : Address := s.config.advertise.getD s.config.listen

def announce (s : ZoneServer) (record : PlayerRecord) : ZoneServer :=
  { s with unannounced := s.unannounced ++ [record] }

/-- Adds an entity from the game itself; none if there is no room. A player is announced. -/
def spawn? (s : ZoneServer) (e : Entity) : Option ZoneServer :=
  (s.population.insert? e).map fun population =>
    let s := { s with population }
    if e.kind = .player then
      s.announce
        { playerId := e.id, name := PlayerRecord.defaultName e.id, position := e.position
          velocity := e.velocity, health := e.health }
    else s

/-- Whether the server of this zone may hold an entity that a neighbour offers: a projectile that
it expects, or anything else inside the zone. Other offers get the answer that is given here. -/
def refusal? (s : ZoneServer) (entity : EntitySnapshot) (leftOriginMillis : Option UInt64) :
    Option Response :=
  if entity.kind.isProjectile then
    let leftOrigin := leftOriginMillis.map fun millis => Duration.ofMillis millis.toNat
    if Crossing.accepts s.config.grid s.zone s.config.transfer.window entity leftOrigin then none
    else some (.accepted false)
  else if s.config.grid.contains s.zone entity.position then none
  else some (.error .authorityConflict)

/-- Takes an entity in from a neighbour. One that is held already is accepted again and left as it
is, so a neighbour that missed the answer can safely repeat its offer. -/
def takeIn (s : ZoneServer) (entity : EntitySnapshot) (leftOriginMillis : Option UInt64) :
    Response × ZoneServer :=
  if s.population.contains entity.id then (.accepted true, s)
  else
    match s.refusal? entity leftOriginMillis with
    | some refusal => (refusal, s)
    | none =>
      match s.population.insert? (.ofSnapshot entity) with
      | none => (.error .capacityExceeded, s)
      | some population => (.accepted true, { s with population, accepted := s.accepted + 1 })

/-- The position of a player who joins. One who is not here yet appears at `spawnAt`, or is waited
for if no place is given. -/
def place (s : ZoneServer) (player : PlayerId) (name : String) (spawnAt : Option Vec2) :
    Except RemoteError (Option Vec2 × ZoneServer) :=
  match s.population.get? player, spawnAt with
  | some e, _ => .ok (some e.position, s)
  | none, none => .ok (none, s)
  | none, some position =>
    if !s.config.grid.contains s.zone position then .error .authorityConflict
    else
      match s.population.insert? (.appearing player .player position) with
      | none => .error .capacityExceeded
      | some population =>
        .ok (some position,
          { s with population }.announce (.appearing player name position))

/-- Lets a player join: the player gets a place first and is attached then. -/
def join (s : ZoneServer) (now : Instant) (sender : Address) (player : PlayerId)
    (name sessionKey : String) (spawnAt : Option Vec2) : Response × ZoneServer :=
  if !Attendance.admitsKey sessionKey then (.error .unauthorized, s)
  else
    match s.place player name spawnAt with
    | .error refusal => (.error refusal, s)
    | .ok (position, s) =>
      match s.attendance.attach? player sender now with
      -- The entity that was placed stays.
      | none => (.error .capacityExceeded, s)
      | some attendance =>
        (.joined s.config.serverId s.zone position, { s with attendance })

/-- Detaches a player, whose entity stays. -/
def leave (s : ZoneServer) (player : PlayerId) : ZoneServer :=
  { s with attendance := (s.attendance.detach player).2 }

/-- What those are told who take a zone server for the coordinator. -/
def misdirected : RemoteError := .misuse "request belongs to the coordinator"

/-- Every request shows that its sender is alive. -/
def handle (s : ZoneServer) (now : Instant) (sender : Address) (request : Request) :
    Response × ZoneServer :=
  let s := { s with attendance := s.attendance.touch sender now }
  match request with
  | .ping timestamp => (.pong timestamp, s)
  | .transferEntity entity leftOriginMillis => s.takeIn entity leftOriginMillis
  | .join player name sessionKey spawnAt => s.join now sender player name sessionKey spawnAt
  | .leave player => (.ack, s.leave player)
  | .registerServer .. | .unregisterServer _ | .heartbeat _ | .initiateTransfer .. |
    .completeTransfer .. | .updatePlayer _ | .resetPlayers | .serverForPosition _ |
    .reportZoneStats .. | .subscribeZoneStats _ | .unsubscribeZoneStats =>
    (.error misdirected, s)

/-- A move gives the player's entity a new velocity, if it is accepted. -/
def move (s : ZoneServer) (now : Instant) (sender : Address) (player : PlayerId)
    (sequence : UInt32) (velocity : Vec2) : ZoneServer :=
  let (accepted, attendance) := s.attendance.acceptMove player sequence sender now
  let s := { s with attendance }
  if accepted then
    { s with population := s.population.modify player fun b => { b with velocity } }
  else s

def hear (s : ZoneServer) (now : Instant) (sender : Address) : Datagram → ZoneServer
  | .move player sequence velocity => s.move now sender player sequence velocity
  | .worldState .. | .zoneStatistics _ => s

def service : Service ZoneServer := ⟨handle, hear⟩

/-- Moves everything on and gives what every attached client is told. -/
def tick (s : ZoneServer) (seconds : Single) (timestamp : UInt64) :
    List (Address × Datagram) × ZoneServer :=
  let s := { s with population := s.population.advance seconds, ticks := s.ticks + 1 }
  let parts := Datagram.worldStates s.ticks timestamp s.zone s.population.snapshots
  (parts.flatMap fun part => s.attendance.toList.map fun (_, c) => (c.address, part), s)

def dropSilent (s : ZoneServer) (now : Instant) : List PlayerId × ZoneServer :=
  let (silent, attendance) := s.attendance.dropSilent now
  (silent, { s with attendance })

/-- What is reported to the coordinator; `scanMillis` is how long the last scan took. -/
def stats (s : ZoneServer) (scanMillis : Single) : ZoneStats where
  entityCount := .ofNat s.population.size
  playerCount := .ofNat s.population.playerCount
  scanMillis

def scan (s : ZoneServer) (now : Instant) : ZoneServer × Scan.Talk ScanReport :=
  let (population, talk) :=
    Scan.start s.config.serverId s.config.grid s.config.transfer.window s.zone now s.population
  ({ s with population }, talk)

def discard (s : ZoneServer) (id : EntityId) : ZoneServer :=
  { s with population := s.population.erase id }

end ZoneServer

end ShardedWorld
