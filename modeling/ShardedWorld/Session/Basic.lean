import ShardedWorld.Player.TimerGroup
import ShardedWorld.Session.Talk

/-!
A player's session: one live link to the zone server that owns the player.

The session predicts the player's position at every tick and corrects it by what the server tells.
It follows the player from server to server, with its timers paused while the link moves, and looks
for a new link when it has lost the old one. Connections that it no longer refers to are closed.
-/

set_option autoImplicit false

namespace ShardedWorld

/-- `prewarmHits` counts the moves to another server for which a connection was open already. -/
structure SessionStats where
  ticks : Nat
  worldStates : Nat
  switches : Nat
  failedSwitches : Nat
  reconnects : Nat
  failedMoves : Nat
  prewarmHits : Nat
  lastRoundTrip : Option Duration
  deriving DecidableEq

namespace SessionStats

def none : SessionStats := ⟨0, 0, 0, 0, 0, 0, 0, .none⟩

end SessionStats

/-- `probed` is the connection that heartbeats go over, `prewarmed` one that was opened ahead of a
move to its zone, and `prewarming` the zone for which one is being opened. -/
structure Session where
  config : SessionConfig
  link : Option Session.Link
  probed : Option LinkId
  prewarmed : Option (Zone × Session.Link)
  prewarming : Option Zone
  controller : TransitionController
  backoff : Backoff
  reconnectAt : Option Instant
  health : HealthMonitor
  anomalies : List Anomaly
  timers : TimerGroup
  position : Vec2
  velocity : Vec2
  sequence : UInt32
  lastTick : Instant
  lastWorldState : Instant
  stats : SessionStats

namespace Session

/-- What a session does to the outside without waiting for it: it sends its move, opens a connection
ahead of time, or leaves a server that it has moved away from. -/
inductive Effect where
  | move (link : LinkId) (datagram : Datagram)
  | prewarm (zone : Zone) (position : Vec2)
  | leave (link : LinkId) (player : PlayerId)
  deriving DecidableEq

def joined (config : SessionConfig) (arrival : Arrival) : Session where
  config
  link := some arrival.link
  probed := some arrival.link.id
  prewarmed := none
  prewarming := none
  controller := .settled config.grid config.transition arrival.answer.zone
  backoff := .fresh config.backoff
  reconnectAt := none
  health := .fresh config.health
  anomalies := []
  timers := .running
  position := arrival.answer.position.getD config.spawnAt
  velocity := .zero
  sequence := 0
  lastTick := arrival.time
  lastWorldState := arrival.time
  stats := .none

def connect (config : SessionConfig) : Attempt Session :=
  andThen (arrive config) fun arrival => .finished (.ok (joined config arrival))

def connectedZone (s : Session) : Option Zone := s.link.map (·.server.zone)

def localZone (s : Session) : Zone := s.config.grid.zoneOf s.position

def count (s : Session) (change : SessionStats → SessionStats) : Session :=
  { s with stats := change s.stats }

def anomalyHistory : Nat := 64

/-- Remembers an anomaly, and the ones before it as far as there is room. -/
def report (s : Session) (anomaly : Anomaly) : Session :=
  let anomalies := s.anomalies ++ [anomaly]
  { s with anomalies := anomalies.drop (anomalies.length - anomalyHistory) }

/-- A place in a zone: where the player is, if it is there, and the middle of the zone otherwise. -/
def placeIn (s : Session) (zone : Zone) : Vec2 :=
  if s.localZone = zone then s.position else (s.config.grid.bounds zone).center

/-- Moves the link to a server that let the player in, and leaves the one before. -/
def attach (s : Session) (arrival : Arrival) : Session × List Effect :=
  ({ s with
      link := some arrival.link
      probed := some arrival.link.id
      position := arrival.answer.position.getD s.position
      health := s.health.clearPosition
      lastWorldState := arrival.time },
    s.link.toList.map fun previous => .leave previous.id s.config.playerId)

def loseLink (s : Session) : Session :=
  { s with link := none, probed := none, prewarmed := none }

def leave (s : Session) : Session × Talk Unit :=
  (s.loseLink,
    match s.link with
    | some link => .ask (.leave link.id s.config.playerId) fun _ => .finished ()
    | none => .finished ())

end Session

end ShardedWorld
