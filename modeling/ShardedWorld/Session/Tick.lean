import ShardedWorld.Session.Switch

/-!
What a session does at each tick of its own clock, with each datagram of its server and with each
signal of its timers.
-/

set_option autoImplicit false

namespace ShardedWorld.Session

/-- Begins to run, or goes on: time that passed in between moves nothing. -/
def resume (s : Session) (now : Instant) : Session := { s with lastTick := now }

def predict (s : Session) (now : Instant) : Session :=
  let seconds := (now.since s.lastTick).toSeconds
  { s.count fun c => { c with ticks := c.ticks + 1 } with
    lastTick := now
    position := s.position + s.velocity.scale seconds }

/-- Tells the server the velocity, under a number one higher than before. -/
def sendMove (s : Session) : Session × List Effect :=
  match s.link with
  | none => (s, [])
  | some link =>
    let sequence := s.sequence + 1
    ({ s with sequence }, [.move link.id (.move s.config.playerId sequence s.velocity)])

/-- Begins to open a connection to the server of `candidate`, unless one is open or being opened. -/
def prewarm (s : Session) (candidate : Zone) : Session × List Effect :=
  if s.prewarmed.map (·.1) = some candidate ∨ s.prewarming = some candidate then (s, [])
  else ({ s with prewarming := some candidate }, [.prewarm candidate (s.placeIn candidate)])

def observe (s : Session) (now : Instant) : Transition.Decision × Session :=
  let connected := s.connectedZone
  let (found, health) := s.health.observeZones s.localZone connected now
  let s := found.foldl report { s with health }
  let (decision, controller) := s.controller.update s.position connected now
  (decision, { s with controller })

/-- What a tick comes to: it is finished at once, the session ends with it, or the link has to be
moved or found again first. A move is given up at the time `limit`. -/
inductive Tick where
  | finished (session : Session) (effects : List Effect)
  | ended (ending : Ending) (session : Session)
  | committing (limit : Instant)
      (talk : Dialogue Question (fun question => Except Instant (Answer question))
        (Session × List Effect))
  | reconnecting (talk : Talk Reconnected)

/-- The move is sent at the end of a tick, over the link that there is then. -/
def sendMoveAfter (s : Session) (effects : List Effect) : Session × List Effect :=
  let (s, move) := s.sendMove
  (s, effects ++ move)

def commitAndMove (s : Session) (now : Instant) (target : Zone) (isStale : LinkId → Bool) : Tick :=
  .committing (now.after s.config.health.stuckTransition)
    ((s.commit now target isStale).bind fun done =>
      .finished (done.session.sendMoveAfter done.effects))

def tick (s : Session) (now : Instant) (isStale : LinkId → Bool) : Tick :=
  let s := s.predict now
  if s.link.isNone then .reconnecting (s.reconnect now isStale)
  else
    match s.observe now with
    | (.stay, s) =>
      let (s, effects) := s.sendMoveAfter []
      .finished s effects
    | (.pending candidate, s) =>
      let (s, effects) := s.prewarm candidate
      let (s, effects) := s.sendMoveAfter effects
      .finished s effects
    | (.commit _ target, s) => s.commitAndMove now target isStale
    | (.forcedCommit _ target _, s) => s.commitAndMove now target isStale
    | (.unrepresentable, s) => .ended .unrepresentableInstant s

/-- The server's word on where the player is holds. -/
def hear (s : Session) (now : Instant) : Datagram → Session
  | .worldState _ _ _ entities =>
    let s := { s with lastWorldState := now }
    let s := s.count fun c => { c with worldStates := c.worldStates + 1 }
    match entities.find? fun e => e.id = s.config.playerId with
    | none => s
    | some own =>
      let (jump, health) := s.health.observePosition own.position
      { jump.toList.foldl report { s with health } with position := own.position }
  | .zoneStatistics _ | .move .. => s

/-- What the timers and the attempts in the background bring. `stale` tells whether the connection
of the link has lost its peer. -/
inductive Signal where
  | probe (roundTrip : Except TransportError Duration)
  | watchdog (stale : Bool)
  | prewarmed (zone : Zone) (link : Link)
  | prewarmFailed (zone : Zone)
  | moveFailed

/-- A connection that was opened ahead of time is kept only while its zone is the candidate. -/
def keepPrewarmed (s : Session) (zone : Zone) (link : Link) : Session :=
  match s.controller.phase with
  | .pendingConfirm candidate _ =>
    if candidate = zone then { s with prewarmed := some (zone, link) } else s
  | _ => s

def endPrewarming (s : Session) (zone : Zone) : Session :=
  if s.prewarming = some zone then { s with prewarming := none } else s

def signal (s : Session) (now : Instant) : Signal → Session
  | .probe (.ok roundTrip) =>
    let s := s.count fun c => { c with lastRoundTrip := some roundTrip }
    { s with backoff := s.backoff.reset, health := s.health.recordOutcome true }
  | .probe (.error _) => { s with health := s.health.recordOutcome false }
  | .watchdog stale =>
    if s.link.isSome && (stale || s.config.worldStateTimeout < now.since s.lastWorldState) then
      s.loseLink
    else s
  | .prewarmed zone link => (s.endPrewarming zone).keepPrewarmed zone link
  | .prewarmFailed zone => s.endPrewarming zone
  | .moveFailed => s.count fun c => { c with failedMoves := c.failedMoves + 1 }

end ShardedWorld.Session
