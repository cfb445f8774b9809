import ShardedWorld.Running.Chance
import ShardedWorld.Running.Remote
import ShardedWorld.Running.Server
import ShardedWorld.Session.Tick

/-!
A player's client as a running program.

One loop ticks, listens to the server and lets the timers fire. Heartbeats go over the connection of
the link and are answered in this loop; connections that are opened ahead of a move are opened
beside it.
-/

set_option autoImplicit false

namespace ShardedWorld.Running

open CommandLine (Failure)

/-- `links` are the connections of the session by number. `signals` have arrived and wait for the
session, the newest first. `duties` were begun in the background. -/
structure Lines where
  coordinator : Except TransportError Remote
  links : IO.Ref (List (LinkId × Remote))
  opened : IO.Ref Nat
  signals : IO.Ref (List Session.Signal)
  duties : IO.Ref (List Duty)

namespace Lines

def toCoordinator (config : SessionConfig) : IO Lines :=
  return ⟨← Remote.dial config.coordinator false, ← IO.mkRef [], ← IO.mkRef 0, ← IO.mkRef [],
    ← IO.mkRef []⟩

def remote? (l : Lines) (link : LinkId) : IO (Option Remote) :=
  return (← l.links.get).lookup link

def dial (l : Lines) (peer : Address) : IO (Except TransportError LinkId) := do
  match ← Remote.dial peer true with
  | .error e => return .error e
  | .ok remote =>
    let link ← l.opened.modifyGet fun opened => (opened, opened + 1)
    l.links.modify ((link, remote) :: ·)
    return .ok link

def ask {α : Type} (l : Lines) (deadlines : Deadlines) (link : LinkId) (call : Call α) :
    IO (Except TransportError α) := do
  match ← l.remote? link with
  | some remote => remote.call deadlines call
  | none => return .error .closed

def timed {α : Type} (action : IO (Except TransportError α)) : IO (Session.Reply α) := do
  let outcome ← action
  return ⟨← now, outcome⟩

def answer (l : Lines) (config : SessionConfig) :
    (question : Session.Question) → IO (Session.Answer question)
  | .connect peer =>
    timed (if peer = config.coordinator then return l.coordinator.map fun _ => 0 else l.dial peer)
  | .locate position =>
    timed (Running.ask l.coordinator config.deadlines (.serverForPosition position))
  | .join link player name sessionKey spawnAt =>
    timed (l.ask config.deadlines link (.join player name sessionKey spawnAt))
  | .leave link player => timed (l.ask config.deadlines link (.leave player))

/-- Answers a question, unless the time is up before the answer arrives. -/
def answerUntil (l : Lines) (config : SessionConfig) (limit : Instant)
    (question : Session.Question) : IO (Except Instant (Session.Answer question)) := do
  let left := limit.since (← now)
  let deadlines := { config.deadlines with
    reliable := if left < config.deadlines.reliable then left else config.deadlines.reliable }
  let answer ← l.answer { config with deadlines } question
  let t ← now
  return if limit ≤ t then .error t else .ok answer

/-- Does something in the background; what ended before is forgotten. -/
def beside (l : Lines) (action : IO Unit) : IO Unit := do
  let duty ← inBackground action
  let going ← (← l.duties.get).filterM fun duty => not <$> IO.hasFinished duty
  l.duties.set (duty :: going)

/-- Opens a connection ahead of time, with a line to the coordinator of its own. -/
def prewarm (l : Lines) (config : SessionConfig) (zone : Zone) (position : Vec2) : IO Unit :=
  l.beside do
    let own := { l with coordinator := ← Remote.dial config.coordinator false }
    match ← converse (own.answer config) (Session.reach zone position) with
    | .ok link => l.signals.modify (.prewarmed zone link :: ·)
    | .error _ => l.signals.modify (.prewarmFailed zone :: ·)

def perform (l : Lines) (config : SessionConfig) (effects : List Session.Effect) : IO Unit := do
  for effect in effects do
    match effect with
    | .move link datagram =>
      if let some remote ← l.remote? link then
        if !(← remote.sendUnreliable datagram) then l.signals.modify (.moveFailed :: ·)
    | .prewarm zone position => l.prewarm config zone position
    | .leave link player =>
      l.beside do
        let _ ← l.ask config.deadlines link (.leave player)
        l.links.modify fun links => links.filter fun (other, _) => other ≠ link

def staleLinks (l : Lines) : IO (List LinkId) := do
  return (← (← l.links.get).filterM fun (_, remote) => remote.isStale).map (·.1)

/-- The caller number of heartbeats; other calls wait to their end and use another. -/
def heartbeatCaller : CallerId := 1

/-- Ends the heartbeats whose deadline has passed; they started at the times given. -/
def expireHeartbeats (remote : Remote) (startedAt : Instant) (deadline : Duration) :
    IO (List Remote.Conclusion) := do
  if startedAt.after deadline < (← now) then
    let connection ← remote.connection.get
    let ids := connection.waiting.toList.filterMap fun (id, waiting) =>
      if waiting.caller = heartbeatCaller then some id else none
    return (← ids.mapM fun id => do remote.carryOut ((← remote.connection.get).expire id)).flatten
  else return []

end Lines

def follow (l : Lines) (config : SessionConfig) (wander : Nat) (opened : Session) :
    IO (Option Session.Ending × Session) := do
  let interrupted ← watchInterruption
  let begun ← now
  let mut s := opened.resume begun
  let mut last := begun
  let mut tickAt := begun
  let mut turnAt := begun.after (.ofSeconds wander)
  let mut heartbeat := Timer.started config.heartbeatInterval begun
  let mut watchdog := Timer.started config.watchdogInterval begun
  let mut probeStarted := begun
  let speed := s.velocity.length.max (.ofInt 50)
  repeat
    if ← interrupted then break
    let t ← now
    if wander ≠ 0 && turnAt ≤ t then
      s := { s with velocity := ← heading speed }
      turnAt := t.after (.ofSeconds wander)
    let paused := s.timers.isPaused
    let beat := heartbeat.elapse last t paused
    let watch := watchdog.elapse last t paused
    if watchdog.fired < watch.fired then
      let stale ← l.staleLinks
      s := s.signal t (.watchdog (s.link.any fun link => stale.contains link.id))
    if let some link := s.probed then
      if let some remote ← l.remote? link then
        let mut ended ← Lines.expireHeartbeats remote probeStarted config.deadlines.heartbeat
        if heartbeat.fired < beat.fired then
          probeStarted := t
          ended := ended ++ (← remote.start Lines.heartbeatCaller (.ping (← timestamp))
            config.deadlines.heartbeat)
        ended := ended ++ (← remote.listen 5)
        for (_, outcome) in ended do
          let heard ← now
          let roundTrip := ((Call.ping 0).conclude outcome).map fun _ => heard.since probeStarted
          s := s.signal heard (.probe roundTrip)
        for datagram in ← remote.heard.modifyGet fun heard => (heard, []) do
          s := s.hear t datagram
    else IO.sleep 5
    heartbeat := beat
    watchdog := watch
    last := t
    for signal in (← l.signals.modifyGet fun signals => (signals, [])).reverse do
      s := s.signal t signal
    let t ← now
    if tickAt ≤ t then
      tickAt := t.after config.tickInterval
      let stale ← l.staleLinks
      match s.tick t stale.contains with
      | .finished next effects =>
        s := next
        l.perform config effects
      | .ended ending next => return (some ending, next)
      | .committing limit talk =>
        let (next, effects) ← converse (l.answerUntil config limit) talk
        s := next
        l.perform config effects
      | .reconnecting talk =>
        let done ← converse (l.answer config) talk
        s := done.session
        l.perform config done.effects
        if let some ending := done.ending then return (some ending, s)
  return (none, s)

/-- Runs a client; gives what kept it from starting or made it give up. -/
def runClient (config : SessionConfig) (velocity : Vec2) (wander : Nat) :
    IO (Except Failure Unit) := do
  let l ← Lines.toCoordinator config
  match ← converse (l.answer config) (Session.connect config) with
  | .error setback => return .error (.session setback.error)
  | .ok opened =>
    let (ending, s) ← follow l config wander { opened with velocity }
    waitForAll (← l.duties.get)
    match ending with
    | some (.exhausted attempts) => return .error (.session (.exhausted attempts))
    | some .unrepresentableDelay => throw (.userError Backoff.unrepresentableText)
    | some .unrepresentableInstant => throw (.userError Instant.overflowText)
    | none =>
      converse (l.answer config) s.leave.2
      return .ok ()

end ShardedWorld.Running
