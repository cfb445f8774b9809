import ShardedWorld.Session.Basic

/-!
How a session moves its link: to the server of another zone while it is connected, or to any server
that takes the player back after the link was lost.
-/

set_option autoImplicit false

namespace ShardedWorld.Session

/-- Joins the server of `target`, over the connection that was opened ahead of time if it leads
there and its peer has not gone. Such a connection is used up, whatever comes of it. -/
def switchTo (s : Session) (target : Zone) (spawnAt : Option Vec2) (isStale : LinkId → Bool) :
    Session × Attempt Arrival :=
  let unused := { s with prewarmed := none }
  let ready := s.prewarmed.filter fun (zone, link) => zone = target && !isStale link.id
  match ready with
  | some (_, link) =>
    (unused.count fun c => { c with prewarmHits := c.prewarmHits + 1 },
      enter s.config spawnAt link)
  | none => (unused, andThen (reach target (s.placeIn target)) (enter s.config spawnAt))

def startCommit (s : Session) (now : Instant) : Session :=
  { s with timers := s.timers.openScope, health := s.health.startCommit now }

/-- Ends a move: it counts, and the timers go on as before it. -/
def finishCommit (s : Session) (success : Bool) : Session :=
  let counted := s.count fun c =>
    if success then { c with switches := c.switches + 1 }
    else { c with failedSwitches := c.failedSwitches + 1 }
  { counted with
    health := counted.health.finishCommit success
    timers := counted.timers.closeScope }

/-- Notes that a move, begun at `started`, was given up because it took too long. -/
def reportStuck (s : Session) (started now : Instant) : Session :=
  let (anomaly, health) := s.health.checkStuck now
  { s with health }.report (anomaly.getD (.stuckTransition (now.since started)))

/-- How a move turned out: whether the link is now at its target. -/
structure Committed where
  success : Bool
  session : Session
  effects : List Effect

/-- What becomes of a session by the outcome of a move: the server let the player in, something
failed, or the move took too long. A move that fails leaves the link where it was. -/
def conclude (s : Session) (started : Instant) :
    Except Instant (Except Setback Arrival) → Committed
  | .ok (.ok arrival) =>
    let (s, effects) := s.attach arrival
    ⟨true, s.finishCommit true, effects⟩
  | .ok (.error _) => ⟨false, s.finishCommit false, []⟩
  | .error now => ⟨false, (s.reportStuck started now).finishCommit false, []⟩

/-- Moves the link to the server of `target`. The move may be given up while an answer is awaited,
at a time that is told in place of the answer. -/
def commit (s : Session) (now : Instant) (target : Zone) (isStale : LinkId → Bool) :
    Dialogue Question (fun question => Except Instant (Answer question)) Committed :=
  if s.connectedZone = some target then .finished ⟨true, s, []⟩
  else
    let (s, attempt) := (s.startCommit now).switchTo target none isStale
    (attempt.interruptible Instant).bind fun outcome => .finished (s.conclude now outcome)

/-- How a session ends that gives up: its attempts to reconnect are used up, the delay before the
next one cannot be told, or a time that lies ahead cannot. -/
inductive Ending where
  | exhausted (attempts : UInt32)
  | unrepresentableDelay
  | unrepresentableInstant
  deriving DecidableEq

def schedule (s : Session) (now : Instant) : Except Ending Instant × Session :=
  match s.backoff.next with
  | (.delay delay, backoff) =>
    match now.after? delay with
    | some due => (.ok due, { s with backoff, reconnectAt := some due })
    | none => (.error .unrepresentableInstant, { s with backoff })
  | (.exhausted, backoff) => (.error (.exhausted backoff.attempts), { s with backoff })
  | (.unrepresentable, backoff) => (.error .unrepresentableDelay, { s with backoff })

structure Reconnected where
  ending : Option Ending
  session : Session
  effects : List Effect

/-- What becomes of a session by the outcome of an attempt. A new link ends the search; otherwise
the next attempt is scheduled. -/
def settle (s : Session) (zone : Zone) : Except Setback Arrival → Reconnected
  | .ok arrival =>
    let (s, effects) := s.attach arrival
    let s := s.count fun c => { c with reconnects := c.reconnects + 1 }
    ⟨none,
      { s with
        controller := s.controller.resetTo zone
        backoff := s.backoff.reset
        reconnectAt := none
        health := s.health.recordOutcome true
        timers := s.timers.closeScope },
      effects⟩
  | .error setback =>
    let (due, s) := { s with health := s.health.recordOutcome false }.schedule setback.time
    ⟨match due with
      | .ok _ => none
      | .error ending => some ending,
      { s with timers := s.timers.closeScope }, []⟩

/-- Tries to get a link again when it is time to, with the timers paused. The player appears where
it is by its own reckoning, if the server does not hold it. -/
def reconnect (s : Session) (now : Instant) (isStale : LinkId → Bool) : Talk Reconnected :=
  let (due, s) := match s.reconnectAt with
    | some due => (Except.ok due, s)
    | none => s.schedule now
  match due with
  | .error ending => .finished ⟨some ending, s, []⟩
  | .ok due =>
    if now < due then .finished ⟨none, s, []⟩
    else
      let zone := s.localZone
      let (s, attempt) :=
        { s with timers := s.timers.openScope }.switchTo zone (some s.position) isStale
      attempt.bind fun outcome => .finished (s.settle zone outcome)

end ShardedWorld.Session
