import ShardedWorld.ConfigError
import ShardedWorld.Space.Zone

/-!
The health of a player's connection: how long the position and the connected server disagree, how
long a move between servers takes, jumps of the position and how many round trips succeed. Each
problem is reported once per episode.
-/

set_option autoImplicit false

namespace ShardedWorld

inductive Anomaly where
  | prolongedMismatch (duration : Duration)
  | stuckTransition (elapsed : Duration)
  | chronicMismatch (count : UInt32)
  | positionJump (distance : Single)
  deriving DecidableEq

namespace Anomaly

def text : Anomaly → String
  | .prolongedMismatch duration => "zone mismatch for " ++ duration.text
  | .stuckTransition elapsed => "transition in flight for " ++ elapsed.text
  | .chronicMismatch count => toString count.toNat ++ " consecutive mismatch increments"
  | .positionJump distance => "position jumped " ++ distance.tenthsText ++ " units"

end Anomaly

/-- Thresholds of the monitor; `outcomeWindow` is the number of round trips that it remembers. -/
structure HealthConfig where
  mismatchIncrementPeriod : Duration
  prolongedMismatch : Duration
  stuckTransition : Duration
  chronicMismatchCount : UInt32
  positionJump : Single
  outcomeWindow : Nat
  deriving DecidableEq

namespace HealthConfig

def standard : HealthConfig where
  mismatchIncrementPeriod := .ofSeconds 1
  prolongedMismatch := .ofSeconds 5
  stuckTransition := .ofSeconds 10
  chronicMismatchCount := 10
  positionJump := .ofInt 100
  outcomeWindow := 50

def validate (c : HealthConfig) : Except ConfigError Unit := do
  ConfigError.requirePositive "mismatch_increment_period" c.mismatchIncrementPeriod
  ConfigError.requirePositive "prolonged_mismatch" c.prolongedMismatch
  ConfigError.requirePositive "stuck_transition" c.stuckTransition
  ConfigError.require "outcome_window" .positive (decide (c.outcomeWindow ≠ 0))
  ConfigError.require "position_jump" .positiveDistance
    (c.positionJump.isFinite && decide (.zero < c.positionJump))

end HealthConfig

structure HealthMonitor where
  config : HealthConfig
  mismatchSince : Option Instant
  lastIncrement : Option Instant
  consecutiveMismatches : UInt32
  prolongedReported : Bool
  chronicReported : Bool
  commitStarted : Option Instant
  stuckReported : Bool
  lastPosition : Option Vec2
  outcomes : List Bool
  deriving DecidableEq

namespace HealthMonitor

def fresh (config : HealthConfig) : HealthMonitor where
  config
  mismatchSince := none
  lastIncrement := none
  consecutiveMismatches := 0
  prolongedReported := false
  chronicReported := false
  commitStarted := none
  stuckReported := false
  lastPosition := none
  outcomes := []

def mismatchDuration (m : HealthMonitor) (now : Instant) : Option Duration :=
  m.mismatchSince.map now.since

def agree (m : HealthMonitor) : HealthMonitor :=
  { m with
    mismatchSince := none
    lastIncrement := none
    consecutiveMismatches := 0
    prolongedReported := false
    chronicReported := false }

def count (m : HealthMonitor) (now : Instant) : HealthMonitor :=
  let due := match m.lastIncrement with
    | some last => decide (m.config.mismatchIncrementPeriod ≤ now.since last)
    | none => true
  if due then
    { m with consecutiveMismatches := m.consecutiveMismatches + 1, lastIncrement := some now }
  else m

def reportProlonged (m : HealthMonitor) (duration : Duration) : List Anomaly × HealthMonitor :=
  if m.config.prolongedMismatch ≤ duration && !m.prolongedReported then
    ([.prolongedMismatch duration], { m with prolongedReported := true })
  else ([], m)

def reportChronic (m : HealthMonitor) : List Anomaly × HealthMonitor :=
  if m.config.chronicMismatchCount ≤ m.consecutiveMismatches && !m.chronicReported then
    ([.chronicMismatch m.consecutiveMismatches], { m with chronicReported := true })
  else ([], m)

/-- Compares the zone of the position with that of the connected server. Without a connection
nothing is observed. -/
def observeZones (m : HealthMonitor) (here : Zone) (connected : Option Zone) (now : Instant) :
    List Anomaly × HealthMonitor :=
  match connected with
  | none => ([], m)
  | some zone =>
    if zone = here then ([], m.agree)
    else
      let since := m.mismatchSince.getD now
      let m := { m with mismatchSince := some since }.count now
      let (prolonged, m) := m.reportProlonged (now.since since)
      let (chronic, m) := m.reportChronic
      (prolonged ++ chronic, m)

def observePosition (m : HealthMonitor) (p : Vec2) : Option Anomaly × HealthMonitor :=
  let jump := m.lastPosition.bind fun previous =>
    let distance := previous.distance p
    if m.config.positionJump < distance then some (.positionJump distance) else none
  (jump, { m with lastPosition := some p })

def clearPosition (m : HealthMonitor) : HealthMonitor := { m with lastPosition := none }

def startCommit (m : HealthMonitor) (now : Instant) : HealthMonitor :=
  { m with commitStarted := some now, stuckReported := false }

/-- Remembers how a round trip ended, and the ones before it up to the window. -/
def recordOutcome (m : HealthMonitor) (success : Bool) : HealthMonitor :=
  let outcomes := m.outcomes ++ [success]
  { m with outcomes := outcomes.drop (outcomes.length - m.config.outcomeWindow) }

def finishCommit (m : HealthMonitor) (success : Bool) : HealthMonitor :=
  { m with commitStarted := none }.recordOutcome success

def isCommitting (m : HealthMonitor) : Bool := m.commitStarted.isSome

def checkStuck (m : HealthMonitor) (now : Instant) : Option Anomaly × HealthMonitor :=
  match m.commitStarted with
  | none => (none, m)
  | some started =>
    let elapsed := now.since started
    if m.config.stuckTransition < elapsed && !m.stuckReported then
      (some (.stuckTransition elapsed), { m with stuckReported := true })
    else (none, m)

/-- The share of remembered round trips that succeeded, one if there are none. -/
def successRate (m : HealthMonitor) : Single :=
  if m.outcomes.isEmpty then .ofInt 1
  else .ofInt (m.outcomes.count true) / .ofInt m.outcomes.length

end HealthMonitor

end ShardedWorld
