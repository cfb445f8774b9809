import ShardedWorld.Space.Grid

/-!
When a player's own connection should move to the server of another zone.

A change of zone is filtered: the position has to be clearly past the border, the new zone has to
last, and two moves keep a distance in time. A burst of moves starts a cooldown. None of this holds
back a forced move, which is due when the position and the connected server have disagreed for too
long.

A cooldown that would last to a time that no clock can show breaks the controller down.
-/

set_option autoImplicit false

namespace ShardedWorld

structure TransitionConfig where
  hysteresis : Single
  debounce : Duration
  minBetweenTransitions : Duration
  rapidWindow : Duration
  maxRapidTransitions : Nat
  cooldown : Duration
  forcedAfter : Duration
  deriving DecidableEq

namespace TransitionConfig

def standard : TransitionConfig where
  hysteresis := .ofInt 2
  debounce := .ofMillis 150
  minBetweenTransitions := .ofMillis 200
  rapidWindow := .ofSeconds 5
  maxRapidTransitions := 8
  cooldown := .ofMillis 1500
  forcedAfter := .ofSeconds 5

def validate (c : TransitionConfig) : Except ConfigError Unit := do
  ConfigError.require "hysteresis" .finiteDistance
    (c.hysteresis.isFinite && decide (.zero ≤ c.hysteresis))
  ConfigError.require "max_rapid_transitions" .positive (decide (c.maxRapidTransitions ≠ 0))
  ConfigError.requirePositive "rapid_window" c.rapidWindow
  ConfigError.requirePositive "forced_after" c.forcedAfter

end TransitionConfig

namespace Transition

inductive Phase where
  | stable (zone : Zone)
  | pendingConfirm (candidate : Zone) (since : Instant)
  | cooldown (until_ : Instant)
  deriving DecidableEq

/-- What to do after a position was observed. While a candidate is pending its server may be
connected to ahead of time. -/
inductive Decision where
  | stay
  | pending (candidate : Zone)
  | commit (origin target : Zone)
  | forcedCommit (origin target : Zone) (mismatch : Duration)
  | unrepresentable
  deriving DecidableEq

end Transition

structure TransitionController where
  grid : Grid
  config : TransitionConfig
  phase : Transition.Phase
  stableZone : Zone
  lastCommit : Option Instant
  recentCommits : List Instant
  mismatchSince : Option Instant
  commits : Nat
  forcedCommits : Nat
  deriving DecidableEq

namespace TransitionController

open Transition

def settled (grid : Grid) (config : TransitionConfig) (zone : Zone) : TransitionController where
  grid
  config
  phase := .stable zone
  stableZone := zone
  lastCommit := none
  recentCommits := []
  mismatchSince := none
  commits := 0
  forcedCommits := 0

def resetTo (c : TransitionController) (zone : Zone) : TransitionController :=
  { c with stableZone := zone, phase := .stable zone, mismatchSince := none }

/-- Keeps the time since when the connected zone has not been the candidate; forces a commit when
that is too long ago. -/
def checkForced (c : TransitionController) (candidate : Zone) (connected : Option Zone)
    (now : Instant) : Option Decision × TransitionController :=
  if connected = none ∨ connected = some candidate then (none, { c with mismatchSince := none })
  else
    let since := c.mismatchSince.getD now
    let mismatch := now.since since
    if mismatch < c.config.forcedAfter then (none, { c with mismatchSince := some since })
    else
      -- A forced move is none of the moves that can lead to a cooldown, but it ends one.
      (some (.forcedCommit c.stableZone candidate mismatch),
        { c with
          stableZone := candidate
          phase := .stable candidate
          lastCommit := some now
          mismatchSince := none
          forcedCommits := c.forcedCommits + 1 })

def endCooldown (c : TransitionController) (now : Instant) : TransitionController :=
  match c.phase with
  | .cooldown until_ => if until_ ≤ now then { c with phase := .stable c.stableZone } else c
  | _ => c

def isCoolingDown (c : TransitionController) (now : Instant) : Bool :=
  match c.phase with
  | .cooldown until_ => decide (now < until_)
  | _ => false

/-- Since when a candidate has been pending; from now on if it was not. -/
def pendingSince (c : TransitionController) (candidate : Zone) (now : Instant) : Instant :=
  match c.phase with
  | .pendingConfirm pending since => if pending = candidate then since else now
  | _ => now

def recent (c : TransitionController) (now : Instant) : List Instant :=
  (c.recentCommits ++ [now]).dropWhile fun at_ => decide (c.config.rapidWindow < now.since at_)

/-- Moves to a zone; cools down if that was one move too many, unless the end of the cooldown cannot
be told. -/
def commit (c : TransitionController) (target : Zone) (now : Instant) :
    Option TransitionController :=
  let recent := c.recent now
  let moved :=
    { c with stableZone := target, lastCommit := some now, commits := c.commits + 1 }
  if c.config.maxRapidTransitions < recent.length then
    (now.after? c.config.cooldown).map fun until_ =>
      { moved with phase := .cooldown until_, recentCommits := [] }
  else some { moved with phase := .stable target, recentCommits := recent }

def isSpaced (c : TransitionController) (now : Instant) : Bool :=
  match c.lastCommit with
  | some at_ => decide (c.config.minBetweenTransitions ≤ now.since at_)
  | none => true

def consider (c : TransitionController) (candidate : Zone) (p : Vec2) (now : Instant) :
    Decision × TransitionController :=
  if c.grid.penetration c.stableZone candidate p < c.config.hysteresis then (.stay, c)
  else
    let since := c.pendingSince candidate now
    let c := { c with phase := .pendingConfirm candidate since }
    if c.config.debounce ≤ now.since since && c.isSpaced now then
      match c.commit candidate now with
      | some moved => (.commit c.stableZone candidate, moved)
      | none => (.unrepresentable, c)
    else (.pending candidate, c)

/-- Observes a position and the zone of the connected server. A candidate stays pending while the
position dips back into the stable zone. -/
def update (c : TransitionController) (p : Vec2) (connected : Option Zone) (now : Instant) :
    Decision × TransitionController :=
  let candidate := c.grid.zoneOf p
  match c.checkForced candidate connected now with
  | (some decision, c) => (decision, c)
  | (none, c) =>
    let c := c.endCooldown now
    if candidate = c.stableZone || c.isCoolingDown now then (.stay, c)
    else c.consider candidate p now

end TransitionController

end ShardedWorld
