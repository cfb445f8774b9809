import ShardedWorld.ConfigError

/-!
Delays between attempts to reconnect, which grow by a factor up to a limit, and a bound on their
number. Without jitter the delays are determined; a jitter spreads each of them at random, by at
most that fraction either way.
-/

set_option autoImplicit false

namespace ShardedWorld

structure BackoffConfig where
  initial : Duration
  multiplier : Double
  maxDelay : Duration
  maxAttempts : UInt32
  jitter : Double
  deriving DecidableEq

namespace BackoffConfig

def standard : BackoffConfig where
  initial := .ofSeconds 1
  multiplier := .ofRatio false 3 2
  maxDelay := .ofSeconds 30
  maxAttempts := 10
  jitter := .zero

def validate (c : BackoffConfig) : Except ConfigError Unit := do
  ConfigError.requirePositive "backoff_initial" c.initial
  ConfigError.require "backoff_multiplier" .growth
    (c.multiplier.isFinite && decide (.ofInt 1 ≤ c.multiplier))
  ConfigError.require "backoff_max_delay" .notBelowInitial (decide (c.initial ≤ c.maxDelay))
  ConfigError.require "backoff_max_attempts" .positive (decide (c.maxAttempts ≠ 0))
  ConfigError.require "backoff_jitter" .unitInterval
    (decide (.zero ≤ c.jitter) && decide (c.jitter ≤ .ofInt 1))

end BackoffConfig

structure Backoff where
  config : BackoffConfig
  attempts : UInt32
  deriving DecidableEq

namespace Backoff

def fresh (config : BackoffConfig) : Backoff := ⟨config, 0⟩

def isExhausted (b : Backoff) : Bool := decide (b.config.maxAttempts ≤ b.attempts)

/-- The seconds that the delays have grown to, without limit. The attempts are read as an exponent
of 32 bits with a sign: the upper half of their numbers counts as negative. -/
def grownSeconds (b : Backoff) : Double :=
  b.config.initial.toSeconds * b.config.multiplier.powerInt b.attempts.toInt32.toInt

/-- The seconds before an attempt, before they are made a length of time. With a jitter they are
spread by a part of themselves. A number that is none counts as no delay. -/
def delaySeconds (b : Backoff) (spread : Double) : Double :=
  let limit : Double := b.config.maxDelay.toSeconds
  let capped := b.grownSeconds.min limit
  let delay :=
    if .zero < b.config.jitter then (capped * (.ofInt 1 + spread)).min limit else capped
  delay.max .zero

/-- What asking for the next delay gives. The attempt counts also where its delay is too long to be
a length of time. -/
inductive Next where
  | delay (delay : Duration)
  | exhausted
  | unrepresentable
  deriving DecidableEq

/-- The next delay, where `spread` was drawn from the jitter either way. -/
def nextSpread (b : Backoff) (spread : Double) : Next × Backoff :=
  if b.isExhausted then (.exhausted, b)
  else
    let counted := { b with attempts := b.attempts + 1 }
    match Duration.ofSeconds? (b.delaySeconds spread) with
    | some delay => (.delay delay, counted)
    | none => (.unrepresentable, counted)

/-- The next delay as it is on average. -/
def next (b : Backoff) : Next × Backoff := b.nextSpread .zero

def reset (b : Backoff) : Backoff := { b with attempts := 0 }

/-- The text with which a delay that is no length of time is refused. -/
def unrepresentableText : String :=
  "cannot convert float seconds to Duration: value is either too big or NaN"

end Backoff

end ShardedWorld
