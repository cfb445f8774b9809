import ShardedWorld.ConfigError

/-!
How long callers wait for an answer.
-/

set_option autoImplicit false

namespace ShardedWorld

/-- `heartbeat` holds for heartbeats and pings, so that a dead peer is noticed soon, `reliable` for
all other calls. -/
structure Deadlines where
  reliable : Duration
  heartbeat : Duration
  deriving DecidableEq

namespace Deadlines

def standard : Deadlines := ⟨.ofSeconds 3, .ofSeconds 1⟩

def validate (d : Deadlines) : Except ConfigError Unit := do
  ConfigError.requirePositive "reliable_deadline" d.reliable
  ConfigError.requirePositive "heartbeat_deadline" d.heartbeat

end Deadlines

end ShardedWorld
