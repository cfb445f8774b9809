import ShardedWorld.Identity
import ShardedWorld.Network.Address
import ShardedWorld.Network.Deadlines
import ShardedWorld.Player.Backoff
import ShardedWorld.Player.Health
import ShardedWorld.Player.Transition

/-!
Settings of a player's session.
-/

set_option autoImplicit false

namespace ShardedWorld

structure SessionConfig where
  playerId : PlayerId
  name : String
  sessionKey : String
  coordinator : Address
  grid : Grid
  spawnAt : Vec2
  transition : TransitionConfig
  backoff : BackoffConfig
  health : HealthConfig
  deadlines : Deadlines
  tickInterval : Duration
  heartbeatInterval : Duration
  watchdogInterval : Duration
  statsInterval : Duration
  moveDeadline : Duration
  worldStateTimeout : Duration
  deriving DecidableEq

namespace SessionConfig

def standard : SessionConfig where
  playerId := 1
  name := "player"
  sessionKey := "local"
  coordinator := .loopback 7000
  grid := .standard
  spawnAt := ⟨.ofInt 250, .ofInt 250⟩
  transition := .standard
  backoff := .standard
  health := .standard
  deadlines := .standard
  tickInterval := .ofMillis 50
  heartbeatInterval := .ofSeconds 1
  watchdogInterval := .ofSeconds 1
  statsInterval := .ofSeconds 5
  moveDeadline := .ofMillis 100
  worldStateTimeout := .ofSeconds 3

def validate (c : SessionConfig) : Except ConfigError Unit := do
  ConfigError.require "name" .nonempty (!c.name.isEmpty)
  ConfigError.require "spawn_at" .finitePosition c.spawnAt.isFinite
  ConfigError.requirePositive "tick_interval" c.tickInterval
  ConfigError.requirePositive "heartbeat_interval" c.heartbeatInterval
  ConfigError.requirePositive "watchdog_interval" c.watchdogInterval
  ConfigError.requirePositive "stats_interval" c.statsInterval
  ConfigError.requirePositive "move_deadline" c.moveDeadline
  ConfigError.requirePositive "world_state_timeout" c.worldStateTimeout
  c.deadlines.validate
  c.transition.validate
  c.backoff.validate
  c.health.validate

end SessionConfig

end ShardedWorld
