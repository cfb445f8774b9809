import ShardedWorld.Network.Address
import ShardedWorld.Space.Grid

/-!
Settings of the coordinator.
-/

set_option autoImplicit false

namespace ShardedWorld

structure CoordinatorConfig where
  listen : Address
  grid : Grid
  heartbeatTimeout : Duration
  sweepInterval : Duration
  mailboxCapacity : Nat
  snapshotPath : Option String
  deriving DecidableEq

namespace CoordinatorConfig

def standard : CoordinatorConfig where
  listen := .loopback 7000
  grid := .standard
  heartbeatTimeout := .ofSeconds 120
  sweepInterval := .ofSeconds 10
  mailboxCapacity := 1024
  snapshotPath := none

def validate (c : CoordinatorConfig) : Except ConfigError Unit := do
  ConfigError.requirePositive "heartbeat_timeout" c.heartbeatTimeout
  ConfigError.requirePositive "sweep_interval" c.sweepInterval
  ConfigError.require "sweep_interval" (.notAbove "heartbeat_timeout")
    (decide (c.sweepInterval ≤ c.heartbeatTimeout))
  ConfigError.require "mailbox_capacity" .positive (decide (c.mailboxCapacity ≠ 0))

end CoordinatorConfig

end ShardedWorld
