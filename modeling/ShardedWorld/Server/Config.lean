import ShardedWorld.Entity.Scan
import ShardedWorld.Network.Deadlines

/-!
Settings of a zone server.
-/

set_option autoImplicit false

namespace ShardedWorld

/-- `advertise` is the address that other servers are told, if it is not the one listened on. -/
structure ServerConfig where
  serverId : ServerId
  listen : Address
  advertise : Option Address
  coordinator : Address
  grid : Grid
  tickInterval : Duration
  scanInterval : Duration
  heartbeatInterval : Duration
  statsInterval : Duration
  deadlines : Deadlines
  transfer : TransferConfig
  pool : PoolConfig
  maxEntities : Nat
  maxClients : Nat
  clientTimeout : Duration
  deriving DecidableEq

namespace ServerConfig

def standard : ServerConfig where
  serverId := ⟨"zone-server"⟩
  listen := .loopback 8080
  advertise := none
  coordinator := .loopback 7000
  grid := .standard
  tickInterval := .ofMillis 50
  scanInterval := .ofMillis 100
  heartbeatInterval := .ofSeconds 10
  statsInterval := .ofSeconds 5
  deadlines := .standard
  transfer := .standard
  pool := .standard
  maxEntities := 10000
  maxClients := 64
  clientTimeout := .ofSeconds 5

def validate (c : ServerConfig) : Except ConfigError Unit := do
  ConfigError.require "server_id" .nonempty (!c.serverId.name.isEmpty)
  ConfigError.requirePositive "tick_interval" c.tickInterval
  ConfigError.requirePositive "scan_interval" c.scanInterval
  ConfigError.requirePositive "heartbeat_interval" c.heartbeatInterval
  ConfigError.requirePositive "stats_interval" c.statsInterval
  c.deadlines.validate
  ConfigError.requirePositive "push_deadline" c.transfer.pushDeadline
  ConfigError.requirePositive "client_timeout" c.clientTimeout
  c.transfer.window.validate
  c.pool.validate
  ConfigError.require "max_entities" .positive (decide (c.maxEntities ≠ 0))

end ServerConfig

end ShardedWorld
