import ShardedWorld.Identity
import ShardedWorld.Network.Address
import ShardedWorld.Space.Zone

/-!
The records that servers exchange about entities, players, each other and their load.
-/

set_option autoImplicit false

namespace ShardedWorld

inductive EntityKind where
  | player
  | enemy
  | bullet
  | building
  deriving DecidableEq, Inhabited

namespace EntityKind

/-- Projectiles are handed over before they leave their zone. -/
def isProjectile (kind : EntityKind) : Bool := kind == .bullet

end EntityKind

def fullHealth : Single := .ofInt 100

structure EntitySnapshot where
  id : EntityId
  kind : EntityKind
  position : Vec2
  velocity : Vec2
  health : Single
  deriving DecidableEq, Inhabited

structure PlayerRecord where
  playerId : PlayerId
  name : String
  position : Vec2
  velocity : Vec2
  health : Single
  deriving DecidableEq, Inhabited

namespace PlayerRecord

def appearing (playerId : PlayerId) (name : String) (position : Vec2) : PlayerRecord :=
  { playerId, name, position, velocity := .zero, health := fullHealth }

def defaultName (playerId : PlayerId) : String := "player-" ++ toString playerId.toNat

end PlayerRecord

structure ServerInfo where
  serverId : ServerId
  endpoint : Address
  zone : Zone
  deriving DecidableEq, Inhabited

structure TransferDirective where
  target : ServerInfo
  previous : Option ServerId
  player : PlayerRecord
  deriving DecidableEq

structure ZoneStats where
  entityCount : UInt32
  playerCount : UInt32
  scanMillis : Single
  deriving DecidableEq, Inhabited

structure AggregatedStats where
  generatedAt : UInt64
  serverCount : UInt32
  playerRecords : UInt32
  totalEntities : UInt32
  totalPlayers : UInt32
  zones : List (Zone × ZoneStats)
  deriving DecidableEq

end ShardedWorld
