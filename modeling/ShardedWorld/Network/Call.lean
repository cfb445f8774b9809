import ShardedWorld.Message.Description
import ShardedWorld.Network.Deadlines
import ShardedWorld.Wire.Packet

/-!
Requests with the kind of response that each of them expects.
-/

set_option autoImplicit false

namespace ShardedWorld

/-- Calls that have to notice soon that a peer is gone are `urgent`. -/
structure Call (α : Type) where
  request : Request
  expects : Response → Option α
  urgent : Bool

/-- What a server tells a client that it attached. The position is missing if the server does not
hold the player yet. -/
structure JoinAnswer where
  serverId : ServerId
  zone : Zone
  position : Option Vec2
  deriving DecidableEq

namespace Call

variable {α : Type}

def deadline (c : Call α) (d : Deadlines) : Duration := if c.urgent then d.heartbeat else d.reliable

/-- The value of the expected response; any other response is an error. -/
def conclude (c : Call α) : Except TransportError Response → Except TransportError α
  | .error e => .error e
  | .ok response =>
    match c.expects response with
    | some a => .ok a
    | none => .error (.unexpected (Description.response response))

def acknowledged : Response → Option Unit
  | .ack => some ()
  | _ => none

def confirmed (request : Request) : Call Unit := ⟨request, acknowledged, false⟩

def ping (timestamp : UInt64) : Call Unit where
  request := .ping timestamp
  expects
    | .pong _ => some ()
    | _ => none
  urgent := true

def registerServer (id : ServerId) (endpoint : Address) : Call Zone where
  request := .registerServer id endpoint
  expects
    | .zone zone => some zone
    | _ => none
  urgent := false

def unregisterServer (id : ServerId) : Call Unit := confirmed (.unregisterServer id)

def heartbeat (id : ServerId) : Call Unit := { confirmed (.heartbeat id) with urgent := true }

def initiateTransfer (player : PlayerId) (position : Vec2) : Call (Option TransferDirective) where
  request := .initiateTransfer player position
  expects
    | .directive directive => some directive
    | _ => none
  urgent := false

def completeTransfer (player : PlayerId) (server : ServerId) : Call Unit :=
  confirmed (.completeTransfer player server)

def updatePlayer (record : PlayerRecord) : Call Unit := confirmed (.updatePlayer record)

def resetPlayers : Call Unit := confirmed .resetPlayers

def serverForPosition (position : Vec2) : Call (Option ServerInfo) where
  request := .serverForPosition position
  expects
    | .server server => some server
    | _ => none
  urgent := false

def reportZoneStats (zone : Zone) (stats : ZoneStats) : Call Unit :=
  confirmed (.reportZoneStats zone stats)

/-- The interval is given in whole milliseconds, of which 64 bits are sent. -/
def subscribeZoneStats (interval : Duration) : Call Unit :=
  confirmed (.subscribeZoneStats (.ofNat interval.millis))

def unsubscribeZoneStats : Call Unit := confirmed .unsubscribeZoneStats

def transferEntity (entity : EntitySnapshot) (leftOriginMillis : Option UInt64) : Call Bool where
  request := .transferEntity entity leftOriginMillis
  expects
    | .accepted accepted => some accepted
    | _ => none
  urgent := false

def join (player : PlayerId) (name sessionKey : String) (spawnAt : Option Vec2) :
    Call JoinAnswer where
  request := .join player name sessionKey spawnAt
  expects
    | .joined serverId zone position => some ⟨serverId, zone, position⟩
    | _ => none
  urgent := false

def leave (player : PlayerId) : Call Unit := confirmed (.leave player)

end Call

end ShardedWorld
