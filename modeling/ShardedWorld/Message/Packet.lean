import ShardedWorld.Message.Record
import ShardedWorld.Message.RemoteError

/-!
The packets of the protocol: requests and the responses that carry their number, which are
repeated or given up by the caller, and datagrams, which may get lost.
-/

set_option autoImplicit false

namespace ShardedWorld

inductive Request where
  | ping (timestamp : UInt64)
  | registerServer (serverId : ServerId) (endpoint : Address)
  | unregisterServer (serverId : ServerId)
  | heartbeat (serverId : ServerId)
  | initiateTransfer (playerId : PlayerId) (position : Vec2)
  | completeTransfer (playerId : PlayerId) (serverId : ServerId)
  | updatePlayer (record : PlayerRecord)
  | resetPlayers
  | serverForPosition (position : Vec2)
  | reportZoneStats (zone : Zone) (stats : ZoneStats)
  | subscribeZoneStats (intervalMillis : UInt64)
  | unsubscribeZoneStats
  | transferEntity (entity : EntitySnapshot) (leftOriginMillis : Option UInt64)
  | join (playerId : PlayerId) (name : String) (sessionKey : String) (spawnAt : Option Vec2)
  | leave (playerId : PlayerId)
  deriving DecidableEq

inductive Response where
  | pong (timestamp : UInt64)
  | ack
  | zone (zone : Zone)
  | directive (directive : Option TransferDirective)
  | accepted (accepted : Bool)
  | server (server : Option ServerInfo)
  | joined (serverId : ServerId) (zone : Zone) (position : Option Vec2)
  | error (error : RemoteError)
  deriving DecidableEq

inductive Datagram where
  | move (playerId : PlayerId) (sequence : UInt32) (velocity : Vec2)
  | worldState (tick : UInt32) (timestamp : UInt64) (zone : Zone) (entities : List EntitySnapshot)
  | zoneStatistics (stats : AggregatedStats)
  deriving DecidableEq

inductive Packet where
  | request (requestId : UInt64) (body : Request)
  | response (requestId : UInt64) (body : Response)
  | datagram (body : Datagram)
  deriving DecidableEq

inductive Delivery where
  | reliable
  | unreliable
  deriving DecidableEq

namespace Packet

def delivery : Packet → Delivery
  | .request .. | .response .. => .reliable
  | .datagram _ => .unreliable

end Packet

namespace Datagram

/-- The number of entities that surely fit one packet. -/
def worldStateLimit : Nat := 1024

def pieces {α : Type} (size : Nat) : List α → List (List α)
  | [] => []
  | x :: rest =>
    (x :: rest.take (size - 1)) :: pieces size (rest.drop (size - 1))
termination_by l => l.length

/-- The datagrams that carry the state of a zone; one for an empty zone. -/
def worldStates (tick : UInt32) (timestamp : UInt64) (zone : Zone)
    (entities : List EntitySnapshot) : List Datagram :=
  if entities.length ≤ worldStateLimit then [.worldState tick timestamp zone entities]
  else (pieces worldStateLimit entities).map (.worldState tick timestamp zone)

end Datagram

end ShardedWorld
