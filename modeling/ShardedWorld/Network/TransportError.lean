import ShardedWorld.Message.RemoteError
import ShardedWorld.Network.Address
import ShardedWorld.Network.IoError
import ShardedWorld.Time
import ShardedWorld.Wire.DecodeError

/-!
Why a call to another process gave no answer, and what that means for the handoff of an entity.
-/

set_option autoImplicit false

namespace ShardedWorld

inductive TransportError where
  | timeout (requestId : UInt64) (deadline : Duration)
  | io (cause : IoError)
  | codec (cause : Wire.DecodeError)
  | oversized (length : Nat)
  | closed
  | remote (refusal : RemoteError)
  | unexpected (answer : String)
  deriving DecidableEq

namespace TransportError

def message : TransportError → String
  | .timeout id deadline =>
    "request " ++ toString id.toNat ++ " timed out after " ++ deadline.text
  | .io cause => "i/o error: " ++ cause.message
  | .codec cause => "codec error: " ++ cause.message
  | .oversized length =>
    "packet of " ++ toString length ++ " bytes exceeds the datagram limit"
  | .closed => "connection closed"
  | .remote refusal => "remote error: " ++ refusal.message
  | .unexpected answer => "unexpected response: " ++ answer

def isTimeout : TransportError → Bool
  | .timeout .. => true
  | _ => false

end TransportError

inductive HandoffError where
  | transientNetwork (reason : String)
  | authorityConflict
  | capacityExceeded
  | misuse (reason : String)
  | staleConnection (peer : Address)
  deriving DecidableEq

namespace HandoffError

def message : HandoffError → String
  | .transientNetwork reason => "transient network error: " ++ reason
  | .authorityConflict => "zone ownership changed while transferring entity"
  | .capacityExceeded => "target server rejected the entity: capacity exceeded"
  | .misuse reason => "protocol error: " ++ reason
  | .staleConnection peer => "stale connection to " ++ peer.text

def isTransient : HandoffError → Bool
  | .transientNetwork _ | .capacityExceeded | .staleConnection _ => true
  | .authorityConflict | .misuse _ => false

def kind : HandoffError → String
  | .transientNetwork _ => "transient_network"
  | .authorityConflict => "authority_conflict"
  | .capacityExceeded => "capacity_exceeded"
  | .misuse _ => "protocol"
  | .staleConnection _ => "stale_connection"

/-- A server that its registry does not know has lost its zone as well; what a peer could not
store or compute now may work later. -/
def ofRefusal : RemoteError → HandoffError
  | .authorityConflict | .notRegistered => .authorityConflict
  | .capacityExceeded => .capacityExceeded
  | .persistence reason | .fault reason => .transientNetwork reason
  | .misuse reason => .misuse reason
  | .unauthorized => .misuse RemoteError.unauthorized.message

def ofTransport (e : TransportError) : HandoffError :=
  match e with
  | .timeout .. | .io _ | .closed => .transientNetwork e.message
  | .remote refusal => ofRefusal refusal
  | .codec _ | .oversized _ | .unexpected _ => .misuse e.message

end HandoffError

end ShardedWorld
