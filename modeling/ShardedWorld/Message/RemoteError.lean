/-!
The refusals that a server sends in place of an answer.
-/

set_option autoImplicit false

namespace ShardedWorld

inductive RemoteError where
  | notRegistered
  | authorityConflict
  | capacityExceeded
  | misuse (reason : String)
  | persistence (reason : String)
  | unauthorized
  | fault (reason : String)
  deriving DecidableEq

namespace RemoteError

def message : RemoteError → String
  | .notRegistered => "server is not registered"
  | .authorityConflict => "zone ownership changed"
  | .capacityExceeded => "capacity exceeded"
  | .misuse reason => "protocol error: " ++ reason
  | .persistence reason => "persistence failure: " ++ reason
  | .unauthorized => "session rejected"
  | .fault reason => "internal error: " ++ reason

end RemoteError

end ShardedWorld
