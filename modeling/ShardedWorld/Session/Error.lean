import ShardedWorld.ConfigError
import ShardedWorld.Network.TransportError
import ShardedWorld.Space.Zone

/-!
Why a player's session could not be opened or has ended.
-/

set_option autoImplicit false

namespace ShardedWorld

inductive SessionError where
  | transport (cause : TransportError)
  | noServer (zone : Zone)
  | config (cause : ConfigError)
  | exhausted (attempts : UInt32)
  deriving DecidableEq

namespace SessionError

def message : SessionError → String
  | .transport cause => cause.message
  | .noServer zone => "no server owns zone " ++ zone.text
  | .config cause => cause.message
  | .exhausted attempts =>
    "gave up reconnecting after " ++ toString attempts.toNat ++ " attempts"

end SessionError

end ShardedWorld
