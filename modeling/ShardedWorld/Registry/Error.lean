import ShardedWorld.Message.RemoteError
import ShardedWorld.Registry.Store

/-!
Why the registry refuses an operation, and what a remote caller is told about it.

An operation that breaks down takes the registry with it, so its caller is told the same as all
that come after.
-/

set_option autoImplicit false

namespace ShardedWorld

inductive RegistryError where
  | persistence (cause : StoreError)
  | unknownServer (id : ServerId)
  | stopped
  deriving DecidableEq

namespace RegistryError

def message : RegistryError → String
  | .persistence cause => "persistence failure: " ++ cause.message
  | .unknownServer id => "unknown server " ++ id.name
  | .stopped => "coordinator mailbox closed"

def ends : RegistryError → Bool
  | .stopped => true
  | .persistence _ | .unknownServer _ => false

def toRemote (e : RegistryError) : RemoteError :=
  match e with
  | .persistence cause => .persistence cause.message
  | .unknownServer _ => .notRegistered
  | .stopped => .fault e.message

end RegistryError

end ShardedWorld
