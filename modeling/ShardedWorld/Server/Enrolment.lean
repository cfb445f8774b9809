import ShardedWorld.Dialogue
import ShardedWorld.Server.Basic

/-!
How a zone server gets its zone from the coordinator and keeps it.
-/

set_option autoImplicit false

namespace ShardedWorld

namespace Enrolment

inductive Question where
  | connect (coordinator : Address)
  | register (id : ServerId) (endpoint : Address)
  | heartbeat (id : ServerId)
  | unregister (id : ServerId)
  deriving DecidableEq

abbrev Answer : Question → Type
  | .connect _ => Except TransportError Unit
  | .register .. => Except TransportError Zone
  | .heartbeat _ => Except TransportError Unit
  | .unregister _ => Except TransportError Unit

abbrev Talk := Dialogue Question Answer

inductive Failure where
  | config (cause : ConfigError)
  | transport (cause : TransportError)
  deriving DecidableEq

namespace Failure

def message : Failure → String
  | .config cause => cause.message
  | .transport cause => cause.message

end Failure

end Enrolment

namespace ZoneServer

open Enrolment

def start (config : ServerConfig) : Talk (Except Failure ZoneServer) :=
  match config.validate with
  | .error e => .finished (.error (.config e))
  | .ok _ =>
    .ask (.connect config.coordinator) fun
      | .error e => .finished (.error (.transport e))
      | .ok _ =>
        .ask (.register config.serverId (config.advertise.getD config.listen)) fun
          | .error e => .finished (.error (.transport e))
          | .ok zone => .finished (.ok (assigned config zone))

/-- Sends a heartbeat. A coordinator that no longer knows the server is registered with again, and
the zone that it assigns then is given; other failures change nothing. -/
def keepRegistered (s : ZoneServer) : Talk (Option Zone) :=
  .ask (.heartbeat s.config.serverId) fun
    | .error (.remote .notRegistered) =>
      .ask (.register s.config.serverId s.endpoint) fun
        | .ok zone => .finished (some zone)
        | .error _ => .finished none
    | _ => .finished none

/-- Goes on with another zone. What the server holds stays; the next scan hands over what is outside
the new zone. -/
def reassign (s : ZoneServer) (zone : Zone) : ZoneServer := { s with zone }

def withdraw (s : ZoneServer) : Talk Unit :=
  .ask (.unregister s.config.serverId) fun _ => .finished ()

end ZoneServer

end ShardedWorld
