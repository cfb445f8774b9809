import ShardedWorld.Message.Description
import ShardedWorld.Registry.Store
import ShardedWorld.Session.Error

/-!
What keeps a program from starting or ends it, as it is shown to the user.
-/

set_option autoImplicit false

namespace ShardedWorld.CommandLine

inductive Failure where
  | tickRate
  | address
  | config (cause : ConfigError)
  | system (cause : IoError)
  | store (cause : StoreError)
  | transport (cause : TransportError)
  | session (cause : SessionError)
  deriving DecidableEq

namespace Failure

open Description

def describeConfig (e : ConfigError) : String :=
  record "Invalid" [("field", quoted e.field), ("reason", quoted e.requirement.text)]

/-- How much of a text is sound, and how many bytes its first fault takes. -/
def describeFault (fault : Wire.TextFault) : String :=
  let (sound, length) : Nat × Option Nat := match fault with
    | .malformed length index => (index, some length)
    | .incomplete index => (index, none)
  record "Utf8Error" [("valid_up_to", toString sound), ("error_len", optional toString length)]

def describeDecode (e : Wire.DecodeError) : String :=
  match e with
  | .cutShort => applied "Io" (applied "Kind" "UnexpectedEof")
  | .textTooLong =>
    applied "Io" (record "Custom" [("kind", "UnexpectedEof"), ("error", quoted "")])
  | .notText fault => applied "InvalidUtf8Encoding" (describeFault fault)
  | .unknownVariant .. | .unknownHost _ => applied "Custom" (quoted e.message)
  | .notBoolean found => applied "InvalidBoolEncoding" (toString found)
  | .notOption found => applied "InvalidTagEncoding" (toString found)

def describeStore : StoreError → String
  | .io cause => applied "Io" cause.diagnostic
  | .codec cause => applied "Codec" (describeDecode cause)
  | .unavailable reason => applied "Unavailable" (quoted reason)

def describeTransport : TransportError → String
  | .timeout id deadline =>
    record "Timeout" [("request_id", toString id.toNat), ("deadline", deadline.text)]
  | .io cause => applied "Io" cause.diagnostic
  | .codec cause => applied "Codec" (describeDecode cause)
  | .oversized length => applied "Oversized" (toString length)
  | .closed => "Closed"
  | .remote refusal => applied "Remote" (remoteError refusal)
  | .unexpected answer => applied "UnexpectedResponse" (quoted answer)

def describeSession : SessionError → String
  | .transport cause => applied "Transport" (describeTransport cause)
  | .noServer z => applied "NoServer" (zone z)
  | .config cause => applied "Config" (describeConfig cause)
  | .exhausted attempts => record "Exhausted" [("attempts", toString attempts.toNat)]

def diagnostic : Failure → String
  | .tickRate => quoted "tick rate must be greater than zero"
  | .address => "AddrParseError(Socket)"
  | .config cause => describeConfig cause
  | .system cause => cause.diagnostic
  | .store cause => describeStore cause
  | .transport cause => describeTransport cause
  | .session cause => describeSession cause

def text (f : Failure) : String := "Error: " ++ f.diagnostic

end Failure

end ShardedWorld.CommandLine
