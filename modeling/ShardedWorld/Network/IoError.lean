/-!
Failures of the operating system, with its numbers and words for them.
-/

set_option autoImplicit false

namespace ShardedWorld

inductive SystemError where
  | noSuchFile
  | permissionDenied
  | isDirectory
  | addressInUse
  | addressNotAvailable
  | networkUnreachable
  | connectionRefused
  deriving DecidableEq

namespace SystemError

def code : SystemError → Nat
  | .noSuchFile => 2
  | .permissionDenied => 13
  | .isDirectory => 21
  | .addressInUse => 98
  | .addressNotAvailable => 99
  | .networkUnreachable => 101
  | .connectionRefused => 111

def kind : SystemError → String
  | .noSuchFile => "NotFound"
  | .permissionDenied => "PermissionDenied"
  | .isDirectory => "IsADirectory"
  | .addressInUse => "AddrInUse"
  | .addressNotAvailable => "AddrNotAvailable"
  | .networkUnreachable => "NetworkUnreachable"
  | .connectionRefused => "ConnectionRefused"

def description : SystemError → String
  | .noSuchFile => "No such file or directory"
  | .permissionDenied => "Permission denied"
  | .isDirectory => "Is a directory"
  | .addressInUse => "Address already in use"
  | .addressNotAvailable => "Cannot assign requested address"
  | .networkUnreachable => "Network is unreachable"
  | .connectionRefused => "Connection refused"

def message (e : SystemError) : String :=
  e.description ++ " (os error " ++ toString e.code ++ ")"

def diagnostic (e : SystemError) : String :=
  "Os \x7b code: " ++ toString e.code ++ ", kind: " ++ e.kind ++ ", message: \"" ++
    e.description ++ "\" \x7d"

end SystemError

inductive IoError where
  | system (error : SystemError)
  | other (text : String)
  deriving DecidableEq

namespace IoError

def message : IoError → String
  | .system error => error.message
  | .other text => text

def diagnostic : IoError → String
  | .system error => error.diagnostic
  | .other text => "Custom \x7b kind: Other, error: \"" ++ text ++ "\" \x7d"

end IoError

end ShardedWorld
