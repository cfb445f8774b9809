import ShardedWorld.CommandLine.Programs
import ShardedWorld.Running.Client
import ShardedWorld.Running.Coordinator
import ShardedWorld.Running.Server

/-!
The command line. The first argument names the program, the others are its options.
-/

set_option autoImplicit false

namespace ShardedWorld.CommandLine

open Running

def run : Start → IO (Except Failure Unit)
  | .coordinator config => runCoordinator config
  | .server config entities => runServer config entities
  | .client config velocity wander => runClient config velocity wander

def complain (text : String) (exitCode : Nat) : IO UInt32 := do
  IO.eprintln text
  return .ofNat exitCode

def execute (arguments : List String) : IO UInt32 := do
  let programs := String.intercalate "|" ([Program.coordinator, .server, .client].map (·.name))
  match arguments with
  | [] => complain ("Usage: <" ++ programs ++ "> [OPTIONS]") 2
  | name :: options =>
    match Program.ofName? name with
    | none => complain ("error: no program '" ++ name ++ "', only " ++ programs) 2
    | some program =>
      match program.start ⟨← randomServerId, ← randomPlayerId⟩ options with
      | .error .tells =>
        IO.print program.usage
        return 0
      | .error refusal => complain refusal.text refusal.exitCode
      | .ok start =>
        match ← run start with
        | .ok _ => return 0
        | .error e => complain e.text 1

end ShardedWorld.CommandLine

def main (arguments : List String) : IO UInt32 := ShardedWorld.CommandLine.execute arguments
