import ShardedWorld.CommandLine.Failure
import ShardedWorld.CommandLine.Reader
import ShardedWorld.Coordinator.Config
import ShardedWorld.Server.Config
import ShardedWorld.Session.Config

/-!
The options of the three programs, and the settings that they make.
-/

set_option autoImplicit false

namespace ShardedWorld.CommandLine

inductive Program where
  | coordinator
  | server
  | client
  deriving DecidableEq

/-- What a program is started with. `entities` is the number of wandering entities of a new server,
`velocity` the one a player starts with, `wander` the seconds between changes of heading. -/
inductive Start where
  | coordinator (config : CoordinatorConfig)
  | server (config : ServerConfig) (entities : Nat)
  | client (config : SessionConfig) (velocity : Vec2) (wander : Nat)

/-- What a program finds around itself: what stands at a path, and whether it can listen at an
address and connect to one. -/
structure Surroundings where
  fileAt : String → SnapshotFile
  listen : Address → Except IoError Unit
  connect : Address → Except IoError Unit

namespace Start

/-- Takes what a program needs before it can begin: the coordinator its store and then its address,
a server its address and then the coordinator, a client the coordinator. -/
def takePlace (s : Surroundings) : Start → Except Failure Unit
  | .coordinator config => do
    if let some path := config.snapshotPath then
      let _ ← (FileStore.openFile (s.fileAt path)).mapError Failure.store
    (s.listen config.listen).mapError .system
  | .server config _ => do
    (s.listen config.listen).mapError Failure.system
    (s.connect config.coordinator).mapError fun cause => .transport (.io cause)
  | .client config .. =>
    (s.connect config.coordinator).mapError fun cause => .session (.transport (.io cause))

end Start

structure Defaults where
  serverId : ServerId
  playerId : PlayerId

namespace Program

def settings : Program → List Setting
  | .coordinator =>
    [⟨"host", some 'H', .text⟩, ⟨"port", some 'p', .bounded 65536⟩, ⟨"cell-size", none, .single⟩,
      ⟨"heartbeat-timeout", none, .count⟩, ⟨"sweep-interval", none, .count⟩,
      ⟨"snapshot", none, .path⟩]
  | .server =>
    [⟨"host", some 'H', .text⟩, ⟨"port", some 'p', .bounded 65536⟩,
      ⟨"coordinator", some 'c', .text⟩, ⟨"id", none, .text⟩, ⟨"cell-size", none, .single⟩,
      ⟨"tick-rate", some 't', .bounded 4294967296⟩, ⟨"scan-interval", none, .count⟩,
      ⟨"enemies", none, .bounded 4294967296⟩]
  | .client =>
    [⟨"coordinator", some 'c', .text⟩, ⟨"id", none, .count⟩, ⟨"name", some 'n', .text⟩,
      ⟨"session-key", none, .text⟩, ⟨"x", some 'x', .single⟩, ⟨"y", some 'y', .single⟩,
      ⟨"vx", none, .single⟩, ⟨"vy", none, .single⟩, ⟨"wander", some 'w', .count⟩,
      ⟨"cell-size", none, .single⟩, ⟨"tick-rate", some 't', .bounded 4294967296⟩]

end Program

abbrev Values := Table String Value

namespace Values

def text? (v : Values) (name : String) : Option String :=
  match v[name]? with
  | some (.text text) => some text
  | _ => none

def number? (v : Values) (name : String) : Option Nat :=
  match v[name]? with
  | some (.number number) => some number
  | _ => none

def single (v : Values) (name : String) (standard : Int) : Single :=
  match v[name]? with
  | some (.single number) => number
  | _ => .ofInt standard

def address (text : String) : Except Failure Address :=
  match Address.ofText? text with
  | some address => .ok address
  | none => .error .address

def listen (v : Values) (port : Nat) : Except Failure Address :=
  address ((v.text? "host").getD "127.0.0.1" ++ ":" ++ toString ((v.number? "port").getD port))

def coordinator (v : Values) : Except Failure Address :=
  address ((v.text? "coordinator").getD "127.0.0.1:7000")

def grid (v : Values) : Except Failure Grid :=
  (Grid.ofCellSize (v.single "cell-size" 500)).mapError .config

/-- The time between two ticks; a rate of zero has none. -/
def tickInterval (v : Values) : Except Failure Duration :=
  let rate := (v.number? "tick-rate").getD 20
  if rate = 0 then .error .tickRate
  else .ok ((Duration.ofSeconds? (.ofInt 1 / .ofInt rate : Single)).getD .zero)

def checked (validation : Except ConfigError Unit) (start : Start) : Except Failure Start :=
  (validation.map fun _ => start).mapError .config

def startCoordinator (v : Values) : Except Failure Start := do
  let listen ← v.listen 7000
  let grid ← v.grid
  let config := { CoordinatorConfig.standard with
    listen
    grid
    heartbeatTimeout := .ofSeconds ((v.number? "heartbeat-timeout").getD 120)
    sweepInterval := .ofSeconds ((v.number? "sweep-interval").getD 10)
    snapshotPath := v.text? "snapshot" }
  checked config.validate (.coordinator config)

def startServer (v : Values) (defaults : Defaults) : Except Failure Start := do
  let tickInterval ← v.tickInterval
  let listen ← v.listen 8080
  let coordinator ← v.coordinator
  let grid ← v.grid
  let config := { ServerConfig.standard with
    serverId := ((v.text? "id").map ServerId.mk).getD defaults.serverId
    listen
    coordinator
    grid
    tickInterval
    scanInterval := .ofMillis ((v.number? "scan-interval").getD 100) }
  checked config.validate (.server config ((v.number? "enemies").getD 0))

def startClient (v : Values) (defaults : Defaults) : Except Failure Start := do
  let tickInterval ← v.tickInterval
  let coordinator ← v.coordinator
  let grid ← v.grid
  let config := { SessionConfig.standard with
    playerId := ((v.number? "id").map UInt64.ofNat).getD defaults.playerId
    name := (v.text? "name").getD "player"
    sessionKey := (v.text? "session-key").getD "local"
    coordinator
    grid
    spawnAt := ⟨v.single "x" 250, v.single "y" 250⟩
    tickInterval }
  checked config.validate
    (.client config ⟨v.single "vx" 0, v.single "vy" 0⟩ ((v.number? "wander").getD 0))

end Values

/-- Why a program does not start: it was only asked about itself, its arguments make no sense, or
the settings that they make are refused. -/
inductive Refusal where
  | tells
  | usage (error : UsageError)
  | settings (failure : Failure)

namespace Refusal

def exitCode : Refusal → Nat
  | .tells => 0
  | .usage _ => 2
  | .settings _ => 1

def text : Refusal → String
  | .tells => ""
  | .usage e => "error: " ++ e.message
  | .settings failure => failure.text

end Refusal

namespace Program

def name : Program → String
  | .coordinator => "coordinator"
  | .server => "server"
  | .client => "client"

def ofName? (name : String) : Option Program :=
  [coordinator, server, client].find? fun program => program.name = name

def usage (program : Program) : String :=
  "Usage: " ++ program.name ++ " [OPTIONS]\n\nOptions:\n" ++
    String.join (program.settings.map fun setting => "  " ++ setting.text ++ "\n")

def start (program : Program) (defaults : Defaults) (arguments : List String) :
    Except Refusal Start :=
  match (Reader.fresh program.settings).run arguments with
  | .error e => .error (.usage e)
  | .ok .help | .ok .version => .error .tells
  | .ok (.values values) =>
    Except.mapError .settings <|
      match program with
      | .coordinator => Values.startCoordinator values
      | .server => Values.startServer values defaults
      | .client => Values.startClient values defaults

end Program

end ShardedWorld.CommandLine
