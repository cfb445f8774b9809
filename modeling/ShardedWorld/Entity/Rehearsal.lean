import ShardedWorld.Entity.Scan
import ShardedWorld.Network.Acquire
import ShardedWorld.Registry.Basic

/-!
Scans in surroundings that follow a script.

The peers take, decline or fail what is pushed to them in an order that is laid down, and the
registry either follows a script too or is a real one next door. What the scan asked is kept.
-/

set_option autoImplicit false

namespace ShardedWorld.Scan

/-- How a peer behaves. The replies to pushes of an entity are used up one by one; when none is
left, the entity is taken. With `staleOnError` a connection on which a push fails loses its peer. -/
structure PeerScript where
  refusal : Option TransportError
  staleOnError : Bool
  replies : Table EntityId (List (Except TransportError Bool))

namespace PeerScript

def willing : PeerScript := ⟨none, false, ∅⟩

def reply (peer : PeerScript) (id : EntityId) : Except TransportError Bool × PeerScript :=
  match peer.replies[id]? with
  | some (first :: rest) => (first, { peer with replies := peer.replies.insert id rest })
  | _ => (.ok true, peer)

end PeerScript

/-- The answers of a registry that exists in the script only. Zones without an entry among the
owners belong to nobody, players without a directive stay where they are. -/
structure DirectoryScript where
  directives : Table PlayerId (Except TransportError TransferDirective)
  owners : List ServerInfo
  initiateError : Option TransportError
  completeError : Option TransportError
  locateError : Option TransportError

namespace DirectoryScript

def blank : DirectoryScript := ⟨∅, [], none, none, none⟩

def failing {α : Type} (failure : Option TransportError) (answer : Except TransportError α) :
    Except TransportError α :=
  match failure with
  | some e => .error e
  | none => answer

def initiateTransfer (d : DirectoryScript) (player : PlayerId) :
    Except TransportError (Option TransferDirective) :=
  failing d.initiateError <|
    match d.directives[player]? with
    | some directive => directive.map some
    | none => .ok none

def locate (d : DirectoryScript) (grid : Grid) (position : Vec2) :
    Except TransportError (Option ServerInfo) :=
  failing d.locateError (.ok (d.owners.find? fun owner => grid.contains owner.zone position))

end DirectoryScript

inductive Directory where
  | scripted (script : DirectoryScript)
  | registry (registry : Registry SnapshotStore)

namespace Directory

def remote {α : Type} : Except RegistryError α → Except TransportError α :=
  Except.mapError fun e => .remote e.toRemote

def initiateTransfer (player : PlayerId) (position : Vec2) :
    Directory → Except TransportError (Option TransferDirective) × Directory
  | .scripted script => (script.initiateTransfer player, .scripted script)
  | .registry r =>
    match r.initiateTransfer player position with
    | .ok (directive, r) => (.ok directive, .registry r)
    | .error e => (remote (.error e), .registry r)

def completeTransfer (player : PlayerId) (server : ServerId) :
    Directory → Except TransportError Unit × Directory
  | .scripted script => (DirectoryScript.failing script.completeError (.ok ()), .scripted script)
  | .registry r =>
    match r.completeTransfer player server with
    | .ok r => (.ok (), .registry r)
    | .error e => (remote (.error e), .registry r)

def locate (grid : Grid) (position : Vec2) :
    Directory → Except TransportError (Option ServerInfo)
  | .scripted script => script.locate grid position
  | .registry r => .ok (r.locate position)

end Directory

structure Surroundings where
  grid : Grid
  directory : Directory
  peers : Table Address PeerScript
  pool : Pool
  population : Population
  asked : List Question

namespace Surroundings

def peer (s : Surroundings) (address : Address) : PeerScript :=
  (s.peers[address]?).getD .willing

/-- Every caller gives a connection back before the next thing happens to the pool. -/
def connect (s : Surroundings) (now : Instant) (address : Address) :
    Except TransportError LinkId × Surroundings :=
  let opened (_ : LinkId) : Except TransportError Unit :=
    DirectoryScript.failing (s.peer address).refusal (.ok ())
  match s.pool.acquire address now opened with
  | (.ok link, pool) => (.ok link, { s with pool := pool.release link })
  | (.error e, pool) => (.error e, { s with pool })

def push (s : Surroundings) (link : LinkId) (address : Address) (id : EntityId) :
    Except TransportError Bool × Surroundings :=
  let (reply, peer) := (s.peer address).reply id
  let s := { s with peers := s.peers.insert address peer }
  match reply with
  | .error e =>
    (.error e, if peer.staleOnError then { s with pool := s.pool.markStale link } else s)
  | answer => (answer, s)

def answer (now : Instant) : (question : Question) → Surroundings → Answer question × Surroundings
  | .initiateTransfer player position, s =>
    let (answer, directory) := s.directory.initiateTransfer player position
    (answer, { s with directory })
  | .completeTransfer player server, s =>
    let (answer, directory) := s.directory.completeTransfer player server
    (answer, { s with directory })
  | .locate position, s => (s.directory.locate s.grid position, s)
  | .connect address, s => s.connect now address
  | .push link address entity _, s => s.push link address entity.id
  | .isStale link, s => (s.pool.stale.contains link, s)
  | .invalidate address, s => ((), { s with pool := s.pool.invalidate address })
  | .discard id, s => ((), { s with population := s.population.erase id })

def hear (now : Instant) (question : Question) (s : Surroundings) :
    Answer question × Surroundings :=
  answer now question { s with asked := question :: s.asked }

/-- Scans the population once; what was asked is kept, the last question first. -/
def scan (s : Surroundings) (self : ServerId) (w : ProjectileWindow) (zone : Zone) (now : Instant) :
    ScanReport × Surroundings :=
  let (population, talk) := Scan.start self s.grid w zone now s.population
  talk.run (hear now) { s with population, asked := [] }

end Surroundings

end ShardedWorld.Scan
