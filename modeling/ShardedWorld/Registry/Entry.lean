import ShardedWorld.Message.Record
import ShardedWorld.Time
import ShardedWorld.Wire.Message

/-!
What the registry knows: a registration per server and an entry per player, and the snapshot of
both that survives a restart.
-/

set_option autoImplicit false

namespace ShardedWorld

structure StoredServer where
  serverId : ServerId
  endpoint : Address
  zone : Zone
  deriving DecidableEq

namespace StoredServer

def info (s : StoredServer) : ServerInfo := ⟨s.serverId, s.endpoint, s.zone⟩

end StoredServer

structure Registration extends StoredServer where
  lastHeartbeat : Instant
  deriving DecidableEq

structure PendingHandoff where
  target : ServerId
  previous : Option ServerId
  deriving DecidableEq

structure PlayerEntry where
  record : PlayerRecord
  owner : Option ServerId
  pending : Option PendingHandoff
  deriving DecidableEq

namespace PlayerEntry

/-- The server that most likely holds the player: the target of a handoff under way, and the
confirmed owner otherwise. -/
def holder (entry : PlayerEntry) : Option ServerId :=
  match entry.pending with
  | some handoff => some handoff.target
  | none => entry.owner

end PlayerEntry

/-- The lasting state of a registry. The keys are those under which the entries were written. -/
structure Snapshot where
  servers : Table ServerId StoredServer
  players : Table PlayerId PlayerEntry

namespace Snapshot

def empty : Snapshot := ⟨∅, ∅⟩

def putServer (s : Snapshot) (server : StoredServer) : Snapshot :=
  { s with servers := s.servers.insert server.serverId server }

def removeServer (s : Snapshot) (id : ServerId) : Snapshot :=
  { s with servers := s.servers.erase id }

def putPlayer (s : Snapshot) (entry : PlayerEntry) : Snapshot :=
  { s with players := s.players.insert entry.record.playerId entry }

def clearPlayers (s : Snapshot) : Snapshot := { s with players := ∅ }

end Snapshot

namespace Wire.Codec

def storedServer : Codec StoredServer :=
  (serverId.pair (address.pair zone)).via
    (fun (id, endpoint, zone) => ⟨id, endpoint, zone⟩)
    fun s => (s.serverId, s.endpoint, s.zone)

def pendingHandoff : Codec PendingHandoff :=
  (serverId.pair (option serverId)).via
    (fun (target, previous) => ⟨target, previous⟩)
    fun h => (h.target, h.previous)

def playerEntry : Codec PlayerEntry :=
  (playerRecord.pair ((option serverId).pair (option pendingHandoff))).via
    (fun (record, owner, pending) => ⟨record, owner, pending⟩)
    fun e => (e.record, e.owner, e.pending)

def snapshot : Codec Snapshot :=
  ((table serverId storedServer).pair (table u64 playerEntry)).via
    (fun (servers, players) => ⟨servers, players⟩)
    fun s => (s.servers, s.players)

end Wire.Codec

end ShardedWorld
