import ShardedWorld.Registry.Assignment
import ShardedWorld.Registry.Error
import ShardedWorld.Space.Grid

/-!
The registry: the one authority on which server owns which zone and which server holds which
player.

Every change is written to the store first and made in memory only when the store took it over, so
an operation that fails changes nothing. Times of heartbeats and statistics are not stored.
-/

set_option autoImplicit false

namespace ShardedWorld

structure Registry (σ : Type) where
  grid : Grid
  store : σ
  servers : Table ServerId Registration
  zones : Table Zone ServerId
  players : Table PlayerId PlayerEntry
  zoneStats : Table Zone ZoneStats

namespace Registry

variable {σ : Type} [Store σ]

/-- Takes over a stored registration, unless its zone is taken already. -/
def takeOver (now : Instant) (r : Registry σ) (id : ServerId) (stored : StoredServer) :
    Registry σ :=
  if stored.zone ∈ r.zones then r
  else
    { r with
      zones := r.zones.insert stored.zone id
      servers := r.servers.insert id { stored with lastHeartbeat := now } }

/-- Starts from what the store holds. Servers are admitted in the order of their keys and get a
fresh heartbeat. -/
def restore (grid : Grid) (store : σ) (now : Instant) : Registry σ :=
  let snapshot := Store.snapshot store
  snapshot.servers.foldl (takeOver now)
    { grid, store, servers := ∅, zones := ∅, players := snapshot.players, zoneStats := ∅ }

def server? (r : Registry σ) (id : ServerId) : Option Registration := r.servers[id]?

def player? (r : Registry σ) (id : PlayerId) : Option PlayerEntry := r.players[id]?

def ownerOf? (r : Registry σ) (zone : Zone) : Option Registration :=
  (r.zones[zone]?).bind r.server?

def locate (r : Registry σ) (position : Vec2) : Option ServerInfo :=
  (r.ownerOf? (r.grid.zoneOf position)).map (·.info)

def serverInfos (r : Registry σ) : List ServerInfo :=
  (r.servers.values.map fun s => s.info).mergeSort fun a b => (compare a.zone b.zone).isLE

def written {α : Type} : Except StoreError α → Except RegistryError α :=
  Except.mapError .persistence

def claim (r : Registry σ) (stored : StoredServer) (now : Instant) :
    Except RegistryError (Registry σ) := do
  let store ← written (Store.putServer r.store stored)
  return { r with
    store
    zones := r.zones.insert stored.zone stored.serverId
    servers := r.servers.insert stored.serverId { stored with lastHeartbeat := now } }

/-- Gives a new server its zone. A known server keeps the zone it has. A registry whose search for
a free zone finds none does not answer any more. -/
def registerServer (r : Registry σ) (id : ServerId) (endpoint : Address) (now : Instant) :
    Except RegistryError (Zone × Registry σ) :=
  match r.server? id with
  | some known => .ok (known.zone, r)
  | none =>
    match Assignment.firstFreeZone? r.zones (r.servers.size + 1) with
    | none => .error .stopped
    | some zone => do
      let r ← r.claim ⟨id, endpoint, zone⟩ now
      return (zone, r)

/-- Frees the zone of a server, with its statistics. Nothing happens for an unknown one. -/
def unregisterServer (r : Registry σ) (id : ServerId) : Except RegistryError (Registry σ) :=
  match r.server? id with
  | none => .ok r
  | some known => do
    let store ← written (Store.removeServer r.store id)
    return { r with
      store
      servers := r.servers.erase id
      zones := r.zones.erase known.zone
      zoneStats := r.zoneStats.erase known.zone }

def heartbeat (r : Registry σ) (id : ServerId) (now : Instant) :
    Except RegistryError (Registry σ) :=
  match r.server? id with
  | none => .error (.unknownServer id)
  | some known => .ok { r with servers := r.servers.insert id { known with lastHeartbeat := now } }

/-- Servers that were not heard of for longer than `timeout`, in the order of their identities. -/
def staleServers (r : Registry σ) (now : Instant) (timeout : Duration) : List ServerId :=
  let stale := r.servers.values.filter fun s => timeout < now.since s.lastHeartbeat
  (stale.map (·.serverId)).mergeSort fun a b => (compare a b).isLE

/-- Unregisters one server after the other and stops at the first failure. -/
def unregisterAll (r : Registry σ) : List ServerId → Except RegistryError Unit × Registry σ
  | [] => (.ok (), r)
  | id :: rest =>
    match r.unregisterServer id with
    -- The servers before this one stay unregistered.
    | .error e => (.error e, r)
    | .ok r => r.unregisterAll rest

def evictStale (r : Registry σ) (now : Instant) (timeout : Duration) :
    Except RegistryError (List ServerId) × Registry σ :=
  let stale := r.staleServers now timeout
  let (outcome, r) := r.unregisterAll stale
  (outcome.map fun _ => stale, r)

def keepPlayer (r : Registry σ) (id : PlayerId) (entry : PlayerEntry) :
    Except RegistryError (Registry σ) := do
  let store ← written (Store.putPlayer r.store entry)
  return { r with store, players := r.players.insert id entry }

/-- What becomes of a known player's entry when the zone it is in belongs to `target`.

Without an owner the player stays where it is. On its holder it needs no order, but one that was
not confirmed yet is repeated. On any other server it is to be moved there. -/
def direct (entry : PlayerEntry) (target : Option ServerInfo) :
    PlayerEntry × Option TransferDirective :=
  match target with
  | none => (entry, none)
  | some target =>
    if entry.holder = some target.serverId then
      (entry, entry.pending.map fun handoff => ⟨target, handoff.previous, entry.record⟩)
    else
      ({ entry with pending := some ⟨target.serverId, entry.owner⟩ },
        some ⟨target, entry.owner, entry.record⟩)

/-- Notes a player's position and decides whether it has to move to another server. A player
without an entry gets one, owned by the server of its zone. -/
def initiateTransfer (r : Registry σ) (id : PlayerId) (position : Vec2) :
    Except RegistryError (Option TransferDirective × Registry σ) :=
  let target := r.locate position
  match r.player? id with
  | none => do
    let record := PlayerRecord.appearing id (PlayerRecord.defaultName id) position
    let r ← r.keepPlayer id ⟨record, target.map (·.serverId), none⟩
    return (none, r)
  | some entry => do
    let (entry, directive) :=
      direct { entry with record := { entry.record with position } } target
    let r ← r.keepPlayer id entry
    return (directive, r)

def completeTransfer (r : Registry σ) (id : PlayerId) (server : ServerId) :
    Except RegistryError (Registry σ) :=
  match r.player? id with
  | none => .ok r
  | some entry =>
    if entry.owner = some server ∧ entry.pending = none then .ok r
    else r.keepPlayer id { entry with owner := some server, pending := none }

/-- Replaces a player's record. A player without an entry gets one, owned by the server of its
zone. -/
def updatePlayer (r : Registry σ) (record : PlayerRecord) : Except RegistryError (Registry σ) :=
  match r.player? record.playerId with
  | some entry => r.keepPlayer record.playerId { entry with record }
  | none =>
    r.keepPlayer record.playerId ⟨record, (r.locate record.position).map (·.serverId), none⟩

def resetPlayers (r : Registry σ) : Except RegistryError (Registry σ) := do
  let store ← written (Store.clearPlayers r.store)
  return { r with store, players := ∅ }

def reportZoneStats (r : Registry σ) (zone : Zone) (stats : ZoneStats) : Registry σ :=
  if zone ∈ r.zones then { r with zoneStats := r.zoneStats.insert zone stats } else r

/-- Adds up in 32 bits, as long as these suffice. -/
def total? (counts : List UInt32) : Option UInt32 :=
  counts.foldlM (fun total count =>
    if total.toNat + count.toNat < UInt32.size then some (total + count) else none) 0

/-- All statistics in the order of the zones. A registry whose totals are too large to be counted
does not answer any more. -/
def aggregate (r : Registry σ) (generatedAt : UInt64) : Except RegistryError AggregatedStats :=
  let zones := r.zoneStats.toList
  match total? (zones.map (·.2.entityCount)), total? (zones.map (·.2.playerCount)) with
  | some totalEntities, some totalPlayers => .ok {
      generatedAt
      serverCount := .ofNat r.servers.size
      playerRecords := .ofNat r.players.size
      totalEntities, totalPlayers, zones }
  | _, _ => .error .stopped

end Registry

end ShardedWorld
