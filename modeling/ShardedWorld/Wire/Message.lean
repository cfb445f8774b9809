import ShardedWorld.Message.Packet
import ShardedWorld.Wire.Codec

/-!
The wire forms of records and packets.
-/

set_option autoImplicit false

namespace ShardedWorld.Wire.Codec

def serverId : Codec ServerId := text.via ServerId.mk ServerId.name

/-- The labels of a host are its sender's own affair and stay behind. -/
def host : Codec Host where
  write
    | .v4 bits => tag 0 ++ (bigBits 4).write bits
    | .v6 bits _ _ => tag 1 ++ (bigBits 16).write bits
  read := readChoice fun
    | 0, rest => (bigBits 4).readAs .v4 rest
    | 1, rest => (bigBits 16).readAs (.v6 · 0 0) rest
    | n, _ => .error (.unknownHost n)

def address : Codec Address :=
  (host.pair u16).via (fun (host, port) => ⟨host, port⟩) fun a => (a.host, a.port)

def vec2 : Codec Vec2 := (single.pair single).via (fun (x, y) => ⟨x, y⟩) fun v => (v.x, v.y)

def zone : Codec Zone := (i32.pair i32).via (fun (x, y) => ⟨x, y⟩) fun z => (z.x, z.y)

def entityKind : Codec EntityKind where
  write
    | .player => tag 0
    | .enemy => tag 1
    | .bullet => tag 2
    | .building => tag 3
  read := readChoice fun
    | 0, rest => .ok (.player, rest)
    | 1, rest => .ok (.enemy, rest)
    | 2, rest => .ok (.bullet, rest)
    | 3, rest => .ok (.building, rest)
    | n, _ => .error (.unknownVariant n 4)

def entity : Codec EntitySnapshot :=
  (u64.pair (entityKind.pair (vec2.pair (vec2.pair single)))).via
    (fun (id, kind, position, velocity, health) => ⟨id, kind, position, velocity, health⟩)
    fun e => (e.id, e.kind, e.position, e.velocity, e.health)

def playerRecord : Codec PlayerRecord :=
  (u64.pair (text.pair (vec2.pair (vec2.pair single)))).via
    (fun (id, name, position, velocity, health) => ⟨id, name, position, velocity, health⟩)
    fun r => (r.playerId, r.name, r.position, r.velocity, r.health)

def serverInfo : Codec ServerInfo :=
  (serverId.pair (address.pair zone)).via
    (fun (id, endpoint, zone) => ⟨id, endpoint, zone⟩)
    fun s => (s.serverId, s.endpoint, s.zone)

def directive : Codec TransferDirective :=
  (serverInfo.pair ((option serverId).pair playerRecord)).via
    (fun (target, previous, player) => ⟨target, previous, player⟩)
    fun d => (d.target, d.previous, d.player)

def zoneStats : Codec ZoneStats :=
  (u32.pair (u32.pair single)).via
    (fun (entities, players, scan) => ⟨entities, players, scan⟩)
    fun s => (s.entityCount, s.playerCount, s.scanMillis)

def aggregatedStats : Codec AggregatedStats :=
  (u64.pair (u32.pair (u32.pair (u32.pair (u32.pair (list (zone.pair zoneStats))))))).via
    (fun (at_, servers, records, entities, players, zones) =>
      ⟨at_, servers, records, entities, players, zones⟩)
    fun s => (s.generatedAt, s.serverCount, s.playerRecords, s.totalEntities, s.totalPlayers,
      s.zones)

def remoteError : Codec RemoteError where
  write
    | .notRegistered => tag 0
    | .authorityConflict => tag 1
    | .capacityExceeded => tag 2
    | .misuse reason => tag 3 ++ text.write reason
    | .persistence reason => tag 4 ++ text.write reason
    | .unauthorized => tag 5
    | .fault reason => tag 6 ++ text.write reason
  read := readChoice fun
    | 0, rest => .ok (.notRegistered, rest)
    | 1, rest => .ok (.authorityConflict, rest)
    | 2, rest => .ok (.capacityExceeded, rest)
    | 3, rest => text.readAs .misuse rest
    | 4, rest => text.readAs .persistence rest
    | 5, rest => .ok (.unauthorized, rest)
    | 6, rest => text.readAs .fault rest
    | n, _ => .error (.unknownVariant n 7)

def request : Codec Request where
  write
    | .ping timestamp => tag 0 ++ u64.write timestamp
    | .registerServer id endpoint => tag 1 ++ (serverId.pair address).write (id, endpoint)
    | .unregisterServer id => tag 2 ++ serverId.write id
    | .heartbeat id => tag 3 ++ serverId.write id
    | .initiateTransfer player position => tag 4 ++ (u64.pair vec2).write (player, position)
    | .completeTransfer player id => tag 5 ++ (u64.pair serverId).write (player, id)
    | .updatePlayer record => tag 6 ++ playerRecord.write record
    | .resetPlayers => tag 7
    | .serverForPosition position => tag 8 ++ vec2.write position
    | .reportZoneStats z stats => tag 9 ++ (zone.pair zoneStats).write (z, stats)
    | .subscribeZoneStats interval => tag 10 ++ u64.write interval
    | .unsubscribeZoneStats => tag 11
    | .transferEntity e left => tag 12 ++ (entity.pair (option u64)).write (e, left)
    | .join player name key spawnAt =>
      tag 13 ++ (u64.pair (text.pair (text.pair (option vec2)))).write (player, name, key, spawnAt)
    | .leave player => tag 14 ++ u64.write player
  read := readChoice fun
    | 0, rest => u64.readAs .ping rest
    | 1, rest =>
      (serverId.pair address).readAs (fun (id, endpoint) => .registerServer id endpoint) rest
    | 2, rest => serverId.readAs .unregisterServer rest
    | 3, rest => serverId.readAs .heartbeat rest
    | 4, rest =>
      (u64.pair vec2).readAs (fun (player, position) => .initiateTransfer player position) rest
    | 5, rest => (u64.pair serverId).readAs (fun (player, id) => .completeTransfer player id) rest
    | 6, rest => playerRecord.readAs .updatePlayer rest
    | 7, rest => .ok (.resetPlayers, rest)
    | 8, rest => vec2.readAs .serverForPosition rest
    | 9, rest => (zone.pair zoneStats).readAs (fun (z, stats) => .reportZoneStats z stats) rest
    | 10, rest => u64.readAs .subscribeZoneStats rest
    | 11, rest => .ok (.unsubscribeZoneStats, rest)
    | 12, rest => (entity.pair (option u64)).readAs (fun (e, left) => .transferEntity e left) rest
    | 13, rest =>
      (u64.pair (text.pair (text.pair (option vec2)))).readAs
        (fun (player, name, key, spawnAt) => .join player name key spawnAt) rest
    | 14, rest => u64.readAs .leave rest
    | n, _ => .error (.unknownVariant n 15)

def response : Codec Response where
  write
    | .pong timestamp => tag 0 ++ u64.write timestamp
    | .ack => tag 1
    | .zone z => tag 2 ++ zone.write z
    | .directive d => tag 3 ++ (option directive).write d
    | .accepted accepted => tag 4 ++ boolean.write accepted
    | .server server => tag 5 ++ (option serverInfo).write server
    | .joined id z position =>
      tag 6 ++ (serverId.pair (zone.pair (option vec2))).write (id, z, position)
    | .error e => tag 7 ++ remoteError.write e
  read := readChoice fun
    | 0, rest => u64.readAs .pong rest
    | 1, rest => .ok (.ack, rest)
    | 2, rest => zone.readAs .zone rest
    | 3, rest => (option directive).readAs .directive rest
    | 4, rest => boolean.readAs .accepted rest
    | 5, rest => (option serverInfo).readAs .server rest
    | 6, rest =>
      (serverId.pair (zone.pair (option vec2))).readAs
        (fun (id, z, position) => .joined id z position) rest
    | 7, rest => remoteError.readAs .error rest
    | n, _ => .error (.unknownVariant n 8)

def datagram : Codec Datagram where
  write
    | .move player sequence velocity =>
      tag 0 ++ (u64.pair (u32.pair vec2)).write (player, sequence, velocity)
    | .worldState tick timestamp z entities =>
      tag 1 ++ (u32.pair (u64.pair (zone.pair (list entity)))).write (tick, timestamp, z, entities)
    | .zoneStatistics stats => tag 2 ++ aggregatedStats.write stats
  read := readChoice fun
    | 0, rest =>
      (u64.pair (u32.pair vec2)).readAs
        (fun (player, sequence, velocity) => .move player sequence velocity) rest
    | 1, rest =>
      (u32.pair (u64.pair (zone.pair (list entity)))).readAs
        (fun (tick, timestamp, z, entities) => .worldState tick timestamp z entities) rest
    | 2, rest => aggregatedStats.readAs .zoneStatistics rest
    | n, _ => .error (.unknownVariant n 3)

def packet : Codec Packet where
  write
    | .request id body => tag 0 ++ (u64.pair request).write (id, body)
    | .response id body => tag 1 ++ (u64.pair response).write (id, body)
    | .datagram body => tag 2 ++ datagram.write body
  read := readChoice fun
    | 0, rest => (u64.pair request).readAs (fun (id, body) => .request id body) rest
    | 1, rest => (u64.pair response).readAs (fun (id, body) => .response id body) rest
    | 2, rest => datagram.readAs .datagram rest
    | n, _ => .error (.unknownVariant n 3)

end ShardedWorld.Wire.Codec
