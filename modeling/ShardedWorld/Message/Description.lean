import ShardedWorld.Binary.Decimal
import ShardedWorld.Message.Packet

/-!
Responses as text for a developer: the name of each record or alternative, then its fields with
their names in braces or without them in parentheses.
-/

set_option autoImplicit false

namespace ShardedWorld.Description

def record (name : String) (fields : List (String × String)) : String :=
  name ++ " \x7b " ++ ", ".intercalate (fields.map fun (field, text) => field ++ ": " ++ text) ++
    " \x7d"

def applied (name value : String) : String := name ++ "(" ++ value ++ ")"

def optional {α : Type} (text : α → String) : Option α → String
  | none => "None"
  | some a => applied "Some" (text a)

/-- A character between double quotes, where quotes, backslashes and control characters are
escaped. -/
def quotedChar (c : Char) : String :=
  if c = '"' then "\\\""
  else if c = '\\' then "\\\\"
  else if c = '\n' then "\\n"
  else if c = '\t' then "\\t"
  else if c = '\r' then "\\r"
  else if c = '\x00' then "\\0"
  else if c.toNat < 0x20 || c.toNat = 0x7f then
    "\\u\x7b" ++ String.ofList (Nat.toDigits 16 c.toNat) ++ "\x7d"
  else String.singleton c

def quoted (s : String) : String := "\"" ++ "".intercalate (s.toList.map quotedChar) ++ "\""

def serverId (id : ServerId) : String := applied "ServerId" (quoted id.name)

def vec2 (v : Vec2) : String := record "Vec2" [("x", v.x.fullText), ("y", v.y.fullText)]

def zone (z : Zone) : String :=
  record "Zone" [("x", toString z.x.toInt), ("y", toString z.y.toInt)]

def serverInfo (s : ServerInfo) : String :=
  record "ServerInfo"
    [("server_id", serverId s.serverId), ("endpoint", s.endpoint.text), ("zone", zone s.zone)]

def playerRecord (r : PlayerRecord) : String :=
  record "PlayerRecord"
    [("player_id", toString r.playerId.toNat), ("name", quoted r.name),
      ("position", vec2 r.position), ("velocity", vec2 r.velocity),
      ("health", r.health.fullText)]

def directive (d : TransferDirective) : String :=
  record "TransferDirective"
    [("target_server", serverInfo d.target), ("previous_server", optional serverId d.previous),
      ("player", playerRecord d.player)]

def remoteError : RemoteError → String
  | .notRegistered => "NotRegistered"
  | .authorityConflict => "AuthorityConflict"
  | .capacityExceeded => "CapacityExceeded"
  | .misuse reason => applied "Protocol" (quoted reason)
  | .persistence reason => applied "Persistence" (quoted reason)
  | .unauthorized => "Unauthorized"
  | .fault reason => applied "Internal" (quoted reason)

def response : Response → String
  | .pong timestamp => record "Pong" [("timestamp", toString timestamp.toNat)]
  | .ack => "Ack"
  | .zone z => applied "Zone" (zone z)
  | .directive d => applied "Directive" (optional directive d)
  | .accepted accepted => applied "Accepted" (if accepted then "true" else "false")
  | .server s => applied "Server" (optional serverInfo s)
  | .joined id z position =>
    record "Joined"
      [("server_id", serverId id), ("zone", zone z), ("position", optional vec2 position)]
  | .error e => applied "Error" (remoteError e)

end ShardedWorld.Description
