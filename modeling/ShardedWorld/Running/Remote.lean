import ShardedWorld.Network.Call
import ShardedWorld.Network.Connection
import ShardedWorld.Running.Socket

/-!
A connection to a peer over a socket of its own. One caller at a time uses it.
-/

set_option autoImplicit false

namespace ShardedWorld.Running

/-- `heard` are the datagrams of the peer that nobody has looked at yet, the oldest first. -/
structure Remote where
  socket : Socket
  connection : IO.Ref Connection
  heard : IO.Ref (List Datagram)

namespace Remote

def dial (peer : Address) (listens : Bool) : IO (Except TransportError Remote) := do
  let opened ← attempt do
    let socket ← listenAt peer.localFor
    socket.connect (toSocketAddress peer)
    return socket
  match opened with
  | .error cause => return .error (.io cause)
  | .ok socket => return .ok ⟨socket, ← IO.mkRef (.opened listens), ← IO.mkRef []⟩

def isStale (r : Remote) : IO Bool := return (← r.connection.get).stale

abbrev Conclusion := CallerId × Except TransportError Response

/-- Keeps the new state of the connection and the datagrams that it delivers, and gives the calls
that it ended. -/
def carryOut (r : Remote) (next : Connection × List Connection.Effect) : IO (List Conclusion) := do
  r.connection.set next.1
  let mut ended := []
  for effect in next.2 do
    match effect with
    | .send bytes => send r.socket none bytes
    | .deliver datagram => r.heard.modify (· ++ [datagram])
    | .conclude caller outcome => ended := (caller, outcome) :: ended
  return ended

def start (r : Remote) (caller : CallerId) (request : Request) (deadline : Duration) :
    IO (List Conclusion) := do
  let connection ← r.connection.get
  match ← attempt (r.carryOut (connection.call caller request deadline (.ok ()))) with
  | .ok ended => return ended
  | .error cause => r.carryOut (connection.call caller request deadline (.error cause))

/-- Waits for a packet of the peer, for some milliseconds at most. -/
def listen (r : Remote) (millis : Nat) : IO (List Conclusion) := do
  match ← attempt (receive r.socket millis) with
  | .ok none => return []
  | .ok (some (bytes, _)) => r.carryOut ((← r.connection.get).receive bytes)
  | .error _ =>
    r.connection.modify (·.refused)
    IO.sleep 10
    return []

def call {α : Type} (r : Remote) (deadlines : Deadlines) (c : Call α) :
    IO (Except TransportError α) := do
  let requestId := (← r.connection.get).nextId
  let deadline := c.deadline deadlines
  let limit := (← now).after deadline
  let mut ended ← r.start 0 c.request deadline
  repeat
    if let some outcome := ended.lookup 0 then return c.conclude outcome
    let left := limit.since (← now)
    if left = .zero then
      ended ← r.carryOut ((← r.connection.get).expire requestId)
      if ended.isEmpty then return .error .closed
    else ended ← r.listen (left.millis + 1)
  return .error .closed

/-- Sends a datagram of which nothing is heard again; tells whether it was sent. -/
def sendUnreliable (r : Remote) (datagram : Datagram) : IO Bool := do
  match Connection.sendUnreliable datagram (.ok ()) with
  | .error _ => return false
  | .ok bytes => return (← attempt (send r.socket none bytes)).isOk

end Remote

end ShardedWorld.Running
