import ShardedWorld.Identity
import ShardedWorld.Wire.Packet

/-!
A connection to one peer.

Every call waits under a number of its own until a response with this number arrives, its deadline
passes, or the connection is closed. Numbers are counted up from one, also for calls that are never
sent. What arrives under a number that nobody waits under is dropped.
-/

set_option autoImplicit false

namespace ShardedWorld

namespace Connection

structure Waiting where
  caller : CallerId
  deadline : Duration
  deriving DecidableEq

inductive Event where
  | call (caller : CallerId) (request : Request) (deadline : Duration)
      (sending : Except IoError Unit)
  | receive (bytes : Wire.Bytes)
  | refused
  | expire (requestId : UInt64)
  | close

/-- What the connection does to the outside: it sends a datagram, ends a call, or hands over what
the peer sent on its own. -/
inductive Effect where
  | send (bytes : Wire.Bytes)
  | conclude (caller : CallerId) (outcome : Except TransportError Response)
  | deliver (datagram : Datagram)

end Connection

/-- `listens` tells whether anybody wants the datagrams of the peer; a `stale` connection has lost
its peer and should be replaced. -/
structure Connection where
  nextId : UInt64
  waiting : Table UInt64 Connection.Waiting
  stale : Bool
  closed : Bool
  listens : Bool

namespace Connection

def opened (listens : Bool) : Connection :=
  { nextId := 1, waiting := ∅, stale := false, closed := false, listens }

def inFlight (c : Connection) : Nat := c.waiting.size

/-- A refusal that the peer sent in place of an answer is an error of the call. -/
def outcome : Response → Except TransportError Response
  | .error refusal => .error (.remote refusal)
  | response => .ok response

/-- A call takes its number first, so that also one that cannot be sent has used it up. -/
def call (c : Connection) (caller : CallerId) (request : Request) (deadline : Duration)
    (sending : Except IoError Unit) : Connection × List Effect :=
  if c.closed then (c, [.conclude caller (.error .closed)])
  else
    let numbered := { c with nextId := c.nextId + 1 }
    match (Packet.request c.nextId request).encode, sending with
    | .error e, _ => (numbered, [.conclude caller (.error e)])
    | .ok _, .error cause => (numbered, [.conclude caller (.error (.io cause))])
    | .ok bytes, .ok _ =>
      ({ numbered with waiting := c.waiting.insert c.nextId ⟨caller, deadline⟩ }, [.send bytes])

/-- A response shows that the peer is there, whether anybody waits for it or not. -/
def respond (c : Connection) (requestId : UInt64) (response : Response) :
    Connection × List Effect :=
  let c := { c with stale := false }
  match c.waiting[requestId]? with
  | some waiting =>
    ({ c with waiting := c.waiting.erase requestId },
      [.conclude waiting.caller (outcome response)])
  -- The call has timed out, or this is a repeated response.
  | none => (c, [])

/-- Datagrams are handed on, requests and what is no packet are dropped. -/
def receive (c : Connection) (bytes : Wire.Bytes) : Connection × List Effect :=
  if c.closed then (c, [])
  else
    match Packet.decode bytes with
    | .ok (.response requestId response) => c.respond requestId response
    | .ok (.datagram datagram) => (c, if c.listens then [.deliver datagram] else [])
    | .ok (.request ..) | .error _ => (c, [])

def refused (c : Connection) : Connection :=
  if c.closed then c else { c with stale := true }

def expire (c : Connection) (requestId : UInt64) : Connection × List Effect :=
  match c.waiting[requestId]? with
  | some waiting =>
    ({ c with waiting := c.waiting.erase requestId },
      [.conclude waiting.caller (.error (.timeout requestId waiting.deadline))])
  | none => (c, [])

def close (c : Connection) : Connection × List Effect :=
  ({ c with waiting := ∅, stale := true, closed := true },
    c.waiting.values.map fun waiting => .conclude waiting.caller (.error .closed))

def step (c : Connection) : Event → Connection × List Effect
  | .call caller request deadline sending => c.call caller request deadline sending
  | .receive bytes => c.receive bytes
  | .refused => (c.refused, [])
  | .expire requestId => c.expire requestId
  | .close => c.close

def run (c : Connection) : List Event → Connection × List Effect
  | [] => (c, [])
  | event :: rest =>
    let (next, done) := c.step event
    let (last, more) := next.run rest
    (last, done ++ more)

def sendUnreliable (datagram : Datagram) (sending : Except IoError Unit) :
    Except TransportError Wire.Bytes :=
  match (Packet.datagram datagram).encode, sending with
  | .error e, _ => .error e
  | .ok _, .error cause => .error (.io cause)
  | .ok bytes, .ok _ => .ok bytes

end Connection

end ShardedWorld
