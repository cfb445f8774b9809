import ShardedWorld.Network.Call
import ShardedWorld.Network.Connection
import ShardedWorld.Time

/-!
A service as the network sees it: packets come in, and packets go out.
-/

set_option autoImplicit false

namespace ShardedWorld

/-- What a service with the state `σ` does with a request and with a datagram, at a time and from
an address. -/
structure Service (σ : Type) where
  handle : σ → Instant → Address → Request → Response × σ
  hear : σ → Instant → Address → Datagram → σ

namespace Service

variable {σ : Type}

/-- The packet that a received one is answered with. Only requests are answered, and a response
that is too long for a packet is not sent. -/
def receive (service : Service σ) (s : σ) (now : Instant) (sender : Address)
    (bytes : Wire.Bytes) : Option Wire.Bytes × σ :=
  match Packet.decode bytes with
  | .ok (.request requestId body) =>
    let (response, s) := service.handle s now sender body
    ((Packet.response requestId response).encode.toOption, s)
  | .ok (.datagram datagram) => (none, service.hear s now sender datagram)
  | .ok (.response ..) | .error _ => (none, s)

/-- What the caller gets of the packet that answers a request: nothing until its deadline, if there
is none or it is no response to this request. -/
def outcome (requestId : UInt64) (deadline : Duration) :
    Option Wire.Bytes → Except TransportError Response
  | none => .error (.timeout requestId deadline)
  | some bytes =>
    match Packet.decode bytes with
    | .ok (.response answered response) =>
      if answered = requestId then Connection.outcome response
      else .error (.timeout requestId deadline)
    | _ => .error (.timeout requestId deadline)

/-- A call over a network that loses nothing and takes no time. -/
def exchange {α : Type} (service : Service σ) (s : σ) (now : Instant) (sender : Address)
    (requestId : UInt64) (deadlines : Deadlines) (call : Call α) : Except TransportError α × σ :=
  match (Packet.request requestId call.request).encode with
  | .error e => (.error e, s)
  | .ok bytes =>
    let (answer, s) := service.receive s now sender bytes
    (call.conclude (outcome requestId (call.deadline deadlines) answer), s)

end Service

end ShardedWorld
