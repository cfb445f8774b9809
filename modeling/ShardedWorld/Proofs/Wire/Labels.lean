import ShardedWorld.Proofs.Wire.Framing

/-! The labels of a host stay behind.

The label of a flow and the number of a network are those of the machine that gave them, so they
are not sent. A packet arrives as it was sent, but for the labels of its addresses.
-/

set_option autoImplicit false

namespace ShardedWorld

/-! What others know of an address, and of whatever holds one. -/

def Host.withoutLabels : Host → Host
  | .v4 bits => .v4 bits
  | .v6 bits _ _ => .v6 bits 0 0

def Address.withoutLabels (a : Address) : Address := { a with host := a.host.withoutLabels }

def ServerInfo.withoutLabels (s : ServerInfo) : ServerInfo :=
  { s with endpoint := s.endpoint.withoutLabels }

def TransferDirective.withoutLabels (d : TransferDirective) : TransferDirective :=
  { d with target := d.target.withoutLabels }

def Request.withoutLabels : Request → Request
  | .registerServer id endpoint => .registerServer id endpoint.withoutLabels
  | request => request

def Response.withoutLabels : Response → Response
  | .directive order => .directive (order.map (·.withoutLabels))
  | .server info => .server (info.map (·.withoutLabels))
  | response => response

def Packet.withoutLabels : Packet → Packet
  | .request id body => .request id body.withoutLabels
  | .response id body => .response id body.withoutLabels
  | .datagram body => .datagram body

namespace Address

@[simp]
theorem withoutLabels_unlabelled (a : Address) : a.withoutLabels.Unlabelled := by
  obtain ⟨host, port⟩ := a
  cases host with
  | v4 bits => trivial
  | v6 bits flow scope => exact ⟨rfl, rfl⟩

theorem withoutLabels_eq_self {a : Address} : a.withoutLabels = a ↔ a.Unlabelled := by
  obtain ⟨host, port⟩ := a
  cases host with
  | v4 bits => simp [withoutLabels, Host.withoutLabels, Unlabelled]
  | v6 bits flow scope => simp [withoutLabels, Host.withoutLabels, Unlabelled, eq_comm]

end Address

theorem Packet.withoutLabels_unlabelled (p : Packet) : p.withoutLabels.Unlabelled := by
  match p with
  | .request id body =>
    cases body <;> simp [withoutLabels, Request.withoutLabels, Unlabelled, Request.Unlabelled]
  | .response id body =>
    cases body <;> simp [withoutLabels, Response.withoutLabels, Unlabelled, Response.Unlabelled,
      TransferDirective.withoutLabels, ServerInfo.withoutLabels]
  | .datagram body => trivial

namespace Wire.Codec

/-! Nothing is written of the labels. -/

@[simp]
theorem address_write_withoutLabels (a : Address) :
    address.write a.withoutLabels = address.write a := by
  obtain ⟨host, port⟩ := a
  cases host <;> rfl

@[simp]
theorem serverInfo_write_withoutLabels (s : ServerInfo) :
    serverInfo.write s.withoutLabels = serverInfo.write s := by
  simp [serverInfo, Codec.via, Codec.pair, ServerInfo.withoutLabels]

@[simp]
theorem directive_write_withoutLabels (d : TransferDirective) :
    directive.write d.withoutLabels = directive.write d := by
  simp [directive, Codec.via, Codec.pair, TransferDirective.withoutLabels]

@[simp]
theorem request_write_withoutLabels (r : Request) :
    request.write r.withoutLabels = request.write r := by
  cases r with
  | registerServer id endpoint => simp [request, Request.withoutLabels, Codec.pair]
  | _ => rfl

@[simp]
theorem response_write_withoutLabels (r : Response) :
    response.write r.withoutLabels = response.write r := by
  match r with
  | .directive none => rfl
  | .directive (some d) => simp [response, Response.withoutLabels, option]
  | .server none => rfl
  | .server (some s) => simp [response, Response.withoutLabels, option]
  | .pong _ | .ack | .zone _ | .accepted _ | .joined .. | .error _ => rfl

@[simp]
theorem packet_write_withoutLabels (p : Packet) :
    packet.write p.withoutLabels = packet.write p := by
  cases p <;> simp [packet, Packet.withoutLabels, Codec.pair]

/-- What an exact codec reads back of a value whose bytes are also those of one that it reads. -/
theorem Exact.reads_as {α : Type} {c : Codec α} {P : α → Prop} (exact : c.Exact P) {a b : α}
    (same : c.write b = c.write a) (domain : P b) (tail : Bytes)
    (short : (c.write a).length < lengthBound) : c.read (c.write a ++ tail) = .ok (b, tail) := by
  rw [← same] at short ⊢
  exact exact.complete tail domain short

end Wire.Codec

namespace Packet

theorem encode_withoutLabels (p : Packet) : p.withoutLabels.encode = p.encode := by
  simp [encode]

theorem decode_encode {p : Packet} {bytes : Wire.Bytes} (sent : p.encode = .ok bytes)
    (tail : Wire.Bytes) : decode (bytes ++ tail) = .ok p.withoutLabels :=
  decode_encoding p.withoutLabels_unlabelled ((encode_withoutLabels p).trans sent) tail

end Packet

end ShardedWorld
