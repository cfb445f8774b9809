import ShardedWorld.Network.TransportError
import ShardedWorld.Wire.Message

/-!
Packets as datagrams: a packet is sent only if it fits one, and whatever follows a packet in a
datagram is ignored.
-/

set_option autoImplicit false

namespace ShardedWorld

namespace Packet

def sizeLimit : Nat := 65507

def encode (packet : Packet) : Except TransportError Wire.Bytes :=
  let bytes := Wire.Codec.packet.write packet
  if sizeLimit < bytes.length then .error (.oversized bytes.length) else .ok bytes

def decode (bytes : Wire.Bytes) : Except TransportError Packet :=
  match Wire.Codec.packet.read bytes with
  | .error cause => .error (.codec cause)
  | .ok (packet, _) => .ok packet

end Packet

end ShardedWorld
