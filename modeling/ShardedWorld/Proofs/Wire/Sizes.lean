import ShardedWorld.Proofs.Wire.Framing

/-! How many bytes a wire form takes.

Only text and lists vary in size, and what holds them; a host takes more bytes in its longer form.
-/

set_option autoImplicit false

namespace ShardedWorld

theorem utf8ByteSize_ofList {chars : List Char} (narrow : ∀ c ∈ chars, c.utf8Size = 1) :
    (String.ofList chars).utf8ByteSize = chars.length := by
  induction chars with
  | nil => rfl
  | cons c rest ih =>
    obtain ⟨here, later⟩ := List.forall_mem_cons.mp narrow
    rw [String.ofList_cons, String.utf8ByteSize_append, String.utf8ByteSize_singleton, here,
      ih later, List.length_cons, Nat.add_comm]

theorem utf8Size_of_isDigit {c : Char} (digit : c.isDigit) : c.utf8Size = 1 := by
  have small : c.val ≤ 127 := by
    simp only [Char.isDigit, Bool.and_eq_true, decide_eq_true_eq] at digit
    exact UInt32.le_trans digit.2 (by decide)
  simp [Char.utf8Size, small]

/-- A number of 64 bits has 20 digits at most. -/
theorem PlayerRecord.defaultName_size (id : PlayerId) :
    (PlayerRecord.defaultName id).utf8ByteSize ≤ 27 := by
  have digits : (toString id.toNat).utf8ByteSize ≤ 20 := by
    rw [Nat.toString_eq_ofList_toDigits, utf8ByteSize_ofList]
    · exact (Nat.length_toDigits_le_iff (by decide) (by decide)).mpr
        (Nat.lt_trans id.toNat_lt (by decide))
    · intro c member
      exact utf8Size_of_isDigit (Nat.isDigit_of_mem_toDigits (by decide) (by decide) member)
  have prefixed : "player-".utf8ByteSize = 7 := by decide +kernel
  rw [defaultName, String.utf8ByteSize_append, prefixed]
  omega

def RemoteError.reasonSize : RemoteError → Nat
  | .misuse reason | .persistence reason | .fault reason => 8 + reason.utf8ByteSize
  | .notRegistered | .authorityConflict | .capacityExceeded | .unauthorized => 0

namespace Wire.Codec

variable {α β : Type}

def size (c : Codec α) (a : α) : Nat := (c.write a).length

@[simp]
theorem tag_length (n : Nat) : (tag n).length = 4 := littleBytes_length 4 n

theorem choice_length (n : Nat) (c : Codec α) (a : α) :
    (tag n ++ c.write a).length = 4 + c.size a := by
  rw [List.length_append, tag_length, size]

@[simp]
theorem little_size (width : Nat) (make : Nat → α) (value : α → Nat) (a : α) :
    (little width make value).size a = width := littleBytes_length width (value a)

@[simp]
theorem bigBits_size (width : Nat) (bits : BitVec (8 * width)) :
    (bigBits width).size bits = width := by
  simp [size, bigBits]

@[simp]
theorem pair_size (a : Codec α) (b : Codec β) (p : α × β) :
    (a.pair b).size p = a.size p.1 + b.size p.2 := by
  simp [size, pair]

@[simp]
theorem via_size (c : Codec α) (make : α → β) (parts : β → α) (b : β) :
    (c.via make parts).size b = c.size (parts b) := by
  simp only [size, via]

@[simp]
theorem option_size_none (c : Codec α) : (option c).size none = 1 := rfl

@[simp]
theorem option_size_some (c : Codec α) (a : α) : (option c).size (some a) = 1 + c.size a := by
  simp [size, option, Nat.add_comm]

@[simp]
theorem text_size (s : String) : text.size s = 8 + s.utf8ByteSize := by
  simp [size, text, length, little]

theorem list_size {c : Codec α} {width : Nat} (fixed : ∀ a, c.size a = width) (xs : List α) :
    (list c).size xs = 8 + xs.length * width := by
  have lengths : xs.map (fun a => (c.write a).length) = List.replicate xs.length width :=
    List.map_eq_replicate_iff.mpr fun a _ => fixed a
  simp [size, list, length, little, List.length_flatten, Function.comp_def, lengths]

@[simp]
theorem u16_size (n : UInt16) : u16.size n = 2 := little_size 2 _ _ n

@[simp]
theorem u32_size (n : UInt32) : u32.size n = 4 := little_size 4 _ _ n

@[simp]
theorem u64_size (n : UInt64) : u64.size n = 8 := little_size 8 _ _ n

@[simp]
theorem single_size (x : Single) : single.size x = 4 := little_size 4 _ _ x

/-! Records. -/

@[simp]
theorem serverId_size (id : ServerId) : serverId.size id = 8 + id.name.utf8ByteSize := by
  simp [serverId]

@[simp]
theorem host_size_v4 (bits : BitVec 32) : host.size (.v4 bits) = 8 :=
  (choice_length 0 (bigBits 4) bits).trans (congrArg (4 + ·) (bigBits_size 4 bits))

@[simp]
theorem host_size_v6 (bits : BitVec 128) (flow scope : UInt32) :
    host.size (.v6 bits flow scope) = 20 :=
  (choice_length 1 (bigBits 16) bits).trans (congrArg (4 + ·) (bigBits_size 16 bits))

theorem host_size_le (h : Host) : host.size h ≤ 20 := by
  cases h <;> simp

@[simp]
theorem address_size (a : Address) : address.size a = host.size a.host + 2 := by
  simp [address]

@[simp]
theorem vec2_size (v : Vec2) : vec2.size v = 8 := by simp [vec2]

@[simp]
theorem zone_size (z : Zone) : zone.size z = 8 := by simp [zone, i32]

@[simp]
theorem entityKind_size (kind : EntityKind) : entityKind.size kind = 4 := by
  cases kind <;> rfl

@[simp]
theorem entity_size (e : EntitySnapshot) : entity.size e = 32 := by simp [entity]

@[simp]
theorem playerRecord_size (r : PlayerRecord) :
    playerRecord.size r = 36 + r.name.utf8ByteSize := by
  simp [playerRecord]
  omega

@[simp]
theorem serverInfo_size (s : ServerInfo) :
    serverInfo.size s = 18 + s.serverId.name.utf8ByteSize + host.size s.endpoint.host := by
  simp [serverInfo]
  omega

@[simp]
theorem directive_size (d : TransferDirective) :
    directive.size d = serverInfo.size d.target + (option serverId).size d.previous +
      playerRecord.size d.player := by
  simp [directive]
  omega

/-! Packets. -/

@[simp]
theorem packet_size_request (id : UInt64) (body : Request) :
    packet.size (.request id body) = 12 + request.size body :=
  (choice_length 0 (u64.pair request) (id, body)).trans (by simp; omega)

@[simp]
theorem packet_size_response (id : UInt64) (body : Response) :
    packet.size (.response id body) = 12 + response.size body :=
  (choice_length 1 (u64.pair response) (id, body)).trans (by simp; omega)

@[simp]
theorem request_size_registerServer (id : ServerId) (endpoint : Address) :
    request.size (.registerServer id endpoint) =
      14 + id.name.utf8ByteSize + host.size endpoint.host :=
  (choice_length 1 (serverId.pair address) (id, endpoint)).trans (by simp; omega)

@[simp]
theorem request_size_initiateTransfer (player : PlayerId) (position : Vec2) :
    request.size (.initiateTransfer player position) = 20 :=
  (choice_length 4 (u64.pair vec2) (player, position)).trans (by simp)

@[simp]
theorem request_size_completeTransfer (player : PlayerId) (id : ServerId) :
    request.size (.completeTransfer player id) = 20 + id.name.utf8ByteSize :=
  (choice_length 5 (u64.pair serverId) (player, id)).trans (by simp; omega)

@[simp]
theorem request_size_updatePlayer (record : PlayerRecord) :
    request.size (.updatePlayer record) = 40 + record.name.utf8ByteSize :=
  (choice_length 6 playerRecord record).trans (by simp; omega)

theorem remoteError_size (e : RemoteError) : remoteError.size e = 4 + e.reasonSize := by
  cases e with
  | misuse reason => exact (choice_length 3 text reason).trans (by simp [RemoteError.reasonSize])
  | persistence reason =>
    exact (choice_length 4 text reason).trans (by simp [RemoteError.reasonSize])
  | fault reason => exact (choice_length 6 text reason).trans (by simp [RemoteError.reasonSize])
  | notRegistered | authorityConflict | capacityExceeded | unauthorized => rfl

@[simp]
theorem response_size_pong (timestamp : UInt64) : response.size (.pong timestamp) = 12 :=
  (choice_length 0 u64 timestamp).trans (by simp)

@[simp]
theorem response_size_ack : response.size .ack = 4 := tag_length 1

@[simp]
theorem response_size_zone (z : Zone) : response.size (.zone z) = 12 :=
  (choice_length 2 zone z).trans (by simp)

@[simp]
theorem response_size_directive (d : Option TransferDirective) :
    response.size (.directive d) = 4 + (option directive).size d :=
  choice_length 3 (option directive) d

@[simp]
theorem response_size_server (s : Option ServerInfo) :
    response.size (.server s) = 4 + (option serverInfo).size s :=
  choice_length 5 (option serverInfo) s

@[simp]
theorem response_size_error (e : RemoteError) : response.size (.error e) = 8 + e.reasonSize :=
  (choice_length 7 remoteError e).trans (by rw [remoteError_size]; omega)

theorem packet_size_worldState (tick : UInt32) (timestamp : UInt64) (z : Zone)
    (entities : List EntitySnapshot) :
    packet.size (.datagram (.worldState tick timestamp z entities)) =
      36 + entities.length * 32 := by
  have body : datagram.size (.worldState tick timestamp z entities) = 32 + entities.length * 32 :=
    (choice_length 1 (u32.pair (u64.pair (zone.pair (list entity))))
      (tick, timestamp, z, entities)).trans (by simp [list_size entity_size]; omega)
  exact (choice_length 2 datagram (.worldState tick timestamp z entities)).trans (by omega)

end Wire.Codec

namespace Packet

def Fits (p : Packet) : Prop := Wire.Codec.packet.size p ≤ sizeLimit

instance (p : Packet) : Decidable p.Fits := inferInstanceAs (Decidable (_ ≤ _))

theorem Fits.encode {p : Packet} (fits : p.Fits) : p.encode = .ok (Wire.Codec.packet.write p) :=
  encode_eq_ok.mpr ⟨fits, rfl⟩

theorem refusal_fits (requestId : UInt64) {refusal : RemoteError}
    (brief : refusal.reasonSize ≤ 65487) : (response requestId (.error refusal)).Fits := by
  simp only [Fits, Wire.Codec.packet_size_response, Wire.Codec.response_size_error, sizeLimit]
  omega

theorem not_fits_iff {p : Packet} :
    ¬p.Fits ↔ p.encode = .error (.oversized (Wire.Codec.packet.size p)) := by
  simp [encode_eq_error, Fits, Wire.Codec.size]

end Packet

end ShardedWorld
