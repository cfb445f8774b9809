import ShardedWorld.Proofs.Wire.Exactness
import ShardedWorld.Wire.Packet

/-! Packets delimit themselves.

All records and messages have exact wire forms, but for the labels of a host, which are not sent.
-/

set_option autoImplicit false

namespace ShardedWorld

/-- An address without labels means the same to everybody. -/
def Address.Unlabelled (a : Address) : Prop :=
  match a.host with
  | .v4 _ => True
  | .v6 _ flow scope => flow = 0 ∧ scope = 0

def Request.Unlabelled : Request → Prop
  | .registerServer _ endpoint => endpoint.Unlabelled
  | _ => True

def Response.Unlabelled : Response → Prop
  | .directive order => ∀ d ∈ order, d.target.endpoint.Unlabelled
  | .server info => ∀ s ∈ info, s.endpoint.Unlabelled
  | _ => True

def Packet.Unlabelled : Packet → Prop
  | .request _ body => body.Unlabelled
  | .response _ body => body.Unlabelled
  | .datagram _ => True

namespace Wire.Codec.Exact

/-! Records. -/

theorem serverId : Codec.serverId.Exact fun _ => True :=
  text.via (fun _ => rfl) fun _ => rfl

theorem host : Codec.host.Exact fun h => (Address.mk h 0).Unlabelled := by
  apply choice rfl
  · intro h domain
    cases h with
    | v4 bits =>
      exact ⟨0, _, by decide, rfl, fun tail => (bigBits 4).complete_as rfl tail trivial⟩
    | v6 bits flow scope =>
      obtain ⟨rfl, rfl⟩ : flow = 0 ∧ scope = 0 := domain
      exact ⟨1, _, by decide, rfl, fun tail => (bigBits 16).complete_as rfl tail trivial⟩
  · intro n bytes rest h done
    split at done
    · obtain ⟨bits, -, rfl, rfl⟩ := (bigBits 4).faithful_as done
      exact ⟨trivial, _, rfl, rfl⟩
    · obtain ⟨bits, -, rfl, rfl⟩ := (bigBits 16).faithful_as done
      exact ⟨⟨rfl, rfl⟩, _, rfl, rfl⟩
    · cases done

theorem address : Codec.address.Exact Address.Unlabelled :=
  ((host.pair u16).via (fun _ => rfl) fun _ => rfl).congr (by simp [Address.Unlabelled])

theorem vec2 : Codec.vec2.Exact fun _ => True :=
  ((single.pair single).via (fun _ => rfl) fun _ => rfl).congr (by simp)

theorem zone : Codec.zone.Exact fun _ => True :=
  ((i32.pair i32).via (fun _ => rfl) fun _ => rfl).congr (by simp)

theorem entityKind : Codec.entityKind.Exact fun _ => True := by
  apply choice rfl
  · intro kind _
    cases kind with
    | player => exact ⟨0, [], by decide, rfl, fun _ _ => rfl⟩
    | enemy => exact ⟨1, [], by decide, rfl, fun _ _ => rfl⟩
    | bullet => exact ⟨2, [], by decide, rfl, fun _ _ => rfl⟩
    | building => exact ⟨3, [], by decide, rfl, fun _ _ => rfl⟩
  · intro n bytes rest kind done
    split at done
    case h_5 => cases done
    all_goals
      obtain ⟨rfl, rfl⟩ := Prod.mk.inj (Except.ok.inj done)
      exact ⟨trivial, [], rfl, rfl⟩

theorem entity : Codec.entity.Exact fun _ => True :=
  ((u64.pair (entityKind.pair (vec2.pair (vec2.pair single)))).via (fun _ => rfl)
    fun _ => rfl).congr (by simp)

theorem playerRecord : Codec.playerRecord.Exact fun _ => True :=
  ((u64.pair (text.pair (vec2.pair (vec2.pair single)))).via (fun _ => rfl)
    fun _ => rfl).congr (by simp)

theorem serverInfo : Codec.serverInfo.Exact fun s => s.endpoint.Unlabelled :=
  ((serverId.pair (address.pair zone)).via (fun _ => rfl) fun _ => rfl).congr (by simp)

theorem directive : Codec.directive.Exact fun d => d.target.endpoint.Unlabelled :=
  ((serverInfo.pair (serverId.option.pair playerRecord)).via (fun _ => rfl)
    fun _ => rfl).congr (by simp)

theorem zoneStats : Codec.zoneStats.Exact fun _ => True :=
  ((u32.pair (u32.pair single)).via (fun _ => rfl) fun _ => rfl).congr (by simp)

theorem aggregatedStats : Codec.aggregatedStats.Exact fun _ => True := by
  have zones : (Codec.list (Codec.zone.pair Codec.zoneStats)).Exact fun _ => True := by
    refine ((zone.pair zoneStats).list ?_).congr (by simp)
    intro entry
    simp only [Codec.pair, Codec.zone, Codec.via, Codec.i32, Codec.u32, Codec.little,
      List.length_append, littleBytes_length]
    omega
  exact ((u64.pair (u32.pair (u32.pair (u32.pair (u32.pair zones))))).via (fun _ => rfl)
    fun _ => rfl).congr (by simp)

theorem entities : (Codec.list Codec.entity).Exact fun _ => True := by
  refine (entity.list ?_).congr (by simp)
  intro e
  simp only [Codec.entity, Codec.pair, Codec.via, Codec.u64, Codec.little, List.length_append,
    littleBytes_length]
  omega

/-! Messages. -/

theorem remoteError : Codec.remoteError.Exact fun _ => True := by
  apply choice rfl
  · intro e _
    cases e with
    | notRegistered => exact ⟨0, [], by decide, rfl, fun _ _ => rfl⟩
    | authorityConflict => exact ⟨1, [], by decide, rfl, fun _ _ => rfl⟩
    | capacityExceeded => exact ⟨2, [], by decide, rfl, fun _ _ => rfl⟩
    | misuse reason =>
      exact ⟨3, _, by decide, rfl, fun tail => text.complete_as rfl tail trivial⟩
    | persistence reason =>
      exact ⟨4, _, by decide, rfl, fun tail => text.complete_as rfl tail trivial⟩
    | unauthorized => exact ⟨5, [], by decide, rfl, fun _ _ => rfl⟩
    | fault reason =>
      exact ⟨6, _, by decide, rfl, fun tail => text.complete_as rfl tail trivial⟩
  · intro n bytes rest e done
    split at done
    case h_4 | h_5 | h_7 =>
      obtain ⟨reason, -, rfl, rfl⟩ := text.faithful_as done
      exact ⟨trivial, _, rfl, rfl⟩
    case h_8 => cases done
    all_goals
      obtain ⟨rfl, rfl⟩ := Prod.mk.inj (Except.ok.inj done)
      exact ⟨trivial, [], rfl, rfl⟩

theorem request : Codec.request.Exact Request.Unlabelled := by
  apply choice rfl
  -- Each constructor has its own tag and a codec for its fields; only an address limits the domain.
  · intro r domain
    cases r with
    | ping timestamp =>
      exact ⟨0, _, by decide, rfl, fun tail => u64.complete_as rfl tail trivial⟩
    | registerServer id endpoint =>
      exact ⟨1, _, by decide, rfl, fun tail =>
        (serverId.pair address).complete_as rfl tail ⟨trivial, domain⟩⟩
    | unregisterServer id =>
      exact ⟨2, _, by decide, rfl, fun tail => serverId.complete_as rfl tail trivial⟩
    | heartbeat id =>
      exact ⟨3, _, by decide, rfl, fun tail => serverId.complete_as rfl tail trivial⟩
    | initiateTransfer player position =>
      exact ⟨4, _, by decide, rfl, fun tail =>
        (u64.pair vec2).complete_as rfl tail ⟨trivial, trivial⟩⟩
    | completeTransfer player id =>
      exact ⟨5, _, by decide, rfl, fun tail =>
        (u64.pair serverId).complete_as rfl tail ⟨trivial, trivial⟩⟩
    | updatePlayer record =>
      exact ⟨6, _, by decide, rfl, fun tail => playerRecord.complete_as rfl tail trivial⟩
    | resetPlayers => exact ⟨7, [], by decide, rfl, fun _ _ => rfl⟩
    | serverForPosition position =>
      exact ⟨8, _, by decide, rfl, fun tail => vec2.complete_as rfl tail trivial⟩
    | reportZoneStats z stats =>
      exact ⟨9, _, by decide, rfl, fun tail =>
        (zone.pair zoneStats).complete_as rfl tail ⟨trivial, trivial⟩⟩
    | subscribeZoneStats interval =>
      exact ⟨10, _, by decide, rfl, fun tail => u64.complete_as rfl tail trivial⟩
    | unsubscribeZoneStats => exact ⟨11, [], by decide, rfl, fun _ _ => rfl⟩
    | transferEntity e left =>
      exact ⟨12, _, by decide, rfl, fun tail =>
        (entity.pair u64.option).complete_as rfl tail ⟨trivial, fun _ _ => trivial⟩⟩
    | join player name key spawnAt =>
      exact ⟨13, _, by decide, rfl, fun tail =>
        (u64.pair (text.pair (text.pair vec2.option))).complete_as rfl tail
          ⟨trivial, trivial, trivial, fun _ _ => trivial⟩⟩
    | leave player =>
      exact ⟨14, _, by decide, rfl, fun tail => u64.complete_as rfl tail trivial⟩
  -- The tag tells the constructor, in the order of the tags; the last case is an unknown tag.
  · intro n bytes rest r done
    split at done
    case h_1 | h_11 | h_15 =>
      obtain ⟨number, -, rfl, rfl⟩ := u64.faithful_as done
      exact ⟨trivial, _, rfl, rfl⟩
    case h_2 =>
      obtain ⟨⟨id, endpoint⟩, ⟨-, domain⟩, rfl, rfl⟩ := (serverId.pair address).faithful_as done
      exact ⟨domain, _, rfl, rfl⟩
    case h_3 | h_4 =>
      obtain ⟨id, -, rfl, rfl⟩ := serverId.faithful_as done
      exact ⟨trivial, _, rfl, rfl⟩
    case h_5 =>
      obtain ⟨⟨player, position⟩, -, rfl, rfl⟩ := (u64.pair vec2).faithful_as done
      exact ⟨trivial, _, rfl, rfl⟩
    case h_6 =>
      obtain ⟨⟨player, id⟩, -, rfl, rfl⟩ := (u64.pair serverId).faithful_as done
      exact ⟨trivial, _, rfl, rfl⟩
    case h_7 =>
      obtain ⟨record, -, rfl, rfl⟩ := playerRecord.faithful_as done
      exact ⟨trivial, _, rfl, rfl⟩
    case h_8 | h_12 =>
      obtain ⟨rfl, rfl⟩ := Prod.mk.inj (Except.ok.inj done)
      exact ⟨trivial, [], rfl, rfl⟩
    case h_9 =>
      obtain ⟨position, -, rfl, rfl⟩ := vec2.faithful_as done
      exact ⟨trivial, _, rfl, rfl⟩
    case h_10 =>
      obtain ⟨⟨z, stats⟩, -, rfl, rfl⟩ := (zone.pair zoneStats).faithful_as done
      exact ⟨trivial, _, rfl, rfl⟩
    case h_13 =>
      obtain ⟨⟨e, left⟩, -, rfl, rfl⟩ := (entity.pair u64.option).faithful_as done
      exact ⟨trivial, _, rfl, rfl⟩
    case h_14 =>
      obtain ⟨⟨player, name, key, spawnAt⟩, -, rfl, rfl⟩ :=
        (u64.pair (text.pair (text.pair vec2.option))).faithful_as done
      exact ⟨trivial, _, rfl, rfl⟩
    case h_16 => cases done

theorem response : Codec.response.Exact Response.Unlabelled := by
  apply choice rfl
  · intro r domain
    cases r with
    | pong timestamp =>
      exact ⟨0, _, by decide, rfl, fun tail => u64.complete_as rfl tail trivial⟩
    | ack => exact ⟨1, [], by decide, rfl, fun _ _ => rfl⟩
    | zone z =>
      exact ⟨2, _, by decide, rfl, fun tail => zone.complete_as rfl tail trivial⟩
    | directive order =>
      exact ⟨3, _, by decide, rfl, fun tail => directive.option.complete_as rfl tail domain⟩
    | accepted verdict =>
      exact ⟨4, _, by decide, rfl, fun tail => boolean.complete_as rfl tail trivial⟩
    | server info =>
      exact ⟨5, _, by decide, rfl, fun tail => serverInfo.option.complete_as rfl tail domain⟩
    | joined id z position =>
      exact ⟨6, _, by decide, rfl, fun tail =>
        (serverId.pair (zone.pair vec2.option)).complete_as rfl tail
          ⟨trivial, trivial, fun _ _ => trivial⟩⟩
    | error e =>
      exact ⟨7, _, by decide, rfl, fun tail => remoteError.complete_as rfl tail trivial⟩
  · intro n bytes rest r done
    split at done
    case h_1 =>
      obtain ⟨timestamp, -, rfl, rfl⟩ := u64.faithful_as done
      exact ⟨trivial, _, rfl, rfl⟩
    case h_2 =>
      obtain ⟨rfl, rfl⟩ := Prod.mk.inj (Except.ok.inj done)
      exact ⟨trivial, [], rfl, rfl⟩
    case h_3 =>
      obtain ⟨z, -, rfl, rfl⟩ := zone.faithful_as done
      exact ⟨trivial, _, rfl, rfl⟩
    case h_4 =>
      obtain ⟨order, domain, rfl, rfl⟩ := directive.option.faithful_as done
      exact ⟨domain, _, rfl, rfl⟩
    case h_5 =>
      obtain ⟨verdict, -, rfl, rfl⟩ := boolean.faithful_as done
      exact ⟨trivial, _, rfl, rfl⟩
    case h_6 =>
      obtain ⟨info, domain, rfl, rfl⟩ := serverInfo.option.faithful_as done
      exact ⟨domain, _, rfl, rfl⟩
    case h_7 =>
      obtain ⟨⟨id, z, position⟩, -, rfl, rfl⟩ :=
        (serverId.pair (zone.pair vec2.option)).faithful_as done
      exact ⟨trivial, _, rfl, rfl⟩
    case h_8 =>
      obtain ⟨e, -, rfl, rfl⟩ := remoteError.faithful_as done
      exact ⟨trivial, _, rfl, rfl⟩
    case h_9 => cases done

theorem datagram : Codec.datagram.Exact fun _ => True := by
  apply choice rfl
  · intro d _
    cases d with
    | move player sequence velocity =>
      exact ⟨0, _, by decide, rfl, fun tail =>
        (u64.pair (u32.pair vec2)).complete_as rfl tail ⟨trivial, trivial, trivial⟩⟩
    | worldState tick timestamp z es =>
      exact ⟨1, _, by decide, rfl, fun tail =>
        (u32.pair (u64.pair (zone.pair entities))).complete_as rfl tail
          ⟨trivial, trivial, trivial, trivial⟩⟩
    | zoneStatistics stats =>
      exact ⟨2, _, by decide, rfl, fun tail => aggregatedStats.complete_as rfl tail trivial⟩
  · intro n bytes rest d done
    split at done
    · obtain ⟨⟨player, sequence, velocity⟩, -, rfl, rfl⟩ :=
        (u64.pair (u32.pair vec2)).faithful_as done
      exact ⟨trivial, _, rfl, rfl⟩
    · obtain ⟨⟨tick, timestamp, z, es⟩, -, rfl, rfl⟩ :=
        (u32.pair (u64.pair (zone.pair entities))).faithful_as done
      exact ⟨trivial, _, rfl, rfl⟩
    · obtain ⟨stats, -, rfl, rfl⟩ := aggregatedStats.faithful_as done
      exact ⟨trivial, _, rfl, rfl⟩
    · cases done

theorem packet : Codec.packet.Exact Packet.Unlabelled := by
  apply choice rfl
  · intro p domain
    cases p with
    | request id body =>
      exact ⟨0, _, by decide, rfl, fun tail =>
        (u64.pair request).complete_as rfl tail ⟨trivial, domain⟩⟩
    | response id body =>
      exact ⟨1, _, by decide, rfl, fun tail =>
        (u64.pair response).complete_as rfl tail ⟨trivial, domain⟩⟩
    | datagram body =>
      exact ⟨2, _, by decide, rfl, fun tail => datagram.complete_as rfl tail trivial⟩
  · intro n bytes rest p done
    split at done
    · obtain ⟨⟨id, body⟩, ⟨-, domain⟩, rfl, rfl⟩ := (u64.pair request).faithful_as done
      exact ⟨domain, _, rfl, rfl⟩
    · obtain ⟨⟨id, body⟩, ⟨-, domain⟩, rfl, rfl⟩ := (u64.pair response).faithful_as done
      exact ⟨domain, _, rfl, rfl⟩
    · obtain ⟨body, -, rfl, rfl⟩ := datagram.faithful_as done
      exact ⟨trivial, _, rfl, rfl⟩
    · cases done

end Wire.Codec.Exact

namespace Packet

open Wire (Bytes)
open Wire.Codec (Exact lengthBound)

/-- How a packet travels: only its size can keep it from being sent, it is read back whatever
follows, and only from its own bytes, none of which can be left out. -/
structure Framed (p : Packet) : Prop where
  refused : ∀ e, p.encode = .error e ↔
    sizeLimit < (Wire.Codec.packet.write p).length ∧
      e = .oversized (Wire.Codec.packet.write p).length
  returns : ∀ (bytes tail : Bytes), p.encode = .ok bytes → decode (bytes ++ tail) = .ok p
  starts : ∀ bytes : Bytes, decode bytes = .ok p → Wire.Codec.packet.write p <+: bytes
  whole : ∀ bytes part : Bytes, p.encode = .ok bytes → part <+: bytes → part ≠ bytes →
    ∀ q, decode part ≠ .ok q
  alike : ∀ left right : Bytes, decode left = .ok p → decode right = .ok p →
    ∃ tail tail', left = Wire.Codec.packet.write p ++ tail ∧
      right = Wire.Codec.packet.write p ++ tail'

theorem encode_eq_ok {p : Packet} {bytes : Bytes} : p.encode = .ok bytes ↔
    (Wire.Codec.packet.write p).length ≤ sizeLimit ∧ Wire.Codec.packet.write p = bytes := by
  simp only [encode]
  split
  next long => simp [Nat.not_le_of_lt long]
  next short => simp [Nat.le_of_not_lt short]

theorem encode_eq_error {p : Packet} {e : TransportError} : p.encode = .error e ↔
    sizeLimit < (Wire.Codec.packet.write p).length ∧
      e = .oversized (Wire.Codec.packet.write p).length := by
  simp only [encode]
  split
  next long => simp [long, eq_comm]
  next short => simp [short]

theorem decode_eq_ok {p : Packet} {bytes : Bytes} : decode bytes = .ok p ↔
    ∃ rest, Wire.Codec.packet.read bytes = .ok (p, rest) := by
  unfold decode
  split
  next found => simp [found]
  next found => simp [found]

theorem decode_starts {p : Packet} {bytes : Bytes} (done : decode bytes = .ok p) :
    p.Unlabelled ∧ ∃ tail, bytes = Wire.Codec.packet.write p ++ tail := by
  obtain ⟨tail, found⟩ := decode_eq_ok.mp done
  obtain ⟨domain, split⟩ := Exact.packet.faithful found
  exact ⟨domain, tail, split⟩

theorem decode_encoding {p : Packet} (unlabelled : p.Unlabelled) {bytes : Bytes}
    (sent : p.encode = .ok bytes) (tail : Bytes) : decode (bytes ++ tail) = .ok p := by
  obtain ⟨small, rfl⟩ := encode_eq_ok.mp sent
  have short : (Wire.Codec.packet.write p).length < lengthBound :=
    Nat.lt_of_le_of_lt small (by decide)
  exact decode_eq_ok.mpr ⟨tail, Exact.packet.complete tail unlabelled short⟩

/-- Every packet whose addresses mean the same everywhere delimits itself. -/
theorem packets_delimit_themselves {p : Packet} (unlabelled : p.Unlabelled) : p.Framed where
  refused _ := encode_eq_error
  returns bytes tail sent := decode_encoding unlabelled sent tail
  starts bytes done := by
    obtain ⟨-, tail, rfl⟩ := decode_starts done
    exact List.prefix_append ..
  whole bytes part sent cut shorter q done := by
    -- Were `q` read from the part, it would be read from the whole, which holds `p`.
    obtain ⟨more, rfl⟩ := cut
    obtain ⟨domain, tail, rfl⟩ := decode_starts done
    have whole := decode_encoding unlabelled sent []
    obtain ⟨small, written⟩ := encode_eq_ok.mp sent
    have size := congrArg List.length written
    simp only [List.length_append] at size
    have fits : q.encode = .ok (Wire.Codec.packet.write q) := encode_eq_ok.mpr ⟨by omega, rfl⟩
    rw [List.append_nil, List.append_assoc, decode_encoding domain fits] at whole
    obtain rfl := Except.ok.inj whole
    apply shorter
    have tailEmpty : tail = [] := List.length_eq_zero_iff.mp (by omega)
    have moreEmpty : more = [] := List.length_eq_zero_iff.mp (by omega)
    rw [tailEmpty, moreEmpty, List.append_nil, List.append_nil]
  alike left right first second := by
    obtain ⟨-, tail, split⟩ := decode_starts first
    obtain ⟨-, tail', split'⟩ := decode_starts second
    exact ⟨tail, tail', split, split'⟩

/-- The answer that a host of the newer protocol owns a zone. -/
theorem server_answer_delimits_itself :
    (Packet.response 7 (.server (some ⟨⟨"a"⟩, ⟨.v6 1 0 0, 7001⟩, ⟨0, 0⟩⟩))).Unlabelled ∧
      (Packet.response 7 (.server (some ⟨⟨"a"⟩, ⟨.v6 1 0 0, 7001⟩, ⟨0, 0⟩⟩))).Framed := by
  have unlabelled : (Packet.response 7
      (.server (some ⟨⟨"a"⟩, ⟨.v6 1 0 0, 7001⟩, ⟨0, 0⟩⟩))).Unlabelled := by
    simp [Unlabelled, Response.Unlabelled, Address.Unlabelled]
  exact ⟨unlabelled, packets_delimit_themselves unlabelled⟩

end Packet

end ShardedWorld
