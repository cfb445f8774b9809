import ShardedWorld.Proofs.Network.Exchange
import ShardedWorld.Proofs.Registry.Lengths

/-! Which answers of a coordinator can be sent.

An answer that names nobody is short. One that names servers and players is as long as their names,
and the names come from different requests, so that each of these may fit a packet where the answer
does not. The run is followed here in which it is longest.
-/

set_option autoImplicit false

namespace ShardedWorld

open Wire

def Request.command? : Request → Option Registry.Command
  | .registerServer id endpoint => some (.registerServer id endpoint)
  | .unregisterServer id => some (.unregisterServer id)
  | .heartbeat id => some (.heartbeat id)
  | .initiateTransfer player position => some (.initiateTransfer player position)
  | .completeTransfer player server => some (.completeTransfer player server)
  | .updatePlayer record => some (.updatePlayer record)
  | .resetPlayers => some .resetPlayers
  | .serverForPosition position => some (.locate position)
  | .reportZoneStats zone stats => some (.reportZoneStats zone stats)
  | .ping _ | .subscribeZoneStats _ | .unsubscribeZoneStats | .transferEntity .. | .join ..
  | .leave _ => none

def Registry.Command.Inquires : Registry.Command → Prop
  | .initiateTransfer .. | .locate _ => True
  | _ => False

def Request.Inquires : Request → Prop
  | .initiateTransfer .. | .serverForPosition _ => True
  | _ => False

def Limits.Admits (limits : Limits) (request : Request) : Prop :=
  ∀ command, request.command? = some command → limits.Allows command

theorem Limits.Allows.admits {limits : Limits} {command : Registry.Command}
    (allowed : limits.Allows command) {request : Request}
    (asks : request.command? = some command) : limits.Admits request := by
  intro other same
  rw [asks] at same
  exact Option.some.inj same ▸ allowed

def Limits.Keeps (limits : Limits) : Registry.Answer → Prop
  | .directive order => ∀ directive, order = some directive → directive.Bounded limits
  | .server found => ∀ info, found = some info → info.serverId.name.utf8ByteSize ≤ limits.server
  | _ => True

/-- The most bytes that an answer takes if the names in it keep to the limits: it is an order that
names one server to go to, another one to leave, and the player. -/
def Limits.longestAnswer (limits : Limits) : Nat := 2 * limits.server + limits.player + 100

/-! Refusals. -/

theorem SnapshotStore.refusal_brief {store : SnapshotStore} {next : Snapshot} {cause : StoreError}
    (refused : Store.commit store next = .error cause) : cause.message.utf8ByteSize ≤ 100 := by
  cases store with
  | memory store =>
    rcases store with ⟨snapshot, _ | _⟩
    · cases refused
    · obtain rfl := Except.error.inj refused
      decide +kernel
  | file store =>
    rcases store with ⟨snapshot, _ | _ | _ | bytes⟩
    · obtain rfl := Except.error.inj refused
      decide +kernel
    · obtain rfl := Except.error.inj refused
      decide +kernel
    · cases refused
    · cases refused

theorem Registry.Failure.brief {e : RegistryError} (failure : Failure SnapshotStore e) :
    e.toRemote.reasonSize ≤ 108 := by
  cases failure with
  | refused refused => exact Nat.add_le_add_left (SnapshotStore.refusal_brief refused) 8
  | unknown id => exact Nat.zero_le _
  | stopped => decide +kernel

theorem Registry.Failure.fits {e : RegistryError} (failure : Failure SnapshotStore e)
    (requestId : UInt64) : (Packet.response requestId (.error e.toRemote)).Fits :=
  Packet.refusal_fits requestId (Nat.le_trans failure.brief (by decide))

/-! Answers. -/

theorem Wire.Codec.option_serverId_size_le {limits : Limits} {id : Option ServerId}
    (short : ∀ known, id = some known → known.name.utf8ByteSize ≤ limits.server) :
    (Codec.option Codec.serverId).size id ≤ 9 + limits.server := by
  cases id with
  | none =>
    rw [Codec.option_size_none]
    omega
  | some known =>
    have named := short known rfl
    rw [Codec.option_size_some, Codec.serverId_size]
    omega

theorem Limits.Keeps.size_le {limits : Limits} {answer : Registry.Answer}
    (keeps : limits.Keeps answer) (requestId : UInt64) :
    Codec.packet.size (.response requestId (Coordinator.respond (.ok answer))) ≤
      limits.longestAnswer := by
  rw [Codec.packet_size_response, Limits.longestAnswer]
  -- Only two answers hold names, and the longer one is an order with both servers and the player.
  cases answer with
  | done | evicted | stats | zone => simp [Coordinator.respond]
  | server found =>
    cases found with
    | none => simp [Coordinator.respond]
    | some info =>
      have named := keeps info rfl
      have host := Codec.host_size_le info.endpoint.host
      simp only [Coordinator.respond, Codec.response_size_server, Codec.option_size_some,
        Codec.serverInfo_size]
      omega
  | directive order =>
    cases order with
    | none => simp [Coordinator.respond]
    | some directive =>
      obtain ⟨target, previous, player⟩ := keeps directive rfl
      have host := Codec.host_size_le directive.target.endpoint.host
      have left := Codec.option_serverId_size_le previous
      simp only [Coordinator.respond, Codec.response_size_directive, Codec.option_size_some,
        Codec.directive_size, Codec.serverInfo_size, Codec.playerRecord_size]
      omega

namespace Registry

variable {σ : Type} {limits : Limits}

theorem settle_eq_ok {α : Type} {r : Registry σ} {wrap : α → Answer}
    {outcome : Except RegistryError (α × Registry σ)} {answer : Answer}
    (given : (r.settle wrap outcome).1 = .ok answer) :
    ∃ a r', outcome = .ok (a, r') ∧ answer = wrap a := by
  match outcome with
  | .ok (a, r') => exact ⟨a, r', rfl, (Except.ok.inj given).symm⟩
  | .error e => cases given

theorem settleDone_eq_ok {r : Registry σ} {outcome : Except RegistryError (Registry σ)}
    {answer : Answer} (given : (r.settleDone outcome).1 = .ok answer) : answer = .done := by
  cases outcome with
  | ok r' => exact (Except.ok.inj given).symm
  | error e => cases given

/-- Only inquiries are answered with names, and these with names that the registry holds. -/
theorem execute_keeps [Store σ] {r : Registry σ} {now : Instant} {command : Command}
    {answer : Answer} (given : (r.execute now command).1 = .ok answer)
    (held : command.Inquires → r.Bounded limits) : limits.Keeps answer := by
  cases command with
  | registerServer id endpoint =>
    obtain ⟨zone, r', -, rfl⟩ := settle_eq_ok given
    trivial
  | evictStale timeout =>
    simp only [execute, evictStale] at given
    obtain ⟨gone, -, rfl⟩ := map_eq_ok.mp given
    trivial
  | initiateTransfer player position =>
    obtain ⟨order, r', done, rfl⟩ := settle_eq_ok given
    intro directive ordered
    subst ordered
    exact (held trivial).order done
  | locate position =>
    obtain rfl := Except.ok.inj given
    intro info found
    exact (held trivial).servers info (locate_listed found)
  | reportZoneStats zone stats =>
    obtain rfl := Except.ok.inj given
    trivial
  | aggregate generatedAt =>
    obtain ⟨stats, -, rfl⟩ := map_eq_ok.mp given
    trivial
  | unregisterServer | heartbeat | completeTransfer | updatePlayer | resetPlayers =>
    obtain rfl := settleDone_eq_ok given
    trivial

end Registry

namespace Coordinator

variable {limits : Limits}

theorem handle_command {σ : Type} [Store σ] (c : Coordinator σ) (now : Instant) (sender : Address)
    {request : Request} {command : Registry.Command} (asks : request.command? = some command) :
    c.handle now sender request = c.command now command := by
  cases request
  all_goals cases asks
  all_goals rfl

theorem handle_aside {σ : Type} [Store σ] (c : Coordinator σ) (now : Instant) (sender : Address)
    {request : Request} (asks : request.command? = none) :
    (c.handle now sender request).2.mailbox = c.mailbox ∧
      ∀ requestId, (Packet.response requestId (c.handle now sender request).1).Fits := by
  cases request with
  | ping | subscribeZoneStats | unsubscribeZoneStats =>
    refine ⟨rfl, fun requestId => ?_⟩
    simp [handle, Packet.Fits, Packet.sizeLimit]
  | transferEntity | join | leave =>
    exact ⟨rfl, fun requestId => Packet.refusal_fits requestId (by decide +kernel)⟩
  | _ => cases asks

/-- A command's answer fits if it is one without names or its names keep to limits that suffice. -/
theorem command_fits {c : Coordinator SnapshotStore} {command : Registry.Command}
    (held : command.Inquires → c.mailbox.registry.Bounded limits)
    (suffice : limits.longestAnswer ≤ Packet.sizeLimit) (now : Instant) (requestId : UInt64) :
    (Packet.response requestId (c.command now command).1).Fits := by
  simp only [Coordinator.command, Mailbox.request]
  split
  · cases outcome : (c.mailbox.registry.execute now command).1 with
    | ok answer =>
      have keeps := Registry.execute_keeps outcome held
      exact Nat.le_trans (keeps.size_le requestId) suffice
    | error e => exact (Registry.execute_fails outcome).fits requestId
  · exact Registry.Failure.stopped.fits requestId

theorem handle_fits {c : Coordinator SnapshotStore} {request : Request}
    (held : request.Inquires → c.mailbox.registry.Bounded limits)
    (suffice : limits.longestAnswer ≤ Packet.sizeLimit) (now : Instant) (sender : Address)
    (requestId : UInt64) : (Packet.response requestId (c.handle now sender request).1).Fits := by
  cases asks : request.command? with
  | some command =>
    rw [c.handle_command now sender asks]
    refine command_fits (fun inquires => held ?_) suffice now requestId
    cases request
    all_goals cases asks
    all_goals exact inquires
  | none => exact (c.handle_aside now sender asks).2 requestId

theorem command_bounded {σ : Type} [Store σ] {c : Coordinator σ}
    (bounded : c.mailbox.registry.Bounded limits) (roomy : 27 ≤ limits.player) (now : Instant)
    {command : Registry.Command} (allowed : limits.Allows command) :
    (c.command now command).2.mailbox.registry.Bounded limits := by
  simp only [Coordinator.command, Mailbox.request]
  split
  · exact bounded.execute roomy now allowed
  · exact bounded

theorem handle_bounded {σ : Type} [Store σ] {c : Coordinator σ}
    (bounded : c.mailbox.registry.Bounded limits) (roomy : 27 ≤ limits.player) (now : Instant)
    (sender : Address) {request : Request} (admitted : limits.Admits request) :
    (c.handle now sender request).2.mailbox.registry.Bounded limits := by
  cases asks : request.command? with
  | some command =>
    rw [c.handle_command now sender asks]
    exact command_bounded bounded roomy now (admitted command asks)
  | none =>
    rw [(c.handle_aside now sender asks).1]
    exact bounded

theorem push_mailbox {σ : Type} [Store σ] (c : Coordinator σ) (now : Instant)
    (generatedAt : UInt64) :
    (c.push now generatedAt).2.mailbox = c.mailbox ∨
      (c.push now generatedAt).2.mailbox = (c.command now (.aggregate generatedAt)).2.mailbox := by
  unfold push
  dsimp only
  split
  · exact .inl rfl
  · refine .inr ?_
    unfold Coordinator.command
    split
    all_goals
      next asked => rw [asked]

/-- What a coordinator can become by requests that fit a packet and whose names keep to the limits,
and by all else that it does. Its store may be changed from outside. -/
inductive Serves (limits : Limits) (start : Coordinator SnapshotStore) :
    Coordinator SnapshotStore → Prop where
  | start : Serves limits start start
  | request {c : Coordinator SnapshotStore} {request : Request} {requestId : UInt64} :
      Serves limits start c → (Packet.request requestId request).Fits → limits.Admits request →
      ∀ (now : Instant) (sender : Address), Serves limits start (c.handle now sender request).2
  | sweep {c : Coordinator SnapshotStore} : Serves limits start c →
      ∀ (now : Instant) (timeout : Duration), Serves limits start (c.sweep now timeout)
  | push {c : Coordinator SnapshotStore} : Serves limits start c →
      ∀ (now : Instant) (generatedAt : UInt64), Serves limits start (c.push now generatedAt).2
  | outside {c : Coordinator SnapshotStore} : Serves limits start c → ∀ store : SnapshotStore,
      Serves limits start ⟨⟨{ c.mailbox.registry with store }, c.mailbox.running⟩, c.subscribers⟩
  | stop {c : Coordinator SnapshotStore} : Serves limits start c →
      Serves limits start { c with mailbox := c.mailbox.stop }

theorem Serves.bounded {start c : Coordinator SnapshotStore} (run : Serves limits start c)
    (roomy : 27 ≤ limits.player) (bounded : start.mailbox.registry.Bounded limits) :
    c.mailbox.registry.Bounded limits := by
  induction run with
  | start => exact bounded
  | request before fits admitted now sender ih => exact handle_bounded ih roomy now sender admitted
  | sweep before now timeout ih => exact command_bounded ih roomy now trivial
  | @push c before now generatedAt ih =>
    rcases c.push_mailbox now generatedAt with same | asked
    · rwa [same]
    · rw [asked]
      exact command_bounded ih roomy now trivial
  | outside before store ih => exact ⟨ih.servers, ih.players⟩
  | stop before ih => exact ih

end Coordinator

/-- Whether every answer can be sent, however a coordinator was started and asked before, if the
names keep to the limits. -/
def Limits.Suffice (limits : Limits) : Prop :=
  ∀ (grid : Grid) (store : SnapshotStore) (started : Instant),
    (Store.snapshot store).Bounded limits → ∀ c : Coordinator SnapshotStore,
    Coordinator.Serves limits (.start grid store started) c →
    ∀ (requestId : UInt64) (request : Request), (Packet.request requestId request).Fits →
      limits.Admits request → ∀ (now : Instant) (sender : Address),
      (Packet.response requestId (c.handle now sender request).1).Fits

theorem Limits.suffice_of_longestAnswer {limits : Limits} (roomy : 27 ≤ limits.player)
    (fits : limits.longestAnswer ≤ Packet.sizeLimit) : limits.Suffice := by
  intro grid store started stored c run requestId request asked admitted now sender
  have bounded := run.bounded roomy (Registry.restore_bounded grid started stored)
  exact Coordinator.handle_fits (fun _ => bounded) fits now sender requestId

/-! The run with the longest answers. -/

/-- The longest names within the limits that fit the requests which bring them. -/
def Limits.brought (limits : Limits) : Limits where
  server := min limits.server (Packet.sizeLimit - 46)
  player := min limits.player (Packet.sizeLimit - 52)

namespace Coordinator

def corner : Vec2 := ⟨.ofInt 10, .ofInt 10⟩

def waiting (s : Snapshot) (players : Table PlayerId PlayerEntry) : Coordinator SnapshotStore :=
  ⟨.start (.unserved .standard (.memory ⟨s, false⟩) players), ∅⟩

def attended (s : Snapshot) (players : Table PlayerId PlayerEntry) (id : ServerId)
    (endpoint : Address) (now : Instant) : Coordinator SnapshotStore :=
  ⟨.start
    { grid := .standard
      store := .memory ⟨s.putServer ⟨id, endpoint, ⟨0, 0⟩⟩, false⟩
      servers := Std.ExtTreeMap.insert ∅ id ⟨⟨id, endpoint, ⟨0, 0⟩⟩, now⟩
      zones := Std.ExtTreeMap.insert ∅ ⟨0, 0⟩ id
      players
      zoneStats := ∅ }, ∅⟩

variable {s : Snapshot} {players : Table PlayerId PlayerEntry}

theorem waiting_updatePlayer {record : PlayerRecord} (unknown : players[record.playerId]? = none)
    (now : Instant) (sender : Address) :
    let entry : PlayerEntry := ⟨record, none, none⟩
    ((waiting s players).handle now sender (.updatePlayer record)).2 =
      waiting (s.putPlayer entry) (players.insert record.playerId entry) := by
  simp only [handle, Coordinator.command, Mailbox.request, waiting, Mailbox.start,
    Registry.execute, Registry.updatePlayer, Registry.player?, Registry.unserved, unknown]
  rfl

theorem waiting_completeTransfer {entry : PlayerEntry} {player : PlayerId}
    (known : players[player]? = some entry) (unowned : entry.owner = none) (server : ServerId)
    (now : Instant) (sender : Address) :
    let moved : PlayerEntry := ⟨entry.record, some server, none⟩
    ((waiting s players).handle now sender (.completeTransfer player server)).2 =
      waiting (s.putPlayer moved) (players.insert player moved) := by
  have unsettled : ¬(entry.owner = some server ∧ entry.pending = none) := by simp [unowned]
  simp only [handle, Coordinator.command, Mailbox.request, waiting, Mailbox.start,
    Registry.execute, Registry.completeTransfer, Registry.player?, Registry.unserved, known,
    if_neg unsettled]
  rfl

theorem waiting_registerServer (id : ServerId) (endpoint : Address) (now : Instant)
    (sender : Address) :
    ((waiting s players).handle now sender (.registerServer id endpoint)).2 =
      attended s players id endpoint now := by
  have unknown : (∅ : Table ServerId Registration)[id]? = none := Std.ExtTreeMap.getElem?_empty
  simp only [handle, Coordinator.command, Mailbox.request, waiting, Mailbox.start,
    Registry.execute, Registry.registerServer, Registry.server?, Registry.unserved, unknown]
  rfl

theorem attended_locate (id : ServerId) (endpoint : Address) (since : Instant) :
    (attended s players id endpoint since).mailbox.registry.locate corner =
      some ⟨id, endpoint, ⟨0, 0⟩⟩ := by
  have zone : Grid.standard.zoneOf corner = ⟨0, 0⟩ := by decide +kernel
  simp [attended, Mailbox.start, Registry.locate, Registry.ownerOf?, Registry.server?, zone,
    StoredServer.info]

theorem attended_serverForPosition (id : ServerId) (endpoint : Address) (since now : Instant)
    (sender : Address) :
    ((attended s players id endpoint since).handle now sender (.serverForPosition corner)).1 =
      .server (some ⟨id, endpoint, ⟨0, 0⟩⟩) :=
  congrArg Response.server (attended_locate id endpoint since)

theorem attended_initiateTransfer {record : PlayerRecord} {player : PlayerId} {far : ServerId}
    (known : players[player]? = some ⟨record, some far, none⟩) {id : ServerId}
    (elsewhere : far ≠ id) (endpoint : Address) (since now : Instant) (sender : Address) :
    ((attended s players id endpoint since).handle now sender
        (.initiateTransfer player corner)).1 =
      .directive (some ⟨⟨id, endpoint, ⟨0, 0⟩⟩, some far, { record with position := corner }⟩) := by
  have located := @attended_locate s players id endpoint since
  have moved : Registry.direct ⟨{ record with position := corner }, some far, none⟩
      (some ⟨id, endpoint, ⟨0, 0⟩⟩) = (⟨{ record with position := corner }, some far,
        some ⟨id, some far⟩⟩,
        some ⟨⟨id, endpoint, ⟨0, 0⟩⟩, some far, { record with position := corner }⟩) :=
    if_neg fun same => elsewhere (Option.some.inj same)
  simp only [attended, Mailbox.start] at located
  simp only [handle, Coordinator.command, Mailbox.request, attended, Mailbox.start,
    Registry.execute, Registry.initiateTransfer, located, Registry.player?, known, moved]
  rfl

theorem attended_served {limits : Limits} {near far : ServerId} {record : PlayerRecord}
    (coming : near.name.utf8ByteSize ≤ limits.brought.server)
    (owning : far.name.utf8ByteSize ≤ limits.brought.server)
    (playing : record.name.utf8ByteSize ≤ limits.brought.player) (bits : BitVec 128) :
    ∃ s players, players[record.playerId]? = some ⟨record, some far, none⟩ ∧
      Serves limits (.start .standard (.memory .empty) .start)
        (attended s players near ⟨.v6 bits 0 0, 7001⟩ .start) := by
  -- Each name comes with a request of its own, and has this request's room for itself.
  have limit : Packet.sizeLimit = 65507 := rfl
  obtain ⟨allowedNear, shortNear⟩ := Nat.le_min.mp coming
  obtain ⟨allowedFar, shortFar⟩ := Nat.le_min.mp owning
  obtain ⟨allowedPlayer, shortPlayer⟩ := Nat.le_min.mp playing
  have asksUpdate : (Packet.request 1 (.updatePlayer record)).Fits := by
    simp only [Packet.Fits, Codec.packet_size_request, Codec.request_size_updatePlayer]
    omega
  have asksCompletion : (Packet.request 2 (.completeTransfer record.playerId far)).Fits := by
    simp only [Packet.Fits, Codec.packet_size_request, Codec.request_size_completeTransfer]
    omega
  have asksRegistration :
      (Packet.request 3 (.registerServer near ⟨.v6 bits 0 0, 7001⟩)).Fits := by
    simp only [Packet.Fits, Codec.packet_size_request, Codec.request_size_registerServer,
      Codec.host_size_v6]
    omega
  have initial : Serves limits (.start .standard (.memory .empty) .start) (waiting .empty ∅) :=
    .start
  have admitsUpdate : limits.Allows (.updatePlayer record) := allowedPlayer
  have updated := initial.request asksUpdate (admitsUpdate.admits rfl) .start (.loopback 9000)
  rw [waiting_updatePlayer Std.ExtTreeMap.getElem?_empty] at updated
  have admitsCompletion : limits.Allows (.completeTransfer record.playerId far) := allowedFar
  have completed :=
    updated.request asksCompletion (admitsCompletion.admits rfl) .start (.loopback 9000)
  rw [waiting_completeTransfer Std.ExtTreeMap.getElem?_insert_self rfl] at completed
  have admitsRegistration : limits.Allows (.registerServer near ⟨.v6 bits 0 0, 7001⟩) := allowedNear
  have registered :=
    completed.request asksRegistration (admitsRegistration.admits rfl) .start (.loopback 9000)
  rw [waiting_registerServer] at registered
  exact ⟨_, _, Std.ExtTreeMap.getElem?_insert_self, registered⟩

end Coordinator

theorem Snapshot.empty_bounded (limits : Limits) : Snapshot.empty.Bounded limits where
  servers id stored found := by simp [Snapshot.empty] at found
  players id entry found := by simp [Snapshot.empty] at found

theorem Limits.Suffice.order_fits {limits : Limits} (suffice : limits.Suffice)
    {near far : ServerId} {record : PlayerRecord} (elsewhere : far ≠ near)
    (coming : near.name.utf8ByteSize ≤ limits.brought.server)
    (owning : far.name.utf8ByteSize ≤ limits.brought.server)
    (playing : record.name.utf8ByteSize ≤ limits.brought.player) :
    near.name.utf8ByteSize + far.name.utf8ByteSize + record.name.utf8ByteSize + 100 ≤
      Packet.sizeLimit := by
  obtain ⟨s, players, known, run⟩ := Coordinator.attended_served coming owning playing 1
  have asks : (Packet.request 4 (.initiateTransfer record.playerId Coordinator.corner)).Fits := by
    simp [Packet.Fits, Packet.sizeLimit]
  have allowed : limits.Allows (.initiateTransfer record.playerId Coordinator.corner) := trivial
  have fits := suffice .standard (.memory .empty) .start (Snapshot.empty_bounded limits) _ run 4 _
    asks (allowed.admits rfl) .start (.loopback 9000)
  rw [Coordinator.attended_initiateTransfer known elsewhere, Packet.Fits] at fits
  simp only [Codec.packet_size_response, Codec.response_size_directive, Codec.option_size_some,
    Codec.directive_size, Codec.serverInfo_size, Codec.host_size_v6, Codec.serverId_size,
    Codec.playerRecord_size] at fits
  omega

def longName (length : Nat) (c : Char) : String := .ofList (List.replicate length c)

theorem longName_size (length : Nat) {c : Char} (narrow : c.utf8Size = 1) :
    (longName length c).utf8ByteSize = length := by
  rw [longName, utf8ByteSize_ofList, List.length_replicate]
  intro other member
  rw [List.eq_of_mem_replicate member, narrow]

theorem longName_ne {length : Nat} (positive : 0 < length) {c d : Char} (different : c ≠ d) :
    longName length c ≠ longName length d := by
  intro same
  rcases (List.replicate_inj.mp (String.ofList_injective same)).2 with empty | equal
  · omega
  · exact different equal

theorem Limits.longestAnswer_of_suffice {limits : Limits} (named : 0 < limits.server)
    (roomy : 27 ≤ limits.player) (suffice : limits.Suffice) :
    limits.longestAnswer ≤ Packet.sizeLimit := by
  have near := longName_size limits.brought.server (c := 'n') (by decide)
  have far := longName_size limits.brought.server (c := 'f') (by decide)
  let record : PlayerRecord := .appearing 7 (longName limits.brought.player 'p') .zero
  have player : record.name.utf8ByteSize = limits.brought.player := longName_size _ (by decide)
  have elsewhere : (⟨longName limits.brought.server 'f'⟩ : ServerId) ≠
      ⟨longName limits.brought.server 'n'⟩ := by
    intro same
    have positive : 0 < limits.brought.server := Nat.lt_min.mpr ⟨named, by decide⟩
    exact longName_ne positive (by decide) (congrArg ServerId.name same)
  have fits := suffice.order_fits elsewhere (Nat.le_of_eq near) (Nat.le_of_eq far)
    (Nat.le_of_eq player)
  rw [near, far, player] at fits
  simp only [Limits.longestAnswer, Limits.brought, Packet.sizeLimit] at *
  omega

/-- A coordinator can send all its answers if and only if the limits of its names leave room for an
order with three names in one packet. In any state only inquiries are not answered for the size of
the answer; they are carried out, and who made them waits in vain. -/
theorem answers_fit_iff {limits : Limits} (named : 0 < limits.server) (roomy : 27 ≤ limits.player) :
    (limits.Suffice ↔ limits.longestAnswer ≤ Packet.sizeLimit) ∧
      ∀ (c : Coordinator SnapshotStore) (now : Instant) (sender : Address) (requestId : UInt64)
        {α : Type} (call : Call α), (Packet.request requestId call.request).Fits →
        let answered := c.handle now sender call.request.withoutLabels
        ¬(Packet.response requestId answered.1).Fits →
          call.request.Inquires ∧ ∀ deadlines,
            Coordinator.service.exchange c now sender requestId deadlines call =
              (.error (.timeout requestId (call.deadline deadlines)), answered.2) := by
  refine ⟨⟨Limits.longestAnswer_of_suffice named roomy, Limits.suffice_of_longestAnswer roomy⟩, ?_⟩
  intro c now sender requestId α call asked answered unsent
  refine ⟨Classical.byContradiction fun brief => unsent ?_, ?_⟩
  · -- Without names in it, an answer fits whatever the registry holds.
    have unnamed : call.request.withoutLabels.Inquires → c.mailbox.registry.Bounded ⟨0, 0⟩ := by
      intro inquires
      cases request : call.request
      all_goals simp [request, Request.withoutLabels, Request.Inquires] at inquires brief
    exact Coordinator.handle_fits unnamed (by decide) now sender requestId
  · exact fun deadlines => Coordinator.service.exchange_unanswered asked rfl unsent deadlines

theorem thousand_bytes_suffice :
    0 < (1000 : Nat) ∧ 27 ≤ (1000 : Nat) ∧ (⟨1000, 1000⟩ : Limits).Suffice :=
  have named : 0 < (⟨1000, 1000⟩ : Limits).server := by decide
  have roomy : 27 ≤ (⟨1000, 1000⟩ : Limits).player := by decide
  ⟨named, roomy, (answers_fit_iff named roomy).1.mpr (by decide)⟩

/-- A server may come under a name that nobody can be told then: whoever asks for it waits in
vain. -/
theorem longest_named_server_not_told :
    let sender := Address.loopback 9000
    let id : ServerId := ⟨longName 65473 'a'⟩
    let c := (Coordinator.handle (σ := SnapshotStore) (.start .standard (.memory .empty) .start)
      .start sender (.registerServer id (.loopback 7001))).2
    (Packet.request 6 (.registerServer id (.loopback 7001))).Fits ∧
      (Packet.request 7 (.serverForPosition Coordinator.corner)).Fits ∧
      ¬(Packet.response 7
        (c.handle .start sender (.serverForPosition Coordinator.corner)).1).Fits ∧
      (Coordinator.service.exchange c .start sender 7 .standard
        (.serverForPosition Coordinator.corner)).1 = .error (.timeout 7 (.ofSeconds 3)) := by
  intro sender id c
  have named : id.name.utf8ByteSize = 65473 := longName_size 65473 (by decide)
  have attended : c = Coordinator.attended .empty ∅ id (.loopback 7001) .start :=
    Coordinator.waiting_registerServer id (.loopback 7001) .start sender
  clear_value c
  have asked : (Packet.request 7 (Call.serverForPosition Coordinator.corner).request).Fits := by
    decide +kernel
  have unsent : ¬(Packet.response 7
      (c.handle .start sender (.serverForPosition Coordinator.corner)).1).Fits := by
    rw [attended, Coordinator.attended_serverForPosition]
    simp [Packet.Fits, named, Address.loopback, Address.ofOctets, Packet.sizeLimit]
  refine ⟨?_, asked, unsent, ?_⟩
  · simp [Packet.Fits, named, Address.loopback, Address.ofOctets, Packet.sizeLimit]
  · have handled : Coordinator.service.handle c .start sender
        (Call.serverForPosition Coordinator.corner).request.withoutLabels =
          c.handle .start sender (.serverForPosition Coordinator.corner) := rfl
    rw [Coordinator.service.exchange_unanswered asked handled unsent]
    rfl

end ShardedWorld
