import ShardedWorld.Proofs.Handover.Presence
import ShardedWorld.Proofs.Network.Exchange
import ShardedWorld.Proofs.Registry.Direction

/-! A call over the network is the operation that it asks for.

Between a caller and the registry stand a wrapper that knows the request and the response of each
operation, the packets, and a dispatcher. For each of the three it is shown here, once for all
operations, that it passes on what the next one needs.
-/

set_option autoImplicit false

namespace ShardedWorld

variable {σ : Type}

theorem Registry.settleDone_eq_settle (r : Registry σ)
    (outcome : Except RegistryError (Registry σ)) :
    r.settleDone outcome = r.settle (fun _ => .done) (outcome.map ((), ·)) := by
  cases outcome <;> rfl

variable [Store σ]

/-- What can be asked of a coordinator, by the type of what it gives. -/
inductive Operation : Type → Type where
  | ping (timestamp : UInt64) : Operation Unit
  | registerServer (id : ServerId) (endpoint : Address) : Operation Zone
  | unregisterServer (id : ServerId) : Operation Unit
  | heartbeat (id : ServerId) : Operation Unit
  | initiateTransfer (player : PlayerId) (position : Vec2) : Operation (Option TransferDirective)
  | completeTransfer (player : PlayerId) (server : ServerId) : Operation Unit
  | updatePlayer (record : PlayerRecord) : Operation Unit
  | resetPlayers : Operation Unit
  | serverForPosition (position : Vec2) : Operation (Option ServerInfo)
  | reportZoneStats (zone : Zone) (stats : ZoneStats) : Operation Unit

namespace Operation

variable {α : Type}

def call : {α : Type} → Operation α → Call α
  | _, .ping timestamp => .ping timestamp
  | _, .registerServer id endpoint => .registerServer id endpoint
  | _, .unregisterServer id => .unregisterServer id
  | _, .heartbeat id => .heartbeat id
  | _, .initiateTransfer player position => .initiateTransfer player position
  | _, .completeTransfer player server => .completeTransfer player server
  | _, .updatePlayer record => .updatePlayer record
  | _, .resetPlayers => .resetPlayers
  | _, .serverForPosition position => .serverForPosition position
  | _, .reportZoneStats zone stats => .reportZoneStats zone stats

def perform (r : Registry σ) (now : Instant) :
    {α : Type} → Operation α → Except RegistryError (α × Registry σ)
  | _, .ping _ => .ok ((), r)
  | _, .registerServer id endpoint => r.registerServer id endpoint now
  | _, .unregisterServer id => (r.unregisterServer id).map ((), ·)
  | _, .heartbeat id => (r.heartbeat id now).map ((), ·)
  | _, .initiateTransfer player position => r.initiateTransfer player position
  | _, .completeTransfer player server => (r.completeTransfer player server).map ((), ·)
  | _, .updatePlayer record => (r.updatePlayer record).map ((), ·)
  | _, .resetPlayers => r.resetPlayers.map ((), ·)
  | _, .serverForPosition position => .ok (r.locate position, r)
  | _, .reportZoneStats zone stats => .ok ((), r.reportZoneStats zone stats)

def needsRegistry : {α : Type} → Operation α → Bool
  | _, .ping _ => false
  | _, _ => true

/-- The operation without a network. One that fails changes nothing, unless the registry breaks
down by it. -/
def direct (c : Coordinator σ) (now : Instant) (op : Operation α) :
    Except RegistryError α × Coordinator σ :=
  if op.needsRegistry && !c.mailbox.running then (.error .stopped, c)
  else
    match op.perform c.mailbox.registry now with
    | .ok (a, registry) => (.ok a, { c with mailbox := { c.mailbox with registry } })
    | .error e => (.error e, { c with mailbox := { c.mailbox with running := !e.ends } })

def answer : {α : Type} → Operation α → α → Response
  | _, .ping timestamp, _ => .pong timestamp
  | _, .registerServer .., zone => .zone zone
  | _, .initiateTransfer .., directive => .directive directive
  | _, .serverForPosition _, server => .server server
  | _, .unregisterServer _, _ | _, .heartbeat _, _ | _, .completeTransfer .., _
  | _, .updatePlayer _, _ | _, .resetPlayers, _ | _, .reportZoneStats .., _ => .ack

def response (op : Operation α) : Except RegistryError α → Response
  | .ok a => op.answer a
  | .error e => .error e.toRemote

/-- The operation, and what it gives, as the other side of a network sees them. -/
def withoutLabels : {α : Type} → Operation α → Operation α
  | _, .registerServer id endpoint => .registerServer id endpoint.withoutLabels
  | _, op => op

def seen : {α : Type} → Operation α → α → α
  | _, .initiateTransfer .., directive => directive.map (·.withoutLabels)
  | _, .serverForPosition _, server => server.map (·.withoutLabels)
  | _, _, a => a

def remote (op : Operation α) (result : Except RegistryError α) : Except TransportError α :=
  match result with
  | .ok a => .ok (op.seen a)
  | .error e => .error (.remote e.toRemote)

theorem call_withoutLabels (op : Operation α) :
    op.withoutLabels.call.request = op.call.request.withoutLabels := by
  cases op <;> rfl

/-! The dispatcher. -/

theorem command_eq (c : Coordinator σ) (now : Instant) (op : Operation α)
    (command : Registry.Command) (wrap : α → Registry.Answer) (needs : op.needsRegistry = true)
    (executes : c.mailbox.registry.execute now command =
      c.mailbox.registry.settle wrap (op.perform c.mailbox.registry now))
    (answers : ∀ a, Coordinator.respond (.ok (wrap a)) = op.answer a) :
    c.command now command = (op.response (op.direct c now).1, (op.direct c now).2) := by
  obtain ⟨⟨registry, running⟩, subscribers⟩ := c
  cases running with
  | false =>
    simp [Coordinator.command, Mailbox.request, direct, needs, response, Coordinator.respond]
  | true =>
    dsimp only at executes
    simp only [Coordinator.command, Mailbox.request, direct, executes, if_true, Bool.not_true,
      Bool.and_false, Bool.false_eq_true, if_false]
    cases op.perform registry now with
    | ok done => simp only [Registry.settle, Registry.survives, response, answers]
    | error e => simp only [Registry.settle, Registry.survives, response, Coordinator.respond]

/-- The dispatcher answers with what the operation gives, and changes what the operation changes. -/
theorem handle_call (c : Coordinator σ) (now : Instant) (sender : Address) (op : Operation α) :
    c.handle now sender op.call.request =
      (op.response (op.direct c now).1, (op.direct c now).2) := by
  cases op with
  | ping timestamp => rfl
  | registerServer id endpoint =>
    exact command_eq c now (.registerServer id endpoint) (.registerServer id endpoint) .zone
      rfl rfl fun _ => rfl
  | unregisterServer id =>
    exact command_eq c now (.unregisterServer id) (.unregisterServer id) (fun _ => .done)
      rfl (Registry.settleDone_eq_settle _ _) fun _ => rfl
  | heartbeat id =>
    exact command_eq c now (.heartbeat id) (.heartbeat id) (fun _ => .done)
      rfl (Registry.settleDone_eq_settle _ _) fun _ => rfl
  | initiateTransfer id position =>
    exact command_eq c now (.initiateTransfer id position) (.initiateTransfer id position)
      .directive rfl rfl fun _ => rfl
  | completeTransfer id server =>
    exact command_eq c now (.completeTransfer id server) (.completeTransfer id server)
      (fun _ => .done) rfl (Registry.settleDone_eq_settle _ _) fun _ => rfl
  | updatePlayer record =>
    exact command_eq c now (.updatePlayer record) (.updatePlayer record) (fun _ => .done)
      rfl (Registry.settleDone_eq_settle _ _) fun _ => rfl
  | resetPlayers =>
    exact command_eq c now .resetPlayers .resetPlayers (fun _ => .done)
      rfl (Registry.settleDone_eq_settle _ _) fun _ => rfl
  | serverForPosition position =>
    exact command_eq c now (.serverForPosition position) (.locate position) .server
      rfl rfl fun _ => rfl
  | reportZoneStats zone stats =>
    exact command_eq c now (.reportZoneStats zone stats) (.reportZoneStats zone stats)
      (fun _ => .done) rfl rfl fun _ => rfl

/-! The wrapper. -/

theorem understands_response (op : Operation α) (result : Except RegistryError α) :
    op.call.Understands (op.withoutLabels.response result).withoutLabels := by
  cases result with
  | error e => trivial
  | ok a => cases op <;> rfl

/-- The wrapper finds in a response what the operation gave. -/
theorem conclude_response (op : Operation α) (result : Except RegistryError α) :
    op.call.conclude (Connection.outcome (op.withoutLabels.response result).withoutLabels) =
      op.remote result := by
  cases result with
  | error e => rfl
  | ok a => cases op <;> rfl

theorem exchange_eq_direct {c : Coordinator σ} {now : Instant} {sender : Address}
    {requestId : UInt64} {op : Operation α}
    (asked : (Packet.request requestId op.call.request).Fits)
    (answered : (Packet.response requestId
      (c.handle now sender op.withoutLabels.call.request).1).Fits) (deadlines : Deadlines) :
    Coordinator.service.exchange c now sender requestId deadlines op.call =
      (op.remote (op.withoutLabels.direct c now).1, (op.withoutLabels.direct c now).2) := by
  rw [handle_call] at answered
  have handled := handle_call c now sender op.withoutLabels
  rw [call_withoutLabels] at handled
  rw [Coordinator.service.exchange_answered asked handled answered, conclude_response]

theorem suits (op : Operation α) : (Coordinator.service (σ := σ)).Suits op.call := by
  refine Service.suits_of_understands _ fun c now sender => ?_
  have handled := handle_call c now sender op.withoutLabels
  rw [call_withoutLabels] at handled
  simp only [Coordinator.service, handled]
  exact understands_response op _

/-! Operations on addresses without labels. -/

def Unlabelled : {α : Type} → Operation α → Prop
  | _, .registerServer _ endpoint => endpoint.Unlabelled
  | _, _ => True

theorem withoutLabels_eq_self {op : Operation α} (unlabelled : op.Unlabelled) :
    op.withoutLabels = op := by
  cases op with
  | registerServer id endpoint =>
    exact congrArg (registerServer id) (Address.withoutLabels_eq_self.mpr unlabelled)
  | _ => rfl

theorem seen_eq_self {r registry : Registry σ}
    (unlabelled : ∀ info, r.Lists info → info.endpoint.Unlabelled) {now : Instant}
    {op : Operation α}
    {a : α} (done : op.perform r now = .ok (a, registry)) : op.seen a = a := by
  have info_eq {info : ServerInfo} (listed : r.Lists info) : info.withoutLabels = info := by
    rw [ServerInfo.withoutLabels, Address.withoutLabels_eq_self.mpr (unlabelled info listed)]
  cases op with
  | initiateTransfer player position =>
    cases a with
    | none => rfl
    | some directive =>
      have listed := (Registry.initiateTransfer_listed done).2 directive rfl
      simp only [seen, Option.map_some, TransferDirective.withoutLabels, info_eq listed]
  | serverForPosition position =>
    cases a with
    | none => rfl
    | some info =>
      have found : r.locate position = some info := congrArg Prod.fst (Except.ok.inj done)
      simp only [seen, Option.map_some, info_eq (Registry.locate_listed found)]
  | _ => rfl

theorem remote_direct {c : Coordinator σ}
    (unlabelled : ∀ info, c.mailbox.registry.Lists info → info.endpoint.Unlabelled) (now : Instant)
    (op : Operation α) :
    op.remote (op.direct c now).1 = (op.direct c now).1.mapError fun e => .remote e.toRemote := by
  unfold direct
  split
  · rfl
  · split
    next a registry done => exact congrArg Except.ok (seen_eq_self unlabelled done)
    next => rfl

end Operation

/-! Requests that are sent to the wrong kind of server. -/

inductive Addressee where
  | coordinator
  | zoneServer

/-- Whom a request is meant for; a ping is answered by both. -/
def Request.addressee? : Request → Option Addressee
  | .ping _ => none
  | .registerServer .. | .unregisterServer _ | .heartbeat _ | .initiateTransfer ..
  | .completeTransfer .. | .updatePlayer _ | .resetPlayers | .serverForPosition _
  | .reportZoneStats .. | .subscribeZoneStats _ | .unsubscribeZoneStats => some .coordinator
  | .transferEntity .. | .join .. | .leave _ => some .zoneServer

theorem Coordinator.exchange_misdirected {β : Type} {call : Call β} {requestId : UInt64}
    (misdirected : call.request.addressee? = some .zoneServer)
    (asked : (Packet.request requestId call.request).Fits) (c : Coordinator σ) (now : Instant)
    (sender : Address) (deadlines : Deadlines) :
    Coordinator.service.exchange c now sender requestId deadlines call =
      (.error (.remote Coordinator.misdirected), c) := by
  refine Coordinator.service.exchange_refused asked ?_ (by decide +kernel) deadlines
  generalize call.request = request at misdirected
  cases request with
  | transferEntity | join | leave => rfl
  | _ => cases misdirected

theorem ZoneServer.exchange_misdirected {β : Type} {call : Call β} {requestId : UInt64}
    (misdirected : call.request.addressee? = some .coordinator)
    (asked : (Packet.request requestId call.request).Fits) (s : ZoneServer) (now : Instant)
    (sender : Address) (deadlines : Deadlines) :
    ZoneServer.service.exchange s now sender requestId deadlines call =
      (.error (.remote ZoneServer.misdirected),
        { s with attendance := s.attendance.touch sender now }) := by
  refine ZoneServer.service.exchange_refused asked ?_ (by decide +kernel) deadlines
  generalize call.request = request at misdirected
  cases request with
  | ping | transferEntity | join | leave => cases misdirected
  | _ => rfl

/-! Calls to a zone server. -/

namespace ZoneServer

theorem suits_ping (timestamp : UInt64) : service.Suits (.ping timestamp) :=
  Service.suits_of_understands _ fun _ _ _ => rfl

theorem suits_leave (player : PlayerId) : service.Suits (.leave player) :=
  Service.suits_of_understands _ fun _ _ _ => rfl

theorem suits_transferEntity (entity : EntitySnapshot) (leftOriginMillis : Option UInt64) :
    service.Suits (.transferEntity entity leftOriginMillis) := by
  refine Service.suits_of_understands _ fun s now sender => ?_
  have outcome := s.handle_considered now sender entity leftOriginMillis
  change (Call.transferEntity entity leftOriginMillis).Understands
    (s.handle now sender (.transferEntity entity leftOriginMillis)).1.withoutLabels
  generalize s.handle now sender _ = answered at outcome
  cases outcome with
  | accepted taken => rfl
  | refused refusal =>
    cases refusal with
    | declined => rfl
    | failed e => trivial

theorem suits_join (player : PlayerId) (name sessionKey : String) (spawnAt : Option Vec2) :
    service.Suits (.join player name sessionKey spawnAt) := by
  refine Service.suits_of_understands _ fun s now sender => ?_
  simp only [service, Call.join, Request.withoutLabels, handle, join]
  split
  · trivial
  · split
    · trivial
    · split
      · trivial
      · rfl

end ZoneServer

/-- A call to a coordinator whose request and response fit a packet each gives what the operation
itself gives on what arrives of it, and changes what that changes. This is the operation as it was
called, and all that it gives, unless an address in it or among the registered ones has labels. No
call to either kind of server gets a response that it does not expect, and one that is sent to the
wrong kind is refused and changes nothing but when its sender was last heard of. -/
theorem remote_operation_transparent {α : Type} (c : Coordinator σ) (now : Instant)
    (sender : Address) (requestId : UInt64) (deadlines : Deadlines) (op : Operation α)
    (asked : (Packet.request requestId op.call.request).Fits)
    (answered : (Packet.response requestId
      (c.handle now sender op.withoutLabels.call.request).1).Fits) :
    let remote := Coordinator.service.exchange c now sender requestId deadlines op.call
    remote = (op.remote (op.withoutLabels.direct c now).1, (op.withoutLabels.direct c now).2) ∧
    (op.Unlabelled → (∀ info, c.mailbox.registry.Lists info → info.endpoint.Unlabelled) →
      remote = ((op.direct c now).1.mapError fun e => .remote e.toRemote, (op.direct c now).2)) ∧
    (∀ {β : Type} (other : Operation β), (Coordinator.service (σ := σ)).Suits other.call) ∧
    ((∀ timestamp, ZoneServer.service.Suits (.ping timestamp)) ∧
      (∀ entity left, ZoneServer.service.Suits (.transferEntity entity left)) ∧
      (∀ player name key spawnAt, ZoneServer.service.Suits (.join player name key spawnAt)) ∧
      ∀ player, ZoneServer.service.Suits (.leave player)) ∧
    ∀ {β : Type} (call : Call β), (Packet.request requestId call.request).Fits →
      (call.request.addressee? = some .zoneServer →
        Coordinator.service.exchange c now sender requestId deadlines call =
          (.error (.remote Coordinator.misdirected), c)) ∧
      (call.request.addressee? = some .coordinator → ∀ s,
        ZoneServer.service.exchange s now sender requestId deadlines call =
          (.error (.remote ZoneServer.misdirected),
            { s with attendance := s.attendance.touch sender now })) := by
  -- The second part is the first one where what arrives is what was sent.
  have arrives := Operation.exchange_eq_direct asked answered deadlines
  refine ⟨arrives, ?_, fun other => other.suits, ?_, fun call fits => ⟨?_, ?_⟩⟩
  · intro named listed
    rw [Operation.withoutLabels_eq_self named] at arrives
    rw [arrives, Operation.remote_direct listed]
  · exact ⟨ZoneServer.suits_ping, ZoneServer.suits_transferEntity, ZoneServer.suits_join,
      ZoneServer.suits_leave⟩
  · exact fun meant => Coordinator.exchange_misdirected meant fits c now sender deadlines
  · exact fun meant s => ZoneServer.exchange_misdirected meant fits s now sender deadlines

/-- The registration of a server under an address that the machine it runs on has labelled. -/
def labelledRegistration (flow scope : UInt32) : Operation Zone :=
  .registerServer ⟨"a"⟩ ⟨.v6 (0xfe80 <<< 112 ||| 1) flow scope, 7001⟩

def unserved : Coordinator MemoryStore := .start .standard .empty .start

theorem link_local_lookup_transparent :
    let op := Operation.serverForPosition ⟨.ofInt 10, .ofInt 10⟩
    let c := ((labelledRegistration 9 3).direct unserved .start).2
    (Packet.request 7 op.call.request).Fits ∧
      (Packet.response 7 (c.handle .start (.loopback 9000) op.withoutLabels.call.request).1).Fits ∧
      (Coordinator.service.exchange c .start (.loopback 9000) 7 .standard op.call).1 =
        .ok (some ⟨⟨"a"⟩, ⟨.v6 (0xfe80 <<< 112 ||| 1) 0 0, 7001⟩, ⟨0, 0⟩⟩) := by
  intro op c
  have asked : (Packet.request 7 op.call.request).Fits := by decide +kernel
  have answered : (Packet.response 7
      (c.handle .start (.loopback 9000) op.withoutLabels.call.request).1).Fits := by decide +kernel
  refine ⟨asked, answered, ?_⟩
  have transparent := (remote_operation_transparent c .start (.loopback 9000) 7 .standard op asked
    answered).1
  rw [transparent]
  have found : (c.mailbox.registry.locate ⟨.ofInt 10, .ofInt 10⟩).map (·.withoutLabels) =
      some ⟨⟨"a"⟩, ⟨.v6 (0xfe80 <<< 112 ||| 1) 0 0, 7001⟩, ⟨0, 0⟩⟩ := by decide +kernel
  exact congrArg Except.ok found

/-- The operation can be sent and answered, and the coordinator is not what it would be without a
network. -/
structure Operation.Diverges {α : Type} (op : Operation α) (c : Coordinator MemoryStore) :
    Prop where
  asked : (Packet.request 7 op.call.request).Fits
  answered : (Packet.response 7
    (c.handle .start (.loopback 9000) op.withoutLabels.call.request).1).Fits
  differs : (Coordinator.service.exchange c .start (.loopback 9000) 7 .standard op.call).2 ≠
    (op.direct c .start).2

/-- A server that registers over the network is known without the labels of its address, whether
this is a flow or a scope. -/
theorem labels_not_registered :
    (labelledRegistration 9 0).Diverges unserved ∧
      (labelledRegistration 0 3).Diverges unserved := by
  have fits : ∀ op ∈ [labelledRegistration 9 0, labelledRegistration 0 3],
      (Packet.request 7 op.call.request).Fits ∧ (Packet.response 7
        (unserved.handle .start (.loopback 9000) op.withoutLabels.call.request).1).Fits := by
    decide +kernel
  let endpoint? (c : Coordinator MemoryStore) : Option Address :=
    (c.mailbox.registry.servers[(⟨"a"⟩ : ServerId)]?).map (·.endpoint)
  have differ : ∀ op ∈ [labelledRegistration 9 0, labelledRegistration 0 3],
      endpoint? (op.withoutLabels.direct unserved .start).2 ≠
        endpoint? (op.direct unserved .start).2 := by decide +kernel
  have diverges : ∀ op ∈ [labelledRegistration 9 0, labelledRegistration 0 3],
      op.Diverges unserved := by
    intro op listed
    obtain ⟨asked, answered⟩ := fits op listed
    refine ⟨asked, answered, fun same => differ op listed (congrArg endpoint? ?_)⟩
    rwa [Operation.exchange_eq_direct asked answered] at same
  exact ⟨diverges _ (by simp), diverges _ (by simp)⟩

end ShardedWorld
