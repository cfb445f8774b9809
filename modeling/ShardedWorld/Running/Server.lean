import ShardedWorld.CommandLine.Failure
import ShardedWorld.Network.Pool
import ShardedWorld.Running.Chance
import ShardedWorld.Running.Remote
import ShardedWorld.Server.Enrolment

/-!
A zone server as a running program.

The main loop answers packets and ticks. What has to wait for others (heartbeats, announcements,
statistics, scans) is done beside it, each over a connection of its own, so a slow peer never holds
up a tick.
-/

set_option autoImplicit false

namespace ShardedWorld.Running

open CommandLine (Failure)

def converse {Question : Type} {Answer : Question → Type} {α : Type}
    (answer : (question : Question) → IO (Answer question)) :
    Dialogue Question Answer α → IO α
  | .finished a => return a
  | .ask question resume => do converse answer (resume (← answer question))

def ask {α : Type} (coordinator : Except TransportError Remote) (deadlines : Deadlines)
    (call : Call α) : IO (Except TransportError α) :=
  match coordinator with
  | .ok remote => remote.call deadlines call
  | .error e => return .error e

def enrol (coordinator : Except TransportError Remote) (deadlines : Deadlines) :
    (question : Enrolment.Question) → IO (Enrolment.Answer question)
  | .connect _ => return coordinator.map fun _ => ()
  | .register id endpoint => ask coordinator deadlines (.registerServer id endpoint)
  | .heartbeat id => ask coordinator deadlines (.heartbeat id)
  | .unregister id => ask coordinator deadlines (.unregisterServer id)

/-- The connections to peers: the pool knows them by number. -/
structure Peers where
  pool : IO.Ref Pool
  remotes : IO.Ref (List (LinkId × Remote))

namespace Peers

def none (config : PoolConfig) : IO Peers :=
  return ⟨← IO.mkRef (.empty config), ← IO.mkRef []⟩

/-- Tells the pool which connections have lost their peer, and forgets those it has closed. -/
def refresh (p : Peers) : IO Unit := do
  let closed := (← p.pool.get).closed
  let remotes := (← p.remotes.get).filter fun (link, _) => !closed.contains link
  p.remotes.set remotes
  let stale ← remotes.filterM fun (_, remote) => remote.isStale
  p.pool.modify fun pool => { pool with stale := stale.map (·.1), closed := [] }

def connect (p : Peers) (peer : Address) : IO (Except TransportError LinkId) := do
  p.refresh
  let t ← now
  match (← p.pool.get).request 0 peer t with
  | (.ready link, pool) =>
    p.pool.set (pool.release link)
    return .ok link
  | (.opening link, pool) =>
    match ← Remote.dial peer false with
    | .ok remote =>
      p.pool.set ((pool.succeed peer t).2.release link)
      p.remotes.modify ((link, remote) :: ·)
      return .ok link
    | .error e =>
      p.pool.set (pool.fail peer).2
      return .error e
  | (.waiting, _) => return .error .closed

def remote? (p : Peers) (link : LinkId) : IO (Option Remote) :=
  return (← p.remotes.get).lookup link

end Peers

def scanned (config : ServerConfig) (state : IO.Ref ZoneServer) (peers : Peers)
    (coordinator : Except TransportError Remote) :
    (question : Scan.Question) → IO (Scan.Answer question)
  | .initiateTransfer player position =>
    ask coordinator config.deadlines (.initiateTransfer player position)
  | .completeTransfer player server =>
    ask coordinator config.deadlines (.completeTransfer player server)
  | .locate position => ask coordinator config.deadlines (.serverForPosition position)
  | .connect peer => peers.connect peer
  | .push link _ entity leftOriginMillis => do
    let deadlines := { config.deadlines with reliable := config.transfer.pushDeadline }
    match ← peers.remote? link with
    | some remote => remote.call deadlines (.transferEntity entity leftOriginMillis)
    | none => return .error .closed
  | .isStale link => do
    match ← peers.remote? link with
    | some remote => remote.isStale
    | none => return true
  | .invalidate peer => peers.pool.modify (·.invalidate peer)
  | .discard id => state.modify (·.discard id)

def whileRunning (stopped : IO.Ref Bool) (pause : Duration) (action : IO Unit) : IO Duty :=
  inBackground do
    repeat
      if ← stopped.get then break
      let _ ← attempt action
      let wakeAt := (← now).after pause
      while (← now) < wakeAt && !(← stopped.get) do
        IO.sleep (.ofNat (min ((wakeAt.since (← now)).millis + 1) 50))

def startDuties (config : ServerConfig) (state : IO.Ref ZoneServer) (stopped : IO.Ref Bool) :
    IO (List Duty) := do
  let connection := Remote.dial config.coordinator false
  let scanMillis ← IO.mkRef (.zero : Single)
  let herald ← connection
  let announcing ← whileRunning stopped (.ofMillis 5) do
    let records ← state.modifyGet fun s => (s.unannounced, { s with unannounced := [] })
    for record in records do
      let _ ← ask herald config.deadlines (.updatePlayer record)
  let pulse ← connection
  let beating ← IO.mkRef false
  let enrolling ← whileRunning stopped config.heartbeatInterval do
    if ← beating.get then
      let assigned ← converse (enrol pulse config.deadlines) (← state.get).keepRegistered
      if let some zone := assigned then state.modify (·.reassign zone)
    beating.set true
  let reporter ← connection
  let reporting ← whileRunning stopped config.statsInterval do
    let s ← state.get
    let _ ← ask reporter config.deadlines (.reportZoneStats s.zone (s.stats (← scanMillis.get)))
  let guide ← connection
  let peers ← Peers.none config.pool
  let sweptAt ← IO.mkRef (← now)
  let scanning ← whileRunning stopped config.scanInterval do
    let started ← now
    let talk ← state.modifyGet fun s => (s.scan started).swap
    let _ ← converse (scanned config state peers guide) talk
    let ended ← now
    scanMillis.set ((ended.since started).toSeconds * .ofInt 1000)
    if config.pool.sweepInterval ≤ ended.since (← sweptAt.get) then
      sweptAt.set ended
      peers.pool.modify fun pool => (pool.evictIdle ended).2
  return [announcing, enrolling, reporting, scanning]

def populate (config : ServerConfig) (state : IO.Ref ZoneServer) (count : Nat) : IO Unit := do
  let bounds := config.grid.bounds (← state.get).zone
  for place in [0:count] do
    let position : Vec2 :=
      ⟨← between bounds.lower.x bounds.upper.x, ← between bounds.lower.y bounds.upper.y⟩
    let velocity : Vec2 :=
      ⟨← between (.ofInt (-40)) (.ofInt 40), ← between (.ofInt (-40)) (.ofInt 40)⟩
    let id : EntityId := .ofNat ((← IO.rand 0 4294967295) * 65536 + place)
    state.modify fun s => (s.spawn? { Entity.appearing id .enemy position with velocity }).getD s

def sendDatagrams (socket : Socket) (datagrams : List (Address × Datagram)) : IO Unit := do
  for (receiver, datagram) in datagrams do
    if let .ok bytes := (Packet.datagram datagram).encode then
      let _ ← attempt (send socket (some receiver) bytes)

/-- Answers packets and ticks until the user interrupts it. -/
def serve (config : ServerConfig) (socket : Socket) (state : IO.Ref ZoneServer) : IO Unit := do
  let interrupted ← watchInterruption
  let mut lastTick ← now
  let mut lastCheck := lastTick
  repeat
    if ← interrupted then break
    let t ← now
    if config.tickInterval ≤ t.since lastTick then
      let seconds := (t.since lastTick).toSeconds
      let stamp ← timestamp
      lastTick := t
      sendDatagrams socket (← state.modifyGet fun s => s.tick seconds stamp)
    if .ofSeconds 1 ≤ t.since lastCheck then
      lastCheck := t
      state.modify fun s => (s.dropSilent t).2
    let left := (lastTick.after config.tickInterval).since (← now)
    match ← attempt (receive socket (min left.millis 20 + 1)) with
    | .ok (some (bytes, some sender)) =>
      let t ← now
      let answer ← state.modifyGet fun s => ZoneServer.service.receive s t sender bytes
      if let some answer := answer then
        let _ ← attempt (send socket (some sender) answer)
    | .ok _ => pure ()
    | .error _ => IO.sleep 10

/-- Runs a zone server; gives what kept it from starting. -/
def runServer (config : ServerConfig) (entities : Nat) : IO (Except Failure Unit) := do
  match ← attempt (listenAt config.listen) with
  | .error cause => return .error (.system cause)
  | .ok socket =>
    let config := { config with listen := ← addressOf socket }
    let coordinator ← Remote.dial config.coordinator false
    match ← converse (enrol coordinator config.deadlines) (ZoneServer.start config) with
    | .error (.config cause) => return .error (.config cause)
    | .error (.transport cause) => return .error (.transport cause)
    | .ok started =>
      let state ← IO.mkRef started
      let stopped ← IO.mkRef false
      populate config state entities
      let duties ← startDuties config state stopped
      serve config socket state
      stopped.set true
      waitForAll duties
      converse (enrol coordinator config.deadlines) (← state.get).withdraw
      return .ok ()

end ShardedWorld.Running
