import ShardedWorld.Coordinator.Config
import ShardedWorld.Network.Service
import ShardedWorld.Registry.Command

/-!
The coordinator: a registry that is asked over the network, and the subscribers that its statistics
are pushed to.

Each request is answered, in the order in which the mailbox takes them. A refusal of the registry
is an answer as well.
-/

set_option autoImplicit false

namespace ShardedWorld

structure Subscription where
  every : Duration
  due : Instant
  deriving DecidableEq

namespace Subscription

/-- The shortest interval; a shorter one is lengthened to it. -/
def shortest : Duration := .ofMillis 50

/-- The first push is due at once. -/
def starting (interval : Duration) (now : Instant) : Subscription where
  every := if interval < shortest then shortest else interval
  due := now

/-- The first due time after `now`, in the beat of the subscription; missed pushes are skipped. -/
def next (s : Subscription) (now : Instant) : Subscription :=
  { s with due := ⟨s.due.nanos + ((now.since s.due).nanos / s.every.nanos + 1) * s.every.nanos⟩ }

end Subscription

structure Coordinator (σ : Type) where
  mailbox : Mailbox σ
  subscribers : Table Address Subscription

namespace Coordinator

variable {σ : Type} [Store σ]

def start (grid : Grid) (store : σ) (now : Instant) : Coordinator σ :=
  ⟨.start (.restore grid store now), ∅⟩

def respond : Except RegistryError Registry.Answer → Response
  | .ok (.zone zone) => .zone zone
  | .ok (.directive directive) => .directive directive
  | .ok (.server server) => .server server
  | .ok .done | .ok (.evicted _) | .ok (.stats _) => .ack
  | .error e => .error e.toRemote

def command (c : Coordinator σ) (now : Instant) (command : Registry.Command) :
    Response × Coordinator σ :=
  let (outcome, mailbox) := c.mailbox.request now command
  (respond outcome, { c with mailbox })

/-- A new subscription replaces the one from the same address. -/
def subscribe (c : Coordinator σ) (now : Instant) (sender : Address) (interval : Duration) :
    Coordinator σ :=
  { c with subscribers := c.subscribers.insert sender (.starting interval now) }

def unsubscribe (c : Coordinator σ) (sender : Address) : Coordinator σ :=
  { c with subscribers := c.subscribers.erase sender }

def misdirected : RemoteError := .misuse "zone server request sent to coordinator"

def handle (c : Coordinator σ) (now : Instant) (sender : Address) :
    Request → Response × Coordinator σ
  | .ping timestamp => (.pong timestamp, c)
  | .registerServer id endpoint => c.command now (.registerServer id endpoint)
  | .unregisterServer id => c.command now (.unregisterServer id)
  | .heartbeat id => c.command now (.heartbeat id)
  | .initiateTransfer player position => c.command now (.initiateTransfer player position)
  | .completeTransfer player server => c.command now (.completeTransfer player server)
  | .updatePlayer record => c.command now (.updatePlayer record)
  | .resetPlayers => c.command now .resetPlayers
  | .serverForPosition position => c.command now (.locate position)
  | .reportZoneStats zone stats => c.command now (.reportZoneStats zone stats)
  | .subscribeZoneStats intervalMillis =>
    (.ack, c.subscribe now sender (.ofMillis intervalMillis.toNat))
  | .unsubscribeZoneStats => (.ack, c.unsubscribe sender)
  | .transferEntity .. | .join .. | .leave _ => (.error misdirected, c)

/-- Datagrams are none of the coordinator's business. -/
def service : Service (Coordinator σ) := ⟨handle, fun c _ _ _ => c⟩

def sweep (c : Coordinator σ) (now : Instant) (timeout : Duration) : Coordinator σ :=
  (c.command now (.evictStale timeout)).2

/-- The statistics for the subscribers that are due. A registry that has stopped pushes none. -/
def push (c : Coordinator σ) (now : Instant) (generatedAt : UInt64) :
    List (Address × Datagram) × Coordinator σ :=
  let due := c.subscribers.filter fun _ s => decide (s.due ≤ now)
  -- The statistics are not gathered for nobody.
  if due.isEmpty then ([], c)
  else
    match c.mailbox.request now (.aggregate generatedAt) with
    | (.ok (.stats stats), mailbox) =>
      (due.keys.map fun subscriber => (subscriber, .zoneStatistics stats),
        { mailbox
          subscribers :=
            c.subscribers.map fun _ s => if s.due ≤ now then s.next now else s })
    | (_, mailbox) => ([], { c with mailbox })

end Coordinator

end ShardedWorld
