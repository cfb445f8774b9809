import ShardedWorld.Registry.Basic

/-!
Operations on a registry as values, executed one at a time, and the mailbox that callers send them
to. A mailbox whose registry has stopped answers every command with the same error.
-/

set_option autoImplicit false

namespace ShardedWorld

namespace Registry

inductive Command where
  | registerServer (id : ServerId) (endpoint : Address)
  | unregisterServer (id : ServerId)
  | heartbeat (id : ServerId)
  | evictStale (timeout : Duration)
  | initiateTransfer (id : PlayerId) (position : Vec2)
  | completeTransfer (id : PlayerId) (server : ServerId)
  | updatePlayer (record : PlayerRecord)
  | resetPlayers
  | locate (position : Vec2)
  | reportZoneStats (zone : Zone) (stats : ZoneStats)
  | aggregate (generatedAt : UInt64)
  deriving DecidableEq

inductive Answer where
  | done
  | zone (zone : Zone)
  | evicted (servers : List ServerId)
  | directive (directive : Option TransferDirective)
  | server (server : Option ServerInfo)
  | stats (stats : AggregatedStats)
  deriving DecidableEq

variable {σ : Type} [Store σ]

/-- The answer and the new registry, or the failure and the registry as it was. -/
def settle {α : Type} (r : Registry σ) (answer : α → Answer) :
    Except RegistryError (α × Registry σ) → Except RegistryError Answer × Registry σ
  | .ok (a, r) => (.ok (answer a), r)
  | .error e => (.error e, r)

def settleDone (r : Registry σ) :
    Except RegistryError (Registry σ) → Except RegistryError Answer × Registry σ
  | .ok r => (.ok .done, r)
  | .error e => (.error e, r)

def execute (r : Registry σ) (now : Instant) :
    Command → Except RegistryError Answer × Registry σ
  | .registerServer id endpoint => r.settle .zone (r.registerServer id endpoint now)
  | .unregisterServer id => r.settleDone (r.unregisterServer id)
  | .heartbeat id => r.settleDone (r.heartbeat id now)
  | .evictStale timeout =>
    let (outcome, r) := r.evictStale now timeout
    (outcome.map .evicted, r)
  | .initiateTransfer id position => r.settle .directive (r.initiateTransfer id position)
  | .completeTransfer id server => r.settleDone (r.completeTransfer id server)
  | .updatePlayer record => r.settleDone (r.updatePlayer record)
  | .resetPlayers => r.settleDone r.resetPlayers
  | .locate position => (.ok (.server (r.locate position)), r)
  | .reportZoneStats zone stats => (.ok .done, r.reportZoneStats zone stats)
  | .aggregate generatedAt => ((r.aggregate generatedAt).map .stats, r)

/-- Whether the registry goes on after an operation with this outcome. -/
def survives {α : Type} : Except RegistryError α → Bool
  | .ok _ => true
  | .error e => !e.ends

end Registry

/-- A registry behind a mailbox, which answers while it is `running`. -/
structure Mailbox (σ : Type) where
  registry : Registry σ
  running : Bool

namespace Mailbox

variable {σ : Type} [Store σ]

def start (registry : Registry σ) : Mailbox σ := ⟨registry, true⟩

def request (m : Mailbox σ) (now : Instant) (c : Registry.Command) :
    Except RegistryError Registry.Answer × Mailbox σ :=
  if m.running then
    let (answer, registry) := m.registry.execute now c
    (answer, ⟨registry, Registry.survives answer⟩)
  else (.error .stopped, m)

def stop (m : Mailbox σ) : Mailbox σ := { m with running := false }

/-- The first statistics that a stream pushes, one per period; it ends with its registry. -/
def stream (m : Mailbox σ) (now : Instant) (every : Duration) :
    Nat → List AggregatedStats × Mailbox σ
  | 0 => ([], m)
  | left + 1 =>
    if every = .zero then ([], m)
    else
      match m.request now (.aggregate 0) with
      | (.ok (.stats stats), m) =>
        let (later, m) := m.stream (now.after every) every left
        (stats :: later, m)
      | (_, m) => ([], m)

/-- Evicts stale servers at the end of each of some periods. Tells whether the sweeper ended, which
it does only with its registry; other failures it outlives. Without a period it never begins. -/
def sweep (m : Mailbox σ) (now : Instant) (every timeout : Duration) :
    Nat → Bool × Mailbox σ
  | 0 => (false, m)
  | left + 1 =>
    if every = .zero then (false, m)
    else
      let now := now.after every
      match m.request now (.evictStale timeout) with
      | (.error .stopped, m) => (true, m)
      | (_, m) => m.sweep now every timeout left

end Mailbox

end ShardedWorld
