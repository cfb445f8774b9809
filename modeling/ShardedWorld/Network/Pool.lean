import ShardedWorld.ConfigError
import ShardedWorld.Identity
import ShardedWorld.Network.Address
import ShardedWorld.Table

/-!
A pool of connections to peers, at most one per peer.

A caller that finds no usable connection takes its turn at the peer's creation lock, looks again
and opens one. The caller waits at two places, for its turn and for the connection to open; each
operation below takes a caller from one such place to the next, so the operations may be
interleaved in any order. Connections are numbered in the order in which opening them began.
-/

set_option autoImplicit false

namespace ShardedWorld

structure PoolConfig where
  idleTimeout : Duration
  sweepInterval : Duration
  deriving DecidableEq

namespace PoolConfig

def standard : PoolConfig := ⟨.ofSeconds 300, .ofSeconds 60⟩

def validate (c : PoolConfig) : Except ConfigError Unit := do
  ConfigError.requirePositive "pool_idle_timeout" c.idleTimeout
  ConfigError.requirePositive "pool_sweep_interval" c.sweepInterval

end PoolConfig

namespace Pool

structure Entry where
  link : LinkId
  lastUsed : Instant
  deriving DecidableEq

/-- Who opens a connection to a peer, and who waits for a turn, the next one first. -/
structure CreationLock where
  opening : Option (CallerId × LinkId)
  waiting : List CallerId
  deriving DecidableEq

namespace CreationLock

def idle : CreationLock := ⟨none, []⟩

def isIdle (l : CreationLock) : Bool := l.opening.isNone && l.waiting.isEmpty

end CreationLock

end Pool

/-- `opened` counts the connections that were begun. `stale` are those whose peer has gone, `closed`
those the pool closed, `held` one mention for each reference that a caller holds. -/
structure Pool where
  config : PoolConfig
  entries : Table Address Pool.Entry
  locks : Table Address Pool.CreationLock
  created : Nat
  evicted : Nat
  opened : Nat
  stale : List LinkId
  closed : List LinkId
  held : List LinkId

namespace Pool

inductive Progress where
  | ready (link : LinkId)
  | opening (link : LinkId)
  | waiting
  deriving DecidableEq

def empty (config : PoolConfig) : Pool :=
  { config, entries := ∅, locks := ∅, created := 0, evicted := 0, opened := 0
    stale := [], closed := [], held := [] }

def size (p : Pool) : Nat := p.entries.size

def contains (p : Pool) (peer : Address) : Bool := p.entries.contains peer

def markStale (p : Pool) (link : LinkId) : Pool := { p with stale := link :: p.stale }

def release (p : Pool) (link : LinkId) : Pool := { p with held := p.held.erase link }

/-- Forgets the creation lock of a peer that no caller uses. -/
def releaseLock (p : Pool) (peer : Address) : Pool :=
  match p.locks[peer]? with
  | some lock => if lock.isIdle then { p with locks := p.locks.erase peer } else p
  | none => p

def drop (p : Pool) (peer : Address) (entry : Entry) : Pool :=
  { p with
    entries := p.entries.erase peer
    closed := p.closed ++ [entry.link]
    evicted := p.evicted + 1 }

/-- Hands out the connection to a peer if there is one and its peer has not gone. A stale one is
dropped, and `afterDrop` is done then. -/
def lookup (p : Pool) (peer : Address) (now : Instant) (afterDrop : Pool → Pool) :
    Option LinkId × Pool :=
  match p.entries[peer]? with
  | none => (none, p)
  | some entry =>
    if entry.link ∈ p.stale then (none, afterDrop (p.drop peer entry))
    else
      (some entry.link,
        { p with
          entries := p.entries.insert peer { entry with lastUsed := entry.lastUsed.max now }
          held := entry.link :: p.held })

/-- A caller whose turn it is looks again and begins to open a connection if there still is none.
It uses the lock, so the lock stays. -/
def takeTurn (p : Pool) (caller : CallerId) (peer : Address) (waiting : List CallerId)
    (now : Instant) : Progress × Pool :=
  match p.lookup peer now id with
  | (some link, p) => (.ready link, { p with locks := p.locks.insert peer ⟨none, waiting⟩ })
  | (none, p) =>
    let link := p.opened + 1
    (.opening link,
      { p with opened := link, locks := p.locks.insert peer ⟨some (caller, link), waiting⟩ })

def request (p : Pool) (caller : CallerId) (peer : Address) (now : Instant) : Progress × Pool :=
  match p.lookup peer now fun p => p.releaseLock peer with
  | (some link, p) => (.ready link, p)
  | (none, p) =>
    let lock := (p.locks[peer]?).getD .idle
    if lock.isIdle then p.takeTurn caller peer [] now
    else
      (.waiting,
        { p with locks := p.locks.insert peer { lock with waiting := lock.waiting ++ [caller] } })

def wake (p : Pool) (peer : Address) (now : Instant) : Option (CallerId × Progress) × Pool :=
  match p.locks[peer]? with
  | some ⟨none, caller :: waiting⟩ =>
    let (progress, p) := p.takeTurn caller peer waiting now
    (some (caller, progress), p)
  | _ => (none, p)

/-- The connection that was being opened is there: it is pooled and handed to its caller. -/
def succeed (p : Pool) (peer : Address) (now : Instant) : Option (CallerId × LinkId) × Pool :=
  match p.locks[peer]? with
  | some ⟨some (caller, link), waiting⟩ =>
    (some (caller, link),
      { p with
        entries := p.entries.insert peer ⟨link, now⟩
        created := p.created + 1
        held := link :: p.held
        locks := p.locks.insert peer ⟨none, waiting⟩ })
  | _ => (none, p)

def fail (p : Pool) (peer : Address) : Option CallerId × Pool :=
  match p.locks[peer]? with
  | some ⟨some (caller, _), waiting⟩ =>
    (some caller, { p with locks := p.locks.insert peer ⟨none, waiting⟩ })
  | _ => (none, p)

def invalidate (p : Pool) (peer : Address) : Pool :=
  match p.entries[peer]? with
  | some entry => (p.drop peer entry).releaseLock peer
  | none => p

/-- Peers whose connection nobody holds and nobody used for longer than the timeout. -/
def idlePeers (p : Pool) (now : Instant) : List (Address × Entry) :=
  p.entries.toList.filter fun (_, entry) =>
    decide (p.config.idleTimeout < now.since entry.lastUsed) && !p.held.contains entry.link

def evictIdle (p : Pool) (now : Instant) : Nat × Pool :=
  let idle := p.idlePeers now
  (idle.length, idle.foldl (fun p (peer, entry) => (p.drop peer entry).releaseLock peer) p)

end Pool

end ShardedWorld
