import ShardedWorld.Network.Acquire

/-!
Callers that borrow connections from a pool and keep them under a name, and peers that refuse to be
connected to.
-/

set_option autoImplicit false

namespace ShardedWorld

structure Borrowing where
  pool : Pool
  refusals : Table Address TransportError
  loans : Table String LinkId

namespace Borrowing

def empty (config : PoolConfig) : Borrowing := ⟨.empty config, ∅, ∅⟩

def opens (b : Borrowing) (peer : Address) (_ : LinkId) : Except TransportError Unit :=
  match b.refusals[peer]? with
  | some e => .error e
  | none => .ok ()

def refuse (b : Borrowing) (peer : Address) (error : Option TransportError) : Borrowing :=
  { b with refusals := b.refusals.alter peer fun _ => error }

def release (b : Borrowing) (name : String) : Bool × Borrowing :=
  match b.loans[name]? with
  | some link => (true, { b with pool := b.pool.release link, loans := b.loans.erase name })
  | none => (false, b)

/-- Each of `count` callers asks at the same time and gives back at once what it got. -/
def together (b : Borrowing) (peer : Address) (count : Nat) : List Pool.Outcome × Borrowing :=
  let (outcomes, pool) := b.pool.acquireMany peer .start count (b.opens peer)
  let returned := outcomes.foldl (fun (p : Pool) outcome =>
    match outcome with
    | .ok link => p.release link
    | .error _ => p) pool
  (outcomes, { b with pool := returned })

/-- A caller asks and keeps what it got under a name, if it gives one. What was kept under that
name before is given back. -/
def borrow (b : Borrowing) (peer : Address) (name : Option String) : Pool.Outcome × Borrowing :=
  match b.pool.acquire peer .start (b.opens peer), name with
  | (.ok link, pool), some name =>
    let (_, b) := { b with pool }.release name
    (.ok link, { b with loans := b.loans.insert name link })
  | (.ok link, pool), none => (.ok link, { b with pool := pool.release link })
  | (.error e, pool), _ => (.error e, { b with pool })

def evictIdle (b : Borrowing) (now : Instant) : Nat × Borrowing :=
  let (count, pool) := b.pool.evictIdle now
  (count, { b with pool })

/-- Drops the connections that are idle when a sweep comes round. Without an interval none does. -/
def sweep (b : Borrowing) (now : Instant) : Borrowing :=
  if b.pool.config.sweepInterval = .zero then b else (b.evictIdle now).2

end Borrowing

end ShardedWorld
