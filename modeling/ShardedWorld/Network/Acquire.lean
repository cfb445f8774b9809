import ShardedWorld.Network.Pool
import ShardedWorld.Network.TransportError

/-!
Callers that wait for the pool to the end, where each connection opens or fails as soon as it is
begun.
-/

set_option autoImplicit false

namespace ShardedWorld.Pool

abbrev Outcome := Except TransportError LinkId

/-- Lets the caller at its turn finish and then the next one, for `steps` moves. -/
def finish (peer : Address) (now : Instant) (connect : LinkId → Except TransportError Unit) :
    Nat → List (CallerId × Outcome) → Pool → List (CallerId × Outcome) × Pool
  | 0, done, p => (done, p)
  | steps + 1, done, p =>
    match p.locks[peer]? with
    | some ⟨some (caller, link), _⟩ =>
      match connect link with
      | .ok _ => finish peer now connect steps ((caller, .ok link) :: done) (p.succeed peer now).2
      | .error e => finish peer now connect steps ((caller, .error e) :: done) (p.fail peer).2
    | _ =>
      match p.wake peer now with
      | (some (caller, .ready link), p) =>
        finish peer now connect steps ((caller, .ok link) :: done) p
      | (some _, p) => finish peer now connect steps done p
      | (none, p) => (done, p)

/-- Callers that ask one after the other before the first connection opens. -/
def requestAll (peer : Address) (now : Instant) :
    List CallerId → List (CallerId × Outcome) → Pool → List (CallerId × Outcome) × Pool
  | [], done, p => (done, p)
  | caller :: rest, done, p =>
    match p.request caller peer now with
    | (.ready link, p) => requestAll peer now rest ((caller, .ok link) :: done) p
    | (_, p) => requestAll peer now rest done p

/-- What each of `count` callers gets that ask at the same time. -/
def acquireMany (p : Pool) (peer : Address) (now : Instant) (count : Nat)
    (connect : LinkId → Except TransportError Unit) : List Outcome × Pool :=
  let callers := List.range count
  let (done, p) := requestAll peer now callers [] p
  let (done, p) := finish peer now connect (2 * count) done p
  (callers.map fun c => (done.lookup c).getD (.error .closed), p)

def acquire (p : Pool) (peer : Address) (now : Instant)
    (connect : LinkId → Except TransportError Unit) : Outcome × Pool :=
  let (outcomes, p) := p.acquireMany peer now 1 connect
  (outcomes.headD (.error .closed), p)

end ShardedWorld.Pool
