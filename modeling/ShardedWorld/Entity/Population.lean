import ShardedWorld.Entity.Basic

/-!
The entities that one server simulates, by number and up to a capacity.
-/

set_option autoImplicit false

namespace ShardedWorld

structure Population where
  bodies : Table EntityId Body
  capacity : Nat

namespace Population

def empty (capacity : Nat) : Population := ⟨∅, capacity⟩

def size (p : Population) : Nat := p.bodies.size

def isFull (p : Population) : Bool := decide (p.capacity ≤ p.size)

def contains (p : Population) (id : EntityId) : Bool := p.bodies.contains id

def get? (p : Population) (id : EntityId) : Option Entity :=
  (p.bodies[id]?).map fun b => { b with id }

def insert? (p : Population) (e : Entity) : Option Population :=
  if !p.contains e.id && p.isFull then none
  else some { p with bodies := p.bodies.insert e.id e.toBody }

def erase (p : Population) (id : EntityId) : Population :=
  { p with bodies := p.bodies.erase id }

def modify (p : Population) (id : EntityId) (change : Body → Body) : Population :=
  { p with bodies := p.bodies.modify id change }

def map (p : Population) (change : EntityId → Body → Body) : Population :=
  { p with bodies := p.bodies.map change }

def toList (p : Population) : List Entity :=
  p.bodies.toList.map fun (id, b) => { b with id }

def snapshots (p : Population) : List EntitySnapshot := p.toList.map Entity.snapshot

def playerCount (p : Population) : Nat :=
  (p.toList.filter fun e => e.kind == .player).length

def advance (p : Population) (seconds : Single) : Population :=
  p.map fun _ b => b.advance seconds

end Population

end ShardedWorld
