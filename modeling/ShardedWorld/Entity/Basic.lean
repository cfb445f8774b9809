import ShardedWorld.Message.Record
import ShardedWorld.Time

/-!
Entities as the server that simulates them sees them.
-/

set_option autoImplicit false

namespace ShardedWorld

/-- All of an entity but its number. `leftOriginAt` is when the entity was first seen outside its
server's zone. -/
structure Body where
  kind : EntityKind
  position : Vec2
  velocity : Vec2
  health : Single
  leftOriginAt : Option Instant
  deriving DecidableEq, Inhabited

structure Entity extends Body where
  id : EntityId
  deriving DecidableEq, Inhabited

namespace Entity

def appearing (id : EntityId) (kind : EntityKind) (position : Vec2) : Entity :=
  { id, kind, position, velocity := .zero, health := fullHealth, leftOriginAt := none }

def ofSnapshot (s : EntitySnapshot) : Entity :=
  { id := s.id, kind := s.kind, position := s.position, velocity := s.velocity
    health := s.health, leftOriginAt := none }

def snapshot (e : Entity) : EntitySnapshot :=
  { id := e.id, kind := e.kind, position := e.position, velocity := e.velocity, health := e.health }

end Entity

namespace Body

def advance (b : Body) (seconds : Single) : Body :=
  { b with position := b.position + b.velocity.scale seconds }

end Body

end ShardedWorld
