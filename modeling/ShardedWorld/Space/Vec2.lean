import ShardedWorld.Binary.Decimal

/-!
Positions and velocities in the plane, in single precision.
-/

set_option autoImplicit false

namespace ShardedWorld

structure Vec2 where
  x : Single
  y : Single
  deriving DecidableEq, Inhabited

namespace Vec2

def zero : Vec2 := ⟨.zero, .zero⟩

instance : Add Vec2 := ⟨fun a b => ⟨a.x + b.x, a.y + b.y⟩⟩
instance : Sub Vec2 := ⟨fun a b => ⟨a.x - b.x, a.y - b.y⟩⟩

def scale (v : Vec2) (k : Single) : Vec2 := ⟨v.x * k, v.y * k⟩

def length (v : Vec2) : Single := (v.x * v.x + v.y * v.y).sqrt

def distance (a b : Vec2) : Single := (b - a).length

def agrees (a b : Vec2) : Bool := a.x.agrees b.x && a.y.agrees b.y

def isFinite (v : Vec2) : Bool := v.x.isFinite && v.y.isFinite

def text (v : Vec2) : String := "(" ++ v.x.tenthsText ++ ", " ++ v.y.tenthsText ++ ")"

end Vec2

end ShardedWorld
