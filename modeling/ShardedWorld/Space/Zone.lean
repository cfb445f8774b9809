import ShardedWorld.Space.Vec2
import ShardedWorld.Table

/-!
Zones are the cells of the world's grid, ordered by column and then by row.
-/

set_option autoImplicit false

namespace ShardedWorld

structure Zone where
  x : Int32
  y : Int32
  deriving DecidableEq, Inhabited

namespace Zone

instance : Ord Zone := ⟨compareLex (compareOn x) (compareOn y)⟩

instance : Std.TransOrd Zone :=
  inferInstanceAs (Std.TransCmp (compareLex (compareOn x) (compareOn y)))

instance : Std.LawfulEqOrd Zone where
  eq_of_compare {a b} h := by
    have h : (compare a.x b.x).then (compare a.y b.y) = .eq := h
    rw [Ordering.then_eq_eq] at h
    cases a; cases b
    simp_all

def text (zone : Zone) : String :=
  "(" ++ toString zone.x.toInt ++ ", " ++ toString zone.y.toInt ++ ")"

end Zone

structure ZoneBounds where
  lower : Vec2
  upper : Vec2
  deriving DecidableEq

namespace ZoneBounds

/-- The lower edges belong to the rectangle, the upper ones to its neighbours. -/
def contains (b : ZoneBounds) (p : Vec2) : Bool :=
  decide (b.lower.x ≤ p.x) && decide (p.x < b.upper.x) &&
    decide (b.lower.y ≤ p.y) && decide (p.y < b.upper.y)

def center (b : ZoneBounds) : Vec2 :=
  ⟨(b.lower.x + b.upper.x) / .ofInt 2, (b.lower.y + b.upper.y) / .ofInt 2⟩

end ZoneBounds

end ShardedWorld
