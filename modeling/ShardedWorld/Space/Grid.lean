import ShardedWorld.ConfigError
import ShardedWorld.Space.Zone

/-!
The grid that divides the plane into square zones of one side length.
-/

set_option autoImplicit false

namespace ShardedWorld

def Grid.admits (cellSize : Single) : Bool := cellSize.isFinite && decide (.zero < cellSize)

structure Grid where
  cellSize : Single
  admitted : Grid.admits cellSize = true
  deriving DecidableEq

namespace Grid

def ofCellSize (cellSize : Single) : Except ConfigError Grid :=
  if h : admits cellSize = true then .ok ⟨cellSize, h⟩
  else .error ⟨"cell_size", .positiveFinite cellSize⟩

def standard : Grid := ⟨.ofInt 500, by decide +kernel⟩

instance : Inhabited Grid := ⟨standard⟩

/-- The column or row of a coordinate, saturating at the ends of 32 bits; zero for what is no
number. -/
def index (grid : Grid) (coordinate : Single) : Int32 :=
  .ofInt ((coordinate / grid.cellSize).floorInt (-2147483648) 2147483647)

def zoneOf (grid : Grid) (p : Vec2) : Zone := ⟨grid.index p.x, grid.index p.y⟩

def bounds (grid : Grid) (zone : Zone) : ZoneBounds :=
  let lower : Vec2 :=
    ⟨.ofInt zone.x.toInt * grid.cellSize, .ofInt zone.y.toInt * grid.cellSize⟩
  ⟨lower, ⟨lower.x + grid.cellSize, lower.y + grid.cellSize⟩⟩

def contains (grid : Grid) (zone : Zone) (p : Vec2) : Bool := grid.zoneOf p == zone

/-- How far `p` lies past the border that a step from `origin` to `target` crosses: on each axis
on which they differ the distance to the near edge of `target`, and the smaller of two. Infinite
if no border is crossed. -/
def penetration (grid : Grid) (origin target : Zone) (p : Vec2) : Single :=
  let b := grid.bounds target
  let axis (depth : Single) (origin target : Int32) (p lower upper : Single) : Single :=
    if origin < target then depth.min (p - lower)
    else if target < origin then depth.min (upper - p)
    else depth
  axis (axis (.infinity false) origin.x target.x p.x b.lower.x b.upper.x)
    origin.y target.y p.y b.lower.y b.upper.y

end Grid

end ShardedWorld
