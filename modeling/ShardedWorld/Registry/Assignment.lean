import ShardedWorld.Binary.Arithmetic
import ShardedWorld.Identity
import ShardedWorld.Space.Zone

/-!
Which zone a new server gets: the first free one, row by row, in rows as long as the side of the
smallest square that has room for all servers. A zone given up is taken again before the world
grows. The world ends where a coordinate no longer holds the row.
-/

set_option autoImplicit false

namespace ShardedWorld.Assignment

/-- The side of the smallest square with at least `count` cells, at least one and at most what a
coordinate can hold. -/
def side (count : Nat) : Nat := min (ceilRoot (max count 1)) 2147483647

/-- The zone at a place of the row-major enumeration of rows of length `side`. -/
def zoneAt (side place : Nat) : Zone :=
  ⟨.ofNat (place % side), .ofNat (place / side)⟩

/-- The last place whose row a coordinate can hold. -/
def lastPlace (side : Nat) : Nat := side * 2147483648 - 1

/-- The first free zone among the places from `place` on, `steps` of them and one more; none if all
are taken. -/
def firstFreeFrom? (claimed : Table Zone ServerId) (side : Nat) : Nat → Nat → Option Zone
  | 0, place => if zoneAt side place ∈ claimed then none else some (zoneAt side place)
  | steps + 1, place =>
    if zoneAt side place ∈ claimed then firstFreeFrom? claimed side steps (place + 1)
    else some (zoneAt side place)

/-- Among one place more than there are claimed zones one is free, as long as there are that many
places. If every one of them is taken, the search goes on to a row that it cannot count. -/
def firstFreeZone? (claimed : Table Zone ServerId) (count : Nat) : Option Zone :=
  firstFreeFrom? claimed (side count) (min claimed.size (lastPlace (side count))) 0

theorem not_mem_of_firstFreeFrom? {claimed : Table Zone ServerId} {side steps place : Nat}
    {zone : Zone} (found : firstFreeFrom? claimed side steps place = some zone) :
    zone ∉ claimed := by
  induction steps generalizing place with
  | zero =>
    simp only [firstFreeFrom?] at found
    split at found
    · cases found
    next free => exact Option.some.inj found ▸ free
  | succ steps ih =>
    simp only [firstFreeFrom?] at found
    split at found
    · exact ih found
    next free => exact Option.some.inj found ▸ free

theorem not_mem_of_firstFreeZone? {claimed : Table Zone ServerId} {count : Nat} {zone : Zone}
    (found : firstFreeZone? claimed count = some zone) : zone ∉ claimed :=
  not_mem_of_firstFreeFrom? found

end ShardedWorld.Assignment
