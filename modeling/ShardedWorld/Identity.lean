import ShardedWorld.Table

/-!
What names servers, players and entities, connections and those who wait for them. A player's
entity carries the player's own number.
-/

set_option autoImplicit false

namespace ShardedWorld

/-- A server's name; names are ordered as their bytes are. -/
structure ServerId where
  name : String
  deriving DecidableEq, Inhabited

namespace ServerId

instance : Ord ServerId := ⟨compareOn name⟩

instance : Std.TransOrd ServerId := inferInstanceAs (Std.TransCmp (compareOn name))

instance : Std.LawfulEqOrd ServerId where
  eq_of_compare {a b} h := by
    have h : compare a.name b.name = .eq := h
    cases a; cases b
    simp_all

end ServerId

abbrev EntityId := UInt64

abbrev PlayerId := UInt64

/-- The number of a connection, in the order in which opening them began. -/
abbrev LinkId := Nat

abbrev CallerId := Nat

end ShardedWorld
