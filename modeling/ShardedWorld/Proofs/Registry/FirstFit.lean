import Mathlib.Analysis.SpecialFunctions.Sqrt
import Mathlib.Data.List.Perm.Subperm
import ShardedWorld.Proofs.Registry.Ownership

/-! New servers fill the free zones, row by row.

The rows are as long as the side of the smallest square that has room for all servers. The search
from zone to zone has no end of its own. It ends because fewer zones are claimed than there are in
the rows, and inside of the square because as many zones are claimed as there are servers.
-/

set_option autoImplicit false

namespace ShardedWorld

/-! The side of the square. -/

theorem floorRoot_go_bounds {steps n : Nat} (fits : n < 4 ^ steps) :
    floorRoot.go steps n * floorRoot.go steps n ≤ n ∧
      n < (floorRoot.go steps n + 1) * (floorRoot.go steps n + 1) := by
  induction steps generalizing n with
  | zero =>
    obtain rfl : n = 0 := by simpa using fits
    simp [floorRoot.go]
  | succ steps ih =>
    -- Two more digits of the number give one more digit of the root.
    obtain ⟨below, above⟩ := ih (n := n / 4) (by rw [Nat.pow_succ] at fits; omega)
    simp only [floorRoot.go]
    generalize floorRoot.go steps (n / 4) = root at below above
    have below : 4 * (root * root) ≤ n := by omega
    have above : n < 4 * ((root + 1) * (root + 1)) := by omega
    split
    next reached => exact ⟨reached, by linarith⟩
    next missed => exact ⟨by linarith, by omega⟩

theorem floorRoot_eq_sqrt (n : Nat) : floorRoot n = n.sqrt := by
  apply Nat.eq_sqrt.mpr
  apply floorRoot_go_bounds
  calc n < 2 ^ (n.log2 + 1) := Nat.lt_log2_self
    _ ≤ 2 ^ (2 * (n.log2 / 2 + 1)) := Nat.pow_le_pow_right (by decide) (by omega)
    _ = 4 ^ (n.log2 / 2 + 1) := by rw [Nat.pow_mul]

theorem ceilRoot_le_iff {n side : Nat} : ceilRoot n ≤ side ↔ n ≤ side * side := by
  simp only [ceilRoot, floorRoot_eq_sqrt]
  split
  next square => rw [← Nat.mul_self_le_mul_self_iff, square]
  next other =>
    have unequal : n ≠ side * side := by
      rintro rfl
      rw [Nat.sqrt_eq] at other
      exact other rfl
    rw [Nat.succ_le_iff, Nat.sqrt_lt]
    omega

theorem ceilRoot_eq_ceil_sqrt (n : Nat) : ceilRoot n = ⌈√(n : ℝ)⌉₊ := by
  apply eq_of_forall_ge_iff
  intro side
  rw [ceilRoot_le_iff, Nat.ceil_le, Real.sqrt_le_iff, and_iff_right (Nat.cast_nonneg side)]
  exact_mod_cast (by rw [sq] : n ≤ side * side ↔ n ≤ side ^ 2)

/-! Zones in rows. -/

namespace Zone

/-- A zone in the columns of a square, in its rows or below them. Every column has `2 ^ 31` of
them. -/
structure InColumns (side : Nat) (zone : Zone) : Prop where
  left : 0 ≤ zone.x.toInt
  right : zone.x.toInt < side
  top : 0 ≤ zone.y.toInt

def Precedes (a b : Zone) : Prop :=
  a.y.toInt < b.y.toInt ∨ a.y = b.y ∧ a.x.toInt < b.x.toInt

theorem not_precedes_self (zone : Zone) : ¬zone.Precedes zone := by
  simp [Precedes]

theorem eq_of_toInt {a b : Zone} (x : a.x.toInt = b.x.toInt) (y : a.y.toInt = b.y.toInt) :
    a = b := by
  cases a
  cases b
  rw [mk.injEq]
  exact ⟨Int32.toInt_inj.mp x, Int32.toInt_inj.mp y⟩

def next (side : Nat) (zone : Zone) : Zone :=
  if zone.x.toInt + 1 < side then ⟨zone.x + 1, zone.y⟩ else ⟨0, zone.y + 1⟩

end Zone

namespace Assignment

theorem side_eq {count : Nat} (small : count < 2 ^ 31) :
    side count = ⌈√((max count 1 : Nat) : ℝ)⌉₊ := by
  rw [← ceilRoot_eq_ceil_sqrt, side, Nat.min_eq_left]
  rw [ceilRoot_le_iff]
  omega

/-- The search as it goes from zone to zone, until it comes upon a free one. -/
inductive Search (claimed : Table Zone ServerId) (side : Nat) : Zone → Zone → Prop where
  | free {zone : Zone} : zone ∉ claimed → Search claimed side zone zone
  | onward {zone found : Zone} : zone ∈ claimed → Search claimed side (zone.next side) found →
      Search claimed side zone found

section Places

variable {side place other : Nat}

theorem zoneAt_x (narrow : side < 2 ^ 31) (inside : place < side * 2 ^ 31) :
    (zoneAt side place).x.toInt = (place % side : Nat) :=
  Int32.toInt_ofNat_of_lt
    (Nat.lt_trans (Nat.mod_lt place (Nat.pos_of_mul_pos_right (Nat.zero_lt_of_lt inside))) narrow)

theorem zoneAt_y (inside : place < side * 2 ^ 31) :
    (zoneAt side place).y.toInt = (place / side : Nat) :=
  Int32.toInt_ofNat_of_lt (Nat.div_lt_of_lt_mul inside)

theorem zoneAt_inColumns (narrow : side < 2 ^ 31) (inside : place < side * 2 ^ 31) :
    (zoneAt side place).InColumns side := by
  have wide : 0 < side := Nat.pos_of_mul_pos_right (Nat.zero_lt_of_lt inside)
  refine ⟨?_, ?_, ?_⟩
  · rw [zoneAt_x narrow inside]
    exact Int.natCast_nonneg _
  · rw [zoneAt_x narrow inside]
    exact Int.ofNat_lt.mpr (Nat.mod_lt place wide)
  · rw [zoneAt_y inside]
    exact Int.natCast_nonneg _

theorem exists_place {zone : Zone} (narrow : side < 2 ^ 31) (inside : zone.InColumns side) :
    ∃ place, place < side * 2 ^ 31 ∧ zoneAt side place = zone := by
  obtain ⟨column, x⟩ := Int.eq_ofNat_of_zero_le inside.left
  obtain ⟨row, y⟩ := Int.eq_ofNat_of_zero_le inside.top
  have right : column < side := Int.ofNat_lt.mp (x ▸ inside.right)
  have bottom : row < 2 ^ 31 := Int.ofNat_lt.mp (y ▸ zone.y.toInt_lt)
  have fits : column + row * side < side * 2 ^ 31 :=
    calc column + row * side < (row + 1) * side := by rw [Nat.succ_mul]; omega
      _ ≤ 2 ^ 31 * side := Nat.mul_le_mul_right side bottom
      _ = side * 2 ^ 31 := Nat.mul_comm ..
  refine ⟨column + row * side, fits, Zone.eq_of_toInt ?_ ?_⟩
  · rw [zoneAt_x narrow fits, Nat.add_mul_mod_self_right, Nat.mod_eq_of_lt right, x]
  · rw [zoneAt_y fits, Nat.add_mul_div_right column row (Nat.zero_lt_of_lt right),
      Nat.div_eq_of_lt right, Nat.zero_add, y]

/-- The order of the zones is that of their places. -/
theorem zoneAt_precedes (narrow : side < 2 ^ 31) (first : place < side * 2 ^ 31)
    (second : other < side * 2 ^ 31) :
    (zoneAt side place).Precedes (zoneAt side other) ↔ place < other := by
  rw [Zone.Precedes, ← Int32.toInt_inj, zoneAt_x narrow first, zoneAt_x narrow second,
    zoneAt_y first, zoneAt_y second, Int.ofNat_lt, Int.ofNat_lt, Int.ofNat_inj]
  have before := Nat.div_add_mod place side
  have after := Nat.div_add_mod other side
  constructor
  · rintro (lower | ⟨row, later⟩)
    · exact Nat.lt_of_div_lt_div lower
    · rw [row] at before
      omega
  · intro earlier
    rcases Nat.lt_or_eq_of_le (Nat.div_le_div_right (c := side) (Nat.le_of_lt earlier)) with
      lower | row
    · exact .inl lower
    · rw [row] at before
      exact .inr ⟨row, by omega⟩

theorem zoneAt_injective (narrow : side < 2 ^ 31) (first : place < side * 2 ^ 31)
    (second : other < side * 2 ^ 31) (same : zoneAt side place = zoneAt side other) :
    place = other := by
  have forward := zoneAt_precedes narrow first second
  have backward := zoneAt_precedes narrow second first
  rw [same] at forward backward
  have apart := (zoneAt side other).not_precedes_self
  rw [forward] at apart backward
  omega

theorem zoneAt_succ (narrow : side < 2 ^ 31) (inside : place < side * 2 ^ 31) :
    (zoneAt side place).next side = zoneAt side (place + 1) := by
  have wide : 0 < side := Nat.pos_of_mul_pos_right (Nat.zero_lt_of_lt inside)
  have split_ := Nat.div_add_mod place side
  have column := Nat.mod_lt place wide
  rw [Zone.next, zoneAt_x narrow inside]
  unfold zoneAt
  generalize place / side = row at split_ ⊢
  generalize place % side = x at split_ column ⊢
  subst split_
  split
  next on =>
    have on : x + 1 < side := by omega
    rw [Nat.add_assoc, Nat.mul_add_mod, Nat.mod_eq_of_lt on, Nat.mul_add_div wide,
      Nat.div_eq_of_lt on, Int32.ofNat_add]
    rfl
  next past =>
    obtain rfl : x + 1 = side := by omega
    rw [Nat.add_assoc, ← Nat.mul_succ, Nat.mul_mod_right, Nat.mul_div_cancel_left _ wide,
      Nat.succ_eq_add_one, Int32.ofNat_add]
    rfl

end Places

section Searching

variable {claimed : Table Zone ServerId} {side : Nat}

theorem firstFreeFrom?_cases (claimed : Table Zone ServerId) (side steps place : Nat) :
    (∃ free, place ≤ free ∧ free ≤ place + steps ∧ zoneAt side free ∉ claimed ∧
        (∀ earlier, place ≤ earlier → earlier < free → zoneAt side earlier ∈ claimed) ∧
        firstFreeFrom? claimed side steps place = some (zoneAt side free)) ∨
      (∀ other, place ≤ other → other ≤ place + steps → zoneAt side other ∈ claimed) ∧
        firstFreeFrom? claimed side steps place = none := by
  induction steps generalizing place with
  | zero =>
    by_cases taken : zoneAt side place ∈ claimed
    · refine .inr ⟨fun other low high => ?_, by rw [firstFreeFrom?, if_pos taken]⟩
      obtain rfl : other = place := by omega
      exact taken
    · refine .inl ⟨place, by omega, by omega, taken, fun earlier _ _ => by omega, ?_⟩
      rw [firstFreeFrom?, if_neg taken]
  | succ steps ih =>
    by_cases taken : zoneAt side place ∈ claimed
    · rcases ih (place + 1) with ⟨free, low, high, unclaimed, before, found⟩ | ⟨all, none_found⟩
      · refine .inl ⟨free, by omega, by omega, unclaimed, fun earlier low later => ?_, ?_⟩
        · rcases Nat.eq_or_lt_of_le low with rfl | low
          · exact taken
          · exact before earlier low later
        · rw [firstFreeFrom?, if_pos taken, found]
      · refine .inr ⟨fun other low high => ?_, by rw [firstFreeFrom?, if_pos taken, none_found]⟩
        rcases Nat.eq_or_lt_of_le low with rfl | low
        · exact taken
        · exact all other low (by omega)
    · refine .inl ⟨place, by omega, by omega, taken, fun earlier _ _ => by omega, ?_⟩
      rw [firstFreeFrom?, if_neg taken]

/-- Among more places than there are claimed zones one is free. -/
theorem exists_free_place (narrow : side < 2 ^ 31) (few : claimed.size < side * 2 ^ 31) :
    ∃ place, place ≤ claimed.size ∧ zoneAt side place ∉ claimed := by
  by_contra none_free
  simp only [not_exists, not_and, not_not] at none_free
  have distinct : ((List.range (claimed.size + 1)).map (zoneAt side)).Nodup := by
    refine List.Nodup.map_on ?_ List.nodup_range
    intro first low second high same
    rw [List.mem_range] at low high
    exact zoneAt_injective narrow (by omega) (by omega) same
  have taken : (List.range (claimed.size + 1)).map (zoneAt side) ⊆ claimed.keys := by
    intro zone listed
    obtain ⟨place, low, rfl⟩ := List.mem_map.mp listed
    rw [List.mem_range] at low
    exact Std.ExtTreeMap.mem_keys.mpr (none_free place (by omega))
  have count := (List.subperm_of_subset distinct taken).length_le
  rw [List.length_map, List.length_range, Std.ExtTreeMap.length_keys] at count
  omega

theorem search_of_claimed (narrow : side < 2 ^ 31) {place free : Nat} (ahead : place ≤ free)
    (inside : free < side * 2 ^ 31) (unclaimed : zoneAt side free ∉ claimed)
    (before : ∀ earlier, place ≤ earlier → earlier < free → zoneAt side earlier ∈ claimed) :
    Search claimed side (zoneAt side place) (zoneAt side free) := by
  induction ahead using Nat.decreasingInduction with
  | self => exact .free unclaimed
  | of_succ place ahead ih =>
    refine .onward (before place (Nat.le_refl place) ahead) ?_
    rw [zoneAt_succ narrow (by omega)]
    exact ih fun earlier low later => before earlier (by omega) later

/-- A free zone of the columns such that all zones before it are claimed. -/
structure FirstFree (claimed : Table Zone ServerId) (side : Nat) (zone : Zone) : Prop where
  inside : zone.InColumns side
  free : zone ∉ claimed
  first : ∀ other : Zone, other.InColumns side → other.Precedes zone → other ∈ claimed

/-- The search goes far enough to come upon a free zone of the columns if there is one. -/
theorem exists_near_place (narrow : side < 2 ^ 31)
    (room : ∃ zone : Zone, zone.InColumns side ∧ zone ∉ claimed) :
    ∃ near, near ≤ min claimed.size (lastPlace side) ∧ near < side * 2 ^ 31 ∧
      zoneAt side near ∉ claimed := by
  obtain ⟨zone, inside, unclaimed⟩ := room
  obtain ⟨place, bound, rfl⟩ := exists_place narrow inside
  -- If the zone that is known to be free is too far away, there are few enough claimed ones.
  by_cases far : claimed.size < side * 2 ^ 31
  · obtain ⟨near, low, free⟩ := exists_free_place narrow far
    exact ⟨near, by rw [lastPlace]; omega, by omega, free⟩
  · exact ⟨place, by rw [lastPlace]; omega, bound, unclaimed⟩

theorem firstFreeFrom?_eq_some {steps near : Nat} (narrow : side < 2 ^ 31) (reached : near ≤ steps)
    (inside : near < side * 2 ^ 31) (unclaimed : zoneAt side near ∉ claimed) :
    ∃ place, place ≤ near ∧ firstFreeFrom? claimed side steps 0 = some (zoneAt side place) ∧
      Search claimed side (zoneAt side 0) (zoneAt side place) ∧
      FirstFree claimed side (zoneAt side place) := by
  rcases firstFreeFrom?_cases claimed side steps 0 with
    ⟨place, -, high, free, before, found⟩ | ⟨all, -⟩
  · have nearest : place ≤ near := by
      by_contra beyond
      exact unclaimed (before near (Nat.zero_le near) (by omega))
    refine ⟨place, nearest, found, ?_, zoneAt_inColumns narrow (by omega), free, ?_⟩
    · exact search_of_claimed narrow (Nat.zero_le place) (by omega) free before
    · intro other inColumns precedes
      obtain ⟨earlier, bound, rfl⟩ := exists_place narrow inColumns
      rw [zoneAt_precedes narrow bound (by omega)] at precedes
      exact before earlier (Nat.zero_le earlier) precedes
  · exact absurd (all near (Nat.zero_le near) (by omega)) unclaimed

theorem firstFreeFrom?_eq_none {steps : Nat} (narrow : side < 2 ^ 31)
    (short : steps < side * 2 ^ 31) (full : ∀ zone : Zone, zone.InColumns side → zone ∈ claimed) :
    firstFreeFrom? claimed side steps 0 = none := by
  rcases firstFreeFrom?_cases claimed side steps 0 with ⟨place, -, high, free, -⟩ | ⟨-, ended⟩
  · exact absurd (full _ (zoneAt_inColumns narrow (by omega))) free
  · exact ended

end Searching

theorem firstFreeZone?_eq {count : Nat} (small : count < 2 ^ 31) (claimed : Table Zone ServerId) :
    firstFreeZone? claimed count =
      firstFreeFrom? claimed ⌈√((max count 1 : Nat) : ℝ)⌉₊
        (min claimed.size (lastPlace ⌈√((max count 1 : Nat) : ℝ)⌉₊)) 0 := by
  rw [firstFreeZone?, side_eq small]

theorem side_lt {count : Nat} (small : count < 2 ^ 31) :
    ⌈√((max count 1 : Nat) : ℝ)⌉₊ < 2 ^ 31 := by
  rw [← side_eq small, side]
  omega

theorem side_pos (count : Nat) : 0 < ⌈√((max count 1 : Nat) : ℝ)⌉₊ :=
  Nat.ceil_pos.mpr (Real.sqrt_pos.mpr (Nat.cast_pos.mpr (by omega)))

/-- If no zone of the columns is free, the search runs into the end of the world. -/
theorem firstFreeZone?_eq_none {claimed : Table Zone ServerId} {count : Nat}
    (small : count < 2 ^ 31)
    (full : ∀ zone : Zone, zone.InColumns ⌈√((max count 1 : Nat) : ℝ)⌉₊ → zone ∈ claimed) :
    firstFreeZone? claimed count = none := by
  have wide := side_pos count
  rw [firstFreeZone?_eq small]
  refine firstFreeFrom?_eq_none (side_lt small) ?_ full
  rw [lastPlace]
  omega

theorem zoneAt_zero (side : Nat) : zoneAt side 0 = ⟨0, 0⟩ := by
  rw [zoneAt, Nat.zero_mod, Nat.zero_div]
  rfl

end Assignment

namespace Registry

open Assignment

variable {σ : Type} {r : Registry σ}

theorem Coherent.zones_size_le (coherent : Coherent r) : r.zones.size ≤ r.servers.size := by
  have owned : r.zones.keys ⊆ r.servers.toList.map fun entry => entry.2.zone := by
    intro zone claimed
    obtain ⟨id, entered⟩ := Option.isSome_iff_exists.mp
      (Std.ExtTreeMap.isSome_getElem?_iff_mem.mpr (Std.ExtTreeMap.mem_keys.mp claimed))
    obtain ⟨s, registered, place⟩ := coherent.paired.mp entered
    exact List.mem_map.mpr
      ⟨(id, s), Std.ExtTreeMap.mem_toList_iff_getElem?_eq_some.mpr registered, place⟩
  have count := (List.subperm_of_subset Std.ExtTreeMap.nodup_keys owned).length_le
  rwa [List.length_map, Std.ExtTreeMap.length_keys, Std.ExtTreeMap.length_toList] at count

/-- There is room for one more server in the square, and so the search stays in it. -/
theorem Coherent.firstFreeZone?_eq_some (coherent : Coherent r)
    (few : r.servers.size + 1 < 2 ^ 31) :
    ∃ zone : Zone, firstFreeZone? r.zones (r.servers.size + 1) = some zone ∧
      FirstFree r.zones ⌈√((r.servers.size + 1 : Nat) : ℝ)⌉₊ zone ∧
      zone.y.toInt < ⌈√((r.servers.size + 1 : Nat) : ℝ)⌉₊ := by
  have narrow := side_lt few
  have search := firstFreeZone?_eq few r.zones
  rw [Nat.max_eq_left (Nat.le_add_left 1 _)] at narrow search
  have square : r.servers.size + 1 ≤ ⌈√((r.servers.size + 1 : Nat) : ℝ)⌉₊ *
      ⌈√((r.servers.size + 1 : Nat) : ℝ)⌉₊ := by
    rw [← ceilRoot_eq_ceil_sqrt, ← ceilRoot_le_iff]
  have claimed := coherent.zones_size_le
  generalize ⌈√((r.servers.size + 1 : Nat) : ℝ)⌉₊ = side at narrow search square ⊢
  have inside : r.zones.size < side * 2 ^ 31 :=
    calc r.zones.size < side * side := by omega
      _ ≤ side * 2 ^ 31 := Nat.mul_le_mul_left side (Nat.le_of_lt narrow)
  obtain ⟨near, low, unclaimed⟩ := exists_free_place narrow inside
  have reached : near ≤ min r.zones.size (lastPlace side) := by
    rw [lastPlace]
    omega
  obtain ⟨place, high, found, -, first⟩ :=
    firstFreeFrom?_eq_some narrow reached (by omega) unclaimed
  refine ⟨zoneAt side place, search.trans found, first, ?_⟩
  rw [zoneAt_y (by omega), Int.ofNat_lt]
  exact Nat.div_lt_of_lt_mul (by omega)

variable [Store σ]

theorem claim_ne_stopped (stored : StoredServer) (now : Instant) :
    r.claim stored now ≠ .error .stopped := by
  unfold claim
  cases Store.putServer r.store stored with
  | error cause =>
    intro stopped
    cases stopped
  | ok store =>
    intro stopped
    cases stopped

theorem registerServer_of_found {id : ServerId} {endpoint : Address} {now : Instant} {free : Zone}
    (unknown : r.server? id = none)
    (found : firstFreeZone? r.zones (r.servers.size + 1) = some free) :
    r.registerServer id endpoint now =
      (r.claim ⟨id, endpoint, free⟩ now).map fun claimed => (free, claimed) := by
  simp only [registerServer, unknown, found]
  cases r.claim ⟨id, endpoint, free⟩ now <;> rfl

/-- The search for a free zone finds the first one in the columns of the square if there is any, as
there is if fewer zones are claimed than these columns have; else it has no zone to give. A registry
has room in the square itself, whatever zones were given and given up before. -/
theorem new_servers_assigned_first_fit :
    (∀ (claimed : Table Zone ServerId) (count : Nat), count < 2 ^ 31 →
      let side := ⌈√((max count 1 : Nat) : ℝ)⌉₊
      (claimed.size < side * 2 ^ 31 → ∃ zone : Zone, zone.InColumns side ∧ zone ∉ claimed) ∧
      ((∃ zone : Zone, zone.InColumns side ∧ zone ∉ claimed) →
        ∃ zone, firstFreeZone? claimed count = some zone ∧ Search claimed side ⟨0, 0⟩ zone ∧
          FirstFree claimed side zone) ∧
      ((∀ zone : Zone, zone.InColumns side → zone ∈ claimed) →
        firstFreeZone? claimed count = none)) ∧
    ∀ (outside : σ → σ → Prop) (grid : Grid) (store : σ) (start : Instant) (r : Registry σ),
      (Store.snapshot store).NamesServers → Reaches outside (restore grid store start) r →
      ∀ (id : ServerId) (endpoint : Address) (now : Instant), r.server? id = none →
        r.servers.size + 1 < 2 ^ 31 →
        let side := ⌈√((r.servers.size + 1 : Nat) : ℝ)⌉₊
        r.registerServer id endpoint now ≠ .error .stopped ∧
          ∀ zone r', r.registerServer id endpoint now = .ok (zone, r') →
            FirstFree r.zones side zone ∧ zone.y.toInt < side := by
  constructor
  · intro claimed count small side
    have narrow : side < 2 ^ 31 := side_lt small
    refine ⟨fun few => ?_, fun room => ?_, firstFreeZone?_eq_none small⟩
    · obtain ⟨place, low, free⟩ := exists_free_place narrow few
      exact ⟨zoneAt side place, zoneAt_inColumns narrow (by omega), free⟩
    · obtain ⟨near, reached, inside, unclaimed⟩ := exists_near_place narrow room
      obtain ⟨place, -, found, search, first⟩ :=
        firstFreeFrom?_eq_some narrow reached inside unclaimed
      rw [zoneAt_zero] at search
      exact ⟨zoneAt side place, (firstFreeZone?_eq small claimed).trans found, search, first⟩
  · intro outside grid store start r named run id endpoint now unknown few side
    -- Each server has one zone, so the square has at least one place more than are claimed.
    have coherent := run.coherent (restore_coherent grid start named)
    obtain ⟨free, found, first, inside⟩ := coherent.firstFreeZone?_eq_some few
    rw [registerServer_of_found unknown found]
    cases claimed : r.claim ⟨id, endpoint, free⟩ now with
    | error cause =>
      refine ⟨fun stopped => ?_, fun zone r' done => (nomatch done)⟩
      exact claim_ne_stopped _ now (claimed.trans (congrArg _ (Except.error.inj stopped)))
    | ok after =>
      refine ⟨fun stopped => (nomatch stopped), fun zone r' done => ?_⟩
      obtain rfl := (Prod.mk.inj (Except.ok.inj done)).1
      exact ⟨first, inside⟩

/-- A world in which every zone of the columns of a square is claimed. -/
def fullColumns (side : Nat) : Table Zone ServerId :=
  .ofList ((List.range (side * 2 ^ 31)).map fun place => (zoneAt side place, (⟨"a"⟩ : ServerId)))

theorem mem_fullColumns {side : Nat} {zone : Zone} (narrow : side < 2 ^ 31)
    (inside : zone.InColumns side) : zone ∈ fullColumns side := by
  obtain ⟨place, bound, rfl⟩ := exists_place narrow inside
  rw [fullColumns, Std.ExtTreeMap.mem_ofList, List.map_map, List.contains_iff_mem]
  exact List.mem_map_of_mem (List.mem_range.mpr bound)

/-- One server more, in a world whose first column is full, gets no zone. -/
theorem full_column_has_no_free_zone :
    ⌈√((max 1 1 : Nat) : ℝ)⌉₊ = 1 ∧
      (∀ zone : Zone, zone.InColumns 1 → zone ∈ fullColumns 1) ∧
      firstFreeZone? (fullColumns 1) 1 = none := by
  have side : ⌈√((max 1 1 : Nat) : ℝ)⌉₊ = 1 := by simp
  have full (zone : Zone) (inside : zone.InColumns 1) : zone ∈ fullColumns 1 :=
    mem_fullColumns (by decide) inside
  refine ⟨side, full, firstFreeZone?_eq_none (by decide) ?_⟩
  rw [side]
  exact full

/-- Four servers, of which the second one has left. -/
def vacated : Registry MemoryStore :=
  let r := restore .standard MemoryStore.empty .start
  let r := (r.execute .start (.registerServer ⟨"a"⟩ (.loopback 7001))).2
  let r := (r.execute .start (.registerServer ⟨"b"⟩ (.loopback 7002))).2
  let r := (r.execute .start (.registerServer ⟨"c"⟩ (.loopback 7003))).2
  let r := (r.execute .start (.registerServer ⟨"d"⟩ (.loopback 7004))).2
  (r.execute .start (.unregisterServer ⟨"b"⟩)).2

/-- The zone that was given up is the first free one. -/
theorem vacated_zone_assigned_again :
    MemoryStore.empty.snapshot.NamesServers ∧
      Reaches (fun _ _ => True) (restore .standard MemoryStore.empty .start) vacated ∧
      vacated.server? ⟨"e"⟩ = none ∧ vacated.servers.size + 1 < 2 ^ 31 ∧
      ∃ r', vacated.registerServer ⟨"e"⟩ (.loopback 7005) .start = .ok (⟨1, 0⟩, r') ∧
        FirstFree vacated.zones ⌈√((vacated.servers.size + 1 : Nat) : ℝ)⌉₊ ⟨1, 0⟩ := by
  have names : MemoryStore.empty.snapshot.NamesServers := by
    intro id server found
    simp [MemoryStore.empty, Snapshot.empty] at found
  have run : Reaches (fun _ _ => True) (restore .standard MemoryStore.empty .start) vacated :=
    .execute _ _ (.execute _ _ (.execute _ _ (.execute _ _ (.execute _ _ .start))))
  have unknown : vacated.server? ⟨"e"⟩ = none := by decide +kernel
  have few : vacated.servers.size + 1 < 2 ^ 31 := by decide +kernel
  have told : ((vacated.registerServer ⟨"e"⟩ (.loopback 7005) .start).toOption.map (·.1)) =
      some ⟨1, 0⟩ := by
    decide +kernel
  obtain ⟨_, fits⟩ := new_servers_assigned_first_fit.2 (fun _ _ => True) .standard
    MemoryStore.empty .start vacated names run ⟨"e"⟩ (.loopback 7005) .start unknown few
  refine ⟨names, run, unknown, few, ?_⟩
  cases done : vacated.registerServer ⟨"e"⟩ (.loopback 7005) .start with
  | error e =>
    rw [done] at told
    cases told
  | ok outcome =>
    obtain ⟨zone, r'⟩ := outcome
    rw [done] at told
    obtain rfl : zone = ⟨1, 0⟩ := Option.some.inj told
    exact ⟨r', rfl, (fits _ r' done).1⟩

end Registry

end ShardedWorld
