import Mathlib.Algebra.Order.Field.Power
import Mathlib.Data.Nat.Cast.Order.Field
import Mathlib.Tactic.FieldSimp
import Mathlib.Tactic.Linarith
import Mathlib.Tactic.Positivity
import Mathlib.Tactic.Ring
import ShardedWorld.Binary.Arithmetic

/-! Rounding an exact value to the numbers of a format.

A value is counted in units, a power of two that the format has room for, and the nearest whole
number of them is taken. So no number of the format is nearer to the value than the one taken, and
it is off by half a unit at most. All this is about values that are not negative, and leaves the
range of the format open above.
-/

set_option autoImplicit false

namespace ShardedWorld

/-! Whole numbers nearest to a quotient. -/

theorem roundQuotient_bounds (num : Nat) {den : Nat} (positive : 0 < den) :
    2 * num ≤ 2 * (roundQuotient num den * den) + den ∧
      2 * (roundQuotient num den * den) ≤ 2 * num + den := by
  have parts : num / den * den + num % den = num := Nat.div_add_mod' num den
  have rest : num % den < den := Nat.mod_lt num positive
  unfold roundQuotient
  dsimp only
  split
  next up =>
    have half : den ≤ 2 * (num % den) := by
      simp only [Bool.or_eq_true, Bool.and_eq_true, decide_eq_true_eq, beq_iff_eq] at up
      omega
    rw [Nat.add_mul, Nat.one_mul]
    omega
  next down =>
    have half : 2 * (num % den) ≤ den := by
      simp only [Bool.or_eq_true, decide_eq_true_eq, not_or] at down
      omega
    omega

theorem roundQuotient_near (num : Nat) {den : Nat} (positive : 0 < den) :
    |(roundQuotient num den : ℚ) - num / den| ≤ 1 / 2 := by
  have positive' : (0 : ℚ) < den := by exact_mod_cast positive
  obtain ⟨below, above⟩ := roundQuotient_bounds num positive
  have below : 2 * (num : ℚ) ≤ 2 * (roundQuotient num den * den) + den := by exact_mod_cast below
  have above : 2 * ((roundQuotient num den : ℚ) * den) ≤ 2 * num + den := by exact_mod_cast above
  have whole : (num : ℚ) / den * den = num := div_mul_cancel₀ _ positive'.ne'
  rw [abs_le]
  constructor
  · by_contra far
    have := mul_lt_mul_of_pos_right (not_le.mp far) positive'
    linarith
  · by_contra far
    have := mul_lt_mul_of_pos_right (not_le.mp far) positive'
    linarith

/-- Of two whole numbers one half away at most is the nearest. -/
theorem near_le_near {n k : Int} {x : ℚ} (near : |(n : ℚ) - x| ≤ 1 / 2) :
    |(n : ℚ) - x| ≤ |(k : ℚ) - x| := by
  by_cases same : n = k
  · rw [same]
  · have apart : (1 : ℚ) ≤ |(n : ℚ) - k| := by
      exact_mod_cast Int.one_le_abs (sub_ne_zero.mpr same)
    have through := abs_sub_le (n : ℚ) x k
    rw [abs_sub_comm x] at through
    linarith

theorem distance_in_units (n exact : ℚ) (unit : Int) :
    |n * 2 ^ unit - exact| = |n - exact / 2 ^ unit| * 2 ^ unit := by
  have positive : (0 : ℚ) < 2 ^ unit := by positivity
  rw [← abs_of_pos positive, ← abs_mul, abs_of_pos positive, sub_mul,
    div_mul_cancel₀ _ positive.ne']

/-! The exponent of the largest power of two below a quotient. -/

theorem two_pow_toNat {k : Int} (nonneg : 0 ≤ k) : (2 : ℚ) ^ k.toNat = 2 ^ k := by
  rw [← zpow_natCast, Int.toNat_of_nonneg nonneg]

theorem reachesPower_iff {num den : Nat} (positive : 0 < den) (k : Int) :
    reachesPower num den k = true ↔ (2 : ℚ) ^ k ≤ num / den := by
  have positive' : (0 : ℚ) < den := by exact_mod_cast positive
  rw [le_div_iff₀ positive']
  unfold reachesPower
  split
  next nonneg =>
    rw [decide_eq_true_iff, ← two_pow_toNat nonneg, ← Nat.cast_le (α := ℚ), mul_comm]
    simp
  next negative =>
    have opposite : (2 : ℚ) ^ (-k).toNat = (2 ^ k)⁻¹ := by
      rw [two_pow_toNat (by omega), zpow_neg]
    have reciprocal : (2 : ℚ) ^ k * (2 ^ k)⁻¹ = 1 := mul_inv_cancel₀ (by positivity)
    have unit : (0 : ℚ) < (2 ^ k)⁻¹ := by positivity
    rw [decide_eq_true_iff, ← Nat.cast_le (α := ℚ),
      ← mul_le_mul_iff_of_pos_right (b := (2 : ℚ) ^ k * den) unit, mul_right_comm, reciprocal,
      one_mul]
    simp only [Nat.pow_eq, Nat.cast_mul, Nat.cast_pow, Nat.cast_ofNat, opposite]

theorem floorLog_bounds {num den : Nat} (some : 0 < num) (positive : 0 < den) :
    (2 : ℚ) ^ floorLog num den ≤ num / den ∧ (num : ℚ) / den < 2 ^ (floorLog num den + 1) := by
  have positive' : (0 : ℚ) < den := by exact_mod_cast positive
  have numLow : (2 : ℚ) ^ num.log2 ≤ num := by
    exact_mod_cast Nat.log2_self_le some.ne'
  have numHigh : (num : ℚ) < 2 ^ (num.log2 + 1) := by
    exact_mod_cast Nat.lt_log2_self (n := num)
  have denLow : (2 : ℚ) ^ den.log2 ≤ den := by
    exact_mod_cast Nat.log2_self_le positive.ne'
  have denHigh : (den : ℚ) < 2 ^ (den.log2 + 1) := by
    exact_mod_cast Nat.lt_log2_self (n := den)
  -- The lengths of both numbers leave two exponents.
  have above : (num : ℚ) / den < 2 ^ ((num.log2 : Int) - den.log2 + 1) := by
    have power : (2 : ℚ) ^ ((num.log2 : Int) - den.log2 + 1) =
        2 ^ (num.log2 + 1) / 2 ^ den.log2 := by
      rw [sub_add_eq_add_sub, zpow_sub₀ two_ne_zero, zpow_natCast]
      norm_cast
    rw [power]
    exact div_lt_div₀ numHigh denLow (by positivity) (by positivity)
  have below : (2 : ℚ) ^ ((num.log2 : Int) - den.log2 - 1) ≤ num / den := by
    have power : (2 : ℚ) ^ ((num.log2 : Int) - den.log2 - 1) =
        2 ^ num.log2 / 2 ^ (den.log2 + 1) := by
      rw [sub_sub, zpow_sub₀ two_ne_zero, zpow_natCast]
      norm_cast
    rw [power]
    exact div_le_div₀ (by positivity) numLow positive' denHigh.le
  unfold floorLog
  dsimp only
  split
  next reached => exact ⟨(reachesPower_iff positive _).mp reached, above⟩
  next missed =>
    rw [reachesPower_iff positive, not_le] at missed
    exact ⟨below, by rwa [sub_add_cancel]⟩

/-! Values rounded to a format. -/

namespace Format

/-- An exact value is rounded to a whole number of units. The unit is the smallest of the format, or
the value has as many binary digits before the point as the format keeps. -/
structure Counts (f : Format) (exact : ℚ) (count : Nat) (unit : Int) : Prop where
  nonneg : 0 ≤ exact
  least : f.minExponent ≤ unit
  below : exact < 2 ^ (unit + f.fractionBits + 1)
  normal : unit = f.minExponent ∨ 2 ^ (unit + f.fractionBits) ≤ exact
  near : |(count : ℚ) - exact / 2 ^ unit| ≤ 1 / 2

/-- A value that a format with exponents without end above has a number for. -/
def Represents (f : Format) (v : ℚ) : Prop :=
  ∃ (count : Nat) (unit : Int),
    count ≤ 2 ^ (f.fractionBits + 1) ∧ f.minExponent ≤ unit ∧ v = count * 2 ^ unit

/-- The number `v` is what an exact value is rounded to. -/
def Rounds (f : Format) (exact v : ℚ) : Prop :=
  ∃ (count : Nat) (unit : Int), f.Counts exact count unit ∧ v = count * 2 ^ unit

variable {f : Format}

theorem Represents.nonneg {v : ℚ} (represented : f.Represents v) : 0 ≤ v := by
  obtain ⟨count, unit, -, -, rfl⟩ := represented
  positivity

theorem represents_zero (f : Format) : f.Represents 0 :=
  ⟨0, f.minExponent, Nat.zero_le _, le_rfl, by simp⟩

theorem represents_two_pow {k : Int} (least : f.minExponent ≤ k) : f.Represents (2 ^ k) :=
  ⟨1, k, Nat.one_le_two_pow, least, by simp⟩

theorem Represents.sub_natCast {v : ℚ} {n : Nat} (represented : f.Represents v) (le : n ≤ v)
    (lt : v < n + 1) : f.Represents (v - n) := by
  obtain ⟨count, unit, few, least, rfl⟩ := represented
  by_cases whole : 0 ≤ unit
  · -- A whole number is more by nothing.
    have value : (count : ℚ) * 2 ^ unit = (count * 2 ^ unit.toNat : Nat) := by
      push_cast
      rw [two_pow_toNat whole]
    rw [value] at le lt ⊢
    have same : count * 2 ^ unit.toNat = n :=
      le_antisymm (Nat.le_of_lt_succ (by exact_mod_cast lt)) (by exact_mod_cast le)
    rw [same, sub_self]
    exact f.represents_zero
  · have value : (n : ℚ) = (n * 2 ^ (-unit).toNat : Nat) * 2 ^ unit := by
      push_cast
      rw [two_pow_toNat (by omega), mul_assoc, ← zpow_add₀ two_ne_zero, neg_add_cancel, zpow_zero,
        mul_one]
    rw [value] at le ⊢
    have fits : n * 2 ^ (-unit).toNat ≤ count := by
      exact_mod_cast le_of_mul_le_mul_right le (by positivity)
    refine ⟨count - n * 2 ^ (-unit).toNat, unit, (Nat.sub_le _ _).trans few, least, ?_⟩
    rw [Nat.cast_sub fits, sub_mul]

/-- Above the numbers with all digits before the point, there are only even ones. -/
theorem Represents.even {v : ℚ} (represented : f.Represents v)
    (large : 2 ^ (f.fractionBits + 1) < v) : ∃ half : Nat, v = 2 * half := by
  obtain ⟨count, unit, few, -, rfl⟩ := represented
  have few' : (count : ℚ) ≤ 2 ^ (f.fractionBits + 1) := by exact_mod_cast few
  have coarse : 0 < unit := by
    by_contra fine
    have small : (2 : ℚ) ^ unit ≤ 1 := zpow_le_one_of_nonpos₀ one_le_two (not_lt.mp fine)
    have : (count : ℚ) * 2 ^ unit ≤ count := mul_le_of_le_one_right (Nat.cast_nonneg _) small
    linarith
  refine ⟨count * 2 ^ (unit - 1).toNat, ?_⟩
  push_cast
  rw [two_pow_toNat (by omega), zpow_sub_one₀ two_ne_zero]
  ring

theorem represents_natCast {n : Nat} (least : f.minExponent ≤ 0)
    (few : n ≤ 2 ^ (f.fractionBits + 1)) : f.Represents n :=
  ⟨n, 0, few, least, by simp⟩

namespace Counts

variable {exact : ℚ} {count : Nat} {unit : Int} (counts : f.Counts exact count unit)

include counts

theorem count_le : count ≤ 2 ^ (f.fractionBits + 1) := by
  have few : exact / 2 ^ unit < 2 ^ (f.fractionBits + 1) := by
    rw [div_lt_iff₀ (by positivity), ← zpow_natCast, ← zpow_add₀ two_ne_zero]
    calc exact < 2 ^ (unit + f.fractionBits + 1) := counts.below
      _ = 2 ^ (((f.fractionBits + 1 : Nat) : Int) + unit) := by congr 1; push_cast; ring
  have near := (abs_le.mp counts.near).2
  have less : (count : ℚ) < ((2 ^ (f.fractionBits + 1) + 1 : Nat) : ℚ) := by
    push_cast
    linarith
  exact Nat.le_of_lt_succ (by exact_mod_cast less)

theorem le_count : unit = f.minExponent ∨ 2 ^ f.fractionBits ≤ count := by
  rcases counts.normal with least | normal
  · exact .inl least
  · right
    have many : (2 : ℚ) ^ f.fractionBits ≤ exact / 2 ^ unit := by
      rw [le_div_iff₀ (by positivity), ← zpow_natCast, ← zpow_add₀ two_ne_zero, add_comm]
      exact normal
    have near := (abs_le.mp counts.near).1
    have less : ((2 ^ f.fractionBits : Nat) : ℚ) < ((count + 1 : Nat) : ℚ) := by
      push_cast
      linarith
    exact Nat.le_of_lt_succ (by exact_mod_cast less)

theorem close : |(count : ℚ) * 2 ^ unit - exact| ≤ 2 ^ unit / 2 := by
  rw [distance_in_units]
  calc |(count : ℚ) - exact / 2 ^ unit| * 2 ^ unit
      ≤ 1 / 2 * 2 ^ unit := mul_le_mul_of_nonneg_right counts.near (by positivity)
    _ = 2 ^ unit / 2 := by ring

theorem nearest_of_units (k : Int) : |(count : ℚ) * 2 ^ unit - exact| ≤ |k * 2 ^ unit - exact| := by
  rw [distance_in_units, distance_in_units]
  exact mul_le_mul_of_nonneg_right (near_le_near (n := count) counts.near) (by positivity)

end Counts

namespace Rounds

variable {exact v : ℚ}

theorem represents (rounds : f.Rounds exact v) : f.Represents v := by
  obtain ⟨count, unit, counts, rfl⟩ := rounds
  exact ⟨count, unit, counts.count_le, counts.least, rfl⟩

theorem nonneg (rounds : f.Rounds exact v) : 0 ≤ v := rounds.represents.nonneg

/-- No number of the format is nearer. -/
theorem nearest (rounds : f.Rounds exact v) {u : ℚ} (represented : f.Represents u) :
    |v - exact| ≤ |u - exact| := by
  obtain ⟨count, unit, counts, rfl⟩ := rounds
  obtain ⟨other, finer, few, least, rfl⟩ := represented
  by_cases coarse : unit ≤ finer
  · -- The other number is a whole number of the same units.
    have whole : (other : ℚ) * 2 ^ finer =
        ((other * 2 ^ (finer - unit).toNat : Int) : ℚ) * 2 ^ unit := by
      push_cast
      rw [two_pow_toNat (by omega), mul_assoc, ← zpow_add₀ two_ne_zero, sub_add_cancel]
    rw [whole]
    exact counts.nearest_of_units _
  · -- The other number lies below the smallest one that takes all digits with these units.
    have normal : (2 : ℚ) ^ (unit + f.fractionBits) ≤ exact := by
      rcases counts.normal with smallest | normal
      · omega
      · exact normal
    have power : (2 : ℚ) ^ (unit + f.fractionBits) =
        ((2 ^ f.fractionBits : Int) : ℚ) * 2 ^ unit := by
      push_cast
      rw [← zpow_natCast, ← zpow_add₀ two_ne_zero, add_comm]
    have small : (other : ℚ) * 2 ^ finer ≤ 2 ^ (unit + f.fractionBits) := by
      calc (other : ℚ) * 2 ^ finer ≤ 2 ^ (f.fractionBits + 1) * 2 ^ finer := by
            apply mul_le_mul_of_nonneg_right _ (by positivity)
            exact_mod_cast few
        _ = 2 ^ (((f.fractionBits + 1 : Nat) : Int) + finer) := by
            rw [zpow_add₀ two_ne_zero, zpow_natCast]
        _ ≤ 2 ^ (unit + f.fractionBits) := by
            apply zpow_le_zpow_right₀ one_le_two
            push_cast
            omega
    have nearer := counts.nearest_of_units (2 ^ f.fractionBits)
    rw [← power, abs_of_nonpos (sub_nonpos.mpr normal)] at nearer
    rw [abs_of_nonpos (a := (other : ℚ) * 2 ^ finer - exact) (by linarith)]
    linarith

/-- Rounding does not pass a number of the format. -/
theorem le_of_le (rounds : f.Rounds exact v) {u : ℚ} (represented : f.Represents u)
    (le : exact ≤ u) : v ≤ u := by
  have nearest := rounds.nearest represented
  rw [abs_of_nonneg (sub_nonneg.mpr le)] at nearest
  linarith [le_abs_self (v - exact)]

theorem ge_of_ge (rounds : f.Rounds exact v) {u : ℚ} (represented : f.Represents u)
    (ge : u ≤ exact) : u ≤ v := by
  have nearest := rounds.nearest represented
  rw [abs_of_nonpos (sub_nonpos.mpr ge)] at nearest
  linarith [neg_abs_le (v - exact)]

theorem zero_or_ge (rounds : f.Rounds exact v) {u : ℚ} (represented : f.Represents u)
    (gap : exact = 0 ∨ u ≤ exact) : v = 0 ∨ u ≤ v := by
  rcases gap with rfl | ge
  · exact .inl (le_antisymm (rounds.le_of_le f.represents_zero le_rfl) rounds.nonneg)
  · exact .inr (rounds.ge_of_ge represented ge)

theorem eq_of_represents (rounds : f.Rounds exact v) (represented : f.Represents exact) :
    v = exact :=
  le_antisymm (rounds.le_of_le represented le_rfl) (rounds.ge_of_ge represented le_rfl)

theorem close_of_lt (rounds : f.Rounds exact v) {k : Int}
    (least : f.minExponent ≤ k) (below : exact < 2 ^ (k + f.fractionBits + 1)) :
    |v - exact| ≤ 2 ^ k / 2 := by
  obtain ⟨count, unit, counts, rfl⟩ := rounds
  have fine : unit ≤ k := by
    rcases counts.normal with smallest | normal
    · omega
    · have less := normal.trans_lt below
      rw [zpow_lt_zpow_iff_right₀ one_lt_two] at less
      omega
  calc |(count : ℚ) * 2 ^ unit - exact| ≤ 2 ^ unit / 2 := counts.close
    _ ≤ 2 ^ k / 2 := by
      apply div_le_div_of_nonneg_right _ zero_le_two
      exact zpow_le_zpow_right₀ one_le_two fine

/-- Above the numbers without all digits a value is moved by a fixed part of itself at most. -/
theorem close_of_ge (rounds : f.Rounds exact v)
    (normal : exact = 0 ∨ (2 : ℚ) ^ (f.minExponent + f.fractionBits) ≤ exact) :
    |v - exact| ≤ exact * (1 / 2 ^ (f.fractionBits + 1)) := by
  obtain ⟨count, unit, counts, rfl⟩ := rounds
  rcases normal with rfl | normal
  · have zero := counts.nearest_of_units 0
    simpa using zero
  · have many : (2 : ℚ) ^ unit * 2 ^ f.fractionBits ≤ exact := by
      rw [← zpow_natCast, ← zpow_add₀ two_ne_zero]
      rcases counts.normal with rfl | large
      · exact normal
      · exact large
    calc |(count : ℚ) * 2 ^ unit - exact| ≤ 2 ^ unit / 2 := counts.close
      _ = 2 ^ unit * 2 ^ f.fractionBits * (1 / 2 ^ (f.fractionBits + 1)) := by
        rw [pow_succ]
        field_simp
      _ ≤ exact * (1 / 2 ^ (f.fractionBits + 1)) :=
        mul_le_mul_of_nonneg_right many (by positivity)

end Rounds

theorem roundedBits_counts (f : Format) {num den : Nat} (some : 0 < num) (positive : 0 < den) :
    ∃ (count : Nat) (unit : Int), f.Counts (num / den) count unit ∧
      Binary.roundedBits f num den = min ((unit - f.minExponent).toNat * 2 ^ f.fractionBits + count)
        (f.topField * 2 ^ f.fractionBits) := by
  obtain ⟨low, high⟩ := floorLog_bounds some positive
  have positive' : (0 : ℚ) < den := by exact_mod_cast positive
  unfold Binary.roundedBits
  rw [if_neg some.ne']
  -- The unit is that of the last digit kept: of the leading one, or of the subnormal numbers.
  refine ⟨_, max f.minExponent (floorLog num den - f.fractionBits), ?_, rfl⟩
  generalize floorLog num den = log at low high
  refine ⟨by positivity, le_max_left _ _, ?_, ?_, ?_⟩
  · refine high.trans_le (zpow_le_zpow_right₀ one_le_two ?_)
    have := le_max_right f.minExponent (log - f.fractionBits)
    omega
  · rcases le_total (log - f.fractionBits) f.minExponent with least | normal
    · exact .inl (max_eq_left least)
    · right
      rwa [max_eq_right normal, sub_add_cancel]
  · generalize max f.minExponent (log - f.fractionBits) = unit
    split
    next coarse =>
      have quotient : (num : ℚ) / den / 2 ^ unit = num / (den * 2 ^ unit.toNat : Nat) := by
        push_cast
        rw [two_pow_toNat coarse, div_div]
      rw [quotient]
      exact roundQuotient_near num (Nat.mul_pos positive (Nat.two_pow_pos unit.toNat))
    next fine =>
      have quotient : (num : ℚ) / den / 2 ^ unit = (num * 2 ^ (-unit).toNat : Nat) / den := by
        push_cast
        rw [two_pow_toNat (by omega), zpow_neg]
        field_simp
      rw [quotient]
      exact roundQuotient_near (num * 2 ^ (-unit).toNat) positive

end Format

end ShardedWorld
