import Mathlib.Algebra.Order.Floor.Semifield
import Mathlib.Data.Rat.Floor
import ShardedWorld.Proofs.Binary.Values

/-! The order of binary numbers, which is the order of their values, and numbers made whole. -/

set_option autoImplicit false

namespace ShardedWorld.Binary

variable {f : Format} {x y : Binary f} {a b : ℚ}

theorem inUnits_value {e unit : Int} (m : Nat) (fine : unit ≤ e) :
    (Magnitude.inUnits false m e unit : ℚ) * 2 ^ unit = m * 2 ^ e := by
  simp only [Magnitude.inUnits, Bool.false_eq_true, if_false]
  push_cast
  rw [Nat.pow_eq, Nat.cast_pow, Nat.cast_ofNat, two_pow_toNat (by omega), mul_assoc,
    ← zpow_add₀ two_ne_zero, sub_add_cancel]

theorem compare?_of_amounts (first : x.Amounts a) (second : y.Amounts b) :
    ∃ (k l : Int) (unit : ℚ), 0 < unit ∧ a = k * unit ∧ b = l * unit ∧
      Magnitude.compare? x.magnitude y.magnitude = some (compare k l) := by
  obtain ⟨m, e, left, rfl⟩ := first
  obtain ⟨n, g, right, rfl⟩ := second
  refine ⟨_, _, 2 ^ Min.min e g, by positivity, (inUnits_value m (by omega)).symm,
    (inUnits_value n (by omega)).symm, ?_⟩
  rw [left, right]
  rfl

theorem lt_iff_of_amounts (first : x.Amounts a) (second : y.Amounts b) : x < y ↔ a < b := by
  obtain ⟨k, l, unit, positive, rfl, rfl, compared⟩ := compare?_of_amounts first second
  show below x y = true ↔ _
  rw [below, compared, beq_iff_eq, Option.some_inj, compare_lt_iff_lt,
    mul_lt_mul_iff_of_pos_right positive, Int.cast_lt]

theorem le_iff_of_amounts (first : x.Amounts a) (second : y.Amounts b) : x ≤ y ↔ a ≤ b := by
  obtain ⟨k, l, unit, positive, rfl, rfl, compared⟩ := compare?_of_amounts first second
  show atMost x y = true ↔ _
  rw [atMost, compared, mul_le_mul_iff_of_pos_right positive, Int.cast_le, ← compare_le_iff_le]
  cases compare k l <;> decide

theorem Amounts.isNaN (amounts : x.Amounts a) : x.isNaN = false := by
  obtain ⟨m, e, said, -⟩ := amounts
  simp [Binary.isNaN, said]

theorem min_of_lt (less : x < y) : x.min y = x := by
  simp [min, less]

theorem min_of_not_lt (second : y.Amounts b) (le : ¬x < y) : x.min y = y := by
  simp [min, second.isNaN, le]

theorem compare?_swap (a b : Magnitude) :
    (Magnitude.compare? a b).map Ordering.swap = Magnitude.compare? b a := by
  cases a with
  | nan => cases b <;> rfl
  | infinite negative =>
    cases b with
    | nan => rfl
    | infinite other => exact congrArg some Std.OrientedOrd.eq_swap.symm
    | finite => cases negative <;> rfl
  | finite negative m e =>
    cases b with
    | nan => rfl
    | infinite other => cases other <;> rfl
    | finite other n g =>
      simp only [Magnitude.compare?, Option.map_some, min_comm g e]
      exact congrArg some Std.OrientedOrd.eq_swap.symm

theorem not_lt_of_agrees (agrees : x.agrees y = true) : ¬y < x := by
  have same : Magnitude.compare? x.magnitude y.magnitude = some .eq := beq_iff_eq.mp agrees
  show ¬below y x = true
  rw [below, ← compare?_swap, same]
  decide

section Range

variable [NeZero f.exponentBits]

theorem max_zero_of_positive (amounts : x.Amounts a) (positive : 0 < a) : x.max zero = x := by
  have less : zero < x := (lt_iff_of_amounts zero_amounts amounts).mpr positive
  simp [max, less]

theorem Amounts.max_zero (amounts : x.Amounts a) : (x.max zero).Amounts a := by
  rcases amounts.nonneg.eq_or_lt with rfl | positive
  · have number : (zero : Binary f).isNaN = false := zero_amounts.isNaN
    have least : ¬zero < x := by
      rw [lt_iff_of_amounts zero_amounts amounts]
      exact lt_irrefl 0
    simp [max, number, least, zero_amounts]
  · rwa [max_zero_of_positive amounts positive]

/-- Infinity is compared as the result that it stands for. -/
theorem lt_iff_of_yields (first : x.Yields a) (second : y.Amounts b) : x < y ↔ a < b := by
  rcases first with ⟨-, amounts⟩ | ⟨beyond, infinite⟩
  · exact lt_iff_of_amounts amounts second
  · apply iff_of_false _ (not_lt.mpr (second.within.1.le.trans beyond))
    obtain ⟨m, e, said, -⟩ := second
    show ¬below x y = true
    simp [below, infinite, said, Magnitude.compare?]

theorem le_iff_of_yields (first : x.Amounts a) (second : y.Yields b) : x ≤ y ↔ a ≤ b := by
  rcases second with ⟨-, amounts⟩ | ⟨beyond, infinite⟩
  · exact le_iff_of_amounts first amounts
  · apply iff_of_true _ (first.within.1.le.trans beyond)
    obtain ⟨m, e, said, -⟩ := first
    show atMost x y = true
    simp [atMost, infinite, said, Magnitude.compare?]

end Range

/-! Numbers made whole. -/

theorem floor_add_half (num : Nat) {den : Nat} (positive : 0 < den) :
    ⌊(num : ℚ) / den + 1 / 2⌋₊ = (2 * num + den) / (2 * den) := by
  have positive' : (den : ℚ) ≠ 0 := by exact_mod_cast positive.ne'
  rw [← Nat.floor_div_eq_div (K := ℚ)]
  congr 1
  push_cast
  field_simp

theorem floor_of_near {n : Nat} {v : ℚ} (above : n - 1 / 2 ≤ v) (below : v < n + 1 / 2) :
    ⌊v + 1 / 2⌋₊ = n := by
  have nonneg : (0 : ℚ) ≤ n := Nat.cast_nonneg n
  rw [Nat.floor_eq_iff (by linarith)]
  constructor <;> linarith

/-- Halves go up, and what lies above the limit becomes the limit. -/
theorem nearestInt_of_amounts {x : Binary f} {v : ℚ} (amounts : x.Amounts v) (limit : Nat) :
    (x.nearestInt 0 limit).toNat = Min.min ⌊v + 1 / 2⌋₊ limit := by
  obtain ⟨m, e, said, rfl⟩ := amounts
  have clamped (n : Nat) : (clamp 0 limit n).toNat = Min.min n limit := by
    unfold clamp
    split_ifs <;> omega
  simp only [nearestInt, toIntWith, said, Bool.false_eq_true, if_false]
  split
  next whole =>
    have value : (m : ℚ) * 2 ^ e = (m * 2 ^ e.toNat : Nat) / (1 : Nat) := by
      push_cast
      rw [two_pow_toNat whole, div_one]
    rw [value, floor_add_half _ Nat.one_pos, ← clamped]
    congr 2
    rw [Nat.pow_eq]
    push_cast
    omega
  next fraction =>
    have value : (m : ℚ) * 2 ^ e = m / (2 ^ (-e).toNat : Nat) := by
      push_cast
      rw [two_pow_toNat (by omega), zpow_neg, div_inv_eq_mul]
    rw [value, floor_add_half _ (Nat.two_pow_pos _), ← clamped]
    congr 2
    rcases Nat.eq_zero_or_pos m with rfl | some
    · have nothing : 2 ^ (-e).toNat / (2 * 2 ^ (-e).toNat) = 0 :=
        Nat.div_eq_of_lt (by have := Nat.two_pow_pos (-e).toNat; omega)
      simp [nothing]
    · rw [Int.sign_natCast_of_ne_zero some.ne', one_mul]
      rfl

end ShardedWorld.Binary
