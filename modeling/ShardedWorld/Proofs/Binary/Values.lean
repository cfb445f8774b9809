import ShardedWorld.Proofs.Binary.Rounding

/-! The exact values of binary numbers, and what the operations make of them.

The bits of the numbers without sign count them from zero upwards, and past the last finite one
stands infinity. Each operation gives the number to which the exact result is rounded, or infinity
if that lies beyond the range of the format.
-/

set_option autoImplicit false

namespace ShardedWorld

instance : NeZero Format.single.exponentBits := ⟨by decide⟩
instance : NeZero Format.double.exponentBits := ⟨by decide⟩

namespace Format

variable {f : Format}

/-- The value of the `n`-th number above zero, as if the exponents had no end. -/
def valueAt (f : Format) (n : Nat) : ℚ :=
  if n / 2 ^ f.fractionBits = 0 then (n % 2 ^ f.fractionBits : Nat) * 2 ^ f.minExponent
  else (n % 2 ^ f.fractionBits + 2 ^ f.fractionBits : Nat) *
    2 ^ (f.minExponent + (n / 2 ^ f.fractionBits : Nat) - 1)

def overflow (f : Format) : ℚ := 2 ^ (f.minExponent + f.topField + f.fractionBits - 1)

/-- A count of units stands at the place that its bits name, also where it has reached the next
power of two. -/
theorem valueAt_count {k count : Nat} (few : count ≤ 2 ^ (f.fractionBits + 1))
    (many : k = 0 ∨ 2 ^ f.fractionBits ≤ count) :
    f.valueAt (k * 2 ^ f.fractionBits + count) = count * 2 ^ (f.minExponent + k) := by
  have whole : 0 < 2 ^ f.fractionBits := Nat.two_pow_pos _
  rw [pow_succ, mul_two] at few
  rw [valueAt]
  rcases lt_or_ge count (2 ^ f.fractionBits) with subnormal | normal
  · obtain rfl : k = 0 := by omega
    simp [Nat.div_eq_of_lt subnormal, Nat.mod_eq_of_lt subnormal]
  · obtain ⟨rest, rfl⟩ := Nat.exists_eq_add_of_le normal
    have places : k * 2 ^ f.fractionBits + (2 ^ f.fractionBits + rest) =
        (k + 1) * 2 ^ f.fractionBits + rest := by ring
    rw [places, Nat.add_comm, Nat.add_mul_div_right _ _ whole, Nat.add_mul_mod_self_right]
    rcases lt_or_ge rest (2 ^ f.fractionBits) with partly | full
    · rw [Nat.div_eq_of_lt partly, Nat.mod_eq_of_lt partly, if_neg (by omega), Nat.add_comm rest]
      congr 2
      push_cast
      ring
    · obtain rfl : rest = 2 ^ f.fractionBits := by omega
      rw [Nat.div_self whole, Nat.mod_self, if_neg (by omega)]
      push_cast
      rw [← mul_two, mul_assoc, ← zpow_one_add₀ two_ne_zero]
      congr 2
      · ring
      · ring

theorem valueAt_lt_overflow_iff (room : 0 < f.topField) (n : Nat) :
    f.valueAt n < f.overflow ↔ n < f.topField * 2 ^ f.fractionBits := by
  have whole : 0 < 2 ^ f.fractionBits := Nat.two_pow_pos _
  have part : n % 2 ^ f.fractionBits < 2 ^ f.fractionBits := Nat.mod_lt n whole
  have joined (k : Nat) (a : Int) : (2 : ℚ) ^ k * 2 ^ a = 2 ^ (k + a) := by
    rw [zpow_add₀ two_ne_zero, zpow_natCast]
  rw [← Nat.div_lt_iff_lt_mul whole, valueAt, overflow]
  generalize n % 2 ^ f.fractionBits = rest at *
  generalize n / 2 ^ f.fractionBits = field
  split
  next subnormal =>
    -- Field zero is below the top field, and its numbers are below the least normal one.
    have small : (rest : ℚ) * 2 ^ f.minExponent < 2 ^ f.fractionBits * 2 ^ f.minExponent := by
      apply mul_lt_mul_of_pos_right _ (by positivity)
      exact_mod_cast part
    rw [joined] at small
    refine iff_of_true (small.trans_le ?_) (by omega)
    exact zpow_le_zpow_right₀ one_le_two (by omega)
  next normal =>
    constructor
    · contrapose!
      intro beyond
      calc (2 : ℚ) ^ (f.minExponent + f.topField + f.fractionBits - 1)
          ≤ 2 ^ (f.fractionBits + (f.minExponent + field - 1)) :=
            zpow_le_zpow_right₀ one_le_two (by omega)
        _ = 2 ^ f.fractionBits * 2 ^ (f.minExponent + field - 1) := (joined _ _).symm
        _ ≤ (rest + 2 ^ f.fractionBits : Nat) * 2 ^ (f.minExponent + field - 1) := by
            apply mul_le_mul_of_nonneg_right _ (by positivity)
            exact_mod_cast Nat.le_add_left _ _
    · intro within
      calc ((rest + 2 ^ f.fractionBits : Nat) : ℚ) * 2 ^ (f.minExponent + field - 1)
          < 2 ^ (f.fractionBits + 1) * 2 ^ (f.minExponent + field - 1) := by
            apply mul_lt_mul_of_pos_right _ (by positivity)
            rw [pow_succ, mul_two]
            exact_mod_cast Nat.add_lt_add_right part _
        _ = 2 ^ (((f.fractionBits + 1 : Nat) : Int) + (f.minExponent + field - 1)) := joined _ _
        _ ≤ 2 ^ (f.minExponent + f.topField + f.fractionBits - 1) := by
            apply zpow_le_zpow_right₀ one_le_two
            push_cast
            omega

end Format

namespace Binary

variable {f : Format}

/-- The number is finite, has no sign, and is equal to `v`. -/
def Amounts (x : Binary f) (v : ℚ) : Prop :=
  ∃ significand exponent, x.magnitude = .finite false significand exponent ∧
    v = significand * 2 ^ exponent

/-- A result that would be `v` if the exponents had no end: `v` itself, or infinity beyond the
range of the format. -/
def Yields (x : Binary f) (v : ℚ) : Prop :=
  v < f.overflow ∧ x.Amounts v ∨ f.overflow ≤ v ∧ x.magnitude = .infinite false

theorem Amounts.nonneg {x : Binary f} {v : ℚ} (amounts : x.Amounts v) : 0 ≤ v := by
  obtain ⟨significand, exponent, -, rfl⟩ := amounts
  positivity

theorem Yields.amounts {x : Binary f} {v : ℚ} (yields : x.Yields v) (within : v < f.overflow) :
    x.Amounts v := by
  rcases yields with ⟨-, amounts⟩ | ⟨beyond, -⟩
  · exact amounts
  · exact absurd within (not_lt.mpr beyond)

theorem magnitude_signed {n : Nat} (within : n ≤ f.topField * 2 ^ f.fractionBits) :
    (signed false n : Binary f).magnitude =
      if n / 2 ^ f.fractionBits = f.topField then
        if n % 2 ^ f.fractionBits = 0 then .infinite false else .nan
      else if n / 2 ^ f.fractionBits = 0 then
        .finite false (n % 2 ^ f.fractionBits) f.minExponent
      else
        .finite false (n % 2 ^ f.fractionBits + 2 ^ f.fractionBits)
          (f.minExponent + (n / 2 ^ f.fractionBits : Nat) - 1) := by
  have top : f.topField < 2 ^ f.exponentBits := Nat.sub_lt (Nat.two_pow_pos _) Nat.one_pos
  have small : n < 2 ^ (f.exponentBits + f.fractionBits) := by
    rw [pow_add]
    exact within.trans_lt (Nat.mul_lt_mul_of_pos_right top (Nat.two_pow_pos _))
  have field : n / 2 ^ f.fractionBits < 2 ^ f.exponentBits := by
    rwa [Nat.div_lt_iff_lt_mul (Nat.two_pow_pos _), ← pow_add]
  have bits : (signed false n : Binary f).bits.toNat = n := by
    simp only [signed, ofNat, Bool.false_eq_true, if_false, BitVec.toNat_ofNat]
    apply Nat.mod_eq_of_lt
    refine small.trans_le (Nat.pow_le_pow_right Nat.two_pos ?_)
    unfold Format.width
    omega
  simp only [magnitude, bits, Nat.pow_eq, Nat.mod_eq_of_lt field, Nat.div_eq_of_lt small]
  simp

theorem ofScaled_zero (exponent : Int) :
    (ofScaled false 0 exponent : Binary f) = signed false 0 := by
  simp [ofScaled, ofRatio, roundedBits]

section Bits

variable [NeZero f.exponentBits]

theorem topField_positive : 0 < f.topField :=
  Nat.sub_pos_of_lt (Nat.one_lt_two_pow (NeZero.ne f.exponentBits))

theorem signed_yields (n : Nat) :
    (signed false (Min.min n (f.topField * 2 ^ f.fractionBits)) : Binary f).Yields
      (f.valueAt n) := by
  have within := Format.valueAt_lt_overflow_iff (f := f) topField_positive n
  by_cases finite : n < f.topField * 2 ^ f.fractionBits
  · left
    refine ⟨within.mpr finite, ?_⟩
    have said := magnitude_signed (f := f) finite.le
    have field := (Nat.div_lt_iff_lt_mul (Nat.two_pow_pos f.fractionBits)).mpr finite
    rw [if_neg field.ne] at said
    rw [Nat.min_eq_left finite.le, Format.valueAt]
    split at said
    next subnormal => exact ⟨_, _, said, by rw [if_pos subnormal]⟩
    next normal => exact ⟨_, _, said, by rw [if_neg normal]⟩
  · right
    refine ⟨not_lt.mp (mt within.mp finite), ?_⟩
    rw [Nat.min_eq_right (not_lt.mp finite), magnitude_signed le_rfl,
      Nat.mul_div_cancel _ (Nat.two_pow_pos _), if_pos rfl, Nat.mul_mod_left, if_pos rfl]

theorem zero_amounts : (zero : Binary f).Amounts 0 := by
  have yields := signed_yields (f := f) 0
  rw [Nat.zero_min, Format.valueAt, Nat.zero_div, if_pos rfl, Nat.zero_mod, Nat.cast_zero,
    zero_mul] at yields
  exact yields.amounts (by unfold Format.overflow; positivity)

theorem ofRatio_yields (num : Nat) {den : Nat} (positive : 0 < den) :
    ∃ v, f.Rounds (num / den) v ∧ (ofRatio false num den : Binary f).Yields v := by
  rcases Nat.eq_zero_or_pos num with rfl | some
  · have nothing : f.Counts 0 0 f.minExponent :=
      ⟨le_rfl, le_rfl, by positivity, .inl rfl, by simp⟩
    refine ⟨0, ?_, .inl ⟨by unfold Format.overflow; positivity, zero_amounts⟩⟩
    rw [Nat.cast_zero, zero_div]
    exact ⟨0, f.minExponent, nothing, by simp⟩
  · obtain ⟨count, unit, counts, bits⟩ := f.roundedBits_counts some positive
    refine ⟨count * 2 ^ unit, ⟨count, unit, counts, rfl⟩, ?_⟩
    have place := Format.valueAt_count (f := f) (k := (unit - f.minExponent).toNat) counts.count_le
      (counts.le_count.imp_left fun least => by rw [least, sub_self]; rfl)
    have exponent : f.minExponent + (unit - f.minExponent).toNat = unit := by
      have := counts.least
      omega
    have yields :=
      signed_yields (f := f) ((unit - f.minExponent).toNat * 2 ^ f.fractionBits + count)
    rwa [← bits, place, exponent] at yields

theorem ofScaled_yields (significand : Nat) (exponent : Int) :
    ∃ v, f.Rounds (significand * 2 ^ exponent) v ∧
      (ofScaled false significand exponent : Binary f).Yields v := by
  unfold ofScaled
  split
  next nonneg =>
    have yields := ofRatio_yields (f := f) (significand * 2 ^ exponent.toNat) Nat.one_pos
    push_cast at yields
    rwa [two_pow_toNat nonneg, div_one] at yields
  next negative =>
    have yields := ofRatio_yields (f := f) significand (Nat.two_pow_pos (-exponent).toNat)
    push_cast at yields
    rwa [two_pow_toNat (by omega), zpow_neg, div_inv_eq_mul] at yields

theorem ofInt_yields (n : Nat) : ∃ v, f.Rounds n v ∧ (ofInt n : Binary f).Yields v := by
  have yields := ofRatio_yields (f := f) n Nat.one_pos
  rwa [Nat.cast_one, div_one] at yields

variable {x y : Binary f} {a b : ℚ}

theorem add_yields (first : x.Amounts a) (second : y.Amounts b) :
    ∃ v, f.Rounds (a + b) v ∧ (x + y).Yields v := by
  obtain ⟨m, e, left, rfl⟩ := first
  obtain ⟨n, g, right, rfl⟩ := second
  -- Both numbers are whole in the finer one of their units.
  generalize unit_eq : Min.min e g = unit
  have sum : x + y = ofScaled false
      (m * 2 ^ (e - unit).toNat + n * 2 ^ (g - unit).toNat) unit := by
    show add x y = _
    simp only [add, left, right, unit_eq, Magnitude.inUnits, Bool.false_eq_true, if_false,
      Bool.and_false]
    generalize total_eq : m * 2 ^ (e - unit).toNat + n * 2 ^ (g - unit).toNat = total
    have total_eq : (m : Int) * (Nat.pow 2 (e - unit).toNat : Nat) +
        n * (Nat.pow 2 (g - unit).toNat : Nat) = (total : Nat) := by
      rw [← total_eq]
      simp
    simp only [total_eq]
    split
    next zero =>
      obtain rfl : total = 0 := by omega
      exact (ofScaled_zero unit).symm
    next => rw [Int.natAbs_natCast, decide_eq_false (by omega)]
  have exact : (m : ℚ) * 2 ^ e + n * 2 ^ g =
      (m * 2 ^ (e - unit).toNat + n * 2 ^ (g - unit).toNat : Nat) * 2 ^ unit := by
    push_cast
    rw [two_pow_toNat (by omega), two_pow_toNat (by omega), zpow_sub₀ two_ne_zero,
      zpow_sub₀ two_ne_zero]
    field_simp
  rw [sum, exact]
  exact ofScaled_yields _ unit

theorem mul_yields (first : x.Amounts a) (second : y.Amounts b) :
    ∃ v, f.Rounds (a * b) v ∧ (x * y).Yields v := by
  obtain ⟨m, e, left, rfl⟩ := first
  obtain ⟨n, g, right, rfl⟩ := second
  have product : x * y = ofScaled false (m * n) (e + g) := by
    show mul x y = _
    simp [mul, left, right]
  have exact : (m : ℚ) * 2 ^ e * (n * 2 ^ g) = (m * n : Nat) * 2 ^ (e + g) := by
    rw [zpow_add₀ two_ne_zero]
    push_cast
    ring
  rw [product, exact]
  exact ofScaled_yields (m * n) (e + g)

theorem div_yields (first : x.Amounts a) (second : y.Amounts b) (some : 0 < b) :
    ∃ v, f.Rounds (a / b) v ∧ (x / y).Yields v := by
  obtain ⟨m, e, left, rfl⟩ := first
  obtain ⟨n, g, right, rfl⟩ := second
  have divisor : 0 < n := by
    rcases Nat.eq_zero_or_pos n with rfl | positive
    · simp at some
    · exact positive
  have exact : (m : ℚ) * 2 ^ e / (n * 2 ^ g) = m * 2 ^ (e - g) / n := by
    rw [zpow_sub₀ two_ne_zero]
    field_simp
  rw [exact]
  show ∃ v, f.Rounds _ v ∧ (div x y).Yields v
  -- What is left of the powers of two is put where it makes a whole number.
  simp only [div, left, right, if_neg divisor.ne', bne_self_eq_false]
  split
  next coarse =>
    have yields := ofRatio_yields (f := f) (m * 2 ^ (e - g).toNat) divisor
    push_cast at yields
    rwa [two_pow_toNat coarse] at yields
  next fine =>
    have yields :=
      ofRatio_yields (f := f) m (Nat.mul_pos divisor (Nat.two_pow_pos (-(e - g)).toNat))
    have quotient : (m : ℚ) * 2 ^ (e - g) / n = m / (n * 2 ^ (-(e - g)).toNat : Nat) := by
      push_cast
      rw [two_pow_toNat (by omega), zpow_neg]
      field_simp
    rwa [quotient]

theorem place_within {k count : Nat} (few : count ≤ 2 ^ (f.fractionBits + 1))
    (many : k = 0 ∨ 2 ^ f.fractionBits ≤ count)
    (place : k * 2 ^ f.fractionBits + count < f.topField * 2 ^ f.fractionBits) :
    (count : ℚ) * 2 ^ (f.minExponent + k) < f.overflow ∧
      f.Represents (count * 2 ^ (f.minExponent + k)) := by
  refine ⟨?_, count, f.minExponent + k, few, by omega, rfl⟩
  rw [← Format.valueAt_count few many, Format.valueAt_lt_overflow_iff topField_positive]
  exact place

theorem Amounts.within {v : ℚ} (amounts : x.Amounts v) : v < f.overflow ∧ f.Represents v := by
  obtain ⟨m, e, said, rfl⟩ := amounts
  have fraction_lt := Nat.mod_lt x.bits.toNat (Nat.two_pow_pos f.fractionBits)
  have field_lt := Nat.mod_lt (x.bits.toNat / 2 ^ f.fractionBits) (Nat.two_pow_pos f.exponentBits)
  simp only [magnitude, Nat.pow_eq] at said
  generalize x.bits.toNat % 2 ^ f.fractionBits = fraction at said fraction_lt
  generalize x.bits.toNat / 2 ^ f.fractionBits % 2 ^ f.exponentBits = field at said field_lt
  have top : f.topField + 1 = 2 ^ f.exponentBits := Nat.sub_add_cancel (Nat.two_pow_pos _)
  split at said
  next special => split at said <;> cases said
  next regular =>
    have less : field < f.topField := by omega
    have next_field := Nat.mul_le_mul_right (2 ^ f.fractionBits) (Nat.succ_le_of_lt less)
    rw [Nat.succ_mul] at next_field
    split at said
    next subnormal =>
      obtain ⟨-, rfl, rfl⟩ := Magnitude.finite.inj said
      have few : fraction ≤ 2 ^ (f.fractionBits + 1) := by
        rw [pow_succ]
        omega
      simpa using place_within (k := 0) few (.inl rfl) (by omega)
    next normal =>
      obtain ⟨-, rfl, rfl⟩ := Magnitude.finite.inj said
      -- The leading digit is not written down, and counts as one more in the field.
      have place : (field - 1) * 2 ^ f.fractionBits + (fraction + 2 ^ f.fractionBits) =
          field * 2 ^ f.fractionBits + fraction := by
        rw [Nat.sub_mul, Nat.one_mul]
        have := Nat.le_mul_of_pos_left (2 ^ f.fractionBits) (Nat.pos_of_ne_zero normal)
        omega
      have few : fraction + 2 ^ f.fractionBits ≤ 2 ^ (f.fractionBits + 1) := by
        rw [pow_succ]
        omega
      have found := place_within (k := field - 1) few (.inr (Nat.le_add_left _ _)) (by omega)
      rwa [show f.minExponent + (field - 1 : Nat) = f.minExponent + field - 1 by omega] at found

end Bits

end Binary

end ShardedWorld
