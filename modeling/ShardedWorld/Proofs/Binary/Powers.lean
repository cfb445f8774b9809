import ShardedWorld.Proofs.Binary.Order

/-! Powers of numbers that are one at least.

Products may grow beyond the range of the format. They become infinite then, but they never become
something that is no number.
-/

set_option autoImplicit false

namespace ShardedWorld.Binary

variable {f : Format} {x y : Binary f}

/-- A number of the value `v` at least, or infinity. -/
def AtLeast (v : ℚ) (x : Binary f) : Prop := ∃ w, v ≤ w ∧ f.Represents w ∧ x.Yields w

theorem infinity_magnitude : (infinity false : Binary f).magnitude = .infinite false := by
  rw [infinity, Nat.pow_eq, magnitude_signed le_rfl, Nat.mul_div_cancel _ (Nat.two_pow_pos _),
    if_pos rfl, Nat.mul_mod_left, if_pos rfl]

theorem mul_infinite {v : ℚ} (amounts : x.Amounts v) (positive : 0 < v)
    (infinite : y.magnitude = .infinite false) :
    x * y = infinity false ∧ y * x = infinity false := by
  obtain ⟨m, e, said, rfl⟩ := amounts
  have some : m ≠ 0 := by
    rintro rfl
    simp at positive
  constructor
  · show mul x y = _
    simp [mul, said, infinite, some]
  · show mul y x = _
    simp [mul, said, infinite, some]

variable [NeZero f.exponentBits]

theorem AtLeast.of_infinity {v : ℚ} (within : v ≤ f.overflow) :
    (infinity false : Binary f).AtLeast v :=
  ⟨f.overflow, within, Format.represents_two_pow (by have := topField_positive (f := f); omega),
    .inr ⟨le_rfl, infinity_magnitude⟩⟩

theorem Amounts.mul_atLeast {v : ℚ} (first : x.Amounts v) (positive : 0 < v)
    (second : y.AtLeast 0) : (x * y).AtLeast 0 := by
  obtain ⟨w, nonneg, -, ⟨-, amounts⟩ | ⟨-, infinite⟩⟩ := second
  · obtain ⟨product, rounds, yields⟩ := mul_yields first amounts
    exact ⟨product, rounds.nonneg, rounds.represents, yields⟩
  · rw [(mul_infinite first positive infinite).1]
    exact .of_infinity (by unfold Format.overflow; positivity)

section One

variable (one : f.Represents 1) (wide : 1 < f.overflow)

include one wide

theorem AtLeast.mul (first : x.AtLeast 1) (second : y.AtLeast 1) : (x * y).AtLeast 1 := by
  obtain ⟨v, v_ge, -, ⟨-, x_amounts⟩ | ⟨-, x_infinite⟩⟩ := first <;>
    obtain ⟨w, w_ge, -, ⟨-, y_amounts⟩ | ⟨-, y_infinite⟩⟩ := second
  · obtain ⟨product, rounds, yields⟩ := mul_yields x_amounts y_amounts
    have large : 1 ≤ v * w := one_le_mul_of_one_le_of_one_le v_ge w_ge
    exact ⟨product, rounds.ge_of_ge one large, rounds.represents, yields⟩
  · rw [(mul_infinite x_amounts (by linarith) y_infinite).1]
    exact .of_infinity wide.le
  · rw [(mul_infinite y_amounts (by linarith) x_infinite).2]
    exact .of_infinity wide.le
  · have infinite : x * y = infinity false := by
      show Binary.mul x y = _
      simp [Binary.mul, x_infinite, y_infinite]
    rw [infinite]
    exact .of_infinity wide.le

theorem AtLeast.power_go {base result : Binary f} (steps n : Nat) (first : base.AtLeast 1)
    (second : result.AtLeast 1) : (power.go steps base n result).AtLeast 1 := by
  induction steps generalizing base n result with
  | zero => exact second
  | succ steps ih =>
    simp only [power.go]
    have next : (if n % 2 = 1 then result * base else result).AtLeast 1 := by
      split
      next odd => exact second.mul one wide first
      next even => exact second
    split
    next last => exact next
    next more => exact ih (n / 2) (first.mul one wide first) next

theorem one_amounts : (ofInt 1 : Binary f).Amounts 1 := by
  obtain ⟨v, rounds, yields⟩ := ofInt_yields (f := f) 1
  rw [Nat.cast_one] at rounds
  obtain rfl := rounds.eq_of_represents one
  exact yields.amounts wide

theorem atLeast_one (finite : x.isFinite = true) (ge : ofInt 1 ≤ x) : x.AtLeast 1 := by
  have unit := one_amounts one wide
  have positive : ∃ v, x.Amounts v := by
    cases said : x.magnitude with
    | nan => simp [isFinite, said] at finite
    | infinite negative => simp [isFinite, said] at finite
    | finite negative m e =>
      cases negative with
      | false => exact ⟨m * 2 ^ e, m, e, said, rfl⟩
      | true =>
        -- A number with a sign is below one.
        obtain ⟨n, g, unit_said, value⟩ := unit
        have some : 0 < n := by
          rcases Nat.eq_zero_or_pos n with rfl | some
          · simp at value
          · exact some
        have above : Magnitude.inUnits true m e (Min.min g e) <
            Magnitude.inUnits false n g (Min.min g e) := by
          have positive : 0 < (n : Int) * (2 ^ (g - Min.min g e).toNat : Nat) := by positivity
          have nonneg : 0 ≤ (m : Int) * (2 ^ (e - Min.min g e).toNat : Nat) := by positivity
          simp only [Magnitude.inUnits, Nat.pow_eq, if_true, Bool.false_eq_true, if_false]
          omega
        have compared : atMost (ofInt 1) x = true := ge
        simp [atMost, unit_said, said, Magnitude.compare?, compare_gt_iff_gt.mpr above] at compared
  obtain ⟨v, amounts⟩ := positive
  exact ⟨v, (le_iff_of_amounts unit amounts).mp ge, amounts.within.2,
    .inl ⟨amounts.within.1, amounts⟩⟩

/-- Powers of numbers from one upwards are numbers, and so are their inverses. -/
theorem AtLeast.powerInt (first : x.AtLeast 1) (n : Int) : (x.powerInt n).AtLeast 0 := by
  have unit := one_amounts one wide
  have power : (x.power n.natAbs).AtLeast 1 :=
    first.power_go one wide _ _ ⟨1, le_rfl, one, .inl ⟨wide, unit⟩⟩
  obtain ⟨v, ge, represented, yields⟩ := power
  unfold Binary.powerInt
  split
  next negative =>
    rcases yields with ⟨-, amounts⟩ | ⟨-, infinite⟩
    · obtain ⟨w, rounds, yields⟩ := div_yields unit amounts (by linarith)
      exact ⟨w, rounds.nonneg, rounds.represents, yields⟩
    · obtain ⟨m, e, said, -⟩ := unit
      have nothing : (ofInt 1 : Binary f) / x.power n.natAbs = ofRatio false 0 1 := by
        show Binary.div _ _ = _
        simp [Binary.div, said, infinite]
      obtain ⟨w, rounds, yields⟩ := ofRatio_yields (f := f) 0 Nat.one_pos
      rw [nothing]
      exact ⟨w, rounds.nonneg, rounds.represents, yields⟩
  next nonneg => exact ⟨v, zero_le_one.trans ge, represented, yields⟩

end One

end ShardedWorld.Binary
