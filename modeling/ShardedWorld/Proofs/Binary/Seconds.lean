import ShardedWorld.Proofs.Binary.Values
import ShardedWorld.Time

/-! Lengths of time as numbers of seconds, there and back.

A length of time becomes a number by four roundings: of the whole seconds, of the nanoseconds, of
their quotient, and of the sum. So it is off by a small part of itself, and in double precision the
way back finds the same length again up to some months. Whatever its length, it does not come out
longer than a number of the format that is at least as long.
-/

set_option autoImplicit false

namespace ShardedWorld

/-- A format with room for all lengths of time, in which a nanosecond has all its digits. -/
structure Format.KeepsTime (f : Format) : Prop where
  digits : 20 ≤ f.fractionBits
  fine : f.minExponent + f.fractionBits ≤ -30
  wide : 66 ≤ f.minExponent + f.topField + f.fractionBits - 1

theorem Format.single_keepsTime : Format.single.KeepsTime := by
  constructor <;> decide

theorem Format.double_keepsTime : Format.double.KeepsTime := by
  constructor <;> decide

namespace Duration

def exactSeconds (d : Duration) : ℚ := d.nanos / perSecond

theorem exactSeconds_eq (d : Duration) :
    d.exactSeconds = d.seconds + (d.subsecond : ℚ) / perSecond := by
  have parts : perSecond * d.seconds + d.subsecond = d.nanos := Nat.div_add_mod d.nanos perSecond
  have positive : (perSecond : ℚ) ≠ 0 := by norm_num [perSecond]
  rw [exactSeconds, ← parts]
  push_cast
  field_simp

theorem subsecond_lt (d : Duration) : d.subsecond < 1000000000 := Nat.mod_lt d.nanos (by decide)

theorem seconds_lt {d : Duration} (held : d < limit) : d.seconds < 2 ^ 64 := by
  have below : d.nanos < 2 ^ 64 * perSecond := held
  exact Nat.div_lt_of_lt_mul (by rwa [Nat.mul_comm])

theorem natCast_gap (n : Nat) : (n : ℚ) = 0 ∨ 1 ≤ (n : ℚ) := by
  rcases Nat.eq_zero_or_pos n with rfl | some
  · exact .inl Nat.cast_zero
  · exact .inr (by exact_mod_cast some)

/-- The four roundings on the way to a number of seconds. -/
structure Rounded (f : Format) (d : Duration) (whole rest part sum : ℚ) : Prop where
  ofSeconds : f.Rounds d.seconds whole
  ofSubsecond : f.Rounds d.subsecond rest
  ofQuotient : f.Rounds (rest / perSecond) part
  ofSum : f.Rounds (whole + part) sum

variable {f : Format} {d : Duration}

section Bounds

variable (keeps : f.KeepsTime)

include keeps

theorem represents_perSecond : f.Represents perSecond := by
  have fine := keeps.fine
  refine ⟨1953125, 9, ?_, by omega, by norm_num [perSecond]⟩
  calc 1953125 ≤ 2 ^ 21 := by decide
    _ ≤ 2 ^ (f.fractionBits + 1) := Nat.pow_le_pow_right Nat.two_pos (Nat.succ_le_succ keeps.digits)

theorem represents_one : f.Represents 1 := by
  have fine := keeps.fine
  simpa using Format.represents_two_pow (f := f) (k := 0) (by omega)

theorem two_pow_lt_overflow : (2 : ℚ) ^ (65 : Int) < f.overflow :=
  zpow_lt_zpow_right₀ one_lt_two (by have := keeps.wide; omega)

variable {whole rest part sum : ℚ}

theorem whole_le (held : d < limit) (ofSeconds : f.Rounds d.seconds whole) :
    whole ≤ 2 ^ (64 : Int) := by
  have fine := keeps.fine
  apply ofSeconds.le_of_le (Format.represents_two_pow (by omega))
  exact_mod_cast (seconds_lt held).le

theorem rest_le (ofSubsecond : f.Rounds d.subsecond rest) : rest ≤ perSecond := by
  apply ofSubsecond.le_of_le (represents_perSecond keeps)
  exact_mod_cast d.subsecond_lt.le

theorem part_le (ofSubsecond : f.Rounds d.subsecond rest)
    (ofQuotient : f.Rounds (rest / perSecond) part) : part ≤ 1 := by
  apply ofQuotient.le_of_le (represents_one keeps)
  exact div_le_one_of_le₀ (rest_le keeps ofSubsecond) (by positivity)

theorem Rounded.sum_le (held : d < limit) (rounded : Rounded f d whole rest part sum) :
    sum ≤ 2 ^ (65 : Int) := by
  have fine := keeps.fine
  have whole_le := whole_le keeps held rounded.ofSeconds
  have part_le := part_le keeps rounded.ofSubsecond rounded.ofQuotient
  apply rounded.ofSum.le_of_le (Format.represents_two_pow (by omega))
  norm_num at whole_le ⊢
  linarith

theorem toSeconds_amounts [NeZero f.exponentBits] (held : d < limit) :
    ∃ whole rest part sum, Rounded f d whole rest part sum ∧
      (d.toSeconds : Binary f).Amounts sum := by
  have wide := two_pow_lt_overflow keeps
  have within {v : ℚ} (le : v ≤ 2 ^ (64 : Int)) : v < f.overflow :=
    (le.trans (zpow_le_zpow_right₀ one_le_two (by decide))).trans_lt wide
  have second : (Binary.ofInt perSecond : Binary f).Amounts perSecond := by
    obtain ⟨v, rounds, yields⟩ := Binary.ofInt_yields (f := f) perSecond
    obtain rfl := rounds.eq_of_represents (represents_perSecond keeps)
    exact yields.amounts (within (by norm_num [perSecond]))
  obtain ⟨whole, ofSeconds, wholeYields⟩ := Binary.ofInt_yields (f := f) d.seconds
  obtain ⟨rest, ofSubsecond, restYields⟩ := Binary.ofInt_yields (f := f) d.subsecond
  have wholeAmounts := wholeYields.amounts (within (whole_le keeps held ofSeconds))
  have restAmounts := restYields.amounts
    (within ((rest_le keeps ofSubsecond).trans (by norm_num [perSecond])))
  obtain ⟨part, ofQuotient, partYields⟩ :=
    Binary.div_yields restAmounts second (by norm_num [perSecond])
  have partAmounts := partYields.amounts
    (within ((part_le keeps ofSubsecond ofQuotient).trans (by norm_num)))
  obtain ⟨sum, ofSum, sumYields⟩ := Binary.add_yields wholeAmounts partAmounts
  have rounded : Rounded f d whole rest part sum := ⟨ofSeconds, ofSubsecond, ofQuotient, ofSum⟩
  exact ⟨whole, rest, part, sum, rounded,
    sumYields.amounts ((rounded.sum_le keeps held).trans_lt wide)⟩

/-! The number of seconds is off by a small part of itself. -/

theorem rounds_between {exact v : ℚ} (rounds : f.Rounds exact v)
    (normal : exact = 0 ∨ 2 ^ (-30 : Int) ≤ exact) :
    exact * (1 - 1 / 2 ^ (f.fractionBits + 1)) ≤ v ∧
      v ≤ exact * (1 + 1 / 2 ^ (f.fractionBits + 1)) := by
  have fine := keeps.fine
  have close := rounds.close_of_ge
    (normal.imp_right ((zpow_le_zpow_right₀ one_le_two (by omega)).trans))
  have bounds := abs_le.mp close
  constructor <;> linarith

/-- No number on the way lies between zero and a second halved thirty times. -/
theorem Rounded.gaps {whole rest part sum : ℚ} (rounded : Rounded f d whole rest part sum) :
    (rest / perSecond = 0 ∨ 2 ^ (-30 : Int) ≤ rest / perSecond) ∧
      (whole + part = 0 ∨ 2 ^ (-30 : Int) ≤ whole + part) := by
  have fine := keeps.fine
  have one := represents_one keeps
  have small : f.Represents (2 ^ (-30 : Int)) := Format.represents_two_pow (by omega)
  have whole_gap := rounded.ofSeconds.zero_or_ge one (natCast_gap _)
  have quotient_gap : rest / perSecond = 0 ∨ 2 ^ (-30 : Int) ≤ rest / perSecond := by
    rcases rounded.ofSubsecond.zero_or_ge one (natCast_gap _) with zero | some
    · exact .inl (by rw [zero, zero_div])
    · right
      calc (2 : ℚ) ^ (-30 : Int) ≤ 1 / perSecond := by norm_num [perSecond]
        _ ≤ rest / perSecond := div_le_div_of_nonneg_right some (by norm_num [perSecond])
  have part_gap := rounded.ofQuotient.zero_or_ge small quotient_gap
  refine ⟨quotient_gap, ?_⟩
  have part_nonneg := rounded.ofQuotient.nonneg
  rcases whole_gap with none | some
  · rwa [none, zero_add]
  · right
    norm_num at *
    linarith

theorem Rounded.close {whole rest part sum : ℚ} (rounded : Rounded f d whole rest part sum) :
    d.exactSeconds * (1 - 1 / 2 ^ (f.fractionBits + 1)) ^ 3 ≤ sum ∧
      sum ≤ d.exactSeconds * (1 + 1 / 2 ^ (f.fractionBits + 1)) ^ 3 := by
  -- Each of the four roundings moves a number by a factor; the subsecond goes through three.
  obtain ⟨quotient_gap, sum_gap⟩ := rounded.gaps keeps
  have counted (n : Nat) : (n : ℚ) = 0 ∨ 2 ^ (-30 : Int) ≤ (n : ℚ) :=
    (natCast_gap n).imp_right (le_trans (by norm_num))
  obtain ⟨wholeLow, wholeHigh⟩ := rounds_between keeps rounded.ofSeconds (counted _)
  obtain ⟨restLow, restHigh⟩ := rounds_between keeps rounded.ofSubsecond (counted _)
  obtain ⟨partLow, partHigh⟩ := rounds_between keeps rounded.ofQuotient quotient_gap
  obtain ⟨sumLow, sumHigh⟩ := rounds_between keeps rounded.ofSum sum_gap
  have moved : (1 : ℚ) / 2 ^ (f.fractionBits + 1) ≤ 1 := by
    apply div_le_one_of_le₀ _ (by positivity)
    exact one_le_pow₀ one_le_two
  have moved_nonneg : (0 : ℚ) ≤ 1 / 2 ^ (f.fractionBits + 1) := by positivity
  generalize (1 : ℚ) / 2 ^ (f.fractionBits + 1) = u at *
  have seconds_nonneg : (0 : ℚ) ≤ d.seconds := Nat.cast_nonneg _
  have perSecond_positive : (0 : ℚ) < perSecond := by norm_num [perSecond]
  rw [exactSeconds_eq]
  constructor
  · calc ((d.seconds : ℚ) + d.subsecond / perSecond) * (1 - u) ^ 3
        = (d.seconds * (1 - u) ^ 2 + d.subsecond * (1 - u) / perSecond * (1 - u)) * (1 - u) := by
          ring
      _ ≤ (whole + part) * (1 - u) := by
          apply mul_le_mul_of_nonneg_right _ (by linarith)
          apply add_le_add
          · nlinarith
          · refine le_trans ?_ partLow
            apply mul_le_mul_of_nonneg_right _ (by linarith)
            exact div_le_div_of_nonneg_right restLow perSecond_positive.le
      _ ≤ sum := sumLow
  · calc sum ≤ (whole + part) * (1 + u) := sumHigh
      _ ≤ (d.seconds * (1 + u) ^ 2 + d.subsecond * (1 + u) / perSecond * (1 + u)) * (1 + u) := by
          apply mul_le_mul_of_nonneg_right _ (by linarith)
          apply add_le_add
          · nlinarith
          · refine partHigh.trans ?_
            apply mul_le_mul_of_nonneg_right _ (by linarith)
            exact div_le_div_of_nonneg_right restHigh perSecond_positive.le
      _ = ((d.seconds : ℚ) + d.subsecond / perSecond) * (1 + u) ^ 3 := by ring

theorem Rounded.sum_positive {whole rest part sum : ℚ} (rounded : Rounded f d whole rest part sum)
    (some : 0 < d.nanos) : 0 < sum := by
  have digits : (1 : ℚ) < 2 ^ (f.fractionBits + 1) :=
    one_lt_pow₀ one_lt_two (Nat.succ_ne_zero f.fractionBits)
  have kept : (0 : ℚ) < 1 - 1 / 2 ^ (f.fractionBits + 1) :=
    sub_pos.mpr ((div_lt_one (by positivity)).mpr digits)
  have exact_positive : 0 < d.exactSeconds := by
    apply div_pos _ (by norm_num [perSecond])
    exact_mod_cast some
  exact (mul_pos exact_positive (pow_pos kept 3)).trans_le (rounded.close keeps).1

/-! A number of the format that is as long as the time is as long as the number of seconds, too. -/

variable {whole rest part sum : ℚ} (rounded : Rounded f d whole rest part sum)
  (nanoseconds : 30 ≤ f.fractionBits)

include rounded nanoseconds

theorem Rounded.rest_eq : rest = d.subsecond := by
  have fine := keeps.fine
  apply rounded.ofSubsecond.eq_of_represents
  apply Format.represents_natCast (by omega)
  calc d.subsecond ≤ 2 ^ 30 := d.subsecond_lt.le.trans (by decide)
    _ ≤ 2 ^ (f.fractionBits + 1) := Nat.pow_le_pow_right Nat.two_pos (by omega)

theorem Rounded.part_lt_one : part < 1 := by
  have fine := keeps.fine
  have represented : f.Represents (1 - 2 ^ (-30 : Int)) := by
    refine ⟨2 ^ 30 - 1, -30, ?_, by omega, by norm_num⟩
    exact (Nat.sub_le _ _).trans (Nat.pow_le_pow_right Nat.two_pos (by omega))
  have below : (d.subsecond : ℚ) ≤ 999999999 := by
    exact_mod_cast Nat.le_of_lt_succ d.subsecond_lt
  have le : part ≤ 1 - 2 ^ (-30 : Int) := by
    apply rounded.ofQuotient.le_of_le represented
    rw [rounded.rest_eq keeps nanoseconds, div_le_iff₀ (by norm_num [perSecond])]
    norm_num [perSecond]
    linarith
  exact le.trans_lt (by norm_num)

theorem Rounded.sum_le_of_exactSeconds_le {v : ℚ} (represented : f.Represents v)
    (le : d.exactSeconds ≤ v) : sum ≤ v := by
  have fine := keeps.fine
  have part_lt := rounded.part_lt_one keeps nanoseconds
  have quotient := rounded.ofQuotient
  rw [rounded.rest_eq keeps nanoseconds] at quotient
  rw [exactSeconds_eq] at le
  have subsecond_nonneg : (0 : ℚ) ≤ (d.subsecond : ℚ) / perSecond := by positivity
  have whole_le : whole ≤ v := rounded.ofSeconds.le_of_le represented (by linarith)
  rcases le_or_gt d.seconds (2 ^ (f.fractionBits + 1)) with few | many
  · -- The whole seconds keep all their digits, and what `v` is more is a number of the format.
    have whole_eq := rounded.ofSeconds.eq_of_represents (Format.represents_natCast (by omega) few)
    apply rounded.ofSum.le_of_le represented
    rcases le_or_gt ((d.seconds : ℚ) + 1) v with above | within
    · linarith
    · have part_le := quotient.le_of_le (represented.sub_natCast (by linarith) within)
        (by linarith)
      linarith
  · -- Only even numbers are left, and less than one is added.
    have many' : (2 : ℚ) ^ (f.fractionBits + 1) < d.seconds := by exact_mod_cast many
    by_contra beyond
    obtain ⟨half, even⟩ := represented.even (by linarith)
    obtain ⟨other, even'⟩ := rounded.ofSum.represents.even (by linarith)
    have apart : v + 2 ≤ sum := by
      have less : half + 1 ≤ other := by
        have : (half : ℚ) < other := by linarith
        exact_mod_cast this
      have : (half : ℚ) + 1 ≤ other := by exact_mod_cast less
      linarith
    have nearest := rounded.ofSum.nearest represented
    have further : v < whole + part := by
      by_contra within
      exact beyond (rounded.ofSum.le_of_le represented (not_lt.mp within))
    rw [abs_of_pos (by linarith), abs_of_neg (by linarith)] at nearest
    linarith

end Bounds

/-! The way back. -/

theorem ofSeconds?_of_amounts {x : Binary f} {v : ℚ} (amounts : x.Amounts v) :
    ∃ nanos : Nat, |(nanos : ℚ) - v * perSecond| ≤ 1 / 2 ∧
      ofSeconds? x = if nanos < limit.nanos then some ⟨nanos⟩ else none := by
  obtain ⟨significand, exponent, said, rfl⟩ := amounts
  simp only [ofSeconds?, said, Bool.false_and, Bool.false_eq_true, if_false]
  refine ⟨_, ?_, rfl⟩
  split
  next whole =>
    push_cast
    rw [Nat.pow_eq, Nat.cast_pow, Nat.cast_ofNat, two_pow_toNat whole, sub_self]
    norm_num
  next fraction =>
    have quotient : (significand : ℚ) * 2 ^ exponent * perSecond =
        (significand * perSecond : Nat) / (2 ^ (-exponent).toNat : Nat) := by
      push_cast
      rw [two_pow_toNat (by omega), zpow_neg, div_inv_eq_mul]
      ring
    rw [quotient]
    exact roundQuotient_near _ (Nat.two_pow_pos _)

/-- In double precision a time of some months is off by less than half a nanosecond. -/
theorem Rounded.close_double {whole rest part sum : ℚ}
    (rounded : Rounded .double d whole rest part sum) (short : d.seconds < 2 ^ 23) :
    |sum - d.exactSeconds| ≤ 1 / 2 ^ 31 + 1 / 2 ^ 54 := by
  have short' : (d.seconds : ℚ) ≤ 2 ^ 23 - 1 := by
    have le : d.seconds ≤ 2 ^ 23 - 1 := Nat.le_sub_one_of_lt short
    exact (Nat.cast_le.mpr le).trans (by norm_num)
  have part_lt := rounded.part_lt_one Format.double_keepsTime (by decide)
  have quotient := rounded.ofQuotient
  rw [rounded.rest_eq Format.double_keepsTime (by decide)] at quotient
  have whole_eq : whole = d.seconds := by
    apply rounded.ofSeconds.eq_of_represents
    exact Format.represents_natCast (by decide) (short.le.trans (by decide))
  have below : (d.subsecond : ℚ) / perSecond < 1 := by
    rw [div_lt_one (by norm_num [perSecond])]
    exact_mod_cast d.subsecond_lt
  have part_close : |part - d.subsecond / perSecond| ≤ 2 ^ (-53 : Int) / 2 :=
    quotient.close_of_lt (by decide) (below.trans_le (by norm_num [Format.double]))
  have sum_close : |sum - (whole + part)| ≤ 2 ^ (-30 : Int) / 2 := by
    apply rounded.ofSum.close_of_lt (by decide)
    have less : whole + part < 2 ^ 23 := by linarith
    exact less.trans_le (by norm_num [Format.double])
  rw [exactSeconds_eq, ← whole_eq]
  have total := abs_add_le (sum - (whole + part)) (part - d.subsecond / perSecond)
  rw [show sum - (whole + part) + (part - d.subsecond / perSecond) =
    sum - (whole + d.subsecond / perSecond) by ring] at total
  norm_num at part_close sum_close ⊢
  linarith

/-- A time of some months is found again, to the nanosecond. -/
theorem ofSeconds?_toSeconds (short : d.seconds < 2 ^ 23) :
    ofSeconds? (d.toSeconds : Double) = some d := by
  have held : d < limit := by
    show d.nanos < limit.nanos
    have less : d.nanos < 2 ^ 23 * perSecond := (Nat.div_lt_iff_lt_mul (by decide)).mp short
    exact less.trans (by decide)
  obtain ⟨_, _, _, sum, rounded, amounts⟩ := toSeconds_amounts Format.double_keepsTime held
  obtain ⟨nanos, near, found⟩ := ofSeconds?_of_amounts amounts
  have same : nanos = d.nanos := by
    have close := abs_le.mp (rounded.close_double short)
    have near := abs_le.mp near
    have exact : d.exactSeconds * perSecond = d.nanos :=
      div_mul_cancel₀ _ (by norm_num [perSecond])
    have scale : (perSecond : ℚ) = 1000000000 := by norm_num [perSecond]
    rw [scale] at near exact
    have above : (nanos : ℚ) < d.nanos + 1 := by linarith
    have below : (d.nanos : ℚ) < nanos + 1 := by linarith
    have above : nanos < d.nanos + 1 := by exact_mod_cast above
    have below : d.nanos < nanos + 1 := by exact_mod_cast below
    omega
  rw [found, same, if_pos (lt_iff.mp held)]

end Duration

end ShardedWorld
