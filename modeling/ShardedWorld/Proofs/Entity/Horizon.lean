import Mathlib.Tactic.GCongr
import ShardedWorld.Proofs.Binary.Order
import ShardedWorld.Proofs.Binary.Seconds
import ShardedWorld.Proofs.Entity.Agreement

/-! How far ahead projectiles are looked for.

The lookahead is counted in steps, in single precision, and the count is rounded to the nearest
whole number. So the samples end with the last step that fits if less than half a step is left over,
and with one that does not fit if more than half a step is.
-/

set_option autoImplicit false

namespace ShardedWorld

namespace ProjectileWindow

theorem validate_eq_ok_iff {w : ProjectileWindow} :
    w.validate = .ok () ↔
      0 < w.sampleStep.nanos ∧
        (w.sampleStep.nanos ≤ w.lookahead.nanos ∨ w.lookahead.nanos = 0) := by
  have none : w.lookahead = .zero ↔ w.lookahead.nanos = 0 := by
    cases w.lookahead
    simp [Duration.zero]
  simp only [validate, ConfigError.bind_eq_ok_iff, ConfigError.require_eq_ok_iff,
    ConfigError.requirePositive_eq_ok_iff, Bool.or_eq_true, decide_eq_true_eq, Duration.le_iff,
    none]

def countedSteps (w : ProjectileWindow) : Single := w.lookahead.toSeconds / w.stepSeconds

def fittingSteps (w : ProjectileWindow) : Nat := w.lookahead.nanos / w.sampleStep.nanos

def leftover (w : ProjectileWindow) : Nat := w.lookahead.nanos % w.sampleStep.nanos

/-- The last sample does not lie beyond the lookahead, and one more would. -/
structure KeepsHorizon (w : ProjectileWindow) : Prop where
  within : w.sampleCount * w.sampleStep.nanos ≤ w.lookahead.nanos
  complete : w.lookahead.nanos < (w.sampleCount + 1) * w.sampleStep.nanos

/-- What is left over is not so near to half a step that rounding could take it for the other side
of it. -/
def Clear (w : ProjectileWindow) : Prop :=
  (w.lookahead.nanos : Int) < 2 ^ 20 * |2 * (w.leftover : Int) - w.sampleStep.nanos|

instance (w : ProjectileWindow) : Decidable w.Clear := inferInstanceAs (Decidable (_ < _))

theorem keepsHorizon_iff {w : ProjectileWindow} (step : 0 < w.sampleStep.nanos) :
    w.KeepsHorizon ↔ w.sampleCount = w.fittingSteps := by
  constructor
  · intro kept
    exact (Nat.div_eq_of_lt_le kept.within kept.complete).symm
  · intro count
    constructor
    · rw [count]
      exact Nat.div_mul_le_self _ _
    · rw [count, Nat.add_mul, Nat.one_mul]
      exact Nat.lt_div_mul_add step

variable {w : ProjectileWindow}

/-- A quotient of two numbers that are off by a little, rounded once more. -/
theorem quotient_close {exact exactStep lookahead step steps : ℚ} (nonneg : 0 ≤ exact)
    (positive : 0 < exactStep)
    (near : exact * (1 - 1 / 2 ^ 24) ^ 3 ≤ lookahead ∧ lookahead ≤ exact * (1 + 1 / 2 ^ 24) ^ 3)
    (nearStep : exactStep * (1 - 1 / 2 ^ 24) ^ 3 ≤ step ∧
      step ≤ exactStep * (1 + 1 / 2 ^ 24) ^ 3)
    (rounded : lookahead / step * (1 - 1 / 2 ^ 24) ≤ steps ∧
      steps ≤ lookahead / step * (1 + 1 / 2 ^ 24)) :
    |steps * exactStep - exact| ≤ exact / 2 ^ 21 := by
  -- Three roundings lie in each number and one in the quotient, seven in all.
  have step_positive : 0 < step := lt_of_lt_of_le (by positivity) nearStep.1
  have lookahead_nonneg : 0 ≤ lookahead := le_trans (by positivity) near.1
  have high : lookahead / step ≤
      exact * (1 + 1 / 2 ^ 24) ^ 3 / (exactStep * (1 - 1 / 2 ^ 24) ^ 3) :=
    div_le_div₀ (by positivity) near.2 (by positivity) nearStep.1
  have low : exact * (1 - 1 / 2 ^ 24) ^ 3 / (exactStep * (1 + 1 / 2 ^ 24) ^ 3) ≤
      lookahead / step :=
    div_le_div₀ lookahead_nonneg near.1 step_positive nearStep.2
  rw [abs_le]
  constructor
  · have : exact * (1 - 1 / 2 ^ 21) ≤ steps * exactStep := by
      calc exact * (1 - 1 / 2 ^ 21)
          ≤ exact * ((1 - 1 / 2 ^ 24) ^ 4 / (1 + 1 / 2 ^ 24) ^ 3) := by
            apply mul_le_mul_of_nonneg_left _ nonneg
            norm_num
        _ = exact * (1 - 1 / 2 ^ 24) ^ 3 / (exactStep * (1 + 1 / 2 ^ 24) ^ 3) *
              (1 - 1 / 2 ^ 24) * exactStep := by
            field_simp
        _ ≤ lookahead / step * (1 - 1 / 2 ^ 24) * exactStep := by
            gcongr
        _ ≤ steps * exactStep := by
            gcongr
            exact rounded.1
    linarith
  · have : steps * exactStep ≤ exact * (1 + 1 / 2 ^ 21) := by
      calc steps * exactStep ≤ lookahead / step * (1 + 1 / 2 ^ 24) * exactStep := by
            gcongr
            exact rounded.2
        _ ≤ exact * (1 + 1 / 2 ^ 24) ^ 3 / (exactStep * (1 - 1 / 2 ^ 24) ^ 3) *
              (1 + 1 / 2 ^ 24) * exactStep := by
            gcongr
        _ = exact * ((1 + 1 / 2 ^ 24) ^ 4 / (1 - 1 / 2 ^ 24) ^ 3) := by
            field_simp
        _ ≤ exact * (1 + 1 / 2 ^ 21) := by
            apply mul_le_mul_of_nonneg_left _ nonneg
            norm_num
    linarith

theorem stepSeconds_amounts (valid : w.validate = .ok ()) (sampleStep : w.sampleStep < .limit) :
    ∃ step, w.stepSeconds.Amounts step ∧ 2 ^ (-31 : Int) ≤ step ∧
      w.sampleStep.exactSeconds * (1 - 1 / 2 ^ 24) ^ 3 ≤ step ∧
      step ≤ w.sampleStep.exactSeconds * (1 + 1 / 2 ^ 24) ^ 3 := by
  obtain ⟨_, _, _, step, rounded, amounts⟩ :=
    Duration.toSeconds_amounts Format.single_keepsTime sampleStep
  have close := rounded.close Format.single_keepsTime
  refine ⟨step, amounts, ?_, close⟩
  have one : (1 : ℚ) ≤ w.sampleStep.nanos := by exact_mod_cast (validate_eq_ok_iff.mp valid).1
  have least : (1 : ℚ) / 1000000000 ≤ w.sampleStep.exactSeconds :=
    div_le_div_of_nonneg_right one (by norm_num)
  calc (2 : ℚ) ^ (-31 : Int) ≤ 1 / 1000000000 * (1 - 1 / 2 ^ 24) ^ 3 := by norm_num
    _ ≤ w.sampleStep.exactSeconds * (1 - 1 / 2 ^ 24) ^ 3 :=
      mul_le_mul_of_nonneg_right least (by positivity)
    _ ≤ step := close.1

theorem countedSteps_amounts (valid : w.validate = .ok ()) (lookahead : w.lookahead < .limit)
    (sampleStep : w.sampleStep < .limit) :
    ∃ steps, w.countedSteps.Amounts steps ∧
      |steps * w.sampleStep.nanos - w.lookahead.nanos| ≤ w.lookahead.nanos / 2 ^ 21 := by
  obtain ⟨positive, fits⟩ := validate_eq_ok_iff.mp valid
  obtain ⟨step, stepAmounts, least, nearStep⟩ := stepSeconds_amounts valid sampleStep
  obtain ⟨_, _, _, ahead, rounded, aheadAmounts⟩ :=
    Duration.toSeconds_amounts Format.single_keepsTime lookahead
  have near : w.lookahead.exactSeconds * (1 - 1 / 2 ^ 24) ^ 3 ≤ ahead ∧
      ahead ≤ w.lookahead.exactSeconds * (1 + 1 / 2 ^ 24) ^ 3 :=
    rounded.close Format.single_keepsTime
  have step_positive : 0 < step := lt_of_lt_of_le (by positivity) least
  obtain ⟨steps, rounds, yields⟩ := Binary.div_yields aheadAmounts stepAmounts step_positive
  -- The longest lookahead holds fewer of the shortest steps than single precision overflows at.
  have within : steps < Format.single.overflow := by
    have few : ahead / step ≤ 2 ^ (96 : Int) := by
      rw [div_le_iff₀ step_positive]
      calc ahead ≤ 2 ^ (65 : Int) := rounded.sum_le Format.single_keepsTime lookahead
        _ = 2 ^ (96 : Int) * 2 ^ (-31 : Int) := by norm_num
        _ ≤ 2 ^ (96 : Int) * step := mul_le_mul_of_nonneg_left least (by positivity)
    refine (rounds.le_of_le (Format.represents_two_pow (by decide)) few).trans_lt ?_
    exact zpow_lt_zpow_right₀ one_lt_two (by decide)
  refine ⟨steps, yields.amounts within, ?_⟩
  have step_exact : 0 < w.sampleStep.exactSeconds := by
    apply div_pos _ (by norm_num [Duration.perSecond])
    exact_mod_cast positive
  have step_le : w.sampleStep.exactSeconds ≤ w.lookahead.exactSeconds ∨ ahead = 0 := by
    rcases fits with some | none
    · left
      apply div_le_div_of_nonneg_right _ (by norm_num [Duration.perSecond])
      exact_mod_cast some
    · right
      rw [Duration.exactSeconds, none] at near
      norm_num at near
      exact le_antisymm near.2 near.1
  -- The quotient is no subnormal number, whose rounding would not be relative to its size.
  have gap : ahead / step = 0 ∨ 2 ^ (-30 : Int) ≤ ahead / step := by
    rcases step_le with some | none
    · right
      rw [le_div_iff₀ step_positive]
      norm_num at near nearStep ⊢
      linarith [nearStep.2, near.1]
    · exact .inl (by rw [none, zero_div])
  have exact_nonneg : 0 ≤ w.lookahead.exactSeconds := by
    unfold Duration.exactSeconds
    positivity
  have close := quotient_close exact_nonneg step_exact near nearStep
    (Duration.rounds_between Format.single_keepsTime rounds gap)
  have nanos (d : Duration) : (d.nanos : ℚ) = d.exactSeconds * 1000000000 := by
    norm_num [Duration.exactSeconds, Duration.perSecond]
  rw [nanos, nanos, ← mul_assoc, ← sub_mul, abs_mul,
    abs_of_pos (by norm_num : (0 : ℚ) < 1000000000)]
  linarith

theorem sampleCount_eq (valid : w.validate = .ok ()) (sampleStep : w.sampleStep < .limit)
    {steps : ℚ} (amounts : w.countedSteps.Amounts steps) :
    w.sampleCount = min ⌊steps + 1 / 2⌋₊ 4294967295 := by
  obtain ⟨step, stepAmounts, least, -⟩ := stepSeconds_amounts valid sampleStep
  have positive : .zero < w.stepSeconds := by
    rw [Binary.lt_iff_of_amounts Binary.zero_amounts stepAmounts]
    exact lt_of_lt_of_le (by positivity) least
  rw [sampleCount, if_pos positive]
  exact Binary.nearestInt_of_amounts amounts 4294967295

theorem fitting_add_leftover (w : ProjectileWindow) :
    (w.fittingSteps : ℚ) * w.sampleStep.nanos + w.leftover = w.lookahead.nanos := by
  have parts : w.fittingSteps * w.sampleStep.nanos + w.leftover = w.lookahead.nanos :=
    Nat.div_add_mod' _ _
  exact_mod_cast parts

namespace Clear

variable (clear : w.Clear)

include clear

theorem lookahead_lt :
    (w.lookahead.nanos : ℚ) < 2 ^ 20 * |2 * (w.leftover : ℚ) - w.sampleStep.nanos| := by
  have cast := Int.cast_lt (R := ℚ) |>.mpr clear
  push_cast at cast
  exact cast

variable (positive : 0 < w.sampleStep.nanos)

include positive

/-- Few steps fit, so that their number is not cut off. -/
theorem fittingSteps_lt : w.fittingSteps < 2 ^ 20 := by
  have rest : (w.leftover : ℚ) < w.sampleStep.nanos := by exact_mod_cast Nat.mod_lt _ positive
  have leftover_nonneg : (0 : ℚ) ≤ w.leftover := Nat.cast_nonneg _
  have apart : |2 * (w.leftover : ℚ) - w.sampleStep.nanos| ≤ w.sampleStep.nanos := by
    rw [abs_le]
    constructor <;> linarith
  have less : (w.fittingSteps : ℚ) * w.sampleStep.nanos < 2 ^ 20 * w.sampleStep.nanos := by
    linarith [clear.lookahead_lt, w.fitting_add_leftover]
  exact_mod_cast lt_of_mul_lt_mul_right less (by positivity)

theorem nearest {steps : ℚ}
    (close : |steps * w.sampleStep.nanos - w.lookahead.nanos| ≤ w.lookahead.nanos / 2 ^ 21) :
    ⌊steps + 1 / 2⌋₊ = w.fittingSteps + if 2 * w.leftover < w.sampleStep.nanos then 0 else 1 := by
  have parts := w.fitting_add_leftover
  have clear := clear.lookahead_lt
  have positive' : (0 : ℚ) < w.sampleStep.nanos := by exact_mod_cast positive
  have rest : (w.leftover : ℚ) < w.sampleStep.nanos := by exact_mod_cast Nat.mod_lt _ positive
  have leftover_nonneg : (0 : ℚ) ≤ w.leftover := Nat.cast_nonneg _
  -- The error is less than what the rest is away from half a step, on either side of it.
  obtain ⟨low, high⟩ := abs_le.mp close
  split
  next less =>
    have less : 2 * (w.leftover : ℚ) < w.sampleStep.nanos := by exact_mod_cast less
    rw [abs_of_neg (by linarith)] at clear
    apply Binary.floor_of_near
    · apply le_of_mul_le_mul_right _ positive'
      push_cast
      linarith
    · apply lt_of_mul_lt_mul_right _ positive'.le
      push_cast
      linarith
  next more =>
    have more : (w.sampleStep.nanos : ℚ) ≤ 2 * w.leftover := by exact_mod_cast not_lt.mp more
    rw [abs_of_nonneg (by linarith)] at clear
    apply Binary.floor_of_near
    · apply le_of_mul_le_mul_right _ positive'
      push_cast
      linarith
    · apply lt_of_mul_lt_mul_right _ positive'.le
      push_cast
      linarith

end Clear

theorem sampleCount_of_clear (valid : w.validate = .ok ()) (lookahead : w.lookahead < .limit)
    (sampleStep : w.sampleStep < .limit) (clear : w.Clear) :
    w.sampleCount = w.fittingSteps + if 2 * w.leftover < w.sampleStep.nanos then 0 else 1 := by
  obtain ⟨steps, amounts, close⟩ := countedSteps_amounts valid lookahead sampleStep
  have positive := (validate_eq_ok_iff.mp valid).1
  have few := clear.fittingSteps_lt positive
  rw [sampleCount_eq valid sampleStep amounts, clear.nearest positive close]
  apply Nat.min_eq_left
  split <;> omega

/-- Over half a step left over brings one sample that does not fit. -/
theorem keepsHorizon_iff_of_clear (valid : w.validate = .ok ()) (lookahead : w.lookahead < .limit)
    (sampleStep : w.sampleStep < .limit) (clear : w.Clear) :
    (w.KeepsHorizon ↔ 2 * w.leftover < w.sampleStep.nanos) ∧
      (¬w.KeepsHorizon → w.sampleCount = w.fittingSteps + 1) := by
  rw [keepsHorizon_iff (validate_eq_ok_iff.mp valid).1,
    sampleCount_of_clear valid lookahead sampleStep clear]
  split <;> simp_all

theorem mem_path_iff {position velocity p : Vec2} :
    p ∈ w.path position velocity ↔
      ∃ i, 1 ≤ i ∧ i ≤ w.sampleCount ∧ w.sample position velocity i = p := by
  simp only [path, samples, List.mem_map, List.mem_range, Nat.min_self]
  constructor
  · rintro ⟨i, below, same⟩
    exact ⟨i + 1, Nat.le_add_left _ _, below, same⟩
  · rintro ⟨i, some, le, same⟩
    exact ⟨i - 1, by omega, by rwa [Nat.sub_add_cancel some]⟩

theorem find?_path_eq_some_iff {position velocity p : Vec2} {wanted : Vec2 → Bool} :
    (w.path position velocity).find? wanted = some p ↔
      ∃ i, 1 ≤ i ∧ i ≤ w.sampleCount ∧ w.sample position velocity i = p ∧ wanted p = true ∧
        ∀ j, 1 ≤ j → j < i → wanted (w.sample position velocity j) = false := by
  rw [List.find?_eq_some_iff_getElem]
  simp only [path, samples, List.getElem_map, List.getElem_range, List.length_map,
    List.length_range, Nat.min_self, Bool.not_eq_true']
  constructor
  · rintro ⟨found, i, below, same, earlier⟩
    refine ⟨i + 1, Nat.le_add_left _ _, below, same, found, ?_⟩
    intro j some less
    have missed := earlier (j - 1) (by omega)
    rwa [Nat.sub_add_cancel some] at missed
  · rintro ⟨i, some, le, same, found, earlier⟩
    refine ⟨found, i - 1, by omega, by rwa [Nat.sub_add_cancel some], ?_⟩
    intro j less
    exact earlier (j + 1) (Nat.le_add_left _ _) (by omega)

end ProjectileWindow

namespace Crossing

/-- Projectiles are classified and taken in by where they are and where they will be at the ends of
the steps that are `ahead`: no other step matters, and none of these is left out. -/
structure Foresees (w : ProjectileWindow) (ahead : Nat → Prop) : Prop where
  path (position velocity p : Vec2) :
    p ∈ w.path position velocity ↔ ∃ i, 1 ≤ i ∧ ahead i ∧ w.sample position velocity i = p
  outside (grid : Grid) (assigned zone : Zone) (b : Body) : b.kind.isProjectile = true →
    (classify grid assigned w b = .outside zone ↔
      grid.zoneOf b.position = zone ∧ zone ≠ assigned ∧
        ∀ i, 1 ≤ i → ahead i → grid.zoneOf (w.sample b.position b.velocity i) ≠ assigned)
  leaving (grid : Grid) (assigned zone : Zone) (b : Body) : b.kind.isProjectile = true →
    (classify grid assigned w b = .leaving zone ↔
      grid.zoneOf b.position = assigned ∧ zone ≠ assigned ∧
        ∃ i, 1 ≤ i ∧ ahead i ∧ grid.zoneOf (w.sample b.position b.velocity i) = zone ∧
          ∀ j, 1 ≤ j → j < i → grid.zoneOf (w.sample b.position b.velocity j) = assigned)
  accepts (grid : Grid) (zone : Zone) (s : EntitySnapshot) (leftOrigin : Option Duration) :
    accepts grid zone w s leftOrigin = true ↔
      grid.zoneOf s.position = zone ∨
        (∃ i, 1 ≤ i ∧ ahead i ∧ grid.zoneOf (w.sample s.position s.velocity i) = zone) ∨
          ∃ time, leftOrigin = some time ∧ time ≤ w.grace

variable (w : ProjectileWindow)

theorem foresees_samples : Foresees w (· ≤ w.sampleCount) where
  path _ _ _ := w.mem_path_iff
  outside grid assigned zone b projectile := by
    rw [classify_eq_outside_iff projectile]
    simp only [w.mem_path_iff, forall_exists_index, and_imp]
    refine and_congr_right fun _ => and_congr_right fun _ => ?_
    constructor
    · intro away i some le
      exact away _ i some le rfl
    · rintro away _ i some le rfl
      exact away i some le
  leaving grid assigned zone b projectile := by
    rw [classify_eq_leaving_iff projectile]
    simp only [w.find?_path_eq_some_iff, Grid.contains, Bool.not_eq_true', beq_eq_false_iff_ne,
      Bool.not_eq_false', beq_iff_eq]
    refine and_congr_right fun _ => ?_
    constructor
    · rintro ⟨_, ⟨i, some, le, rfl, out, earlier⟩, rfl⟩
      exact ⟨out, i, some, le, rfl, earlier⟩
    · rintro ⟨out, i, some, le, rfl, earlier⟩
      exact ⟨_, ⟨i, some, le, rfl, out, earlier⟩, rfl⟩
  accepts grid zone s leftOrigin := by
    rw [accepts_iff]
    refine or_congr_right (or_congr_left ?_)
    constructor
    · rintro ⟨_, sampled, rfl⟩
      obtain ⟨i, some, le, rfl⟩ := w.mem_path_iff.mp sampled
      exact ⟨i, some, le, rfl⟩
    · rintro ⟨i, some, le, rfl⟩
      exact ⟨_, w.mem_path_iff.mpr ⟨i, some, le, rfl⟩, rfl⟩

variable {w}

theorem foresees_horizon (kept : w.KeepsHorizon) :
    Foresees w fun i => i * w.sampleStep.nanos ≤ w.lookahead.nanos := by
  have ahead (i : Nat) : i * w.sampleStep.nanos ≤ w.lookahead.nanos ↔ i ≤ w.sampleCount := by
    constructor
    · intro within
      by_contra beyond
      have further := Nat.mul_le_mul_right w.sampleStep.nanos (Nat.succ_le_of_lt (not_le.mp beyond))
      exact absurd (kept.complete.trans_le further) (not_lt.mpr within)
    · intro le
      exact (Nat.mul_le_mul_right _ le).trans kept.within
  simp only [ahead]
  exact foresees_samples w

/-- The samples of a window end with its lookahead if and only if the number of steps that fit is
the nearest whole number to their count in single precision, halves going up, which is cut off at
the end of 32 bits. The count is off by a small part of itself. So unless nearly half a step is left
over, the samples end with the lookahead if and only if less than half a step is left over, and
otherwise there is one sample too many. If they end with the lookahead, then projectiles are
classified and taken in by where they will be within the lookahead, and by nothing later. -/
theorem horizon_kept_iff (valid : w.validate = .ok ()) (lookahead : w.lookahead < .limit)
    (sampleStep : w.sampleStep < .limit) :
    (∃ steps : ℚ, w.countedSteps.Amounts steps ∧
        |steps * w.sampleStep.nanos - w.lookahead.nanos| ≤ w.lookahead.nanos / 2 ^ 21 ∧
        (w.KeepsHorizon ↔ w.fittingSteps = min ⌊steps + 1 / 2⌋₊ 4294967295)) ∧
      (w.Clear →
        (w.KeepsHorizon ↔ 2 * w.leftover < w.sampleStep.nanos) ∧
          (¬w.KeepsHorizon → w.sampleCount = w.fittingSteps + 1)) ∧
      (w.KeepsHorizon → Foresees w fun i => i * w.sampleStep.nanos ≤ w.lookahead.nanos) := by
  obtain ⟨steps, amounts, close⟩ :=
    ProjectileWindow.countedSteps_amounts valid lookahead sampleStep
  refine ⟨⟨steps, amounts, close, ?_⟩,
    ProjectileWindow.keepsHorizon_iff_of_clear valid lookahead sampleStep, foresees_horizon⟩
  rw [ProjectileWindow.keepsHorizon_iff (ProjectileWindow.validate_eq_ok_iff.mp valid).1,
    ProjectileWindow.sampleCount_eq valid sampleStep amounts, eq_comm]

/-- Three steps of 30 ms fit into 100 ms, and 10 ms are left over. -/
def unevenWindow : ProjectileWindow := ⟨.ofMillis 100, .ofMillis 30, .ofMillis 200⟩

theorem uneven_horizon_kept :
    unevenWindow.validate = .ok () ∧ unevenWindow.lookahead < .limit ∧
      unevenWindow.sampleStep < .limit ∧ unevenWindow.Clear ∧ unevenWindow.KeepsHorizon ∧
      Foresees unevenWindow fun i =>
        i * unevenWindow.sampleStep.nanos ≤ unevenWindow.lookahead.nanos := by
  have valid : unevenWindow.validate = .ok () := by decide
  have lookahead : unevenWindow.lookahead < .limit := by decide
  have sampleStep : unevenWindow.sampleStep < .limit := by decide
  have clear : unevenWindow.Clear := by decide
  obtain ⟨-, exact, foresees⟩ := horizon_kept_iff valid lookahead sampleStep
  have kept := (exact clear).1.mpr (by decide)
  exact ⟨valid, lookahead, sampleStep, clear, kept, foresees kept⟩

/-- One step of 60 ms fits into 100 ms, and 40 ms are left over. -/
def coarseWindow : ProjectileWindow := ⟨.ofMillis 100, .ofMillis 60, .ofMillis 200⟩

def nearBullet : Entity :=
  { Entity.appearing 1 .bullet ⟨.ofInt 490, .ofInt 100⟩ with velocity := ⟨.ofInt 100, .zero⟩ }

/-- Two samples are taken, the second one of 120 ms; only there has the bullet left its zone. -/
theorem coarse_window_looks_too_far :
    coarseWindow.validate = .ok () ∧ coarseWindow.sampleCount = 2 ∧
      coarseWindow.lookahead.nanos < 2 * coarseWindow.sampleStep.nanos ∧
      ¬coarseWindow.KeepsHorizon ∧
      Grid.standard.zoneOf (coarseWindow.sample nearBullet.position nearBullet.velocity 1) =
        ⟨0, 0⟩ ∧
      classify .standard ⟨0, 0⟩ coarseWindow nearBullet.toBody = .leaving ⟨1, 0⟩ ∧
      accepts .standard ⟨1, 0⟩ coarseWindow nearBullet.snapshot none = true := by
  have two : coarseWindow.sampleCount = 2 := by decide +kernel
  have beyond : coarseWindow.lookahead.nanos < 2 * coarseWindow.sampleStep.nanos := by decide
  refine ⟨by decide, two, beyond, ?_, by decide +kernel, by decide +kernel, by decide +kernel⟩
  intro kept
  have within := kept.within
  rw [two] at within
  exact absurd beyond (not_lt.mpr within)

end Crossing

end ShardedWorld
