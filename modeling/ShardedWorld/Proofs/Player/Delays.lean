import Mathlib.Data.List.DropRight
import Mathlib.Data.List.Induction
import ShardedWorld.Player.Backoff
import ShardedWorld.Proofs.Binary.Powers
import ShardedWorld.Proofs.Binary.Seconds

/-! Delays between attempts to reconnect, along a run of calls.

Without jitter a delay is either what the growth gives, which is below the limit then, or the limit
itself. The limit is compared as a number of seconds and becomes a length of time again, and this
way is not always exact.
-/

set_option autoImplicit false

namespace ShardedWorld

namespace BackoffConfig

structure Grows (c : BackoffConfig) : Prop where
  initial : 0 < c.initial.nanos
  finite : c.multiplier.isFinite = true
  multiplier : .ofInt 1 ≤ c.multiplier
  maxDelay : c.initial ≤ c.maxDelay

theorem grows_of_validate {c : BackoffConfig} (valid : c.validate = .ok ()) : c.Grows := by
  simp only [validate, ConfigError.bind_eq_ok_iff, ConfigError.require_eq_ok_iff,
    ConfigError.requirePositive_eq_ok_iff, Bool.and_eq_true, decide_eq_true_eq] at valid
  obtain ⟨initial, ⟨finite, multiplier⟩, maxDelay, -⟩ := valid
  exact ⟨initial, finite, multiplier, maxDelay⟩

def limitSeconds (c : BackoffConfig) : Double := c.maxDelay.toSeconds

/-- The limit as a number of seconds is a length of time within the limit. -/
def KeepsLimit (c : BackoffConfig) : Prop :=
  ∃ d ≤ c.maxDelay, Duration.ofSeconds? c.limitSeconds = some d

/-- The delays grow up to the limit before the attempts are used up. -/
def ReachesLimit (c : BackoffConfig) : Prop :=
  ∃ attempts < c.maxAttempts, c.limitSeconds ≤ (Backoff.mk c attempts).grownSeconds

end BackoffConfig

namespace Backoff

/-- What is called: for the next delay, with what is drawn from the jitter, or after a round trip.
-/
inductive Call where
  | next (spread : Double)
  | reset

def Call.asks : Call → Bool
  | .next _ => true
  | .reset => false

def call (b : Backoff) : Call → Backoff
  | .next spread => (b.nextSpread spread).2
  | .reset => b.reset

def after (c : BackoffConfig) (calls : List Call) : Backoff := calls.foldl call (fresh c)

def asked (calls : List Call) : Nat := (calls.rtakeWhile Call.asks).length

/-- Delays are given for as many calls as there are attempts, and none of them exceeds the limit;
from then on the attempts stay used up until the next reset. -/
structure Reliable (c : BackoffConfig) : Prop where
  delays (calls : List Call) (spread : Double) : asked calls < c.maxAttempts.toNat →
    ∃ d ≤ c.maxDelay, ((after c calls).nextSpread spread).1 = .delay d
  exhausted (calls : List Call) (spread : Double) : c.maxAttempts.toNat ≤ asked calls →
    (after c calls).attempts = c.maxAttempts ∧
      (after c calls).nextSpread spread = (.exhausted, after c calls)

/-! What a run of calls leaves. -/

theorem nextSpread_state (b : Backoff) (spread : Double) :
    (b.nextSpread spread).2 =
      if b.isExhausted then b else { b with attempts := b.attempts + 1 } := by
  unfold nextSpread
  split
  · rfl
  · dsimp only
    split <;> rfl

variable (c : BackoffConfig) (calls : List Call)

theorem after_concat (last : Call) : after c (calls ++ [last]) = (after c calls).call last :=
  List.foldl_concat ..

@[simp] theorem after_config : (after c calls).config = c := by
  induction calls using List.reverseRecOn with
  | nil => rfl
  | append_singleton calls last ih =>
    rw [after_concat]
    cases last with
    | reset => exact ih
    | next spread =>
      rw [call, nextSpread_state]
      split <;> exact ih

@[simp] theorem asked_concat_next (spread : Double) :
    asked (calls ++ [.next spread]) = asked calls + 1 := by
  rw [asked, List.rtakeWhile_concat_pos _ _ _ rfl, List.length_append]
  rfl

@[simp] theorem asked_concat_reset : asked (calls ++ [.reset]) = 0 := by
  rw [asked, List.rtakeWhile_concat_neg _ _ _ (by decide)]
  rfl

theorem asked_replicate (n : Nat) (spread : Double) :
    asked (List.replicate n (.next spread)) = n := by
  induction n with
  | zero => rfl
  | succ n ih => rw [List.replicate_succ', asked_concat_next, ih]

theorem after_attempts :
    (after c calls).attempts.toNat = min (asked calls) c.maxAttempts.toNat := by
  induction calls using List.reverseRecOn with
  | nil => rfl
  | append_singleton calls last ih =>
    rw [after_concat]
    cases last with
    | reset => simp [call, reset]
    | next spread =>
      have config := after_config c calls
      have used : (after c calls).isExhausted = true ↔ c.maxAttempts.toNat ≤ asked calls := by
        rw [isExhausted, config, decide_eq_true_eq, UInt32.le_iff_toNat_le, ih]
        omega
      rw [call, nextSpread_state, asked_concat_next]
      split
      next exhausted =>
        have := used.mp exhausted
        omega
      next left =>
        have few := not_le.mp (mt used.mpr left)
        have room := c.maxAttempts.toNat_lt
        rw [UInt32.toNat_add, ih]
        simp
        omega

variable {c calls}

theorem after_of_asked_lt (few : asked calls < c.maxAttempts.toNat) :
    ∃ attempts < c.maxAttempts, after c calls = ⟨c, attempts⟩ ∧ attempts.toNat = asked calls := by
  have counted := after_attempts c calls
  rw [Nat.min_eq_left few.le] at counted
  refine ⟨(after c calls).attempts, ?_, ?_, counted⟩
  · rw [UInt32.lt_iff_toNat_lt]
    omega
  · have config := after_config c calls
    generalize after c calls = b at config
    cases b
    cases config
    rfl

theorem nextSpread_eq_delay_iff {attempts : UInt32} (left : attempts < c.maxAttempts)
    {spread : Double} {d : Duration} :
    ((Backoff.mk c attempts).nextSpread spread).1 = .delay d ↔
      Duration.ofSeconds? ((Backoff.mk c attempts).delaySeconds spread) = some d := by
  rw [nextSpread, isExhausted, decide_eq_false (UInt32.not_le.mpr left), if_neg Bool.false_ne_true]
  dsimp only
  split
  next delay found => rw [found, Next.delay.injEq, Option.some_inj]
  next missed => simp [missed]

theorem nextSpread_of_le_asked (many : c.maxAttempts.toNat ≤ asked calls) (spread : Double) :
    (after c calls).attempts = c.maxAttempts ∧
      (after c calls).nextSpread spread = (.exhausted, after c calls) := by
  have counted := after_attempts c calls
  rw [Nat.min_eq_right many] at counted
  have used : (after c calls).attempts = c.maxAttempts := UInt32.toNat_inj.mp counted
  refine ⟨used, ?_⟩
  rw [nextSpread, if_pos]
  simp [isExhausted, used]

/-! What a delay comes to without jitter. -/

section Delays

variable (valid : c.validate = .ok ()) (held : c.maxDelay < .limit)

include valid held

theorem grownSeconds_yields (attempts : UInt32) :
    ∃ grown, Format.double.Represents grown ∧
      (Backoff.mk c attempts).grownSeconds.Yields grown := by
  have keeps := Format.double_keepsTime
  have grows := BackoffConfig.grows_of_validate valid
  have one := Duration.represents_one keeps
  have wide : 1 < Format.double.overflow :=
    lt_trans (by norm_num) (Duration.two_pow_lt_overflow keeps)
  have shorter : c.initial < .limit := Nat.lt_of_le_of_lt grows.maxDelay held
  obtain ⟨_, _, _, first, rounded, amounts⟩ := Duration.toSeconds_amounts keeps shorter
  have factor := Binary.atLeast_one one wide grows.finite grows.multiplier
  obtain ⟨grown, -, represented, yields⟩ :=
    amounts.mul_atLeast (rounded.sum_positive keeps grows.initial)
      (factor.powerInt one wide attempts.toInt32.toInt)
  exact ⟨grown, represented, yields⟩

theorem limitSeconds_amounts :
    ∃ limit, c.limitSeconds.Amounts limit ∧ 0 < limit ∧
      ∀ v, Format.double.Represents v → c.maxDelay.exactSeconds ≤ v → limit ≤ v := by
  have keeps := Format.double_keepsTime
  have grows := BackoffConfig.grows_of_validate valid
  obtain ⟨_, _, _, limit, rounded, amounts⟩ := Duration.toSeconds_amounts keeps held
  have some : 0 < c.maxDelay.nanos := Nat.lt_of_lt_of_le grows.initial grows.maxDelay
  exact ⟨limit, amounts, rounded.sum_positive keeps some,
    fun v represented le => rounded.sum_le_of_exactSeconds_le keeps (by decide) represented le⟩

theorem limit_le_grown_iff (attempts : UInt32) :
    c.limitSeconds ≤ (Backoff.mk c attempts).grownSeconds ↔
      ¬(Backoff.mk c attempts).grownSeconds < c.limitSeconds := by
  obtain ⟨grown, -, yields⟩ := grownSeconds_yields valid held attempts
  obtain ⟨limit, amounts, -⟩ := limitSeconds_amounts valid held
  rw [Binary.le_iff_of_yields amounts yields, Binary.lt_iff_of_yields yields amounts, not_lt]

variable (steady : c.jitter.agrees .zero = true)

include steady

omit valid held in
theorem delaySeconds_of_steady (attempts : UInt32) (spread : Double) :
    (Backoff.mk c attempts).delaySeconds spread =
      ((Backoff.mk c attempts).grownSeconds.min c.limitSeconds).max .zero := by
  simp [delaySeconds, Binary.not_lt_of_agrees steady, BackoffConfig.limitSeconds]

theorem delaySeconds_of_reached {attempts : UInt32}
    (reached : c.limitSeconds ≤ (Backoff.mk c attempts).grownSeconds) (spread : Double) :
    (Backoff.mk c attempts).delaySeconds spread = c.limitSeconds := by
  obtain ⟨limit, amounts, positive, -⟩ := limitSeconds_amounts valid held
  have above := (limit_le_grown_iff valid held attempts).mp reached
  rw [delaySeconds_of_steady steady, Binary.min_of_not_lt amounts above,
    Binary.max_zero_of_positive amounts positive]

/-- What is below the limit as a number of seconds is below the exact limit, too, so that the
nearest nanosecond does not exceed it. -/
theorem delay_of_below {attempts : UInt32}
    (below : (Backoff.mk c attempts).grownSeconds < c.limitSeconds) (spread : Double) :
    ∃ d ≤ c.maxDelay,
      Duration.ofSeconds? ((Backoff.mk c attempts).delaySeconds spread) = some d := by
  obtain ⟨grown, represented, yields⟩ := grownSeconds_yields valid held attempts
  obtain ⟨limit, limitAmounts, -, least⟩ := limitSeconds_amounts valid held
  have less : grown < limit := (Binary.lt_iff_of_yields yields limitAmounts).mp below
  have amounts := yields.amounts (less.trans limitAmounts.within.1)
  have shorter : grown < c.maxDelay.exactSeconds := by
    by_contra le
    exact absurd less (not_lt.mpr (least grown represented (not_lt.mp le)))
  rw [delaySeconds_of_steady steady, Binary.min_of_lt below]
  obtain ⟨nanos, near, found⟩ := Duration.ofSeconds?_of_amounts amounts.max_zero
  have le : nanos ≤ c.maxDelay.nanos := by
    have scale : (Duration.perSecond : ℚ) = 1000000000 := by norm_num [Duration.perSecond]
    rw [Duration.exactSeconds, lt_div_iff₀ (by norm_num [Duration.perSecond])] at shorter
    have close : (nanos : ℚ) < c.maxDelay.nanos + 1 := by linarith [(abs_le.mp near).2]
    exact Nat.le_of_lt_succ (by exact_mod_cast close)
  refine ⟨⟨nanos⟩, le, ?_⟩
  rw [found, if_pos (Nat.lt_of_le_of_lt le held)]

/-- As many calls as attempts lead to a growth that has reached the limit. -/
theorem Reliable.keepsLimit (reliable : Reliable c) (reaches : c.ReachesLimit) : c.KeepsLimit := by
  obtain ⟨attempts, left, reached⟩ := reaches
  have count := asked_replicate attempts.toNat .zero
  have few : asked (.replicate attempts.toNat (.next .zero)) < c.maxAttempts.toNat :=
    count.trans_lt left
  obtain ⟨same, -, state, counted⟩ := after_of_asked_lt few
  obtain rfl : same = attempts := UInt32.toNat_inj.mp (counted.trans count)
  obtain ⟨d, le, given⟩ := reliable.delays _ .zero few
  rw [state, nextSpread_eq_delay_iff left,
    delaySeconds_of_reached valid held steady reached] at given
  exact ⟨d, le, given⟩

theorem reliable_of_keepsLimit (keeps : c.ReachesLimit → c.KeepsLimit) : Reliable c where
  delays calls spread few := by
    obtain ⟨attempts, left, state, -⟩ := after_of_asked_lt few
    rw [state]
    simp only [nextSpread_eq_delay_iff left]
    by_cases below : (Backoff.mk c attempts).grownSeconds < c.limitSeconds
    · exact delay_of_below valid held steady below spread
    · have reached := (limit_le_grown_iff valid held attempts).mpr below
      rw [delaySeconds_of_reached valid held steady reached]
      exact keeps ⟨attempts, left, reached⟩
  exhausted calls spread many := nextSpread_of_le_asked many spread

end Delays

/-- Without jitter the calls of a configuration in order can be relied on if and only if the delays
never grow up to the limit, or the limit as a number of seconds is a length of time within the
limit. That is so for all limits of some months. The attempts are counted in any case. -/
theorem reliable_iff (valid : c.validate = .ok ()) (held : c.maxDelay < .limit)
    (steady : c.jitter.agrees .zero = true) :
    (Reliable c ↔ (c.ReachesLimit → c.KeepsLimit)) ∧
      (c.maxDelay.seconds < 2 ^ 23 → Reliable c) ∧
      ∀ calls, (after c calls).attempts.toNat = min (asked calls) c.maxAttempts.toNat := by
  refine ⟨⟨fun reliable => reliable.keepsLimit valid held steady,
    reliable_of_keepsLimit valid held steady⟩, ?_, fun calls => after_attempts c calls⟩
  intro short
  apply reliable_of_keepsLimit valid held steady
  intro _
  exact ⟨c.maxDelay, Nat.le_refl _, Duration.ofSeconds?_toSeconds short⟩

/-- As many attempts as can be counted, with delays of up to 2 ^ 40 seconds. -/
def patient : BackoffConfig :=
  { BackoffConfig.standard with maxDelay := .ofSeconds (2 ^ 40), maxAttempts := 4294967295 }

theorem patient_reliable :
    patient.validate = .ok () ∧ patient.maxDelay < .limit ∧
      patient.jitter.agrees .zero = true ∧ Reliable patient := by
  have valid : patient.validate = .ok () := by decide +kernel
  have held : patient.maxDelay < .limit := by decide
  have steady : patient.jitter.agrees .zero = true := by decide +kernel
  refine ⟨valid, held, steady, (reliable_iff valid held steady).1.mpr ?_⟩
  intro _
  exact ⟨patient.maxDelay, Nat.le_refl _, by decide +kernel⟩

/-- Delays that begin with their limit, so that they do not grow. -/
def constantDelay (delay : Duration) : BackoffConfig :=
  { BackoffConfig.standard with initial := delay, maxDelay := delay }

/-- Of 2 ^ 23 seconds and one nanosecond the delay is a nanosecond too long, and of the longest time
there is it is none at all. -/
theorem long_delays_fail :
    (constantDelay ⟨8388608000000001⟩).validate = .ok () ∧
      (constantDelay ⟨8388608000000001⟩).jitter = .zero ∧
      (fresh (constantDelay ⟨8388608000000001⟩)).next.1 = .delay ⟨8388608000000002⟩ ∧
      ¬Reliable (constantDelay ⟨8388608000000001⟩) ∧
      (constantDelay ⟨Duration.limit.nanos - 1⟩).validate = .ok () ∧
      (constantDelay ⟨Duration.limit.nanos - 1⟩).jitter = .zero ∧
      (fresh (constantDelay ⟨Duration.limit.nanos - 1⟩)).next.1 = .unrepresentable ∧
      ¬Reliable (constantDelay ⟨Duration.limit.nanos - 1⟩) := by
  have longer : (fresh (constantDelay ⟨8388608000000001⟩)).next.1 = .delay ⟨8388608000000002⟩ := by
    decide +kernel
  have missing : (fresh (constantDelay ⟨Duration.limit.nanos - 1⟩)).next.1 = .unrepresentable := by
    decide +kernel
  refine ⟨by decide +kernel, rfl, longer, ?_, by decide +kernel, rfl, missing, ?_⟩
  · intro reliable
    obtain ⟨d, le, given⟩ := reliable.delays [] .zero (by decide)
    obtain rfl := Next.delay.inj (longer.symm.trans given)
    exact absurd le (by decide)
  · intro reliable
    obtain ⟨d, -, given⟩ := reliable.delays [] .zero (by decide)
    exact Next.noConfusion (missing.symm.trans given)

end Backoff

end ShardedWorld
