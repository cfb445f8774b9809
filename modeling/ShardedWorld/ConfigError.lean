import ShardedWorld.Time
import ShardedWorld.Binary.Decimal

/-!
What a configuration has to satisfy, and the error that names a setting which does not.
-/

set_option autoImplicit false

namespace ShardedWorld

inductive Requirement where
  | positive
  | positiveFinite (got : Single)
  | nonempty
  | notAbove (limit : String)
  | finiteDistance
  | positiveDistance
  | finitePosition
  | growth
  | notBelowInitial
  | unitInterval
  | stated (text : String)
  deriving DecidableEq

namespace Requirement

def text : Requirement → String
  | .positive => "must be greater than zero"
  | .positiveFinite got => "must be a positive finite number, got " ++ got.plainText
  | .nonempty => "must not be empty"
  | .notAbove limit => "must not exceed " ++ limit
  | .finiteDistance => "must be a finite, non-negative distance"
  | .positiveDistance => "must be a positive distance"
  | .finitePosition => "must be a finite position"
  | .growth => "must be at least 1.0"
  | .notBelowInitial => "must not be shorter than the initial delay"
  | .unitInterval => "must be within 0.0..=1.0"
  | .stated text => text

end Requirement

structure ConfigError where
  field : String
  requirement : Requirement
  deriving DecidableEq

namespace ConfigError

def message (e : ConfigError) : String := "invalid " ++ e.field ++ ": " ++ e.requirement.text

def require (field : String) (requirement : Requirement) (holds : Bool) :
    Except ConfigError Unit :=
  if holds then .ok () else .error ⟨field, requirement⟩

def requirePositive (field : String) (d : Duration) : Except ConfigError Unit :=
  require field .positive (decide (d ≠ .zero))

@[simp] theorem require_eq_ok_iff {field : String} {requirement : Requirement} {holds : Bool} :
    require field requirement holds = .ok () ↔ holds = true := by
  cases holds <;> simp [require]

@[simp] theorem requirePositive_eq_ok_iff {field : String} {d : Duration} :
    requirePositive field d = .ok () ↔ 0 < d.nanos := by
  cases d
  simp [requirePositive, Duration.zero, Nat.pos_iff_ne_zero]

theorem bind_eq_ok_iff {first : Except ConfigError Unit} {rest : Unit → Except ConfigError Unit} :
    (first >>= rest) = .ok () ↔ first = .ok () ∧ rest () = .ok () := by
  cases first <;> simp [bind, Except.bind]

end ConfigError

end ShardedWorld
