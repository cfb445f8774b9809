/-!
Binary floating-point numbers, kept as the bits of an interchange format.

A number of a `Format` is a bit vector; its `value` is exact: a sign, a natural significand and a
power of two. Every operation of the library computes with exact values and comes back through one
function, `Binary.ofRatio`, which rounds a quotient of naturals to the nearest representable
number and lets a tie go to the even significand. Keeping the bits and not the value lets a number
travel unchanged, whatever payload a not-a-number carries.
-/

set_option autoImplicit false

namespace ShardedWorld

/-- An interchange format: how many bits hold the fraction and how many the exponent. -/
structure Format where
  fractionBits : Nat
  exponentBits : Nat
  deriving DecidableEq

namespace Format

def single : Format := ⟨23, 8⟩

def double : Format := ⟨52, 11⟩

def width (f : Format) : Nat := 1 + f.exponentBits + f.fractionBits

def topField (f : Format) : Nat := Nat.pow 2 f.exponentBits - 1

/-- The power of two that one unit of a subnormal significand stands for. -/
def minExponent (f : Format) : Int :=
  2 - Nat.pow 2 (f.exponentBits - 1) - f.fractionBits

end Format

structure Binary (f : Format) where
  bits : BitVec f.width
  deriving DecidableEq

abbrev Single := Binary .single

abbrev Double := Binary .double

/-- What the bits of a number say. A finite value is `± significand · 2 ^ exponent`. -/
inductive Magnitude where
  | nan
  | infinite (negative : Bool)
  | finite (negative : Bool) (significand : Nat) (exponent : Int)
  deriving DecidableEq

/-- Rounds `num / den` to the nearest natural number; a tie goes to the even one. -/
def roundQuotient (num den : Nat) : Nat :=
  let q := num / den
  let twice := 2 * (num % den)
  if twice > den || (twice == den && q % 2 == 1) then q + 1 else q

def reachesPower (num den : Nat) (k : Int) : Bool :=
  if 0 ≤ k then den * Nat.pow 2 k.toNat ≤ num else den ≤ num * Nat.pow 2 (-k).toNat

def floorLog (num den : Nat) : Int :=
  let guess : Int := (num.log2 : Int) - den.log2
  if reachesPower num den guess then guess else guess - 1

namespace Binary

variable {f : Format}

def ofNat (n : Nat) : Binary f := ⟨BitVec.ofNat f.width n⟩

def signed (negative : Bool) (magnitude : Nat) : Binary f :=
  .ofNat (if negative then Nat.pow 2 (f.exponentBits + f.fractionBits) + magnitude else magnitude)

/-- The quiet number-that-is-none without payload. -/
def nan : Binary f :=
  .ofNat (f.topField * Nat.pow 2 f.fractionBits + Nat.pow 2 (f.fractionBits - 1))

def infinity (negative : Bool) : Binary f := signed negative (f.topField * Nat.pow 2 f.fractionBits)

def zero : Binary f := .ofNat 0

instance : Inhabited (Binary f) := ⟨zero⟩

def magnitude (x : Binary f) : Magnitude :=
  let n := x.bits.toNat
  let fraction := n % Nat.pow 2 f.fractionBits
  let field := n / Nat.pow 2 f.fractionBits % Nat.pow 2 f.exponentBits
  let negative := decide (n / Nat.pow 2 (f.exponentBits + f.fractionBits) % 2 = 1)
  if field = f.topField then
    if fraction = 0 then .infinite negative else .nan
  else if field = 0 then .finite negative fraction f.minExponent
  else .finite negative (fraction + Nat.pow 2 f.fractionBits) (f.minExponent + field - 1)

/-- The bits of the number nearest to `num / den`, without sign. A significand that rounds up to
the next power of two carries into the exponent field by itself. -/
def roundedBits (f : Format) (num den : Nat) : Nat :=
  if num = 0 then 0
  else
    let exponent := max f.minExponent (floorLog num den - f.fractionBits)
    let significand :=
      if 0 ≤ exponent then roundQuotient num (den * Nat.pow 2 exponent.toNat)
      else roundQuotient (num * Nat.pow 2 (-exponent).toNat) den
    min ((exponent - f.minExponent).toNat * Nat.pow 2 f.fractionBits + significand)
      (f.topField * Nat.pow 2 f.fractionBits)

/-- The number nearest to `± num / den`; a tie goes to the even significand, and what is too large
becomes infinite. -/
def ofRatio (negative : Bool) (num den : Nat) : Binary f :=
  signed negative (roundedBits f num den)

def ofScaled (negative : Bool) (significand : Nat) (exponent : Int) : Binary f :=
  if 0 ≤ exponent then ofRatio negative (significand * Nat.pow 2 exponent.toNat) 1
  else ofRatio negative significand (Nat.pow 2 (-exponent).toNat)

def ofInt (n : Int) : Binary f := ofRatio (decide (n < 0)) n.natAbs 1

/-- The number nearest to `± digits · 10 ^ exponent`. Far beyond both ends of every format the
power of ten is not computed. -/
def ofDecimal (negative : Bool) (digits : Nat) (exponent : Int) : Binary f :=
  if digits = 0 then ofRatio negative 0 1
  else
    let places : Int := digits.log2
    if exponent > 400 then infinity negative
    else if exponent + places < -1200 then ofRatio negative 0 1
    else if 0 ≤ exponent then ofRatio negative (digits * Nat.pow 10 exponent.toNat) 1
    else ofRatio negative digits (Nat.pow 10 (-exponent).toNat)

def convert {g : Format} (x : Binary f) : Binary g :=
  match x.magnitude with
  | .nan => nan
  | .infinite negative => infinity negative
  | .finite negative significand exponent => ofScaled negative significand exponent

def isNaN (x : Binary f) : Bool :=
  match x.magnitude with
  | .nan => true
  | _ => false

def isFinite (x : Binary f) : Bool :=
  match x.magnitude with
  | .finite .. => true
  | _ => false

end Binary

end ShardedWorld
