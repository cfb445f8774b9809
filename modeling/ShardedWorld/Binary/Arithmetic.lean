import ShardedWorld.Binary.Format

/-!
Arithmetic and order on binary numbers. Each operation computes exactly and rounds once.
-/

set_option autoImplicit false

namespace ShardedWorld

/-- The largest natural number whose square is at most `n`, found two binary digits at a time. -/
def floorRoot (n : Nat) : Nat :=
  go (n.log2 / 2 + 1) n
where
  go : Nat → Nat → Nat
    | 0, _ => 0
    | steps + 1, n =>
      let root := 2 * go steps (n / 4)
      if (root + 1) * (root + 1) ≤ n then root + 1 else root

/-- The smallest natural number whose square is at least `n`. -/
def ceilRoot (n : Nat) : Nat :=
  let root := floorRoot n
  if root * root = n then root else root + 1

namespace Magnitude

/-- A finite value in units of `2 ^ unit`, for a `unit` not above its exponent. -/
def inUnits (negative : Bool) (significand : Nat) (exponent unit : Int) : Int :=
  let scaled : Int := significand * Nat.pow 2 (exponent - unit).toNat
  if negative then -scaled else scaled

/-- The order of two values, none if one of them is no number. Both zeros are equal. -/
def compare? : Magnitude → Magnitude → Option Ordering
  | .nan, _ => none
  | _, .nan => none
  | .infinite a, .infinite b => some (compare b a)
  | .infinite a, .finite .. => some (if a then .lt else .gt)
  | .finite .., .infinite b => some (if b then .gt else .lt)
  | .finite na ma ea, .finite nb mb eb =>
    let unit := min ea eb
    some (compare (inUnits na ma ea unit) (inUnits nb mb eb unit))

end Magnitude

namespace Binary

variable {f : Format}

/-- A sum that cancels is a positive zero; only two negative zeros give a negative one. -/
def add (x y : Binary f) : Binary f :=
  match x.magnitude, y.magnitude with
  | .nan, _ => nan
  | _, .nan => nan
  | .infinite a, .infinite b => if a = b then infinity a else nan
  | .infinite a, .finite .. => infinity a
  | .finite .., .infinite b => infinity b
  | .finite nx mx ex, .finite ny my ey =>
    let unit := min ex ey
    let sum := Magnitude.inUnits nx mx ex unit + Magnitude.inUnits ny my ey unit
    if sum = 0 then signed (nx && ny) 0
    else ofScaled (decide (sum < 0)) sum.natAbs unit

def neg (x : Binary f) : Binary f :=
  match x.magnitude with
  | .nan => x
  | .infinite negative => infinity (!negative)
  | .finite negative significand exponent => ofScaled (!negative) significand exponent

def sub (x y : Binary f) : Binary f := x.add y.neg

def mul (x y : Binary f) : Binary f :=
  match x.magnitude, y.magnitude with
  | .nan, _ => nan
  | _, .nan => nan
  | .infinite a, .infinite b => infinity (a != b)
  | .infinite a, .finite b m _ => if m = 0 then nan else infinity (a != b)
  | .finite a m _, .infinite b => if m = 0 then nan else infinity (a != b)
  | .finite nx mx ex, .finite ny my ey => ofScaled (nx != ny) (mx * my) (ex + ey)

def div (x y : Binary f) : Binary f :=
  match x.magnitude, y.magnitude with
  | .nan, _ => nan
  | _, .nan => nan
  | .infinite _, .infinite _ => nan
  | .infinite a, .finite b _ _ => infinity (a != b)
  | .finite a _ _, .infinite b => ofRatio (a != b) 0 1
  | .finite nx mx ex, .finite ny my ey =>
    if my = 0 then
      if mx = 0 then nan else infinity (nx != ny)
    else
      let scale := ex - ey
      if 0 ≤ scale then ofRatio (nx != ny) (mx * Nat.pow 2 scale.toNat) my
      else ofRatio (nx != ny) mx (my * Nat.pow 2 (-scale).toNat)

/-- The root of an even scaling of the value, one unit of which is far below the last place; half
a unit more stands for the digits cut off, so that the one rounding sees on which side of a tie
the root lies. -/
def sqrt (x : Binary f) : Binary f :=
  match x.magnitude with
  | .nan => nan
  | .infinite negative => if negative then nan else infinity false
  | .finite negative significand exponent =>
    if significand = 0 then signed negative 0
    else if negative then nan
    else
      let shift := 2 * f.fractionBits + 4 + (exponent - 2 * (exponent / 2)).toNat
      let scaled := significand * Nat.pow 2 shift
      let root := floorRoot scaled
      let sticky := if root * root = scaled then 2 * root else 2 * root + 1
      ofScaled false sticky ((exponent - shift) / 2 - 1)

instance : Add (Binary f) := ⟨add⟩
instance : Sub (Binary f) := ⟨sub⟩
instance : Mul (Binary f) := ⟨mul⟩
instance : Div (Binary f) := ⟨div⟩
instance : Neg (Binary f) := ⟨neg⟩

def below (x y : Binary f) : Bool := Magnitude.compare? x.magnitude y.magnitude == some .lt

def atMost (x y : Binary f) : Bool :=
  match Magnitude.compare? x.magnitude y.magnitude with
  | some .lt | some .eq => true
  | _ => false

def agrees (x y : Binary f) : Bool := Magnitude.compare? x.magnitude y.magnitude == some .eq

instance : LT (Binary f) := ⟨fun x y => x.below y = true⟩
instance : LE (Binary f) := ⟨fun x y => x.atMost y = true⟩

instance (x y : Binary f) : Decidable (x < y) := inferInstanceAs (Decidable (x.below y = true))
instance (x y : Binary f) : Decidable (x ≤ y) := inferInstanceAs (Decidable (x.atMost y = true))

/-- The smaller of two numbers, the second if they are equal. What is no number loses against any
number. -/
def min (x y : Binary f) : Binary f := if y.isNaN || x < y then x else y

/-- The larger of two numbers, the second if they are equal. What is no number loses against any
number. -/
def max (x y : Binary f) : Binary f := if y.isNaN || y < x then x else y

def clamp (lo hi n : Int) : Int := if n < lo then lo else if hi < n then hi else n

/-- A whole number made from the exact value by `whole` and brought between `lo` and `hi`; what is
no number gives zero. -/
def toIntWith (whole : Int → Nat → Int) (lo hi : Int) (x : Binary f) : Int :=
  match x.magnitude with
  | .nan => 0
  | .infinite negative => if negative then lo else hi
  | .finite negative significand exponent =>
    let signed : Int := if negative then -significand else significand
    clamp lo hi <|
      if 0 ≤ exponent then signed * Nat.pow 2 exponent.toNat
      else whole signed (Nat.pow 2 (-exponent).toNat)

/-- The largest whole number that is at most `x`, saturating. -/
def floorInt (lo hi : Int) (x : Binary f) : Int :=
  x.toIntWith (fun num den => num.fdiv den) lo hi

/-- The whole number nearest to `x`, halves away from zero, saturating. -/
def nearestInt (lo hi : Int) (x : Binary f) : Int :=
  x.toIntWith (fun num den => num.sign * ((2 * num.natAbs + den) / (2 * den) : Nat)) lo hi

/-- `x ^ n` by repeated squaring, one rounding for each product. -/
def power (x : Binary f) (n : Nat) : Binary f :=
  go (n.log2 + 1) x n (ofInt 1)
where
  go : Nat → Binary f → Nat → Binary f → Binary f
    | 0, _, _, result => result
    | steps + 1, base, n, result =>
      let result := if n % 2 = 1 then result * base else result
      if n / 2 = 0 then result else go steps (base * base) (n / 2) result

/-- `x ^ n` for exponents of either sign; one below zero divides at the end. -/
def powerInt (x : Binary f) (n : Int) : Binary f :=
  if n < 0 then ofInt 1 / x.power n.natAbs else x.power n.natAbs

end Binary

end ShardedWorld
