import ShardedWorld.Binary.Arithmetic

/-!
Decimal text of binary numbers.

`Decimal.shortest` finds the fewest digits that read back as the same number, and of those the
nearest; `plainText` and `fullText` differ only in where they put the point. `tenthsText` prints one
place after the point. `ofText` reads what a person types.
-/

set_option autoImplicit false

namespace ShardedWorld

/-- A positive decimal `0.d₁d₂… · 10 ^ point`, its digits without zeros at the end. -/
structure Decimal where
  digits : List Char
  point : Int
  deriving DecidableEq

namespace Decimal

def ofScaled (n : Nat) (exponent : Int) : Decimal :=
  let digits := Nat.toDigits 10 n
  { digits := (digits.reverse.dropWhile (· == '0')).reverse
    point := digits.length + exponent }

/-- Every digit in its place, without an exponent; a whole number ends in `whole`. -/
def positional (d : Decimal) (whole : String) : String :=
  if d.point ≤ 0 then "0." ++ "".pushn '0' (-d.point).toNat ++ String.ofList d.digits
  else
    let before := d.digits.take d.point.toNat
    let after := d.digits.drop d.point.toNat
    let padding := "".pushn '0' (d.point.toNat - before.length)
    if after.isEmpty then String.ofList before ++ padding ++ whole
    else String.ofList before ++ "." ++ String.ofList after

/-- One digit before the point and the power of ten after an `e`. -/
def scientific (d : Decimal) : String :=
  let exponent := toString (d.point - 1)
  match d.digits with
  | [] => "0e" ++ exponent
  | [digit] => String.singleton digit ++ "e" ++ exponent
  | digit :: rest => String.singleton digit ++ "." ++ String.ofList rest ++ "e" ++ exponent

end Decimal

namespace Binary

variable {f : Format}

/-- The value and the ends of the interval of reals that round to it, in units of a quarter of the
last place, and that unit's power of two. The interval is narrower below a power of two. -/
def neighbourhood (f : Format) (significand : Nat) (exponent : Int) : Nat × Nat × Nat × Int :=
  let narrow := significand = Nat.pow 2 f.fractionBits ∧ f.minExponent < exponent
  (4 * significand, (if narrow then 4 * significand - 1 else 4 * significand - 2),
    4 * significand + 2, exponent - 2)

/-- The fewest digits that read back as `significand · 2 ^ exponent`; of two such decimals of the
same length the nearer, and the upper one at equal distance. -/
def shortest (f : Format) (significand : Nat) (exponent : Int) : Decimal :=
  let (value, low, high, unit) := neighbourhood f significand exponent
  let (scale, den) : Nat × Nat :=
    if 0 ≤ unit then (Nat.pow 2 unit.toNat, 1) else (1, Nat.pow 2 (-unit).toNat)
  let closed := significand % 2 = 0
  let within (num den' : Nat) : Bool :=
    -- `num / den'` against the ends, all in quarter units
    if closed then low * den' ≤ num && num ≤ high * den' else low * den' < num && num < high * den'
  let estimate : Int := floorLog (value * scale) den * 30103 / 100000
  -- the value lies below `10 ^ top`
  let top := estimate + 2
  let rec search : Nat → Int → Decimal
    | 0, place => .ofScaled (value * scale / den) place
    | steps + 1, place =>
      -- a grid point `n` stands for `n · 10 ^ place`, that is `n · up / down` quarter units
      let (up, down) : Nat × Nat :=
        if 0 ≤ place then (Nat.pow 10 place.toNat * den, scale)
        else (den, scale * Nat.pow 10 (-place).toNat)
      let lower := value * down / up
      let upper := lower + 1
      let lowerFits := lower ≠ 0 && within (lower * up) down
      let upperFits := within (upper * up) down
      if lowerFits && upperFits then
        if value * down - lower * up < upper * up - value * down then .ofScaled lower place
        else .ofScaled upper place
      else if lowerFits then .ofScaled lower place
      else if upperFits then .ofScaled upper place
      else search steps (place - 1)
  search 40 top

def signText (negative : Bool) : String := if negative then "-" else ""

/-- The fewest digits that read back, never with an exponent; a whole number has no point. -/
def plainText (x : Binary f) : String :=
  match x.magnitude with
  | .nan => "NaN"
  | .infinite negative => signText negative ++ "inf"
  | .finite negative significand exponent =>
    signText negative ++
      if significand = 0 then "0" else (shortest f significand exponent).positional ""

/-- The fewest digits that read back, with at least one after the point between `10⁻⁴` and `10¹⁶`
and with an exponent elsewhere. -/
def fullText (x : Binary f) : String :=
  match x.magnitude with
  | .nan => "NaN"
  | .infinite negative => signText negative ++ "inf"
  | .finite negative significand exponent =>
    signText negative ++
      if significand = 0 then "0.0"
      else
        let decimal := shortest f significand exponent
        if -4 < decimal.point && decimal.point ≤ 16 then decimal.positional ".0"
        else decimal.scientific

/-- One digit after the point, the exact value rounded with ties to even; the sign stays, also
before a zero. -/
def tenthsText (x : Binary f) : String :=
  match x.magnitude with
  | .nan => "NaN"
  | .infinite negative => signText negative ++ "inf"
  | .finite negative significand exponent =>
    let tenths :=
      if 0 ≤ exponent then 10 * significand * Nat.pow 2 exponent.toNat
      else roundQuotient (10 * significand) (Nat.pow 2 (-exponent).toNat)
    signText negative ++ toString (tenths / 10) ++ "." ++ toString (tenths % 10)

end Binary

inductive NumberError where
  | empty
  | invalid
  deriving DecidableEq

namespace Binary

variable {f : Format}

def digitsValue (digits : List Char) : Nat :=
  digits.foldl (fun n c => 10 * n + (c.toNat - '0'.toNat)) 0

def exponentOf? : List Char → Option Int
  | [] => some 0
  | mark :: rest =>
    if mark ≠ 'e' ∧ mark ≠ 'E' then none
    else
      let (negative, digits) := match rest with
        | '-' :: digits => (true, digits)
        | '+' :: digits => (false, digits)
        | digits => (false, digits)
      if digits.isEmpty || !digits.all Char.isDigit then none
      else
        let n : Int := digitsValue digits
        some (if negative then -n else n)

/-- Reads an optional sign and then a decimal with an optional fraction and exponent, or a name for
infinity or for no number in letters of either case. -/
def ofText (text : String) : Except NumberError (Binary f) :=
  match text.toList with
  | [] => .error .empty
  | chars =>
    let (negative, body) := match chars with
      | '-' :: rest => (true, rest)
      | '+' :: rest => (false, rest)
      | rest => (false, rest)
    let lower := body.map Char.toLower
    if lower = "inf".toList || lower = "infinity".toList then .ok (infinity negative)
    else if lower = "nan".toList then .ok nan
    else
      let before := body.takeWhile Char.isDigit
      let rest := body.dropWhile Char.isDigit
      let (after, rest) := match rest with
        | '.' :: rest => (rest.takeWhile Char.isDigit, rest.dropWhile Char.isDigit)
        | rest => ([], rest)
      if before.isEmpty && after.isEmpty then .error .invalid
      else
        match exponentOf? rest with
        | none => .error .invalid
        | some exponent =>
          .ok (ofDecimal negative (digitsValue (before ++ after)) (exponent - after.length))

end Binary

end ShardedWorld
