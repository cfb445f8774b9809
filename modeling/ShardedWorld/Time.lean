import ShardedWorld.Binary.Arithmetic

/-!
Lengths of time and points in time, both counted in nanoseconds.

Clocks are read by callers only: every operation that depends on the time is given an `Instant`.
The distance between two instants is never negative, so a clock that steps back reads as no time
having passed.
-/

set_option autoImplicit false

namespace ShardedWorld

structure Duration where
  nanos : Nat
  deriving DecidableEq, Inhabited

namespace Duration

def perSecond : Nat := 1000000000

def zero : Duration := ⟨0⟩

def ofSeconds (seconds : Nat) : Duration := ⟨seconds * perSecond⟩

def ofMillis (millis : Nat) : Duration := ⟨millis * 1000000⟩

def seconds (d : Duration) : Nat := d.nanos / perSecond

def subsecond (d : Duration) : Nat := d.nanos % perSecond

def millis (d : Duration) : Nat := d.nanos / 1000000

instance : LT Duration := ⟨fun a b => a.nanos < b.nanos⟩
instance : LE Duration := ⟨fun a b => a.nanos ≤ b.nanos⟩

instance (a b : Duration) : Decidable (a < b) := inferInstanceAs (Decidable (a.nanos < b.nanos))
instance (a b : Duration) : Decidable (a ≤ b) := inferInstanceAs (Decidable (a.nanos ≤ b.nanos))

theorem le_iff {a b : Duration} : a ≤ b ↔ a.nanos ≤ b.nanos := .rfl

theorem lt_iff {a b : Duration} : a < b ↔ a.nanos < b.nanos := .rfl

/-- Seconds as a binary number: the whole seconds and the rest are rounded, then their sum. -/
def toSeconds {f : Format} (d : Duration) : Binary f :=
  .ofInt d.seconds + .ofInt d.subsecond / .ofInt perSecond

/-- Seconds are counted in 64 bits; a longer time cannot be held. -/
def limit : Duration := .ofSeconds 18446744073709551616

/-- The time nearest to a number of seconds, to the nanosecond with ties to even; none if it is
negative, too long, or no number at all. -/
def ofSeconds? {f : Format} (x : Binary f) : Option Duration :=
  match x.magnitude with
  | .finite negative significand exponent =>
    if negative && significand ≠ 0 then none
    else
      let nanos :=
        if 0 ≤ exponent then significand * Nat.pow 2 exponent.toNat * perSecond
        else roundQuotient (significand * perSecond) (Nat.pow 2 (-exponent).toNat)
      if nanos < limit.nanos then some ⟨nanos⟩ else none
  | _ => none

/-- The digits after the point of `rest / unit`, without zeros at the end, `places` long at most. -/
def fractionText : Nat → Nat → Nat → String
  | 0, _, _ => ""
  | places + 1, rest, unit =>
    if rest = 0 then ""
    else toString (10 * rest / unit) ++ fractionText places (10 * rest % unit) unit

def inUnit (nanos unit : Nat) (name : String) : String :=
  let fraction := fractionText 9 (nanos % unit) unit
  toString (nanos / unit) ++ (if fraction.isEmpty then "" else "." ++ fraction) ++ name

/-- The time in the largest of the four units of which it holds at least one. -/
def text (d : Duration) : String :=
  if perSecond ≤ d.nanos then inUnit d.nanos perSecond "s"
  else if 1000000 ≤ d.nanos then inUnit d.nanos 1000000 "ms"
  else if 1000 ≤ d.nanos then inUnit d.nanos 1000 "µs"
  else inUnit d.nanos 1 "ns"

end Duration

structure Instant where
  nanos : Nat
  deriving DecidableEq, Inhabited

namespace Instant

def start : Instant := ⟨0⟩

def after (start : Instant) (d : Duration) : Instant := ⟨start.nanos + d.nanos⟩

/-- The time from `earlier` to `later`, zero if the clock stepped back. -/
def since (later earlier : Instant) : Duration := ⟨later.nanos - earlier.nanos⟩

instance : LT Instant := ⟨fun a b => a.nanos < b.nanos⟩
instance : LE Instant := ⟨fun a b => a.nanos ≤ b.nanos⟩

instance (a b : Instant) : Decidable (a < b) := inferInstanceAs (Decidable (a.nanos < b.nanos))
instance (a b : Instant) : Decidable (a ≤ b) := inferInstanceAs (Decidable (a.nanos ≤ b.nanos))

/-- Clocks count seconds in 63 bits; no clock shows this time or a later one. -/
def limit : Instant := start.after (.ofSeconds 9223372036854775808)

/-- The time `d` later, if a clock can show it. -/
def after? (start : Instant) (d : Duration) : Option Instant :=
  if start.after d < limit then some (start.after d) else none

/-- The text with which a time that no clock can show is refused. -/
def overflowText : String := "overflow when adding duration to instant"

def max (a b : Instant) : Instant := if a < b then b else a

@[simp] theorem since_nanos (later earlier : Instant) :
    (later.since earlier).nanos = later.nanos - earlier.nanos := rfl

@[simp] theorem after_nanos (t : Instant) (d : Duration) :
    (t.after d).nanos = t.nanos + d.nanos := rfl

theorem le_iff {a b : Instant} : a ≤ b ↔ a.nanos ≤ b.nanos := .rfl

theorem lt_iff {a b : Instant} : a < b ↔ a.nanos < b.nanos := .rfl

theorem le_after (t : Instant) (d : Duration) : t ≤ t.after d := Nat.le_add_right _ _

theorem le_trans {a b c : Instant} (first : a ≤ b) (second : b ≤ c) : a ≤ c :=
  Nat.le_trans first second

theorem le_antisymm {a b : Instant} (first : a ≤ b) (second : b ≤ a) : a = b :=
  congrArg mk (Nat.le_antisymm first second)

theorem after?_eq_some_iff {start later : Instant} {d : Duration} :
    start.after? d = some later ↔ start.after d < limit ∧ start.after d = later := by
  simp [after?]

theorem after?_eq_none_iff {start : Instant} {d : Duration} :
    start.after? d = none ↔ limit ≤ start.after d := by
  simp [after?, le_iff, lt_iff]

theorem since_eq_iff {earlier later : Instant} {d : Duration} (ordered : earlier ≤ later) :
    later.since earlier = d ↔ earlier.after d = later := by
  cases earlier
  cases later
  cases d
  simp only [since, after, mk.injEq, Duration.mk.injEq]
  exact Nat.sub_eq_iff_eq_add' ordered |>.trans eq_comm

theorem le_since_iff {earlier later : Instant} {d : Duration} (ordered : earlier ≤ later) :
    d ≤ later.since earlier ↔ earlier.after d ≤ later :=
  Nat.le_sub_iff_add_le' ordered

end Instant

end ShardedWorld
