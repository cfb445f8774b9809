import ShardedWorld.Entity.Basic
import ShardedWorld.Space.Grid

/-!
When an entity has to leave the zone of its server, and when a server takes a projectile in.

Most entities cross when they are outside. A projectile crosses early: its path is sampled up to a
horizon, and it leaves as soon as a sample lies in another zone. So that it is not sent back at
once, its new server keeps it as long as a sample lies in its own zone, and a projectile that left
its origin only just before is taken in anyway.
-/

set_option autoImplicit false

namespace ShardedWorld

/-- How far a projectile's path is looked ahead, in which steps, and how long after leaving its
origin it is still taken in. -/
structure ProjectileWindow where
  lookahead : Duration
  sampleStep : Duration
  grace : Duration
  deriving DecidableEq

namespace ProjectileWindow

def standard : ProjectileWindow := ⟨.ofMillis 500, .ofMillis 50, .ofMillis 200⟩

def validate (w : ProjectileWindow) : Except ConfigError Unit := do
  ConfigError.requirePositive "projectile_sample_step" w.sampleStep
  ConfigError.require "projectile_sample_step" (.notAbove "the lookahead window")
    (decide (w.sampleStep ≤ w.lookahead) || decide (w.lookahead = .zero))

def stepSeconds (w : ProjectileWindow) : Single := w.sampleStep.toSeconds

/-- The number of samples: the horizon in steps, rounded to the nearest whole number. -/
def sampleCount (w : ProjectileWindow) : Nat :=
  if .zero < w.stepSeconds then
    ((w.lookahead.toSeconds / w.stepSeconds).nearestInt 0 4294967295).toNat
  else 0

def sample (w : ProjectileWindow) (position velocity : Vec2) (i : Nat) : Vec2 :=
  position + velocity.scale (w.stepSeconds * .ofInt i)

/-- The first of the samples `i`, `i + 1`, … that `wanted` holds of, among `left` of them. -/
def firstSample (w : ProjectileWindow) (position velocity : Vec2) (wanted : Vec2 → Bool) :
    Nat → Nat → Option Vec2
  | 0, _ => none
  | left + 1, i =>
    let p := w.sample position velocity i
    if wanted p then some p else w.firstSample position velocity wanted left (i + 1)

def find? (w : ProjectileWindow) (position velocity : Vec2) (wanted : Vec2 → Bool) :
    Option Vec2 :=
  w.firstSample position velocity wanted w.sampleCount 1

/-- Up to `limit` predicted positions, in the order of time. -/
def samples (w : ProjectileWindow) (position velocity : Vec2) (limit : Nat) : List Vec2 :=
  (List.range (min limit w.sampleCount)).map fun i => w.sample position velocity (i + 1)

def reaches (w : ProjectileWindow) (grid : Grid) (zone : Zone) (position velocity : Vec2) :
    Bool :=
  (w.find? position velocity (grid.contains zone)).isSome

end ProjectileWindow

inductive Crossing where
  | inside
  | outside (zone : Zone)
  | leaving (zone : Zone)
  deriving DecidableEq

namespace Crossing

def classify (grid : Grid) (assigned : Zone) (w : ProjectileWindow) (b : Body) : Crossing :=
  let current := grid.zoneOf b.position
  if !b.kind.isProjectile then
    if current = assigned then .inside else .outside current
  else if current ≠ assigned then
    if w.reaches grid assigned b.position b.velocity then .inside else .outside current
  else
    match w.find? b.position b.velocity fun p => !grid.contains assigned p with
    | some p => .leaving (grid.zoneOf p)
    | none => .inside

def accepts (grid : Grid) (zone : Zone) (w : ProjectileWindow) (s : EntitySnapshot)
    (leftOrigin : Option Duration) : Bool :=
  grid.contains zone s.position || w.reaches grid zone s.position s.velocity ||
    match leftOrigin with
    | some time => decide (time ≤ w.grace)
    | none => false

end Crossing

end ShardedWorld
