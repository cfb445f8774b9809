import ShardedWorld.Entity.Crossing

/-! The two servers at a border agree on projectiles.

Where one server gives a projectile away, the other one takes it in and does not give it back. Both
look at the same predicted path, the first one for where it leaves a zone and the second one for
where it enters another.
-/

set_option autoImplicit false

namespace ShardedWorld

namespace ProjectileWindow

/-- The path is as long as the horizon. -/
def path (w : ProjectileWindow) (position velocity : Vec2) : List Vec2 :=
  w.samples position velocity w.sampleCount

variable (w : ProjectileWindow) (position velocity : Vec2) (wanted : Vec2 → Bool)

theorem firstSample_eq_find? (left i : Nat) :
    w.firstSample position velocity wanted left i =
      ((List.range left).map fun k => w.sample position velocity (k + i)).find? wanted := by
  induction left generalizing i with
  | zero => rfl
  | succ left ih =>
    have shifted :
        (List.range left).map ((fun k => w.sample position velocity (k + i)) ∘ Nat.succ) =
          (List.range left).map fun k => w.sample position velocity (k + (i + 1)) := by
      apply List.map_congr_left
      intro k _
      rw [Function.comp_apply, Nat.succ_add, Nat.add_succ]
    simp only [firstSample, List.range_succ_eq_map, List.map_cons, List.map_map, List.find?_cons,
      Nat.zero_add, shifted, ih]
    split <;> simp_all

theorem find?_eq_find?_path :
    w.find? position velocity wanted = (w.path position velocity).find? wanted := by
  rw [find?, firstSample_eq_find?, path, samples, Nat.min_self]

theorem reaches_iff (grid : Grid) (zone : Zone) :
    w.reaches grid zone position velocity = true ↔
      ∃ p ∈ w.path position velocity, grid.zoneOf p = zone := by
  simp [reaches, find?_eq_find?_path, Grid.contains]

end ProjectileWindow

namespace Crossing

variable {grid : Grid} {w : ProjectileWindow} {b : Body} {assigned zone : Zone}

theorem classify_eq_outside_iff (projectile : b.kind.isProjectile = true) :
    classify grid assigned w b = .outside zone ↔
      grid.zoneOf b.position = zone ∧ zone ≠ assigned ∧
        ∀ p ∈ w.path b.position b.velocity, grid.zoneOf p ≠ assigned := by
  have reached := w.reaches_iff b.position b.velocity grid assigned
  simp only [classify, projectile, Bool.not_true, Bool.false_eq_true, if_false]
  split
  next out =>
    split
    next back =>
      obtain ⟨p, sampled, inside⟩ := reached.mp back
      constructor
      · intro same
        cases same
      · rintro ⟨-, -, away⟩
        exact absurd inside (away p sampled)
    next away =>
      constructor
      · rintro ⟨⟩
        exact ⟨rfl, out, fun p sampled inside => away (reached.mpr ⟨p, sampled, inside⟩)⟩
      · rintro ⟨rfl, -⟩
        rfl
  next inside =>
    rw [Decidable.not_not] at inside
    constructor
    · intro same
      split at same <;> cases same
    · rintro ⟨rfl, out, -⟩
      exact absurd inside out

/-- A projectile about to leave enters the zone of the first sample that is elsewhere. -/
theorem classify_eq_leaving_iff (projectile : b.kind.isProjectile = true) :
    classify grid assigned w b = .leaving zone ↔
      grid.zoneOf b.position = assigned ∧ ∃ p,
        (w.path b.position b.velocity).find? (fun p => !grid.contains assigned p) = some p ∧
          grid.zoneOf p = zone := by
  simp only [classify, projectile, Bool.not_true, Bool.false_eq_true, if_false]
  rw [w.find?_eq_find?_path]
  split
  next out =>
    constructor
    · intro same
      split at same <;> cases same
    · rintro ⟨inside, -⟩
      exact absurd inside out
  next inside =>
    rw [Decidable.not_not] at inside
    split
    next p first => simp [inside, first]
    next none => simp [none]

theorem accepts_iff {s : EntitySnapshot} {leftOrigin : Option Duration} :
    accepts grid zone w s leftOrigin = true ↔
      grid.zoneOf s.position = zone ∨
        (∃ p ∈ w.path s.position s.velocity, grid.zoneOf p = zone) ∨
          ∃ time, leftOrigin = some time ∧ time ≤ w.grace := by
  simp only [accepts, Bool.or_eq_true, w.reaches_iff, or_assoc, Grid.contains, beq_iff_eq]
  cases leftOrigin <;> simp

theorem bound_for_of_classify {origin target : Zone} (projectile : b.kind.isProjectile = true)
    (away : classify grid origin w b = .outside target ∨
      classify grid origin w b = .leaving target) :
    grid.zoneOf b.position = target ∨
      ∃ p ∈ w.path b.position b.velocity, grid.zoneOf p = target := by
  rcases away with outside | leaving
  · left
    exact ((classify_eq_outside_iff projectile).mp outside).1
  · right
    obtain ⟨-, p, first, entered⟩ := (classify_eq_leaving_iff projectile).mp leaving
    exact ⟨p, List.mem_of_find?_eq_some first, entered⟩

theorem not_outside_iff (projectile : b.kind.isProjectile = true) :
    (∀ other, classify grid zone w b ≠ .outside other) ↔
      grid.zoneOf b.position = zone ∨
        ∃ p ∈ w.path b.position b.velocity, grid.zoneOf p = zone := by
  constructor
  · intro kept
    by_cases inside : grid.zoneOf b.position = zone
    · exact .inl inside
    · right
      have entered := mt (classify_eq_outside_iff projectile).mpr (kept (grid.zoneOf b.position))
      simpa [inside] using entered
  · rintro bound other outside
    obtain ⟨rfl, out, away⟩ := (classify_eq_outside_iff projectile).mp outside
    rcases bound with inside | ⟨p, sampled, entered⟩
    · exact out inside
    · exact away p sampled entered

/-- Whoever gives a projectile away does not get it back at once. -/
theorem not_leaving_of_classify {origin target : Zone} (projectile : b.kind.isProjectile = true)
    (different : origin ≠ target)
    (away : classify grid origin w b = .outside target ∨
      classify grid origin w b = .leaving target) :
    classify grid target w b ≠ .leaving origin := by
  intro back
  obtain ⟨inTarget, p, first, entered⟩ := (classify_eq_leaving_iff projectile).mp back
  rcases away with outside | leaving
  -- From outside no sample leads into the origin.
  · obtain ⟨-, -, never⟩ := (classify_eq_outside_iff projectile).mp outside
    exact never p (List.mem_of_find?_eq_some first) entered
  -- What is about to leave is in the origin still, and not in the target.
  · obtain ⟨inOrigin, -⟩ := (classify_eq_leaving_iff projectile).mp leaving
    exact different (inOrigin.symm.trans inTarget)

/-- A projectile that the server of one zone gives to another is taken in there, however long ago it
left, and neither destroyed nor sent back; and a server takes in, of projectiles that have not left
their origin, exactly those that it would not find outside. -/
theorem neighbours_agree_on_projectiles (grid : Grid) (w : ProjectileWindow) {e : Entity}
    (projectile : e.kind.isProjectile = true) :
    (∀ origin target : Zone, origin ≠ target →
      classify grid origin w e.toBody = .outside target ∨
        classify grid origin w e.toBody = .leaving target →
      (∀ leftOrigin, accepts grid target w e.snapshot leftOrigin = true) ∧
        (∀ zone, classify grid target w e.toBody ≠ .outside zone) ∧
        classify grid target w e.toBody ≠ .leaving origin) ∧
    ∀ zone : Zone, accepts grid zone w e.snapshot none = true ↔
      ∀ other, classify grid zone w e.toBody ≠ .outside other := by
  constructor
  · intro origin target different away
    have bound := bound_for_of_classify projectile away
    refine ⟨?_, (not_outside_iff projectile).mpr bound, ?_⟩
    · intro leftOrigin
      exact accepts_iff.mpr (bound.imp_right .inl)
    · exact not_leaving_of_classify projectile different away
  · intro zone
    rw [not_outside_iff projectile, accepts_iff]
    simp [Entity.snapshot]

def earlyBullet : Entity :=
  { Entity.appearing 1 .bullet ⟨.ofInt 400, .ofInt 100⟩ with velocity := ⟨.ofInt 300, .zero⟩ }

/-- It leaves the first zone early, and the next one keeps it on its way in. -/
theorem early_bullet_agreed_on :
    earlyBullet.kind.isProjectile = true ∧
      classify .standard ⟨0, 0⟩ .standard earlyBullet.toBody = .leaving ⟨1, 0⟩ ∧
      accepts .standard ⟨1, 0⟩ .standard earlyBullet.snapshot none = true ∧
      classify .standard ⟨1, 0⟩ .standard earlyBullet.toBody ≠ .leaving ⟨0, 0⟩ := by
  have leaving : classify .standard ⟨0, 0⟩ .standard earlyBullet.toBody = .leaving ⟨1, 0⟩ := by
    decide +kernel
  have agreed := (neighbours_agree_on_projectiles .standard .standard (e := earlyBullet) rfl).1
    ⟨0, 0⟩ ⟨1, 0⟩ (by decide) (.inr leaving)
  exact ⟨rfl, leaving, agreed.1 none, agreed.2.2⟩

end Crossing

end ShardedWorld
