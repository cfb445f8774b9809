import ShardedWorld.Entity.Scan

/-! Which entities a scan takes up, and how it marks them.

A scan notes on every entity since when it has been outside and leaves all else about it as it is.
Its candidates are the entities that are not inside, each of them once.
-/

set_option autoImplicit false

namespace ShardedWorld

namespace Population

def without (p : Population) (ids : List EntityId) : Population := ids.foldl erase p

theorem without_bodies (p : Population) (ids : List EntityId) (id : EntityId) :
    (p.without ids).bodies[id]? = if id ∈ ids then none else p.bodies[id]? := by
  induction ids generalizing p with
  | nil => rfl
  | cons first rest ih =>
    refine (ih (p.erase first)).trans ?_
    simp only [erase, Std.ExtTreeMap.getElem?_erase, Std.compare_eq_iff_eq, List.mem_cons]
    by_cases listed : id ∈ rest
    · simp [listed]
    · simp [listed, eq_comm]

theorem size_without {p : Population} {ids : List EntityId} (distinct : ids.Nodup)
    (held : ∀ id ∈ ids, id ∈ p.bodies) : (p.without ids).size + ids.length = p.size := by
  induction ids generalizing p with
  | nil => rfl
  | cons first rest ih =>
    obtain ⟨fresh, distinct⟩ := List.nodup_cons.mp distinct
    have member := held first (by simp)
    have nonempty : 0 < p.bodies.size := by
      rw [← Std.ExtTreeMap.length_keys]
      exact List.length_pos_of_mem (Std.ExtTreeMap.mem_keys.mpr member)
    have after : ((p.erase first).without rest).size + rest.length = (p.erase first).size := by
      apply ih distinct
      intro id listed
      have different : first ≠ id := fun same => fresh (same ▸ listed)
      simp [erase, Std.ExtTreeMap.mem_erase, different, held id (by simp [listed])]
    have one : (p.erase first).size = p.size - 1 := by
      simp [erase, size, Std.ExtTreeMap.size_erase, member]
    calc ((p.erase first).without rest).size + (rest.length + 1)
      _ = p.size - 1 + 1 := by rw [← Nat.add_assoc, after, one]
      _ = p.size := Nat.sub_add_cancel nonempty

theorem mem_toList_iff {p : Population} {e : Entity} :
    e ∈ p.toList ↔ p.bodies[e.id]? = some e.toBody := by
  constructor
  · intro member
    obtain ⟨⟨id, b⟩, listed, rfl⟩ := List.mem_map.mp member
    exact Std.ExtTreeMap.mem_toList_iff_getElem?_eq_some.mp listed
  · intro found
    exact List.mem_map.mpr
      ⟨(e.id, e.toBody), Std.ExtTreeMap.mem_toList_iff_getElem?_eq_some.mpr found, rfl⟩

theorem toList_distinct (p : Population) : (p.toList.map (·.id)).Nodup := by
  rw [toList, List.map_map, List.Nodup, List.pairwise_map]
  apply p.bodies.distinct_keys_toList.imp
  intro a b different same
  exact different (by simpa using same)

end Population

namespace Scan

variable (grid : Grid) (zone : Zone) (w : ProjectileWindow) (now : Instant) (p : Population)

def mark (b : Body) : Body :=
  { b with
    leftOriginAt :=
      match Crossing.classify grid zone w b with
      | .inside => none
      | .outside _ => some (b.leftOriginAt.getD now)
      | .leaving _ => b.leftOriginAt }

/-- The mark does not count for where an entity belongs. -/
theorem classify_mark (b : Body) :
    Crossing.classify grid zone w (mark grid zone w now b) = Crossing.classify grid zone w b := rfl

theorem collect_bodies (id : EntityId) :
    (collect grid zone w now p).1.bodies[id]? = (p.bodies[id]?).map (mark grid zone w now) := by
  have same : (fun b : Body => match Crossing.classify grid zone w b with
      | .inside => { b with leftOriginAt := none }
      | .outside _ => { b with leftOriginAt := some (b.leftOriginAt.getD now) }
      | .leaving _ => b) = mark grid zone w now := by
    funext b
    unfold mark
    split <;> rfl
  rw [← same]
  exact Std.ExtTreeMap.getElem?_map

/-- An entity that is not inside, with where it is bound for. -/
def candidate? (e : Entity) : Option (Entity × Crossing) :=
  match Crossing.classify grid zone w e.toBody with
  | .inside => none
  | crossing => some (e, crossing)

theorem collect_candidates : (collect grid zone w now p).2 =
    (collect grid zone w now p).1.toList.filterMap (candidate? grid zone w) := rfl

theorem candidate?_eq_some {grid : Grid} {zone : Zone} {w : ProjectileWindow} {e e' : Entity}
    {crossing : Crossing} : candidate? grid zone w e = some (e', crossing) ↔
      e = e' ∧ Crossing.classify grid zone w e.toBody = crossing ∧ crossing ≠ .inside := by
  unfold candidate?
  split
  next inside =>
    constructor
    · intro same
      cases same
    · rintro ⟨-, rfl, out⟩
      exact absurd inside out
  next out =>
    rw [Option.some.injEq, Prod.mk.injEq]
    constructor
    · rintro ⟨rfl, rfl⟩
      exact ⟨rfl, rfl, out⟩
    · rintro ⟨rfl, rfl, -⟩
      exact ⟨rfl, rfl⟩

theorem mem_candidates {e : Entity} {crossing : Crossing} :
    (e, crossing) ∈ (collect grid zone w now p).2 ↔
      ∃ b, p.bodies[e.id]? = some b ∧ e.toBody = mark grid zone w now b ∧
        crossing = Crossing.classify grid zone w b ∧ crossing ≠ .inside := by
  rw [collect_candidates]
  constructor
  · intro member
    obtain ⟨e', listed, chosen⟩ := List.mem_filterMap.mp member
    obtain ⟨rfl, rfl, out⟩ := candidate?_eq_some.mp chosen
    have found := Population.mem_toList_iff.mp listed
    rw [collect_bodies] at found
    obtain ⟨b, held, marked⟩ := Option.map_eq_some_iff.mp found
    rw [← marked] at out ⊢
    exact ⟨b, held, rfl, rfl, out⟩
  · rintro ⟨b, held, marked, rfl, out⟩
    apply List.mem_filterMap.mpr
    refine ⟨e, Population.mem_toList_iff.mpr ?_, candidate?_eq_some.mpr ⟨rfl, ?_, out⟩⟩
    · rw [collect_bodies, held, marked, Option.map_some]
    · rw [marked, classify_mark]

theorem candidates_distinct : ((collect grid zone w now p).2.map (·.1.id)).Nodup := by
  have distinct := (collect grid zone w now p).1.toList_distinct
  rw [collect_candidates]
  rw [List.Nodup, List.pairwise_map] at distinct ⊢
  refine List.pairwise_filterMap.mpr (distinct.imp ?_)
  rintro a b different ⟨a', c⟩ first ⟨b', d⟩ second
  obtain ⟨rfl, -⟩ := candidate?_eq_some.mp first
  obtain ⟨rfl, -⟩ := candidate?_eq_some.mp second
  exact different

end Scan

end ShardedWorld
