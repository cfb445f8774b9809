import ShardedWorld.Proofs.Player.Mismatches

/-! Time without a connection counts as time of disagreement.

A monitor does not notice that there was no connection for a while: what it reports is told by the
sightings with a connection. So the time that it reports is one of unbroken disagreement exactly if
there was a connection throughout the episode.
-/

set_option autoImplicit false

namespace ShardedWorld

namespace HealthMonitor

open Health

/-- What a monitor reports does not depend on the sightings without a connection. -/
theorem watch_connected (m : HealthMonitor) (sightings : List Sighting) :
    (m.watch (sightings.filter fun s => s.connected.isSome)).1 =
      (m.watch sightings).1.filter fun e => e.connected.isSome := by
  induction sightings generalizing m with
  | nil => rfl
  | cons s rest ih =>
    cases connected : s.connected with
    | none =>
      rw [List.filter_cons_of_neg (by simp [connected]), ih]
      simp only [watch, see_of_disconnected connected]
      rw [List.filter_cons_of_neg (by simp [connected])]
    | some zone =>
      have told : (m.see s).1.connected = some zone := connected
      rw [List.filter_cons_of_pos (by simp [connected])]
      simp only [watch]
      rw [List.filter_cons_of_pos (by simp [told]), ih]

theorem watch_split {m : HealthMonitor} {sightings : List Sighting} {before later : List Entry}
    {e : Entry} (logged : (m.watch sightings).1 = before ++ e :: later) :
    ∃ earlier s, (m.watch earlier).1 = before ∧ ((m.watch earlier).2.see s).1 = e := by
  induction before generalizing m sightings with
  | nil =>
    cases sightings with
    | nil => cases logged
    | cons s rest => exact ⟨[], s, rfl, (List.cons.inj logged).1⟩
  | cons first before ih =>
    cases sightings with
    | nil => cases logged
    | cons s rest =>
      obtain ⟨rfl, rest_logged⟩ := List.cons.inj logged
      obtain ⟨earlier, next, before, made⟩ := ih rest_logged
      exact ⟨s :: earlier, next, congrArg _ before, made⟩

end HealthMonitor

namespace Health

/-- No sighting of that time was made without a connection. -/
def ConnectedThroughout (log : List Entry) (start finish : Instant) : Prop :=
  ∀ e ∈ log, start ≤ e.now → e.now ≤ finish → e.connected ≠ none

instance (log : List Entry) (start finish : Instant) :
    Decidable (ConnectedThroughout log start finish) :=
  inferInstanceAs (Decidable (∀ e ∈ log, start ≤ e.now → e.now ≤ finish → e.connected ≠ none))

/-- Around a stretch of a log, only the sightings of its first and its last instant matter. -/
theorem connectedThroughout_iff {before stretch later : List Entry} {start finish : Instant}
    (ordered : start ≤ finish) (until_start : ∀ e ∈ before, e.now ≤ start)
    (within : ∀ e ∈ stretch, start ≤ e.now ∧ e.now ≤ finish)
    (from_finish : ∀ e ∈ later, finish ≤ e.now) :
    ConnectedThroughout (before ++ stretch ++ later) start finish ↔
      (∀ e ∈ stretch, e.connected ≠ none) ∧
        ∀ e ∈ before ++ later, e.now = start ∨ e.now = finish → e.connected ≠ none := by
  simp only [ConnectedThroughout, List.forall_mem_append]
  constructor
  · rintro ⟨⟨earlier, inside⟩, after⟩
    refine ⟨fun e mem => inside e mem (within e mem).1 (within e mem).2, ?_, ?_⟩
    · rintro e mem (same | same)
      · exact earlier e mem (same ▸ Nat.le_refl _) (same ▸ ordered)
      · exact earlier e mem (same ▸ ordered) (same ▸ Nat.le_refl _)
    · rintro e mem (same | same)
      · exact after e mem (same ▸ Nat.le_refl _) (same ▸ ordered)
      · exact after e mem (same ▸ ordered) (same ▸ Nat.le_refl _)
  · rintro ⟨inside, earlier, after⟩
    refine ⟨⟨fun e mem begun _ => ?_, fun e mem _ _ => inside e mem⟩, fun e mem _ ended => ?_⟩
    · exact earlier e mem (.inl (Instant.le_antisymm (until_start e mem) begun))
    · exact after e mem (.inr (Instant.le_antisymm ended (from_finish e mem)))

theorem begin?_bounds {log before : List Entry} {start : Instant}
    (ordered : (log.map (·.now)).Pairwise (· ≤ ·)) (begun : begin? log = some start)
    (split : log = before ++ episode log) :
    (∀ e ∈ before, e.now ≤ start) ∧ ∀ e ∈ episode log, start ≤ e.now := by
  obtain ⟨first, head, rfl⟩ := Option.map_eq_some_iff.mp begun
  obtain ⟨rest, same⟩ := List.head?_eq_some_iff.mp head
  rw [split, same, List.pairwise_map, List.pairwise_append, List.pairwise_cons] at ordered
  obtain ⟨-, ⟨later, -⟩, until_first⟩ := ordered
  refine ⟨fun e mem => until_first e mem first List.mem_cons_self, ?_⟩
  rw [same, List.forall_mem_cons]
  exact ⟨Nat.le_refl _, later⟩

end Health

namespace HealthMonitor

open Health

/-- The time that is reported as a prolonged mismatch began with the episode, and there was a
connection throughout exactly if there was one at each sighting of the episode, and at all others
that were made at the same instants. -/
theorem reported_time_connected_iff (config : HealthConfig) (sightings : List Sighting)
    (ordered : Sighting.InOrder sightings) :
    let log := ((fresh config).watch sightings).1
    (((fresh config).watch (sightings.filter fun s => s.connected.isSome)).1 =
        log.filter fun e => e.connected.isSome) ∧
      ∀ before e later d, log = before ++ e :: later → .prolongedMismatch d ∈ e.reported →
        ∃ start earlier, start.after d = e.now ∧ begin? (before ++ [e]) = some start ∧
          before ++ [e] = earlier ++ episode (before ++ [e]) ∧
          (ConnectedThroughout log start e.now ↔
            (∀ x ∈ episode (before ++ [e]), x.Disagrees) ∧
              ∀ x ∈ earlier ++ later, x.now = start ∨ x.now = e.now → x.connected ≠ none) := by
  intro log
  refine ⟨watch_connected _ sightings, ?_⟩
  intro before e later d logged reported
  -- The report splits the log in time: nothing before it is later, and nothing after it earlier.
  have times : ((before ++ [e] ++ later).map (·.now)).Pairwise (· ≤ ·) := by
    rw [List.append_assoc, List.singleton_append, ← logged]
    exact watch_ordered ordered
  rw [List.map_append, List.pairwise_append] at times
  obtain ⟨until_report, -, since_report⟩ := times
  obtain ⟨start, begun, covers⟩ : ∃ start, begin? (before ++ [e]) = some start ∧
      start.after d = e.now := by
    obtain ⟨earlier, s, rfl, rfl⟩ := watch_split logged
    have disagrees : (((fresh config).watch earlier).2.see s).1.Disagrees := by
      by_contra agrees
      have quiet := see_silent (m := ((fresh config).watch earlier).2) (s := s) agrees
      rw [quiet] at reported
      cases reported
    obtain ⟨start, begun, covers, -⟩ := ((Tracked.watch config earlier).mem_prolonged rfl
      until_report disagrees d).mp reported
    exact ⟨start, begun, covers⟩
  obtain ⟨earlier, split⟩ := episode_suffix (before ++ [e])
  obtain ⟨until_start, from_start⟩ := begin?_bounds until_report begun split.symm
  refine ⟨start, earlier, covers, begun, split.symm, ?_⟩
  have whole : log = earlier ++ episode (before ++ [e]) ++ later := by
    rw [split, logged, List.append_assoc, List.singleton_append]
  rw [whole, connectedThroughout_iff (covers ▸ start.le_after d) until_start ?within ?later]
  case within =>
    intro x mem
    exact ⟨from_start x mem, le_last until_report (split ▸ List.mem_append_right _ mem)⟩
  case later =>
    intro x mem
    exact since_report _ (List.mem_map_of_mem (by simp)) _ (List.mem_map_of_mem mem)
  -- Within an episode nobody agrees, so to be connected is to disagree.
  refine and_congr_left' (forall₂_congr fun x mem => ?_)
  exact ⟨fun connected => ⟨connected, not_agrees_of_mem_episode mem⟩, fun disagrees => disagrees.1⟩

/-- A player who gets a connection, to the server of another zone. -/
def strayed : List Sighting :=
  [⟨⟨1, 0⟩, none, ⟨0⟩⟩, ⟨⟨1, 0⟩, some ⟨0, 0⟩, ⟨1000000000⟩⟩, ⟨⟨2, 0⟩, some ⟨0, 0⟩, ⟨3000000000⟩⟩]

theorem strayed_player_connected_throughout :
    let late : Sighting := ⟨⟨1, 0⟩, some ⟨0, 0⟩, ⟨6000000000⟩⟩
    Sighting.InOrder (strayed ++ [late]) ∧
      .prolongedMismatch (.ofSeconds 5) ∈
        (((fresh .standard).watch strayed).2.see late).1.reported ∧
      ConnectedThroughout ((fresh .standard).watch (strayed ++ [late])).1 ⟨1000000000⟩
        ⟨6000000000⟩ := by
  intro late
  have ordered : Sighting.InOrder (strayed ++ [late]) := by decide
  have reported : .prolongedMismatch (.ofSeconds 5) ∈
      (((fresh .standard).watch strayed).2.see late).1.reported := by
    decide +kernel
  obtain ⟨-, told⟩ := reported_time_connected_iff .standard (strayed ++ [late]) ordered
  obtain ⟨start, earlier, covers, -, split, connected⟩ :=
    told ((fresh .standard).watch strayed).1 (((fresh .standard).watch strayed).2.see late).1 []
      (.ofSeconds 5) (congrArg Prod.fst (watch_concat _ _ _)) reported
  obtain rfl : start = ⟨1000000000⟩ :=
    congrArg Instant.mk (Nat.add_right_cancel (congrArg Instant.nanos covers))
  have alone : ((fresh .standard).watch strayed).1 ++
      [(((fresh .standard).watch strayed).2.see late).1] =
        [⟨⟨⟨1, 0⟩, none, ⟨0⟩⟩, [], 0⟩] ++ episode (((fresh .standard).watch strayed).1 ++
          [(((fresh .standard).watch strayed).2.see late).1]) := by
    decide +kernel
  obtain rfl := List.append_cancel_right (split.symm.trans alone)
  exact ⟨ordered, reported, connected.mpr ⟨by decide +kernel, by decide +kernel⟩⟩

/-- The connection is gone for a while, and the time goes on. -/
theorem time_without_connection_reported :
    let log := ((fresh .standard).watch [⟨⟨1, 0⟩, some ⟨0, 0⟩, ⟨1000000000⟩⟩,
      ⟨⟨1, 0⟩, none, ⟨3000000000⟩⟩, ⟨⟨1, 0⟩, some ⟨0, 0⟩, ⟨6000000000⟩⟩]).1
    HealthConfig.standard.validate = .ok () ∧ (log.map (·.now)).Pairwise (· ≤ ·) ∧
      ∃ e ∈ log, .prolongedMismatch (.ofSeconds 5) ∈ e.reported ∧
        (⟨1000000000⟩ : Instant).after (.ofSeconds 5) = e.now ∧
          ¬ConnectedThroughout log ⟨1000000000⟩ e.now := by
  decide +kernel

end HealthMonitor

end ShardedWorld
