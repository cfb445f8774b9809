import ShardedWorld.Proofs.Player.Monitoring
import ShardedWorld.Proofs.Player.Spacing

/-! Mismatches are counted at a bounded rate and reported once per episode.

A prolonged mismatch is reported at the first disagreement that comes long enough after the episode
began, a chronic one at the first whose count is high enough, and neither again before the next
agreement.
-/

set_option autoImplicit false

namespace ShardedWorld

namespace Health

/-! Times of an episode. -/

section Times

variable {config : HealthConfig} {log : List Entry} {e : Entry} {start : Instant}

theorem le_last (ordered : ((log ++ [e]).map (·.now)).Pairwise (· ≤ ·)) {earlier : Entry}
    (mem : earlier ∈ log ++ [e]) : earlier.now ≤ e.now := by
  rw [List.map_append, List.pairwise_append] at ordered
  rcases List.mem_append.mp mem with logged | last
  · exact ordered.2.2 _ (List.mem_map_of_mem logged) _ List.mem_cons_self
  · rw [List.mem_singleton.mp last]
    exact Nat.le_refl _

theorem disagreement_le (ordered : ((log ++ [e]).map (·.now)).Pairwise (· ≤ ·)) {earlier : Entry}
    (mem : earlier ∈ disagreements (log ++ [e])) : earlier.now ≤ e.now :=
  le_last ordered ((disagreements_sublist _).subset mem)

theorem begin?_le (ordered : (log.map (·.now)).Pairwise (· ≤ ·)) (begun : start ∈ begin? log)
    {e : Entry} (mem : e ∈ disagreements log) : start ≤ e.now := by
  have ordered := ordered.sublist ((disagreements_sublist log).map (·.now))
  rw [begin?_eq] at begun
  cases same : disagreements log with
  | nil =>
    rw [same] at mem
    cases mem
  | cons first rest =>
    rw [same] at begun mem ordered
    obtain rfl := Option.some.inj begun
    rcases List.mem_cons.mp mem with rfl | later
    · exact Nat.le_refl _
    · exact List.rel_of_pairwise_cons ordered (List.mem_map_of_mem later)

theorem begin?_mem (begun : start ∈ begin? log) : ∃ e ∈ disagreements log, e.now = start := by
  rw [begin?_eq] at begun
  obtain ⟨e, head, rfl⟩ := Option.map_eq_some_iff.mp begun
  exact ⟨e, List.mem_of_head? head, rfl⟩

theorem increments_length_le (ordered : ((log ++ [e]).map (·.now)).Pairwise (· ≤ ·))
    (positive : 0 < config.mismatchIncrementPeriod.nanos) (begun : start ∈ begin? (log ++ [e])) :
    (increments config (log ++ [e])).length ≤
      (e.now.since start).nanos / config.mismatchIncrementPeriod.nanos + 1 := by
  have spaced : (increments config (log ++ [e])).Pairwise fun earlier later =>
      earlier.after config.mismatchIncrementPeriod ≤ later :=
    counted_spaced (ordered.sublist ((disagreements_sublist _).map _))
  have within : ∀ time ∈ increments config (log ++ [e]), start ≤ time ∧ time ≤ e.now := by
    intro time counts
    obtain ⟨earlier, mem, rfl⟩ := List.mem_map.mp ((counted_sublist _ _).subset counts)
    exact ⟨begin?_le ordered begun mem, disagreement_le ordered mem⟩
  obtain ⟨first, mem, rfl⟩ := begin?_mem begun
  exact Transition.spaced_instants_length_le spaced within (disagreement_le ordered mem) positive

end Times

structure Episodic (config : HealthConfig) (log : List Entry) (e : Entry) : Prop where
  silent : ¬e.Disagrees → e.reported = []
  counted : e.count = .ofNat (increments config (log ++ [e])).length
  bounded : ∀ start ∈ begin? (log ++ [e]),
    e.count.toNat ≤ (e.now.since start).nanos / config.mismatchIncrementPeriod.nanos + 1
  /-- A 32-bit number counts no more increments. -/
  rising : (increments config (log ++ [e])).length < UInt32.size →
    ∀ earlier ∈ episode (log ++ [e]), earlier.count ≤ e.count
  prolonged : ∀ d, .prolongedMismatch d ∈ e.reported ↔
    e.Disagrees ∧ ∃ start ∈ begin? (log ++ [e]), start.after d = e.now ∧
      config.prolongedMismatch ≤ d ∧
        ∀ earlier ∈ disagreements log, earlier.now.since start < config.prolongedMismatch
  chronic : ∀ n, .chronicMismatch n ∈ e.reported ↔
    e.Disagrees ∧ n = e.count ∧ config.chronicMismatchCount ≤ n ∧
      ∀ earlier ∈ disagreements log, earlier.count < config.chronicMismatchCount
  once : e.reported.Nodup

namespace Tracked

variable {config : HealthConfig} {log : List Entry} {m next : HealthMonitor} {s : Sighting}
  {e : Entry}

theorem mem_reported (tracked : Tracked config log m) (seen : m.see s = (e, next))
    (disagrees : e.Disagrees) (anomaly : Anomaly) :
    anomaly ∈ e.reported ↔
      anomaly = .prolongedMismatch (elapsed m s) ∧ config.prolongedMismatch ≤ elapsed m s ∧
          m.prolongedReported = false ∨
        anomaly = .chronicMismatch e.count ∧ config.chronicMismatchCount ≤ e.count ∧
          m.chronicReported = false := by
  have told := HealthMonitor.see_toSighting seen
  obtain ⟨-, reported, -⟩ := tracked.see_disagrees (told ▸ disagrees) seen
  simp only [reported, List.mem_append, List.mem_ite_nil_right, List.mem_singleton]
  exact or_congr and_comm and_comm

theorem reported_nodup (tracked : Tracked config log m) (seen : m.see s = (e, next))
    (disagrees : e.Disagrees) : e.reported.Nodup := by
  have told := HealthMonitor.see_toSighting seen
  obtain ⟨-, reported, -⟩ := tracked.see_disagrees (told ▸ disagrees) seen
  rw [reported]
  split <;> split <;> simp

theorem mem_prolonged (tracked : Tracked config log m) (seen : m.see s = (e, next))
    (ordered : ((log ++ [e]).map (·.now)).Pairwise (· ≤ ·)) (disagrees : e.Disagrees)
    (d : Duration) :
    .prolongedMismatch d ∈ e.reported ↔
      ∃ start ∈ begin? (log ++ [e]), start.after d = e.now ∧ config.prolongedMismatch ≤ d ∧
        ∀ earlier ∈ disagreements log, earlier.now.since start < config.prolongedMismatch := by
  have told := HealthMonitor.see_toSighting seen
  have begun := tracked.begin?_concat disagrees
  obtain ⟨first, mem, same⟩ := begin?_mem begun
  have ordered_start : m.mismatchSince.getD e.now ≤ e.now := same ▸ disagreement_le ordered mem
  have unreported : m.prolongedReported = false ↔ ∀ earlier ∈ disagreements log,
      earlier.now.since (m.mismatchSince.getD e.now) < config.prolongedMismatch := by
    rw [← Bool.not_eq_true, tracked.prolonged_iff e.now]
    simp [Duration.lt_iff, Duration.le_iff]
  rw [tracked.mem_reported seen disagrees, elapsed, ← told, begun, unreported]
  simp only [Anomaly.prolongedMismatch.injEq, reduceCtorEq, false_and, or_false,
    Option.mem_some_iff, exists_eq_left', ← Instant.since_eq_iff ordered_start]
  constructor
  · rintro ⟨rfl, due, first⟩
    exact ⟨rfl, due, first⟩
  · rintro ⟨rfl, due, first⟩
    exact ⟨rfl, due, first⟩

theorem mem_chronic (tracked : Tracked config log m) (seen : m.see s = (e, next))
    (disagrees : e.Disagrees) (n : UInt32) :
    .chronicMismatch n ∈ e.reported ↔
      n = e.count ∧ config.chronicMismatchCount ≤ n ∧
        ∀ earlier ∈ disagreements log, earlier.count < config.chronicMismatchCount := by
  have unreported : m.chronicReported = false ↔
      ∀ earlier ∈ disagreements log, earlier.count < config.chronicMismatchCount := by
    rw [← Bool.not_eq_true, tracked.chronic]
    simp [UInt32.not_le]
  rw [tracked.mem_reported seen disagrees, unreported]
  simp only [reduceCtorEq, false_and, false_or, Anomaly.chronicMismatch.injEq]
  constructor
  · rintro ⟨rfl, high, first⟩
    exact ⟨rfl, high, first⟩
  · rintro ⟨rfl, high, first⟩
    exact ⟨rfl, high, first⟩

theorem episodic (tracked : Tracked config log m) (seen : m.see s = (e, next))
    (ordered : ((log ++ [e]).map (·.now)).Pairwise (· ≤ ·))
    (positive : 0 < config.mismatchIncrementPeriod.nanos) : Episodic config log e := by
  have told := HealthMonitor.see_toSighting seen
  have after : Tracked config (log ++ [e]) next := by
    have after := tracked.next s
    rwa [seen] at after
  have counted : e.count = .ofNat (increments config (log ++ [e])).length := by
    have same : (m.see s).1.count = (m.see s).2.consecutiveMismatches := rfl
    rw [seen] at same
    rw [same, after.count]
  -- All that is said of reports holds of a sighting without a disagreement, which reports nothing.
  have silent : ¬e.Disagrees → e.reported = [] := by
    intro disagrees
    have quiet := HealthMonitor.see_silent (m := m) (s := s) (told ▸ disagrees)
    rwa [seen] at quiet
  constructor
  case silent => exact silent
  case counted => exact counted
  case bounded =>
    intro start begun
    rw [counted, UInt32.toNat_ofNat']
    exact Nat.le_trans (Nat.mod_le _ _) (increments_length_le ordered positive begun)
  case rising =>
    intro few earlier mem
    -- As long as the counter has not wrapped, it compares as the increments themselves do.
    obtain ⟨k, bounded, same⟩ := after.counts earlier mem
    rw [counted, same, UInt32.le_iff_toNat_le, UInt32.toNat_ofNat', UInt32.toNat_ofNat',
      Nat.mod_eq_of_lt few, Nat.mod_eq_of_lt (Nat.lt_of_le_of_lt bounded few)]
    exact bounded
  case prolonged =>
    intro d
    by_cases disagrees : e.Disagrees
    · rw [tracked.mem_prolonged seen ordered disagrees, and_iff_right disagrees]
    · simp [silent disagrees, disagrees]
  case chronic =>
    intro n
    by_cases disagrees : e.Disagrees
    · rw [tracked.mem_chronic seen disagrees, and_iff_right disagrees]
    · simp [silent disagrees, disagrees]
  case once =>
    by_cases disagrees : e.Disagrees
    · exact tracked.reported_nodup seen disagrees
    · simp [silent disagrees]

end Tracked

end Health

theorem HealthConfig.mismatchIncrementPeriod_positive {config : HealthConfig}
    (valid : config.validate = .ok ()) : 0 < config.mismatchIncrementPeriod.nanos := by
  apply Nat.pos_of_ne_zero
  intro zero
  have zero : config.mismatchIncrementPeriod = .zero := congrArg Duration.mk zero
  simp [HealthConfig.validate, ConfigError.requirePositive, ConfigError.require, zero, bind,
    Except.bind] at valid

namespace HealthMonitor

open Health

/-- Whatever a monitor has seen: without a connection nothing changes, an agreement makes it as new,
and in an episode counts and reports are told by the times of the disagreements. -/
theorem mismatch_episodes_reported_once (config : HealthConfig) (valid : config.validate = .ok ())
    (sightings : List Sighting) (s : Sighting) (ordered : Sighting.InOrder (sightings ++ [s])) :
    let log := ((fresh config).watch sightings).1
    let m := ((fresh config).watch sightings).2
    (s.connected = none → (m.see s).2 = m) ∧
      (s.Agrees → (m.see s).2 = fresh config) ∧
      Episodic config log (m.see s).1 := by
  intro log m
  have tracked : Tracked config log m := .watch config sightings
  have times : ((log ++ [(m.see s).1]).map (·.now)).Pairwise (· ≤ ·) := by
    have times := watch_ordered (m := fresh config) ordered
    rwa [watch_concat] at times
  refine ⟨fun unconnected => ?_, fun agrees => ?_, ?_⟩
  · rw [see_of_disconnected unconnected]
  · rw [see_of_agrees agrees, tracked.agree_eq]
  · exact tracked.episodic rfl times (config.mismatchIncrementPeriod_positive valid)

/-- A player who is in the zone of the connected server for a moment, and loses the connection in
the episode that follows. -/
def wavering : List Sighting :=
  [⟨⟨1, 0⟩, some ⟨0, 0⟩, ⟨1000000000⟩⟩, ⟨⟨0, 0⟩, some ⟨0, 0⟩, ⟨2000000000⟩⟩,
    ⟨⟨1, 0⟩, some ⟨0, 0⟩, ⟨3000000000⟩⟩, ⟨⟨1, 0⟩, none, ⟨5000000000⟩⟩]

theorem wavering_player_reported :
    let s : Sighting := ⟨⟨1, 0⟩, some ⟨0, 0⟩, ⟨8000000000⟩⟩
    let e := (((fresh .standard).watch wavering).2.see s).1
    HealthConfig.standard.validate = .ok () ∧ Sighting.InOrder (wavering ++ [s]) ∧
      e.count.toNat ≤ 6 ∧ .prolongedMismatch (.ofSeconds 5) ∈ e.reported ∧
        .chronicMismatch 2 ∉ e.reported := by
  intro s e
  have valid : HealthConfig.standard.validate = .ok () := by decide +kernel
  have ordered : Sighting.InOrder (wavering ++ [s]) := by decide
  obtain ⟨-, -, episodic⟩ := mismatch_episodes_reported_once .standard valid wavering s ordered
  have bounded := episodic.bounded ⟨3000000000⟩ (by decide +kernel)
  refine ⟨valid, ordered, Nat.le_trans bounded (by decide +kernel), (episodic.prolonged _).mpr ?_,
    fun chronic => ?_⟩
  · exact ⟨by decide +kernel, ⟨3000000000⟩, by decide +kernel, by decide +kernel, by decide +kernel,
      by decide +kernel⟩
  · exact absurd ((episodic.chronic 2).mp chronic).2.2.1 (by decide +kernel)

end HealthMonitor

end ShardedWorld
