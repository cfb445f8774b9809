import ShardedWorld.Proofs.Player.Episodes

/-! What a health monitor makes of the zones that it is told.

A sighting changes nothing without a connection, makes the monitor as new if the zones agree, and is
counted and reported if they do not. So a monitor is what the episode makes of it that its log ends
in.
-/

set_option autoImplicit false

namespace ShardedWorld

namespace HealthMonitor

open Health

def see (m : HealthMonitor) (s : Sighting) : Entry × HealthMonitor :=
  let seen := m.observeZones s.here s.connected s.now
  ({ s with reported := seen.1, count := seen.2.consecutiveMismatches }, seen.2)

def watch (m : HealthMonitor) : List Sighting → List Entry × HealthMonitor
  | [] => ([], m)
  | s :: rest =>
    let seen := m.see s
    let later := seen.2.watch rest
    (seen.1 :: later.1, later.2)

theorem watch_append (m : HealthMonitor) (sightings more : List Sighting) :
    m.watch (sightings ++ more) =
      ((m.watch sightings).1 ++ ((m.watch sightings).2.watch more).1,
        ((m.watch sightings).2.watch more).2) := by
  induction sightings generalizing m with
  | nil => rfl
  | cons s rest ih => simp only [List.cons_append, watch, ih]

theorem watch_concat (m : HealthMonitor) (sightings : List Sighting) (s : Sighting) :
    m.watch (sightings ++ [s]) =
      ((m.watch sightings).1 ++ [((m.watch sightings).2.see s).1],
        ((m.watch sightings).2.see s).2) :=
  m.watch_append sightings [s]

theorem watch_sightings (m : HealthMonitor) (sightings : List Sighting) :
    (m.watch sightings).1.map Entry.toSighting = sightings := by
  induction sightings generalizing m with
  | nil => rfl
  | cons s rest ih => exact congrArg (s :: ·) (ih _)

theorem watch_ordered {m : HealthMonitor} {sightings : List Sighting}
    (ordered : Sighting.InOrder sightings) :
    ((m.watch sightings).1.map (·.now)).Pairwise (· ≤ ·) := by
  rw [← m.watch_sightings sightings, Sighting.InOrder, List.pairwise_map] at ordered
  exact List.pairwise_map.mpr ordered

/-! What a sighting can come to. -/

section See

variable {m : HealthMonitor} {s : Sighting}

theorem see_toSighting {e : Entry} {next : HealthMonitor} (seen : m.see s = (e, next)) :
    e.toSighting = s :=
  congrArg (fun made => made.1.toSighting) seen.symm

theorem see_of_disconnected (disconnected : s.connected = none) :
    m.see s = ({ s with reported := [], count := m.consecutiveMismatches }, m) := by
  simp only [see, observeZones, disconnected]

theorem see_of_agrees (agrees : s.Agrees) :
    m.see s = ({ s with reported := [], count := 0 }, m.agree) := by
  have same : s.connected = some s.here := agrees
  simp only [see, observeZones, same, if_true]
  rfl

theorem see_silent (disagrees : ¬s.Disagrees) : (m.see s).1.reported = [] := by
  rcases s.cases with unconnected | agrees | some_other
  · rw [see_of_disconnected unconnected]
  · rw [see_of_agrees agrees]
  · exact absurd some_other disagrees

def disagree (m : HealthMonitor) (now : Instant) : HealthMonitor :=
  { m with mismatchSince := some (m.mismatchSince.getD now) }.count now

theorem count_eq (m : HealthMonitor) (now : Instant) :
    m.count now =
      if m.lastIncrement.all fun last =>
          decide (m.config.mismatchIncrementPeriod ≤ now.since last) then
        { m with
          consecutiveMismatches := m.consecutiveMismatches + 1
          lastIncrement := some now }
      else m := by
  unfold count
  cases m.lastIncrement <;> rfl

theorem see_of_disagrees (disagrees : s.Disagrees) :
    let counting := m.disagree s.now
    let prolonged := counting.reportProlonged (s.now.since (m.mismatchSince.getD s.now))
    let chronic := prolonged.2.reportChronic
    m.see s =
      ({ s with reported := prolonged.1 ++ chronic.1, count := chronic.2.consecutiveMismatches },
        chronic.2) := by
  obtain ⟨here, connected, now⟩ := s
  cases connected with
  | none => exact absurd rfl disagrees.1
  | some zone =>
    have elsewhere : zone ≠ here := fun same => disagrees.2 (congrArg some same)
    simp only [see, observeZones, if_neg elsewhere]
    rfl

end See

theorem reportProlonged_eq (m : HealthMonitor) (d : Duration) :
    m.reportProlonged d =
      (if m.config.prolongedMismatch ≤ d ∧ m.prolongedReported = false then [.prolongedMismatch d]
        else [],
        { m with
          prolongedReported :=
            m.prolongedReported || decide (m.config.prolongedMismatch ≤ d) }) := by
  obtain ⟨config, _, _, _, _ | _, _, _, _, _, _⟩ := m <;>
    by_cases due : config.prolongedMismatch ≤ d <;> simp [reportProlonged, due]

theorem reportChronic_eq (m : HealthMonitor) :
    m.reportChronic =
      (if m.config.chronicMismatchCount ≤ m.consecutiveMismatches ∧ m.chronicReported = false then
          [.chronicMismatch m.consecutiveMismatches]
        else [],
        { m with
          chronicReported := m.chronicReported ||
            decide (m.config.chronicMismatchCount ≤ m.consecutiveMismatches) }) := by
  obtain ⟨config, _, _, count, _, _ | _, _, _, _, _⟩ := m <;>
    by_cases due : config.chronicMismatchCount ≤ count <;> simp [reportChronic, due]

end HealthMonitor

namespace Health

/-! What the log tells of the monitor. -/

/-- When the monitor's count grew in the episode that a log ends in. -/
def increments (config : HealthConfig) (log : List Entry) : List Instant :=
  counted config.mismatchIncrementPeriod ((disagreements log).map (·.now))

structure Tracked (config : HealthConfig) (log : List Entry) (m : HealthMonitor) : Prop where
  frame : m =
    { HealthMonitor.fresh config with
      mismatchSince := m.mismatchSince
      lastIncrement := m.lastIncrement
      consecutiveMismatches := m.consecutiveMismatches
      prolongedReported := m.prolongedReported
      chronicReported := m.chronicReported }
  since : m.mismatchSince = begin? log
  last : m.lastIncrement = (increments config log).getLast?
  count : m.consecutiveMismatches = .ofNat (increments config log).length
  prolonged : m.prolongedReported = true ↔
    ∃ start ∈ begin? log, ∃ e ∈ disagreements log, config.prolongedMismatch ≤ e.now.since start
  chronic : m.chronicReported = true ↔
    ∃ e ∈ disagreements log, config.chronicMismatchCount ≤ e.count
  counts : ∀ e ∈ episode log, ∃ k ≤ (increments config log).length, e.count = .ofNat k

namespace Tracked

variable {config : HealthConfig} {log : List Entry} {m : HealthMonitor} {s : Sighting}

theorem of_no_episode {log : List Entry} (none : episode log = []) :
    Tracked config log (.fresh config) := by
  have disagreements : disagreements log = [] := by rw [disagreements, none, List.filter_nil]
  have begin? : begin? log = .none := by rw [begin?, none]; rfl
  have increments : increments config log = [] := by rw [increments, disagreements]; rfl
  constructor <;> simp [HealthMonitor.fresh, *]

theorem agree_eq (tracked : Tracked config log m) : m.agree = .fresh config := by
  rw [tracked.frame]
  rfl

theorem disconnected (tracked : Tracked config log m) {e : Entry}
    (disconnected : e.connected = none) (same : e.count = m.consecutiveMismatches) :
    Tracked config (log ++ [e]) m := by
  have disagreements := disagreements_concat_of_disconnected log disconnected
  have begin? : begin? (log ++ [e]) = begin? log := by rw [begin?_eq, begin?_eq, disagreements]
  have increments : increments config (log ++ [e]) = increments config log := by
    rw [increments, increments, disagreements]
  constructor
  case frame => exact tracked.frame
  case since => rw [begin?, tracked.since]
  case last => rw [increments, tracked.last]
  case count => rw [increments, tracked.count]
  case prolonged => rw [begin?, disagreements, tracked.prolonged]
  case chronic => rw [disagreements, tracked.chronic]
  case counts =>
    rw [increments, episode_concat_of_disconnected log disconnected]
    split
    · simp
    · intro earlier mem
      rcases List.mem_append.mp mem with mem | mem
      · exact tracked.counts earlier mem
      · obtain rfl := List.mem_singleton.mp mem
        exact ⟨_, Nat.le_refl _, same.trans tracked.count⟩

theorem begin?_concat (tracked : Tracked config log m) {e : Entry} (disagrees : e.Disagrees) :
    begin? (log ++ [e]) = some (m.mismatchSince.getD e.now) := by
  rw [tracked.since, begin?_eq, begin?_eq, disagreements_concat_of_disagrees log disagrees]
  cases disagreements log <;> rfl

theorem disagree_eq (tracked : Tracked config log m) {e : Entry} (disagrees : e.Disagrees) :
    m.disagree e.now =
      { m with
        mismatchSince := begin? (log ++ [e])
        lastIncrement := (increments config (log ++ [e])).getLast?
        consecutiveMismatches := .ofNat (increments config (log ++ [e])).length } := by
  have configured : m.config = config := congrArg HealthMonitor.config tracked.frame
  have grown : increments config (log ++ [e]) =
      if m.lastIncrement.all fun last => decide (config.mismatchIncrementPeriod ≤ e.now.since last)
        then increments config log ++ [e.now] else increments config log := by
    rw [increments, disagreements_concat_of_disagrees log disagrees, List.map_append,
      List.map_singleton, counted_concat, tracked.last]
    rfl
  rw [HealthMonitor.disagree, HealthMonitor.count_eq, tracked.begin?_concat disagrees, grown]
  simp only [configured]
  split
  · simp [tracked.count]
  · simp [← tracked.last, ← tracked.count]

theorem prolonged_iff (tracked : Tracked config log m) (now : Instant) :
    m.prolongedReported = true ↔ ∃ e ∈ disagreements log,
      config.prolongedMismatch ≤ e.now.since (m.mismatchSince.getD now) := by
  rw [tracked.prolonged, tracked.since, begin?_eq]
  cases disagreements log <;> simp

def elapsed (m : HealthMonitor) (s : Sighting) : Duration :=
  s.now.since (m.mismatchSince.getD s.now)

theorem see_disagrees (tracked : Tracked config log m) (disagrees : s.Disagrees) {e : Entry}
    {next : HealthMonitor} (seen : m.see s = (e, next)) :
    e.count = .ofNat (increments config (log ++ [e])).length ∧
      e.reported =
        (if config.prolongedMismatch ≤ elapsed m s ∧ m.prolongedReported = false then
            [.prolongedMismatch (elapsed m s)] else []) ++
          (if config.chronicMismatchCount ≤ e.count ∧ m.chronicReported = false then
            [.chronicMismatch e.count] else []) ∧
      next =
        { m with
          mismatchSince := begin? (log ++ [e])
          lastIncrement := (increments config (log ++ [e])).getLast?
          consecutiveMismatches := e.count
          prolongedReported := m.prolongedReported ||
            decide (config.prolongedMismatch ≤ elapsed m s)
          chronicReported := m.chronicReported ||
            decide (config.chronicMismatchCount ≤ e.count) } := by
  obtain rfl : m.config = config := congrArg HealthMonitor.config tracked.frame
  have told := HealthMonitor.see_toSighting seen
  have counting := tracked.disagree_eq (e := e) (told ▸ disagrees)
  have made := HealthMonitor.see_of_disagrees (m := m) disagrees
  rw [seen] at made
  simp only [HealthMonitor.reportProlonged_eq, HealthMonitor.reportChronic_eq, ← told,
    counting] at made
  -- The count is replaced first, as both reports and the next state mention it.
  obtain ⟨made_entry, made_next⟩ := Prod.mk.inj made
  have counted : e.count = .ofNat (increments m.config (log ++ [e])).length :=
    congrArg Entry.count made_entry
  have reported := congrArg Entry.reported made_entry
  rw [← counted] at reported made_next
  rw [← told]
  exact ⟨counted, reported, made_next⟩

theorem disagrees (tracked : Tracked config log m) (disagrees : s.Disagrees) {e : Entry}
    {next : HealthMonitor} (seen : m.see s = (e, next)) : Tracked config (log ++ [e]) next := by
  obtain ⟨count, -, rfl⟩ := tracked.see_disagrees disagrees seen
  rw [← HealthMonitor.see_toSighting seen] at disagrees ⊢
  have begin? := tracked.begin?_concat (e := e) disagrees
  have disagreements := disagreements_concat_of_disagrees log disagrees
  constructor
  case frame =>
    rw [tracked.frame]
  case since => rfl
  case last => rfl
  case count => exact count
  case prolonged =>
    rw [Bool.or_eq_true, decide_eq_true_eq, tracked.prolonged_iff e.now]
    simp [begin?, disagreements, elapsed, or_and_right, exists_or]
  case chronic => simp [disagreements, tracked.chronic, or_and_right, exists_or]
  case counts =>
    have grown : (increments config log).length ≤ (increments config (log ++ [e])).length := by
      simp only [increments, disagreements, List.map_append, List.map_singleton]
      exact counted_length_le _ _ _
    rw [episode_concat_of_disagrees log disagrees, List.forall_mem_append]
    constructor
    · intro earlier mem
      obtain ⟨k, bounded, same⟩ := tracked.counts earlier mem
      exact ⟨k, Nat.le_trans bounded grown, same⟩
    · simpa using ⟨_, Nat.le_refl _, count⟩

theorem next (tracked : Tracked config log m) (s : Sighting) :
    Tracked config (log ++ [(m.see s).1]) (m.see s).2 := by
  rcases s.cases with unconnected | agrees | disagrees
  · rw [HealthMonitor.see_of_disconnected unconnected]
    exact tracked.disconnected unconnected rfl
  · rw [HealthMonitor.see_of_agrees agrees, tracked.agree_eq]
    exact of_no_episode (episode_concat_of_agrees log agrees)
  · exact tracked.disagrees disagrees rfl

theorem watch (config : HealthConfig) (sightings : List Sighting) :
    Tracked config ((HealthMonitor.fresh config).watch sightings).1
      ((HealthMonitor.fresh config).watch sightings).2 := by
  -- An episode grows at its end, or ends; so does a log.
  induction sightings using List.reverseRecOn with
  | nil => exact of_no_episode rfl
  | append_singleton sightings s ih =>
    rw [HealthMonitor.watch_concat]
    exact ih.next s

end Tracked

end Health

end ShardedWorld
