import Mathlib.Data.List.Pairwise
import ShardedWorld.Proofs.Player.Histories

/-! Moves keep a distance in time, and lead on from one another.

The controller asks only how long ago it moved last. As time does not step back, a move of its own
accord is as far from every earlier one, and few of them fit into any stretch of time.
-/

set_option autoImplicit false

namespace ShardedWorld

namespace Transition

def Entry.leaves? : Entry → Option Zone
  | .update _ _ _ decision => decision.move?.map (·.1)
  | .resetTo _ => none

def Entry.commitTime? : Entry → Option Instant
  | .update _ _ now (.commit ..) => some now
  | _ => none

/-- A move of the controller's own accord keeps a distance in time from a move before it. -/
def Entry.Spaced (gap : Duration) (earlier later : Entry) : Prop :=
  ∀ moved ∈ earlier.moveTime?, ∀ committed ∈ later.commitTime?, moved.after gap ≤ committed

theorem Entry.moveTime?_of_commitTime? {entry : Entry} {time : Instant}
    (committed : time ∈ entry.commitTime?) : time ∈ entry.moveTime? := by
  unfold commitTime? at committed
  split at committed
  · exact committed
  · cases committed

theorem Entry.time?_of_moveTime? {entry : Entry} {time : Instant}
    (moved : time ∈ entry.moveTime?) : time ∈ entry.time? := by
  cases entry with
  | update p connected now decision =>
    obtain ⟨_, -, same⟩ := Option.map_eq_some_iff.mp moved
    exact congrArg some same
  | resetTo zone => cases moved

theorem Entry.commit_of_commitTime? {entry : Entry} {time : Instant}
    (committed : time ∈ entry.commitTime?) :
    ∃ p connected origin target, entry = .update p connected time (.commit origin target) := by
  unfold commitTime? at committed
  split at committed
  · obtain rfl := Option.some.inj committed
    exact ⟨_, _, _, _, rfl⟩
  · cases committed

def commitsWithin (start : Instant) (length : Duration) (log : List Entry) : List Instant :=
  (log.filterMap Entry.commitTime?).filter fun time =>
    decide (start ≤ time) && decide (time ≤ start.after length)

theorem spaced_instants_take_up {gap : Duration} {times : List Instant} {start finish : Instant}
    (spaced : times.Pairwise fun earlier later => earlier.after gap ≤ later)
    (within : ∀ time ∈ times, start ≤ time ∧ time ≤ finish) (ordered : start ≤ finish.after gap) :
    start.nanos + times.length * gap.nanos ≤ finish.nanos + gap.nanos := by
  induction times generalizing start with
  | nil => simpa using Instant.le_iff.mp ordered
  | cons first rest ih =>
    obtain ⟨later, spaced⟩ := List.pairwise_cons.mp spaced
    obtain ⟨from_start, to_finish⟩ := within first List.mem_cons_self
    -- What is left lies in the interval that begins a distance after the first.
    have rest_takes_up : (first.after gap).nanos + rest.length * gap.nanos ≤
        finish.nanos + gap.nanos :=
      ih spaced (fun time mem => ⟨later time mem, (within time (List.mem_cons_of_mem _ mem)).2⟩)
        (Nat.add_le_add_right to_finish _)
    rw [Instant.le_iff] at from_start
    simp only [Instant.after_nanos, List.length_cons, Nat.add_mul] at rest_takes_up ⊢
    omega

theorem spaced_instants_length_le {gap : Duration} {times : List Instant} {start finish : Instant}
    (spaced : times.Pairwise fun earlier later => earlier.after gap ≤ later)
    (within : ∀ time ∈ times, start ≤ time ∧ time ≤ finish) (ordered : start ≤ finish)
    (positive : 0 < gap.nanos) :
    times.length ≤ (finish.since start).nanos / gap.nanos + 1 := by
  have take_up := spaced_instants_take_up spaced within
    (Instant.le_trans ordered (Instant.le_after _ gap))
  rw [← Nat.sub_le_iff_le_add, Nat.le_div_iff_mul_le positive, Nat.sub_mul]
  simp only [Instant.since_nanos]
  omega

theorem commitsWithin_length_le {gap : Duration} {log : List Entry}
    (spaced : log.Pairwise (Entry.Spaced gap)) (positive : 0 < gap.nanos) (start : Instant)
    (length : Duration) :
    (commitsWithin start length log).length ≤ length.nanos / gap.nanos + 1 := by
  have apart : (commitsWithin start length log).Pairwise
      fun earlier later => earlier.after gap ≤ later := by
    refine List.Pairwise.filter _ (List.pairwise_filterMap.mpr (spaced.imp ?_))
    intro earlier later spaced moved first committed second
    exact spaced moved (Entry.moveTime?_of_commitTime? first) committed second
  have within : ∀ time ∈ commitsWithin start length log,
      start ≤ time ∧ time ≤ start.after length := by
    intro time mem
    simpa using (List.mem_filter.mp mem).2
  have fit := spaced_instants_length_le apart within (start.le_after length) positive
  simpa using fit

end Transition

namespace TransitionController

open Transition

variable {c : TransitionController} {p : Vec2} {connected : Option Zone} {now : Instant}

theorem update_leaves {origin target : Zone}
    (moved : (c.update p connected now).1.move? = some (origin, target)) :
    origin = c.stableZone := by
  have updated := c.update_updated p connected now
  generalize c.update p connected now = outcome at updated moved
  cases updated with
  | forced =>
    cases moved
    rfl
  | weighed patient weighed =>
    cases weighed with
    | stayed | pended | overran => cases moved
    | committed =>
      cases moved
      rw [unforced_frame]

/-- A move of the controller's own accord leads to another zone, a distance in time from the last.
-/
theorem update_commits {origin target : Zone}
    (committed : (c.update p connected now).1 = .commit origin target) :
    origin ≠ target ∧ c.isSpaced now = true := by
  have updated := c.update_updated p connected now
  generalize c.update p connected now = outcome at updated committed
  cases updated with
  | forced => cases committed
  | weighed patient weighed =>
    cases weighed with
    | stayed | pended | overran => cases committed
    | committed considers settles =>
      cases committed
      have spaced := settles.spaced
      rw [unforced_frame] at spaced
      exact ⟨considers.away.symm, spaced⟩

/-- No move in a log is after the last, which is when the controller says that it moved. -/
theorem Recorded.lastCommit {log : List Entry} {next : TransitionController}
    (recorded : c.Recorded log next) (ordered : (log.filterMap Entry.time?).Pairwise (· ≤ ·))
    {moved : Instant} (mem : moved ∈ log.filterMap Entry.moveTime?) :
    ∃ last, next.lastCommit = some last ∧ last ∈ log.filterMap Entry.moveTime? ∧ moved ≤ last := by
  have nonempty := List.ne_nil_of_mem mem
  have ordered : (log.filterMap Entry.moveTime?).Pairwise (· ≤ ·) := by
    rw [List.pairwise_filterMap] at ordered ⊢
    exact ordered.imp fun {_ _} le first moved second committed =>
      le first (Entry.time?_of_moveTime? moved) second (Entry.time?_of_moveTime? committed)
  refine ⟨(log.filterMap Entry.moveTime?).getLast nonempty, ?_, List.getLast_mem nonempty, ?_⟩
  · rw [recorded.moved, List.getLast?_eq_some_getLast nonempty]
    rfl
  · exact ordered.rel_getLast_of_rel_getLast_getLast mem (Nat.le_refl _)

theorem step_spaced {events : List Event} {event : Event}
    (ordered : Event.InOrder (events ++ [event])) :
    ∀ earlier ∈ (c.run events).1,
      earlier.Spaced c.config.minBetweenTransitions ((c.run events).2.step event).1 := by
  intro earlier logged moved moved_then now committed
  have recorded := c.run_recorded events
  rw [Event.InOrder, List.filterMap_append, List.pairwise_append, ← c.run_times events] at ordered
  obtain ⟨in_order, -, to_now⟩ := ordered
  obtain ⟨last, kept, last_moved, le_last⟩ :=
    recorded.lastCommit in_order (List.mem_filterMap.mpr ⟨earlier, logged, moved_then⟩)
  obtain ⟨p, connected, origin, target, made⟩ := Entry.commit_of_commitTime? committed
  cases event with
  | resetTo zone => cases made
  | update p connected now =>
    injection made with _ _ same made
    subst same
    have spaced := (update_commits made).2
    obtain ⟨entry, entry_logged, entry_moved⟩ := List.mem_filterMap.mp last_moved
    have last_le : last ≤ now :=
      to_now last (List.mem_filterMap.mpr
        ⟨entry, entry_logged, Entry.time?_of_moveTime? entry_moved⟩)
        now List.mem_cons_self
    simp only [isSpaced, kept, recorded.config, decide_eq_true_eq, Duration.le_iff,
      Instant.since_nanos] at spaced
    simp only [Instant.le_iff, Instant.after_nanos] at le_last last_le ⊢
    omega

theorem run_spaced {events : List Event} (ordered : Event.InOrder events) :
    (c.run events).1.Pairwise (Entry.Spaced c.config.minBetweenTransitions) := by
  induction events using List.reverseRecOn with
  | nil => exact .nil
  | append_singleton events event ih =>
    have before : Event.InOrder events := by
      rw [Event.InOrder, List.filterMap_append] at ordered
      exact (List.pairwise_append.mp ordered).1
    rw [run_concat, List.pairwise_append]
    refine ⟨ih before, List.pairwise_singleton _ _, ?_⟩
    intro earlier logged later made
    obtain rfl := List.mem_singleton.mp made
    exact step_spaced ordered earlier logged

/-- Moves of the controller's own accord keep a distance in time from all earlier moves, so that
few of them fit into any stretch of time; and each move leads from where the one before it, or a
new start, left the controller. -/
theorem commits_spaced_and_chained (grid : Grid) (config : TransitionConfig) (initial : Zone)
    {events : List Event} (ordered : Event.InOrder events) :
    let log := ((settled grid config initial).run events).1
    log.Pairwise (Entry.Spaced config.minBetweenTransitions) ∧
      (0 < config.minBetweenTransitions.nanos → ∀ start length,
        (commitsWithin start length log).length ≤
          length.nanos / config.minBetweenTransitions.nanos + 1) ∧
      (∀ before entry later, log = before ++ entry :: later →
        ∀ origin ∈ entry.leaves?, origin = zoneAfter initial before) ∧
      ∀ p connected now origin target,
        Entry.update p connected now (.commit origin target) ∈ log → origin ≠ target := by
  intro log
  have spaced : log.Pairwise (Entry.Spaced config.minBetweenTransitions) :=
    run_spaced (c := settled grid config initial) ordered
  refine ⟨spaced, fun positive => commitsWithin_length_le spaced positive, ?chained, ?apart⟩
  case chained =>
    intro before entry later logged origin leaves
    -- What has been logged before says where the controller stands.
    obtain ⟨earlier, event, rest, -, rfl, rfl⟩ := run_split logged
    have recorded := (settled grid config initial).run_recorded earlier
    cases event with
    | resetTo zone => cases leaves
    | update p connected now =>
      obtain ⟨⟨_, target⟩, moved, rfl⟩ := Option.map_eq_some_iff.mp leaves
      rw [update_leaves moved]
      exact recorded.zone
  case apart =>
    intro p connected now origin target logged
    obtain ⟨before, later, logged⟩ := List.append_of_mem logged
    obtain ⟨earlier, event, rest, -, -, made⟩ := run_split logged
    cases event with
    | resetTo zone => cases made
    | update =>
      injection made with _ _ _ made
      exact (update_commits made.symm).1

/-- A player who goes back and forth over a border every other tenth of a second. -/
def backAndForth : List Event :=
  [.update ⟨.ofInt 600, .ofInt 10⟩ none ⟨0⟩, .update ⟨.ofInt 10, .ofInt 10⟩ none ⟨100000000⟩,
    .update ⟨.ofInt 10, .ofInt 10⟩ none ⟨200000000⟩,
    .update ⟨.ofInt 600, .ofInt 10⟩ none ⟨300000000⟩,
    .update ⟨.ofInt 600, .ofInt 10⟩ none ⟨400000000⟩]

def prompt : TransitionConfig := { TransitionConfig.standard with debounce := .zero }

theorem back_and_forth_commits_as_often_as_allowed :
    let log := ((settled .standard prompt ⟨0, 0⟩).run backAndForth).1
    commitsWithin .start (.ofMillis 400) log = [⟨0⟩, ⟨200000000⟩, ⟨400000000⟩] ∧
      ∀ start length, (commitsWithin start length log).length ≤ length.nanos / 200000000 + 1 := by
  have ordered : Event.InOrder backAndForth := by decide
  have spaced := commits_spaced_and_chained .standard prompt ⟨0, 0⟩ ordered
  exact ⟨by decide +kernel, spaced.2.1 (by decide)⟩

end TransitionController

end ShardedWorld
