import Mathlib.Data.List.DropRight
import ShardedWorld.Proofs.Player.Histories

/-! Forced moves come exactly when they are due.

The time since when a player has been elsewhere than the connected server is kept out of sight. It
is the time of the first update of the disagreement that a log ends in, whatever the phase, and a
move is forced once that is too long ago.
-/

set_option autoImplicit false

namespace ShardedWorld

namespace Transition

/-- The connected server is that of a zone in which the position is not. -/
def Elsewhere (grid : Grid) (p : Vec2) (connected : Option Zone) : Prop :=
  ∃ zone, connected = some zone ∧ zone ≠ grid.zoneOf p

theorem elsewhere_iff {grid : Grid} {p : Vec2} {connected : Option Zone} :
    Elsewhere grid p connected ↔ ¬(connected = none ∨ connected = some (grid.zoneOf p)) := by
  cases connected <;> simp [Elsewhere]

instance (grid : Grid) (p : Vec2) (connected : Option Zone) :
    Decidable (Elsewhere grid p connected) :=
  decidable_of_iff _ elsewhere_iff.symm

def Decision.isForced : Decision → Bool
  | .forcedCommit .. => true
  | _ => false

/-- An update elsewhere than the connected server that forced no move. -/
def Entry.disagrees (grid : Grid) : Entry → Bool
  | .update p connected _ decision => decide (Elsewhere grid p connected) && !decision.isForced
  | .resetTo _ => false

/-- The unbroken disagreement that a log ends in. -/
def disagreement (grid : Grid) (log : List Entry) : List Entry :=
  log.rtakeWhile (Entry.disagrees grid)

def disagreementTimes (grid : Grid) (log : List Entry) : List Instant :=
  (disagreement grid log).filterMap Entry.time?

theorem disagreementTimes_concat_of_disagrees {grid : Grid} {p : Vec2} {connected : Option Zone}
    {decision : Decision} (log : List Entry) (now : Instant)
    (elsewhere : Elsewhere grid p connected) (unforced : decision.isForced = false) :
    disagreementTimes grid (log ++ [.update p connected now decision]) =
      disagreementTimes grid log ++ [now] := by
  have disagrees : (Entry.update p connected now decision).disagrees grid = true := by
    simp [Entry.disagrees, elsewhere, unforced]
  simp [disagreementTimes, disagreement, List.rtakeWhile_concat_pos _ _ _ disagrees, Entry.time?]

theorem disagreementTimes_concat_of_not {grid : Grid} {entry : Entry} (log : List Entry)
    (agrees : entry.disagrees grid = false) : disagreementTimes grid (log ++ [entry]) = [] := by
  have agrees : ¬entry.disagrees grid := by simp [agrees]
  simp [disagreementTimes, disagreement, List.rtakeWhile_concat_neg _ _ _ agrees]

theorem disagreementTimes_subset (grid : Grid) (log : List Entry) :
    disagreementTimes grid log ⊆ log.filterMap Entry.time? :=
  ((List.rtakeWhile_suffix _ log).sublist.filterMap _).subset

end Transition

namespace TransitionController

open Transition

variable {c : TransitionController} {p : Vec2} {connected : Option Zone} {now : Instant}

theorem disagreedSince?_of_elsewhere (elsewhere : Elsewhere c.grid p connected) :
    c.disagreedSince? p connected now = some (c.mismatchSince.getD now) :=
  if_neg (elsewhere_iff.mp elsewhere)

theorem disagreedSince?_of_not (agreed : ¬Elsewhere c.grid p connected) :
    c.disagreedSince? p connected now = none :=
  if_pos (not_not.mp (elsewhere_iff.not.mp agreed))

theorem Weighed.unforced {outcome : Decision × TransitionController}
    (weighed : c.Weighed p now outcome) :
    outcome.1.isForced = false ∧ outcome.2.mismatchSince = c.mismatchSince := by
  cases weighed with
  | stayed | pended | overran => exact ⟨rfl, rfl⟩
  | committed considers settles done =>
    rw [commit_frame done]
    exact ⟨rfl, rfl⟩

/-- A move is forced when the disagreement is due, in any phase. -/
theorem update_forced_iff_due {origin target : Zone} {mismatch : Duration} :
    (c.update p connected now).1 = .forcedCommit origin target mismatch ↔
      origin = c.stableZone ∧ target = c.grid.zoneOf p ∧
        ∃ since, c.disagreedSince? p connected now = some since ∧
          mismatch = now.since since ∧ c.config.forcedAfter ≤ mismatch := by
  have updated := c.update_updated p connected now
  generalize c.update p connected now = outcome at updated
  cases updated with
  | forced disagreed due =>
    rw [disagreed]
    constructor
    · rintro ⟨⟩
      exact ⟨rfl, rfl, _, rfl, rfl, due⟩
    · rintro ⟨rfl, rfl, _, ⟨⟩, rfl, -⟩
      rfl
  | weighed patient weighed =>
    constructor
    · intro forced
      have unforced := weighed.unforced.1
      rw [forced] at unforced
      cases unforced
    · rintro ⟨-, -, since, disagreed, rfl, due⟩
      exact absurd (patient since disagreed) (Nat.not_lt.mpr due)

theorem update_mismatchSince {log : List Entry}
    (kept : c.mismatchSince = (disagreementTimes c.grid log).head?) :
    (c.update p connected now).2.mismatchSince =
      (disagreementTimes c.grid
        (log ++ [.update p connected now (c.update p connected now).1])).head? := by
  have updated := c.update_updated p connected now
  generalize c.update p connected now = outcome at updated
  cases updated with
  | forced =>
    rw [disagreementTimes_concat_of_not log (by simp [Entry.disagrees, Decision.isForced])]
    rfl
  | weighed patient weighed =>
    obtain ⟨unforced, same⟩ := weighed.unforced
    rw [same, unforced_frame]
    by_cases elsewhere : Elsewhere c.grid p connected
    · rw [disagreementTimes_concat_of_disagrees log now elsewhere unforced]
      simp [disagreedSince?_of_elsewhere elsewhere, kept, List.head?_append, Option.or_some]
    · rw [disagreementTimes_concat_of_not log (by simp [Entry.disagrees, elsewhere])]
      exact disagreedSince?_of_not elsewhere

/-- The time that is kept out of sight is that of the first update of the disagreement. -/
theorem run_mismatchSince (fresh : c.mismatchSince = none) (events : List Event) :
    (c.run events).2.mismatchSince =
      (disagreementTimes c.grid (c.run events).1).head? := by
  -- A disagreement grows at its end, or ends; so does a log.
  induction events using List.reverseRecOn with
  | nil => exact fresh
  | append_singleton events event ih =>
    rw [run_concat]
    cases event with
    | update p connected now =>
      have grid : (c.run events).2.grid = c.grid := (c.run_recorded events).grid
      rw [← grid] at ih ⊢
      exact update_mismatchSince ih
    | resetTo zone =>
      dsimp only [step]
      rw [disagreementTimes_concat_of_not _ rfl]
      rfl

theorem disagreementTimes_le {c : TransitionController} {grid : Grid} {events : List Event}
    {p : Vec2} {connected : Option Zone} {now : Instant}
    (ordered : Event.InOrder (events ++ [.update p connected now])) :
    ∀ time ∈ disagreementTimes grid (c.run events).1, time ≤ now := by
  intro time told
  have told := disagreementTimes_subset grid _ told
  rw [run_times] at told
  rw [Event.InOrder, List.filterMap_append, List.pairwise_append] at ordered
  exact ordered.2.2 time told now (by simp [Event.time?])

/-- An update forces a move exactly when the disagreement that ends with it began too long ago. It
leads from the stable zone to the one of the position, and tells how long they disagreed. -/
theorem update_forced_iff (grid : Grid) (config : TransitionConfig) (initial : Zone)
    {events : List Event} {p : Vec2} {connected : Option Zone} {now : Instant}
    (ordered : Event.InOrder (events ++ [.update p connected now]))
    (origin target : Zone) (mismatch : Duration) :
    let log := ((settled grid config initial).run events).1
    let c := ((settled grid config initial).run events).2
    (c.update p connected now).1 = .forcedCommit origin target mismatch ↔
      origin = c.stableZone ∧ target = grid.zoneOf p ∧ Elsewhere grid p connected ∧
        ∃ since, (disagreementTimes grid log ++ [now]).head? = some since ∧
          since.after mismatch = now ∧ config.forcedAfter ≤ mismatch := by
  intro log c
  have recorded := (settled grid config initial).run_recorded events
  have since_kept : c.mismatchSince = (disagreementTimes grid log).head? :=
    run_mismatchSince (c := settled grid config initial) rfl events
  -- No disagreement began after `now`, so the time since then can be added to where it began.
  have begun : ∀ since, (disagreementTimes grid log ++ [now]).head? = some since → since ≤ now := by
    intro since first
    rcases List.mem_append.mp (List.mem_of_head? first) with told | last
    · exact disagreementTimes_le ordered since told
    · obtain rfl := List.mem_singleton.mp last
      exact Nat.le_refl _
  rw [update_forced_iff_due, recorded.grid, recorded.config]
  refine and_congr_right' (and_congr_right' ?_)
  by_cases elsewhere : Elsewhere grid p connected
  · have disagreed :
        c.disagreedSince? p connected now = (disagreementTimes grid log ++ [now]).head? := by
      rw [disagreedSince?_of_elsewhere (by rwa [recorded.grid]), since_kept, List.head?_append]
      exact Option.or_some.symm
    rw [disagreed, and_iff_right elsewhere]
    refine exists_congr fun since => and_congr_right fun first => and_congr_left' ?_
    rw [eq_comm, Instant.since_eq_iff (begun since first)]
  · rw [disagreedSince?_of_not (by rwa [recorded.grid])]
    simp [elsewhere]

/-- A player who runs ahead of the connected server: two moves start a cooldown, which holds back
no forced move. -/
def ahead : List Event :=
  [.update ⟨.ofInt 600, .ofInt 10⟩ (some ⟨0, 0⟩) ⟨1000000000⟩,
    .update ⟨.ofInt 1100, .ofInt 10⟩ (some ⟨0, 0⟩) ⟨2000000000⟩]

def hasty : TransitionConfig :=
  { TransitionConfig.standard with
    debounce := .zero, minBetweenTransitions := .zero, maxRapidTransitions := 1
    cooldown := .ofSeconds 60 }

theorem forced_while_cooling_down :
    let c := ((settled .standard hasty ⟨0, 0⟩).run ahead).2
    c.isCoolingDown ⟨6000000000⟩ = true ∧
      (c.update ⟨.ofInt 1600, .ofInt 10⟩ (some ⟨0, 0⟩) ⟨6000000000⟩).1 =
        .forcedCommit ⟨2, 0⟩ ⟨3, 0⟩ (.ofSeconds 5) := by
  have ordered : Event.InOrder
      (ahead ++ [.update ⟨.ofInt 1600, .ofInt 10⟩ (some ⟨0, 0⟩) ⟨6000000000⟩]) := by decide
  refine ⟨by decide +kernel, ?_⟩
  refine (update_forced_iff .standard hasty ⟨0, 0⟩ ordered ⟨2, 0⟩ ⟨3, 0⟩ (.ofSeconds 5)).mpr ?_
  exact ⟨by decide +kernel, by decide +kernel, by decide +kernel, ⟨1000000000⟩, by decide +kernel,
    by decide, by decide⟩

end TransitionController

end ShardedWorld
