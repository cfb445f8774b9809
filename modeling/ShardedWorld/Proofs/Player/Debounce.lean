import ShardedWorld.Proofs.Player.Histories

/-! Moves of the controller's own accord have been waited for.

A candidate stays pending while the position dips back, so the step at which it appeared can lie far
back in a run. That it is pending says that there is such a step, and that nothing has drawn the
controller away from the candidate since.
-/

set_option autoImplicit false

namespace ShardedWorld.TransitionController

open Transition

def Step.Nears (s : Step) (zone : Zone) (now : Instant) : Prop :=
  ∃ p connected, s.event = .update p connected now ∧ s.before.grid.zoneOf p = zone ∧
    s.before.Considers p now

/-- A step that draws the controller to no other zone than the candidate, and settles it nowhere. -/
structure Step.Spares (candidate : Zone) (s : Step) : Prop where
  unsettled : s.entry.settles? = none
  alone : ∀ zone now, s.Nears zone now → zone = candidate

structure Sound (c : TransitionController) : Prop where
  stable : ∀ zone, c.phase = .stable zone → zone = c.stableZone
  pending : ∀ candidate since, c.phase = .pendingConfirm candidate since →
    candidate ≠ c.stableZone

variable {c : TransitionController} {p : Vec2} {connected : Option Zone} {now : Instant}

/-! What comes of a controller before it considers a candidate, and when it moves. -/

theorem unforced_pending {candidate : Zone} {since : Instant}
    (pending : (c.unforced p connected now).phase = .pendingConfirm candidate since) :
    c.phase = .pendingConfirm candidate since := by
  rcases c.unforced_phase p connected now with same | stable
  · rw [← same, pending]
  · rw [stable] at pending
    cases pending

theorem commit_phase {moved : TransitionController} {target : Zone}
    (done : c.commit target now = some moved) :
    moved.phase = .stable moved.stableZone ∨ ∃ until_, moved.phase = .cooldown until_ := by
  unfold commit at done
  dsimp only at done
  split at done
  · obtain ⟨until_, -, rfl⟩ := Option.map_eq_some_iff.mp done
    exact .inr ⟨_, rfl⟩
  · cases done
    exact .inl rfl

/-! The phase agrees with the stable zone. -/

namespace Sound

theorem of_stable (phase : c.phase = .stable c.stableZone) : c.Sound where
  stable _ named := (Phase.stable.inj (phase.symm.trans named)).symm
  pending _ _ named := nomatch phase.symm.trans named

theorem of_cooldown {until_ : Instant} (phase : c.phase = .cooldown until_) : c.Sound where
  stable _ named := nomatch phase.symm.trans named
  pending _ _ named := nomatch phase.symm.trans named

theorem unforced (sound : c.Sound) : (c.unforced p connected now).Sound := by
  rcases c.unforced_phase p connected now with same | settled
  · constructor
    · intro stable phase
      rw [unforced_stableZone]
      exact sound.stable stable (same.symm.trans phase)
    · intro candidate since phase
      rw [unforced_stableZone]
      exact sound.pending candidate since (same.symm.trans phase)
  · exact of_stable (settled.trans (by rw [unforced_stableZone]))

theorem await (considers : c.Considers p now) : (c.await p now).Sound where
  stable _ phase := nomatch phase
  pending _ _ phase := (Phase.pendingConfirm.inj phase).1 ▸ considers.away

theorem commit {moved : TransitionController} {target : Zone}
    (done : c.commit target now = some moved) : moved.Sound := by
  rcases commit_phase done with phase | ⟨_, phase⟩
  · exact of_stable phase
  · exact of_cooldown phase

theorem step (sound : c.Sound) (event : Event) : (c.step event).2.Sound := by
  cases event with
  | resetTo zone => exact of_stable rfl
  | update p connected now =>
    have updated := c.update_updated p connected now
    dsimp only [TransitionController.step]
    generalize c.update p connected now = outcome at updated ⊢
    cases updated with
    | forced => exact of_stable rfl
    | weighed patient weighed =>
      cases weighed with
      | stayed => exact sound.unforced
      | pended considers | overran considers => exact .await considers
      | committed considers settles done => exact .commit done

theorem run (sound : c.Sound) (events : List Event) : (c.run events).2.Sound := by
  induction events generalizing c with
  | nil => exact sound
  | cons event rest ih => exact ih (sound.step event)

end Sound

/-! What is pending has been waited for. -/

namespace Step

/-- An update that settles nothing draws the controller to the zone of its position at most. -/
theorem spares_own (unmoved : (c.update p connected now).1.move? = none) :
    (Step.mk c (.update p connected now)).Spares (c.grid.zoneOf p) where
  unsettled := by simp [entry, step, Entry.settles?, unmoved]
  alone := by
    rintro zone _ ⟨_, _, ⟨⟩, near, -⟩
    exact near.symm

theorem spares_of_ignored (unmoved : (c.update p connected now).1.move? = none)
    (ignored : ¬c.Considers p now) (candidate : Zone) :
    (Step.mk c (.update p connected now)).Spares candidate where
  unsettled := by simp [entry, step, Entry.settles?, unmoved]
  alone := by
    rintro zone _ ⟨_, _, ⟨⟩, -, considers⟩
    exact absurd considers ignored

end Step

/-- The last steps are spent waiting for a candidate that came up at their beginning. -/
def Awaited (candidate origin : Zone) (since : Instant) (steps : List Step) : Prop :=
  ∃ before first waiting, steps = before ++ first :: waiting ∧ first.Nears candidate since ∧
    first.before.stableZone = origin ∧ ∀ s ∈ first :: waiting, s.Spares candidate

def Patiently (c : TransitionController) (steps : List Step) : Prop :=
  ∀ candidate since, c.phase = .pendingConfirm candidate since →
    Awaited candidate c.stableZone since steps

namespace Awaited

variable {candidate origin : Zone} {since : Instant} {steps : List Step} {s : Step}

theorem begins (nears : s.Nears candidate since) (spares : s.Spares candidate)
    (steps : List Step) : Awaited candidate s.before.stableZone since (steps ++ [s]) :=
  ⟨steps, s, [], rfl, nears, rfl, List.forall_mem_singleton.mpr spares⟩

theorem goes_on (awaited : Awaited candidate origin since steps) (spares : s.Spares candidate) :
    Awaited candidate origin since (steps ++ [s]) := by
  obtain ⟨before, first, waiting, rfl, nears, zone, spared⟩ := awaited
  refine ⟨before, first, waiting ++ [s], by simp, nears, zone, ?_⟩
  rw [← List.cons_append, List.forall_mem_append]
  exact ⟨spared, List.forall_mem_singleton.mpr spares⟩

end Awaited

theorem pendingSince_cases (c : TransitionController) (candidate : Zone) (now : Instant) :
    c.phase = .pendingConfirm candidate (c.pendingSince candidate now) ∨
      c.pendingSince candidate now = now := by
  unfold pendingSince
  cases c.phase with
  | pendingConfirm pending since =>
    by_cases same : pending = candidate
    · simp [same]
    · simp [same]
  | _ => exact .inr rfl

namespace Patiently

variable {steps : List Step}

theorem of_stable {zone : Zone} (phase : c.phase = .stable zone) (steps : List Step) :
    c.Patiently steps :=
  fun _ _ named => nomatch phase.symm.trans named

theorem of_cooldown {until_ : Instant} (phase : c.phase = .cooldown until_) (steps : List Step) :
    c.Patiently steps :=
  fun _ _ named => nomatch phase.symm.trans named

theorem next (patiently : c.Patiently steps) (event : Event) :
    (c.step event).2.Patiently (steps ++ [⟨c, event⟩]) := by
  cases event with
  | resetTo zone => exact of_stable rfl _
  | update p connected now =>
    have updated := c.update_updated p connected now
    dsimp only [step]
    generalize made : c.update p connected now = outcome at updated ⊢
    cases updated with
    | forced => exact of_stable rfl _
    | weighed patient weighed =>
      cases weighed with
      | stayed ignored =>
        -- What was pending before is pending still: a dip does not end the wait.
        intro candidate since phase
        have ignored : ¬c.Considers p now := mt unforced_considers.mpr ignored
        have spares := Step.spares_of_ignored (by rw [made]; rfl) ignored candidate
        rw [unforced_stableZone]
        exact (patiently candidate since (unforced_pending phase)).goes_on spares
      | pended considers | overran considers =>
        intro candidate since phase
        obtain ⟨rfl, rfl⟩ := Phase.pendingConfirm.inj phase
        rw [unforced_grid, unforced_pendingSince]
        have spares : (Step.mk c (.update p connected now)).Spares (c.grid.zoneOf p) :=
          Step.spares_own (by rw [made]; rfl)
        have stays : ((c.unforced p connected now).await p now).stableZone = c.stableZone :=
          c.unforced_stableZone p connected now
        rw [stays]
        -- The wait goes on if it is for this candidate, and begins with this step if not.
        rcases c.pendingSince_cases (c.grid.zoneOf p) now with pending | new
        · exact (patiently _ _ pending).goes_on spares
        · have nears : (Step.mk c (.update p connected now)).Nears (c.grid.zoneOf p) now :=
            ⟨p, connected, rfl, rfl, unforced_considers.mp considers⟩
          rw [new]
          exact Awaited.begins nears spares steps
      | committed considers settles done =>
        rcases commit_phase done with phase | ⟨_, phase⟩
        · exact of_stable phase _
        · exact of_cooldown phase _

end Patiently

theorem run_patiently (grid : Grid) (config : TransitionConfig) (initial : Zone)
    (events : List Event) :
    ((settled grid config initial).run events).2.Patiently
      ((settled grid config initial).steps events) := by
  induction events using List.reverseRecOn with
  | nil => exact .of_stable rfl []
  | append_singleton events event ih =>
    rw [steps_concat, run_concat]
    exact ih.next event

/-- A move of the controller's own accord leads to where the position clearly is, which has been
pending for long enough. -/
theorem update_lasting {origin target : Zone}
    (committed : (c.update p connected now).1 = .commit origin target) :
    origin = c.stableZone ∧ c.grid.zoneOf p = target ∧ c.Considers p now ∧
      c.config.debounce ≤ now.since (c.pendingSince target now) := by
  have updated := c.update_updated p connected now
  generalize c.update p connected now = outcome at updated committed
  cases updated with
  | forced => cases committed
  | weighed patient weighed =>
    cases weighed with
    | stayed | pended | overran => cases committed
    | committed considers settles =>
      cases committed
      have lasting := settles.lasting
      rw [unforced_pendingSince, unforced_config] at lasting
      refine ⟨c.unforced_stableZone p connected now, ?_, unforced_considers.mp considers, lasting⟩
      rw [unforced_grid]

theorem Patiently.until_commit {steps : List Step} (patiently : c.Patiently steps)
    (considers : c.Considers p now) (connected : Option Zone) :
    ∃ before first waiting,
      steps ++ [⟨c, .update p connected now⟩] = before ++ first :: waiting ∧
        first.Nears (c.grid.zoneOf p) (c.pendingSince (c.grid.zoneOf p) now) ∧
        first.before.stableZone = c.stableZone ∧
        ∀ s ∈ (first :: waiting).dropLast, s.Spares (c.grid.zoneOf p) := by
  rcases c.pendingSince_cases (c.grid.zoneOf p) now with pending | new
  · obtain ⟨before, first, waiting, rfl, nears, zone, spared⟩ := patiently _ _ pending
    refine ⟨before, first, waiting ++ [⟨c, .update p connected now⟩], by simp, nears, zone, ?_⟩
    rw [← List.cons_append, List.dropLast_concat]
    exact spared
  · rw [new]
    exact ⟨steps, _, [], rfl, ⟨p, connected, rfl, rfl, considers⟩, rfl, fun _ none => nomatch none⟩

/-- A controller is where its phase says. Of its own accord it moves only to the zone of a position
that is clearly past the border, and only after an update that was past the same border a debounce
ago: nothing in between led elsewhere. -/
theorem commits_debounced (grid : Grid) (config : TransitionConfig) (initial : Zone)
    {events : List Event} {event : Event} (ordered : Event.InOrder (events ++ [event])) :
    let start := settled grid config initial
    let s : Step := ⟨(start.run events).2, event⟩
    s.before.Sound ∧ s.after.Sound ∧
      ∀ p connected now origin target,
        s.entry = .update p connected now (.commit origin target) →
          origin = s.before.stableZone ∧ grid.zoneOf p = target ∧
            ¬grid.penetration origin target p < config.hysteresis ∧
            ∃ before first waiting q named since,
              start.steps events ++ [s] = before ++ first :: waiting ∧
                first.event = .update q named since ∧ since.after config.debounce ≤ now ∧
                first.before.stableZone = origin ∧ grid.zoneOf q = target ∧
                ¬grid.penetration origin target q < config.hysteresis ∧
                ∀ other ∈ (first :: waiting).dropLast, other.Spares target := by
  intro start s
  have sound : s.before.Sound := .run (.of_stable rfl) events
  refine ⟨sound, sound.step event, ?_⟩
  intro p connected now origin target made
  cases event with
  | resetTo zone => cases made
  | update p connected now =>
    injection made with same_p same_connected same_now made
    subst same_p same_connected same_now
    obtain ⟨rfl, rfl, considers, lasting⟩ := update_lasting made
    obtain ⟨before, first, waiting, split, ⟨q, named, told, there, near⟩, zone, spared⟩ :=
      (run_patiently grid config initial events).until_commit considers connected
    have made : start.steps (events ++ [.update p connected now]) = before ++ first :: waiting :=
      (steps_concat ..).trans split
    have recorded := start.run_recorded events
    have first_made : first ∈ start.steps (events ++ [.update p connected now]) := by simp [made]
    have first_told := List.mem_map_of_mem (f := Step.event) first_made
    rw [steps_events] at first_told
    -- The wait began with an update of the log, so that its end lies in order with `now`.
    have to_now : s.before.pendingSince (s.before.grid.zoneOf p) now ≤ now :=
      ordered.le_now first_told (by rw [told]; rfl)
    have first_grid : first.before.grid = grid := (steps_setup first_made).1
    have grid_eq : s.before.grid = grid := recorded.grid
    have config_eq : s.before.config = config := recorded.config
    refine ⟨rfl, grid_eq ▸ rfl, ?deep, before, first, waiting, q, named, _, split, told, ?waited,
      zone, ?there, ?first_deep, spared⟩
    case deep =>
      have deep := considers.deep
      rw [config_eq, grid_eq] at deep
      rwa [grid_eq]
    case waited =>
      rw [config_eq] at lasting
      exact (Instant.le_since_iff to_now).mp lasting
    case there => rwa [first_grid] at there
    case first_deep =>
      have deep := near.deep
      rwa [(steps_setup first_made).2, zone, there, first_grid] at deep

/-- A player who crosses a border, and dips back over it. -/
def dip : List Event :=
  [.update ⟨.ofInt 503, .ofInt 10⟩ none ⟨0⟩, .update ⟨.ofInt 499, .ofInt 10⟩ none ⟨100000000⟩]

theorem dipping_player_has_waited :
    let start := settled .standard .standard ⟨0, 0⟩
    let s : Step := ⟨(start.run dip).2, .update ⟨.ofInt 504, .ofInt 10⟩ none ⟨160000000⟩⟩
    Event.InOrder (dip ++ [s.event]) ∧
      s.entry =
        .update ⟨.ofInt 504, .ofInt 10⟩ none ⟨160000000⟩ (.commit ⟨0, 0⟩ ⟨1, 0⟩) ∧
      ∃ before first waiting q named since,
        start.steps dip ++ [s] = before ++ first :: waiting ∧
          first.event = .update q named since ∧ since.after (.ofMillis 150) ≤ ⟨160000000⟩ ∧
          Grid.standard.zoneOf q = ⟨1, 0⟩ ∧
          ∀ other ∈ (first :: waiting).dropLast, other.Spares ⟨1, 0⟩ := by
  intro start s
  have ordered : Event.InOrder (dip ++ [s.event]) := by decide
  have made : s.entry =
      .update ⟨.ofInt 504, .ofInt 10⟩ none ⟨160000000⟩ (.commit ⟨0, 0⟩ ⟨1, 0⟩) := by
    decide +kernel
  obtain ⟨-, -, debounced⟩ := commits_debounced .standard .standard ⟨0, 0⟩ ordered
  obtain ⟨-, -, -, before, first, waiting, q, named, since, split, told, waited, -, there, -,
    spared⟩ := debounced _ _ _ _ _ made
  exact ⟨ordered, made, before, first, waiting, q, named, since, split, told, waited, there, spared⟩

end ShardedWorld.TransitionController
