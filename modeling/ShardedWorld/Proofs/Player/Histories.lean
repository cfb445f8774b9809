import Mathlib.Data.List.Induction
import ShardedWorld.Player.Transition

/-! Histories of a transition controller.

A controller is told where the player is, and at times where to settle. What it was told and what it
decided is kept in a log. All that an update can come to is said here once, and the log alone tells
where the controller is settled and when it moved last.
-/

set_option autoImplicit false

namespace ShardedWorld

namespace Transition

inductive Event where
  | update (position : Vec2) (connected : Option Zone) (now : Instant)
  | resetTo (zone : Zone)

inductive Entry where
  | update (position : Vec2) (connected : Option Zone) (now : Instant) (decision : Decision)
  | resetTo (zone : Zone)
  deriving DecidableEq

def Decision.move? : Decision → Option (Zone × Zone)
  | .commit origin target | .forcedCommit origin target _ => some (origin, target)
  | .stay | .pending _ | .unrepresentable => none

namespace Event

def time? : Event → Option Instant
  | .update _ _ now => some now
  | .resetTo _ => none

def InOrder (events : List Event) : Prop := (events.filterMap time?).Pairwise (· ≤ ·)

instance (events : List Event) : Decidable (InOrder events) :=
  inferInstanceAs (Decidable (List.Pairwise _ _))

theorem InOrder.le_now {events : List Event} {p : Vec2} {connected : Option Zone}
    {now time : Instant} (ordered : InOrder (events ++ [.update p connected now])) {event : Event}
    (told : event ∈ events ++ [.update p connected now]) (timed : event.time? = some time) :
    time ≤ now := by
  rw [InOrder, List.filterMap_append, List.pairwise_append] at ordered
  rcases List.mem_append.mp told with earlier | last
  · exact ordered.2.2 time (List.mem_filterMap.mpr ⟨event, earlier, timed⟩) now List.mem_cons_self
  · obtain rfl := List.mem_singleton.mp last
    obtain rfl := Option.some.inj timed
    exact Nat.le_refl _

end Event

namespace Entry

def time? : Entry → Option Instant
  | .update _ _ now _ => some now
  | .resetTo _ => none

def moveTime? : Entry → Option Instant
  | .update _ _ now decision => decision.move?.map fun _ => now
  | .resetTo _ => none

def settles? : Entry → Option Zone
  | .update _ _ _ decision => decision.move?.map (·.2)
  | .resetTo zone => some zone

end Entry

def zoneAfter (initial : Zone) (log : List Entry) : Zone :=
  (log.filterMap Entry.settles?).getLast?.getD initial

end Transition

namespace TransitionController

open Transition

def step (c : TransitionController) : Event → Entry × TransitionController
  | .update p connected now =>
    let updated := c.update p connected now
    (.update p connected now updated.1, updated.2)
  | .resetTo zone => (.resetTo zone, c.resetTo zone)

def run (c : TransitionController) : List Event → List Entry × TransitionController
  | [] => ([], c)
  | event :: rest =>
    let made := c.step event
    let later := made.2.run rest
    (made.1 :: later.1, later.2)

theorem run_append (c : TransitionController) (events more : List Event) :
    c.run (events ++ more) =
      ((c.run events).1 ++ ((c.run events).2.run more).1, ((c.run events).2.run more).2) := by
  induction events generalizing c with
  | nil => rfl
  | cons event rest ih => simp only [List.cons_append, run, ih]

theorem run_concat (c : TransitionController) (events : List Event) (event : Event) :
    c.run (events ++ [event]) =
      ((c.run events).1 ++ [((c.run events).2.step event).1],
        ((c.run events).2.step event).2) :=
  c.run_append events [event]

theorem run_split {c : TransitionController} {events : List Event} {before later : List Entry}
    {entry : Entry} (logged : (c.run events).1 = before ++ entry :: later) :
    ∃ earlier event rest, events = earlier ++ event :: rest ∧ (c.run earlier).1 = before ∧
      entry = ((c.run earlier).2.step event).1 := by
  induction before generalizing c events with
  | nil =>
    cases events with
    | nil => cases logged
    | cons event rest => exact ⟨[], event, rest, rfl, rfl, (List.cons.inj logged).1.symm⟩
  | cons first before ih =>
    cases events with
    | nil => cases logged
    | cons event rest =>
      obtain ⟨rfl, rest_logged⟩ := List.cons.inj logged
      obtain ⟨earlier, next, rest, rfl, before, made⟩ := ih rest_logged
      exact ⟨event :: earlier, next, rest, rfl, congrArg _ before, made⟩

theorem run_times (c : TransitionController) (events : List Event) :
    (c.run events).1.filterMap Entry.time? = events.filterMap Event.time? := by
  induction events generalizing c with
  | nil => rfl
  | cons event rest ih =>
    cases event <;>
      simp [run, step, List.filterMap_cons, Entry.time?, Event.time?, ih]

/-- Something that a controller was told, with the controller that was told it. -/
structure Step where
  before : TransitionController
  event : Event

namespace Step

def entry (s : Step) : Entry := (s.before.step s.event).1

def after (s : Step) : TransitionController := (s.before.step s.event).2

theorem entry_time? (s : Step) : s.entry.time? = s.event.time? := by
  cases s with
  | mk before event => cases event <;> rfl

end Step

/-- The steps of a run. A log tells what was decided in each. -/
def steps (c : TransitionController) : List Event → List Step
  | [] => []
  | event :: rest => ⟨c, event⟩ :: (c.step event).2.steps rest

theorem steps_concat (c : TransitionController) (events : List Event) (event : Event) :
    c.steps (events ++ [event]) = c.steps events ++ [⟨(c.run events).2, event⟩] := by
  induction events generalizing c with
  | nil => rfl
  | cons first rest ih => simp only [List.cons_append, steps, run, ih]

theorem steps_events (c : TransitionController) (events : List Event) :
    (c.steps events).map Step.event = events := by
  induction events generalizing c with
  | nil => rfl
  | cons event rest ih => simp only [steps, List.map_cons, ih]

/-! What an update can come to. -/

/-- Since when the player has been elsewhere than the connected server, if it is. -/
def disagreedSince? (c : TransitionController) (p : Vec2) (connected : Option Zone)
    (now : Instant) : Option Instant :=
  if connected = none ∨ connected = some (c.grid.zoneOf p) then none
  else some (c.mismatchSince.getD now)

def Patient (c : TransitionController) (p : Vec2) (connected : Option Zone) (now : Instant) :
    Prop :=
  ∀ since, c.disagreedSince? p connected now = some since →
    now.since since < c.config.forcedAfter

def force (c : TransitionController) (target : Zone) (now : Instant) : TransitionController :=
  { c with
    stableZone := target
    phase := .stable target
    lastCommit := some now
    mismatchSince := none
    forcedCommits := c.forcedCommits + 1 }

/-- The controller that is not forced to move, before it considers a candidate. -/
def unforced (c : TransitionController) (p : Vec2) (connected : Option Zone) (now : Instant) :
    TransitionController :=
  { c with mismatchSince := c.disagreedSince? p connected now }.endCooldown now

/-- A position that is clearly past the border of the stable zone, outside a cooldown. -/
structure Considers (c : TransitionController) (p : Vec2) (now : Instant) : Prop where
  away : c.grid.zoneOf p ≠ c.stableZone
  awake : c.isCoolingDown now = false
  deep : ¬c.grid.penetration c.stableZone (c.grid.zoneOf p) p < c.config.hysteresis

/-- A candidate that has lasted, at a distance in time from the last move. -/
structure Settles (c : TransitionController) (p : Vec2) (now : Instant) : Prop where
  lasting : c.config.debounce ≤ now.since (c.pendingSince (c.grid.zoneOf p) now)
  spaced : c.isSpaced now = true

def await (c : TransitionController) (p : Vec2) (now : Instant) : TransitionController :=
  { c with
    phase := .pendingConfirm (c.grid.zoneOf p) (c.pendingSince (c.grid.zoneOf p) now) }

inductive Weighed (c : TransitionController) (p : Vec2) (now : Instant) :
    Decision × TransitionController → Prop where
  | stayed (ignored : ¬c.Considers p now) : Weighed c p now (.stay, c)
  | pended (considers : c.Considers p now) (early : ¬c.Settles p now) :
      Weighed c p now (.pending (c.grid.zoneOf p), c.await p now)
  | committed (considers : c.Considers p now) (settles : c.Settles p now)
      {moved : TransitionController}
      (done : (c.await p now).commit (c.grid.zoneOf p) now = some moved) :
      Weighed c p now (.commit c.stableZone (c.grid.zoneOf p), moved)
  | overran (considers : c.Considers p now) (settles : c.Settles p now)
      (undone : (c.await p now).commit (c.grid.zoneOf p) now = none) :
      Weighed c p now (.unrepresentable, c.await p now)

inductive Updated (c : TransitionController) (p : Vec2) (connected : Option Zone) (now : Instant) :
    Decision × TransitionController → Prop where
  | forced {since : Instant} (disagreed : c.disagreedSince? p connected now = some since)
      (due : c.config.forcedAfter ≤ now.since since) :
      Updated c p connected now
        (.forcedCommit c.stableZone (c.grid.zoneOf p) (now.since since),
          c.force (c.grid.zoneOf p) now)
  | weighed (patient : c.Patient p connected now) {outcome : Decision × TransitionController}
      (weighed : (c.unforced p connected now).Weighed p now outcome) :
      Updated c p connected now outcome

theorem endCooldown_frame (c : TransitionController) (now : Instant) :
    c.endCooldown now = { c with phase := (c.endCooldown now).phase } := by
  unfold endCooldown
  split
  · split <;> rfl
  · rfl

theorem unforced_frame (c : TransitionController) (p : Vec2) (connected : Option Zone)
    (now : Instant) :
    c.unforced p connected now =
      { c with
        mismatchSince := c.disagreedSince? p connected now
        phase := (c.unforced p connected now).phase } :=
  endCooldown_frame _ now

section Unforced

variable (c : TransitionController) (p : Vec2) (connected : Option Zone) (now : Instant)

@[simp] theorem unforced_grid : (c.unforced p connected now).grid = c.grid := by
  rw [unforced_frame]

@[simp] theorem unforced_config : (c.unforced p connected now).config = c.config := by
  rw [unforced_frame]

@[simp] theorem unforced_stableZone :
    (c.unforced p connected now).stableZone = c.stableZone := by
  rw [unforced_frame]

/-- An update that forces no move ends a cooldown, if it does anything to the phase before it
considers a candidate. -/
theorem unforced_phase :
    (c.unforced p connected now).phase = c.phase ∨
      (c.unforced p connected now).phase = .stable c.stableZone := by
  unfold unforced endCooldown
  split
  · split
    · exact .inr rfl
    · exact .inl rfl
  · exact .inl rfl

variable {c p connected now}

@[simp] theorem unforced_isCoolingDown :
    (c.unforced p connected now).isCoolingDown now = c.isCoolingDown now := by
  unfold unforced endCooldown isCoolingDown
  cases c.phase with
  | cooldown until_ =>
    by_cases ended : until_ ≤ now
    · have ended' : ¬now < until_ := Nat.not_lt.mpr ended
      simp [ended, ended']
    · simp [ended]
  | _ => rfl

@[simp] theorem unforced_pendingSince (candidate : Zone) :
    (c.unforced p connected now).pendingSince candidate now = c.pendingSince candidate now := by
  unfold unforced endCooldown pendingSince
  cases c.phase with
  | cooldown until_ =>
    by_cases ended : until_ ≤ now
    · simp [ended]
    · simp [ended]
  | _ => rfl

theorem unforced_considers :
    (c.unforced p connected now).Considers p now ↔ c.Considers p now := by
  constructor
  · rintro ⟨away, awake, deep⟩
    exact ⟨by simpa using away, by simpa using awake, by simpa using deep⟩
  · rintro ⟨away, awake, deep⟩
    exact ⟨by simpa using away, by simpa using awake, by simpa using deep⟩

theorem unforced_settles :
    (c.unforced p connected now).Settles p now ↔ c.Settles p now := by
  have spaced : (c.unforced p connected now).isSpaced now = c.isSpaced now := by
    rw [unforced_frame]
    rfl
  constructor
  · rintro ⟨lasting, apart⟩
    exact ⟨by simpa using lasting, spaced ▸ apart⟩
  · rintro ⟨lasting, apart⟩
    exact ⟨by simpa using lasting, spaced.trans apart⟩

end Unforced

theorem checkForced_of_due {c : TransitionController} {p : Vec2} {connected : Option Zone}
    {now since : Instant} (disagreed : c.disagreedSince? p connected now = some since)
    (due : c.config.forcedAfter ≤ now.since since) :
    c.checkForced (c.grid.zoneOf p) connected now =
      (some (.forcedCommit c.stableZone (c.grid.zoneOf p) (now.since since)),
        c.force (c.grid.zoneOf p) now) := by
  unfold disagreedSince? at disagreed
  split at disagreed
  · cases disagreed
  next elsewhere =>
    obtain rfl := Option.some.inj disagreed
    exact (if_neg elsewhere).trans (if_neg (Nat.not_lt.mpr due))

theorem checkForced_of_patient {c : TransitionController} {p : Vec2} {connected : Option Zone}
    {now : Instant} (patient : c.Patient p connected now) :
    c.checkForced (c.grid.zoneOf p) connected now =
      (none, { c with mismatchSince := c.disagreedSince? p connected now }) := by
  unfold Patient at patient
  unfold disagreedSince? at patient ⊢
  split
  next agreed => exact if_pos agreed
  next elsewhere =>
    rw [if_neg elsewhere] at patient
    exact (if_neg elsewhere).trans (if_pos (patient _ rfl))

theorem consider_weighed (c : TransitionController) (p : Vec2) (now : Instant) :
    c.Weighed p now
      (if c.grid.zoneOf p = c.stableZone || c.isCoolingDown now then (.stay, c)
        else c.consider (c.grid.zoneOf p) p now) := by
  split
  next ignored =>
    refine .stayed ?_
    rintro ⟨away, awake, -⟩
    simp [away, awake] at ignored
  next open_ =>
    rw [Bool.or_eq_true, not_or, decide_eq_true_eq, Bool.not_eq_true] at open_
    unfold consider
    split
    next shallow => exact .stayed fun considers => considers.deep shallow
    next deep =>
      have considers : c.Considers p now := ⟨open_.1, open_.2, deep⟩
      dsimp only
      split
      next ready =>
        rw [Bool.and_eq_true, decide_eq_true_eq] at ready
        have settles : c.Settles p now := ⟨ready.1, ready.2⟩
        split
        next moved done => exact .committed considers settles done
        next undone => exact .overran considers settles undone
      next early =>
        rw [Bool.and_eq_true, decide_eq_true_eq] at early
        exact .pended considers fun settles => early ⟨settles.lasting, settles.spaced⟩

theorem update_updated (c : TransitionController) (p : Vec2) (connected : Option Zone)
    (now : Instant) : c.Updated p connected now (c.update p connected now) := by
  by_cases patient : c.Patient p connected now
  · have grid : (c.unforced p connected now).grid = c.grid := by rw [unforced_frame]
    have weighed := (c.unforced p connected now).consider_weighed p now
    rw [grid] at weighed
    simp only [update, checkForced_of_patient patient]
    exact .weighed patient weighed
  · simp only [Patient, not_forall] at patient
    obtain ⟨since, disagreed, due⟩ := patient
    have due : c.config.forcedAfter ≤ now.since since := Nat.not_lt.mp due
    simp only [update, checkForced_of_due disagreed due]
    exact .forced disagreed due

/-! What an update leaves as it is. -/

theorem commit_frame {c moved : TransitionController} {target : Zone} {now : Instant}
    (done : c.commit target now = some moved) :
    moved =
      { c with
        phase := moved.phase
        stableZone := target
        lastCommit := some now
        recentCommits := moved.recentCommits
        commits := c.commits + 1 } := by
  unfold commit at done
  dsimp only at done
  split at done
  · obtain ⟨until_, -, rfl⟩ := Option.map_eq_some_iff.mp done
    rfl
  · cases done
    rfl

/-- What a log tells of the controller that it led to. -/
structure Recorded (c : TransitionController) (log : List Entry) (next : TransitionController) :
    Prop where
  grid : next.grid = c.grid
  config : next.config = c.config
  zone : next.stableZone = zoneAfter c.stableZone log
  moved : next.lastCommit = (log.filterMap Entry.moveTime?).getLast?.or c.lastCommit

namespace Recorded

theorem none (c : TransitionController) : c.Recorded [] c := ⟨rfl, rfl, rfl, rfl⟩

theorem append {c next last : TransitionController} {log more : List Entry}
    (first : c.Recorded log next) (second : next.Recorded more last) :
    c.Recorded (log ++ more) last where
  grid := second.grid.trans first.grid
  config := second.config.trans first.config
  zone := by
    rw [second.zone, first.zone]
    simp [zoneAfter, List.getLast?_append, Option.getD_or]
  moved := by
    rw [second.moved, first.moved]
    simp [List.getLast?_append, Option.or_assoc]

end Recorded

theorem update_recorded (c : TransitionController) (p : Vec2) (connected : Option Zone)
    (now : Instant) :
    c.Recorded [.update p connected now (c.update p connected now).1]
      (c.update p connected now).2 := by
  have updated := c.update_updated p connected now
  generalize c.update p connected now = outcome at updated
  cases updated with
  | forced => exact ⟨rfl, rfl, rfl, rfl⟩
  | weighed patient weighed =>
    cases weighed with
    | stayed =>
      rw [unforced_frame]
      exact ⟨rfl, rfl, rfl, rfl⟩
    | pended | overran =>
      rw [await, unforced_frame]
      exact ⟨rfl, rfl, rfl, rfl⟩
    | committed considers settles done =>
      rw [commit_frame done, await, unforced_frame]
      exact ⟨rfl, rfl, rfl, rfl⟩

theorem run_recorded (c : TransitionController) (events : List Event) :
    c.Recorded (c.run events).1 (c.run events).2 := by
  induction events generalizing c with
  | nil => exact .none c
  | cons event rest ih =>
    have first : c.Recorded [(c.step event).1] (c.step event).2 := by
      cases event with
      | update p connected now => exact c.update_recorded p connected now
      | resetTo zone => exact ⟨rfl, rfl, rfl, rfl⟩
    exact first.append (ih (c.step event).2)

theorem steps_setup {c : TransitionController} {events : List Event} {s : Step}
    (made : s ∈ c.steps events) : s.before.grid = c.grid ∧ s.before.config = c.config := by
  induction events generalizing c with
  | nil => cases made
  | cons event rest ih =>
    rcases List.mem_cons.mp made with rfl | later
    · exact ⟨rfl, rfl⟩
    · have recorded := c.run_recorded [event]
      obtain ⟨grid, config⟩ := ih later
      exact ⟨grid.trans recorded.grid, config.trans recorded.config⟩

end TransitionController

end ShardedWorld
