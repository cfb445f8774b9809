import ShardedWorld.Proofs.Player.ForcedMoves
import ShardedWorld.Proofs.Player.Spacing

/-! A cooldown is entered exactly when moves come too fast.

The controller counts its moves in a list that loses old ones at its front, and that starts over
with each cooldown. As time does not step back, the list and the log tell the same of the window of
time that ends with the next move. A move that would start a cooldown without an end is not made.
-/

set_option autoImplicit false

namespace ShardedWorld

namespace Transition

def Phase.isCooldown : Phase → Bool
  | .cooldown _ => true
  | _ => false

def Entry.overrides : Entry → Bool
  | .update _ _ _ decision => decision.isForced
  | .resetTo _ => true

def lately (window : Duration) (now : Instant) (times : List Instant) : List Instant :=
  times.filter fun time => decide (now ≤ time.after window) && decide (time ≤ now)

variable {window : Duration} {now later : Instant} {times : List Instant}

theorem lately_append (times more : List Instant) :
    lately window now (times ++ more) = lately window now times ++ lately window now more :=
  List.filter_append ..

theorem lately_lately (ordered : now ≤ later) (past : ∀ time ∈ times, time ≤ now) :
    lately window later (lately window now times) = lately window later times := by
  unfold lately
  rw [List.filter_filter]
  apply List.filter_congr
  intro time member
  have past := past time member
  rw [Bool.eq_iff_iff]
  simp only [Bool.and_eq_true, decide_eq_true_eq, Instant.le_iff, Instant.after_nanos]
    at ordered past ⊢
  omega

/-- Instants in order leave the window in order. -/
theorem dropWhile_eq_lately (ordered : times.Pairwise (· ≤ ·)) (past : ∀ time ∈ times, time ≤ now) :
    times.dropWhile (fun time => decide (window < now.since time)) = lately window now times := by
  induction times with
  | nil => rfl
  | cons first rest ih =>
    obtain ⟨first_le, ordered⟩ := List.pairwise_cons.mp ordered
    by_cases old : window < now.since first
    · have out : ¬now ≤ first.after window := by
        simp only [Duration.lt_iff, Instant.since_nanos, Instant.le_iff, Instant.after_nanos]
          at old ⊢
        omega
      rw [List.dropWhile_cons_of_pos (by simpa using old),
        ih ordered fun time member => past time (List.mem_cons_of_mem _ member)]
      simp [lately, out]
    · rw [List.dropWhile_cons_of_neg (by simpa using old)]
      refine (List.filter_eq_self.mpr ?_).symm
      -- What comes after an instant of the window is in the window too.
      intro time member
      have first_le : first ≤ time := by
        rcases List.mem_cons.mp member with rfl | member
        · exact Nat.le_refl _
        · exact first_le time member
      have past := past time member
      simp only [Duration.lt_iff, Instant.since_nanos, Instant.le_iff, Instant.after_nanos,
        Bool.and_eq_true, decide_eq_true_eq] at old first_le past ⊢
      omega

end Transition

namespace TransitionController

open Transition

def Step.cools (s : Step) : Bool := s.entry.commitTime?.isSome && s.after.phase.isCooldown

/-- When the controller moved of its own accord since a cooldown was entered last, the move that
started it left out. -/
def commitsSinceCooldown (steps : List Step) : List Instant :=
  (steps.rtakeWhile fun s => !s.cools).filterMap fun s => s.entry.commitTime?

theorem commitsSinceCooldown_concat_of_cools {s : Step} (steps : List Step)
    (cools : s.cools = true) : commitsSinceCooldown (steps ++ [s]) = [] := by
  simp [commitsSinceCooldown, cools]

theorem commitsSinceCooldown_concat_of_not {s : Step} (steps : List Step)
    (goes_on : s.cools = false) :
    commitsSinceCooldown (steps ++ [s]) =
      commitsSinceCooldown steps ++ s.entry.commitTime?.toList := by
  cases made : s.entry.commitTime? <;>
    simp [commitsSinceCooldown, goes_on, made]

inductive Paced (c : TransitionController) : Entry → TransitionController → Prop where
  | idle {entry : Entry} {next : TransitionController} (unmoved : entry.commitTime? = none)
      (kept : next.recentCommits = c.recentCommits)
      (phase : ∀ until_, next.phase = .cooldown until_ → c.phase = .cooldown until_) :
      Paced c entry next
  | moved {p : Vec2} {connected : Option Zone} {now : Instant} {origin target : Zone}
      {next : TransitionController}
      (few : (c.recent now).length ≤ c.config.maxRapidTransitions)
      (kept : next.recentCommits = c.recent now) (phase : next.phase = .stable target) :
      Paced c (.update p connected now (.commit origin target)) next
  | cooled {p : Vec2} {connected : Option Zone} {now : Instant} {origin target : Zone}
      {next : TransitionController}
      (many : c.config.maxRapidTransitions < (c.recent now).length)
      (kept : next.recentCommits = [])
      (phase : next.phase = .cooldown (now.after c.config.cooldown)) :
      Paced c (.update p connected now (.commit origin target)) next

theorem unforced_cooldown {c : TransitionController} {p : Vec2} {connected : Option Zone}
    {now until_ : Instant} (cooling : (c.unforced p connected now).phase = .cooldown until_) :
    c.phase = .cooldown until_ := by
  rcases c.unforced_phase p connected now with same | stable
  · exact same.symm.trans cooling
  · exact nomatch stable.symm.trans cooling

/-- A move either counts with the others or starts a cooldown that has an end. -/
theorem commit_eq_some {c moved : TransitionController} {target : Zone} {now : Instant}
    (done : c.commit target now = some moved) :
    ((c.recent now).length ≤ c.config.maxRapidTransitions ∧ moved.recentCommits = c.recent now ∧
        moved.phase = .stable target) ∨
      (c.config.maxRapidTransitions < (c.recent now).length ∧
        now.after c.config.cooldown < Instant.limit ∧ moved.recentCommits = [] ∧
        moved.phase = .cooldown (now.after c.config.cooldown)) := by
  unfold commit at done
  dsimp only at done
  split at done
  next many =>
    obtain ⟨until_, ends, rfl⟩ := Option.map_eq_some_iff.mp done
    obtain ⟨shown, rfl⟩ := Instant.after?_eq_some_iff.mp ends
    exact .inr ⟨many, shown, rfl, rfl⟩
  next few =>
    cases done
    exact .inl ⟨Nat.not_lt.mp few, rfl, rfl⟩

/-- One move too many, and a cooldown whose end no clock shows. -/
@[mk_iff]
structure Overruns (c : TransitionController) (now : Instant) : Prop where
  many : c.config.maxRapidTransitions < (c.recent now).length
  endless : Instant.limit ≤ now.after c.config.cooldown

theorem commit_eq_none_iff {c : TransitionController} {target : Zone} {now : Instant} :
    c.commit target now = none ↔ c.Overruns now := by
  rw [overruns_iff]
  unfold commit
  dsimp only
  split
  next many => simp [many, Instant.after?_eq_none_iff]
  next few => simp [few]

section Await

variable (c : TransitionController) (p : Vec2) (connected : Option Zone) (now : Instant)

theorem await_unforced_recent :
    ((c.unforced p connected now).await p now).recent now = c.recent now := by
  rw [await, unforced_frame]
  rfl

theorem await_unforced_config :
    ((c.unforced p connected now).await p now).config = c.config := by
  rw [await, unforced_frame]

theorem await_unforced_overruns :
    ((c.unforced p connected now).await p now).Overruns now ↔ c.Overruns now := by
  rw [overruns_iff, overruns_iff, await_unforced_recent, await_unforced_config]

end Await

/-- An update at which the controller moves of its own accord, if it can. -/
structure Moves (c : TransitionController) (p : Vec2) (connected : Option Zone) (now : Instant) :
    Prop where
  patient : c.Patient p connected now
  considers : c.Considers p now
  settles : c.Settles p now

/-- The controller moves of its own accord, or breaks down at the attempt. -/
theorem update_moves (c : TransitionController) (p : Vec2) (connected : Option Zone)
    (now : Instant) :
    let decision := (c.update p connected now).1
    ((∃ origin target, decision = .commit origin target) ↔
        c.Moves p connected now ∧ ¬c.Overruns now) ∧
      (decision = .unrepresentable ↔ c.Moves p connected now ∧ c.Overruns now) := by
  have updated := c.update_updated p connected now
  dsimp only
  generalize c.update p connected now = outcome at updated
  cases updated with
  | forced disagreed due =>
    -- What is due by force leaves no time to consider anything.
    have hasty : ¬c.Moves p connected now := fun moves =>
      Nat.not_lt.mpr due (moves.patient _ disagreed)
    simp [hasty]
  | weighed patient weighed =>
    cases weighed with
    | stayed ignored =>
      have still : ¬c.Moves p connected now := fun moves =>
        ignored (unforced_considers.mpr moves.considers)
      simp [still]
    | pended considers early =>
      have still : ¬c.Moves p connected now := fun moves =>
        early (unforced_settles.mpr moves.settles)
      simp [still]
    | committed considers settles done =>
      have moves : c.Moves p connected now :=
        ⟨patient, unforced_considers.mp considers, unforced_settles.mp settles⟩
      have fits : ¬c.Overruns now := by
        rw [← c.await_unforced_overruns p connected, ← commit_eq_none_iff, done]
        exact Option.some_ne_none _
      simp [moves, fits]
    | overran considers settles undone =>
      have moves : c.Moves p connected now :=
        ⟨patient, unforced_considers.mp considers, unforced_settles.mp settles⟩
      have overruns : c.Overruns now :=
        (c.await_unforced_overruns p connected now).mp (commit_eq_none_iff.mp undone)
      simp [moves, overruns]

theorem update_paced (c : TransitionController) (p : Vec2) (connected : Option Zone)
    (now : Instant) :
    c.Paced (.update p connected now (c.update p connected now).1)
      (c.update p connected now).2 := by
  have updated := c.update_updated p connected now
  generalize c.update p connected now = outcome at updated
  cases updated with
  | forced =>
    refine .idle rfl rfl ?_
    intro _ cooling
    cases cooling
  | weighed patient weighed =>
    cases weighed with
    | stayed =>
      refine .idle rfl ?_ fun _ cooling => unforced_cooldown cooling
      rw [unforced_frame]
    | pended | overran =>
      refine .idle rfl ?_ ?_
      · rw [await, unforced_frame]
      · intro _ cooling
        cases cooling
    | committed considers settles done =>
      rcases commit_eq_some done with ⟨few, kept, phase⟩ | ⟨many, -, kept, phase⟩
      · rw [await_unforced_recent, await_unforced_config] at few
        rw [await_unforced_recent] at kept
        exact .moved few kept phase
      · rw [await_unforced_recent, await_unforced_config] at many
        rw [await_unforced_config] at phase
        exact .cooled many kept phase

theorem step_paced (c : TransitionController) (event : Event) :
    c.Paced (c.step event).1 (c.step event).2 := by
  cases event with
  | update p connected now => exact c.update_paced p connected now
  | resetTo zone =>
    refine .idle rfl rfl ?_
    intro _ cooling
    cases cooling

namespace Paced

variable {c next : TransitionController}

theorem cools_iff {p : Vec2} {connected : Option Zone} {now : Instant} {origin target : Zone}
    (paced : c.Paced (.update p connected now (.commit origin target)) next) :
    next.phase = .cooldown (now.after c.config.cooldown) ↔
      c.config.maxRapidTransitions < (c.recent now).length := by
  cases paced with
  | idle unmoved => cases unmoved
  | moved few kept phase => exact iff_of_false (by simp [phase]) (Nat.not_lt.mpr few)
  | cooled many kept phase => exact iff_of_true phase many

theorem of_cooldown {entry : Entry} {until_ : Instant} (paced : c.Paced entry next)
    (cooling : next.phase = .cooldown until_) :
    c.phase = .cooldown until_ ∨ ∃ p connected now origin target,
      entry = .update p connected now (.commit origin target) ∧
        until_ = now.after c.config.cooldown := by
  cases paced with
  | idle unmoved kept phase => exact .inl (phase until_ cooling)
  | moved few kept phase =>
    rw [phase] at cooling
    cases cooling
  | cooled many kept phase =>
    rw [phase] at cooling
    cases cooling
    exact .inr ⟨_, _, _, _, _, rfl, rfl⟩

end Paced

/-- The list of a controller tells what happened lately as well as the log does. -/
structure Counts (config : TransitionConfig) (events : List Event) (steps : List Step)
    (c : TransitionController) : Prop where
  setup : c.config = config
  agrees : ∀ now, (∀ time ∈ events.filterMap Event.time?, time ≤ now) →
    lately config.rapidWindow now c.recentCommits =
      lately config.rapidWindow now (commitsSinceCooldown steps)
  ordered : c.recentCommits.Pairwise (· ≤ ·)
  told : c.recentCommits ⊆ events.filterMap Event.time?
  short : c.recentCommits.length ≤ config.maxRapidTransitions

namespace Counts

variable {config : TransitionConfig} {events : List Event} {steps : List Step}
  {c : TransitionController} {now : Instant}

theorem past (counts : Counts config events steps c)
    (past : ∀ time ∈ events.filterMap Event.time?, time ≤ now) :
    ∀ time ∈ c.recentCommits ++ [now], time ≤ now := by
  intro time listed
  rcases List.mem_append.mp listed with before | present
  · exact past time (counts.told before)
  · obtain rfl := List.mem_singleton.mp present
    exact Nat.le_refl _

theorem pairwise (counts : Counts config events steps c)
    (past : ∀ time ∈ events.filterMap Event.time?, time ≤ now) :
    (c.recentCommits ++ [now]).Pairwise (· ≤ ·) := by
  rw [List.pairwise_append]
  refine ⟨counts.ordered, List.pairwise_singleton _ _, ?_⟩
  intro time listed last present
  obtain rfl := List.mem_singleton.mp present
  exact past time (counts.told listed)

theorem recent (counts : Counts config events steps c)
    (past : ∀ time ∈ events.filterMap Event.time?, time ≤ now) :
    c.recent now = lately config.rapidWindow now (c.recentCommits ++ [now]) := by
  rw [TransitionController.recent, counts.setup]
  exact dropWhile_eq_lately (counts.pairwise past) (counts.past past)

theorem recent_commits (counts : Counts config events steps c)
    (past : ∀ time ∈ events.filterMap Event.time?, time ≤ now) :
    c.recent now = lately config.rapidWindow now (commitsSinceCooldown steps ++ [now]) := by
  rw [counts.recent past, lately_append, counts.agrees now past, ← lately_append]

theorem none (grid : Grid) (config : TransitionConfig) (initial : Zone) :
    Counts config [] [] (settled grid config initial) where
  setup := rfl
  agrees _ _ := rfl
  ordered := .nil
  told := List.nil_subset _
  short := Nat.zero_le _

theorem next (counts : Counts config events steps c) {event : Event}
    (ordered : Event.InOrder (events ++ [event])) :
    Counts config (events ++ [event]) (steps ++ [⟨c, event⟩]) (c.step event).2 := by
  have setup : (c.step event).2.config = config :=
    (c.run_recorded [event]).config.trans counts.setup
  have times : (events ++ [event]).filterMap Event.time? =
      events.filterMap Event.time? ++ event.time?.toList := by
    cases told : event.time? <;> simp [told]
  rw [Event.InOrder, times, List.pairwise_append] at ordered
  have time : (c.step event).1.time? = event.time? := (Step.mk c event).entry_time?
  have paced := c.step_paced event
  have entry : (Step.mk c event).entry = (c.step event).1 := rfl
  have after : (Step.mk c event).after = (c.step event).2 := rfl
  -- From here on only the way matters in which the step was paced, not how it was computed.
  generalize (c.step event).1 = made at paced entry time
  generalize (c.step event).2 = next at paced setup after ⊢
  cases paced with
  | idle unmoved kept phase =>
    have goes_on : (Step.mk c event).cools = false := by simp [Step.cools, entry, unmoved]
    refine ⟨setup, ?_, kept ▸ counts.ordered, ?_, kept ▸ counts.short⟩
    · intro now past
      rw [times] at past
      rw [kept, commitsSinceCooldown_concat_of_not steps goes_on, entry, unmoved,
        Option.toList_none, List.append_nil]
      exact counts.agrees now fun time told => past time (List.mem_append_left _ told)
    · rw [kept, times]
      exact List.Subset.trans counts.told (List.subset_append_left _ _)
  | moved few kept phase =>
    rename_i p connected now origin target
    have goes_on : (Step.mk c event).cools = false := by
      simp [Step.cools, after, phase, Phase.isCooldown]
    rw [← time, Entry.time?, Option.toList_some] at times ordered
    have past : ∀ time ∈ events.filterMap Event.time?, time ≤ now :=
      fun time told => ordered.2.2 time told now List.mem_cons_self
    refine ⟨setup, ?_, ?_, ?_, ?_⟩
    -- The list has lost what lies before the window of `now`, which no later window reaches.
    · intro later past_later
      rw [times] at past_later
      have now_le : now ≤ later := past_later now (by simp)
      rw [kept, counts.recent past, lately_lately now_le (counts.past past), lately_append,
        counts.agrees later fun time told => past_later time (List.mem_append_left _ told),
        ← lately_append, commitsSinceCooldown_concat_of_not steps goes_on, entry]
      rfl
    · rw [kept, counts.recent past]
      exact (counts.pairwise past).filter _
    · rw [kept, times]
      refine List.Subset.trans (List.dropWhile_subset _) (List.append_subset.mpr ⟨?_, ?_⟩)
      · exact List.Subset.trans counts.told (List.subset_append_left _ _)
      · exact List.subset_append_right _ _
    · rw [kept, ← counts.setup]
      exact few
  | cooled many kept phase =>
    rename_i p connected now origin target
    have cools : (Step.mk c event).cools = true := by
      simp [Step.cools, entry, after, phase, Phase.isCooldown, Entry.commitTime?]
    -- The list starts over, and so does the log since the last cooldown.
    refine ⟨setup, ?_, ?_, ?_, ?_⟩
    · intro now past
      rw [kept, commitsSinceCooldown_concat_of_cools steps cools]
    · rw [kept]
      exact .nil
    · rw [kept]
      exact List.nil_subset _
    · rw [kept]
      exact Nat.zero_le _

end Counts

theorem run_counts (grid : Grid) (config : TransitionConfig) (initial : Zone) {events : List Event}
    (ordered : Event.InOrder events) :
    Counts config events ((settled grid config initial).steps events)
      ((settled grid config initial).run events).2 := by
  induction events using List.reverseRecOn with
  | nil => exact .none grid config initial
  | append_singleton events event ih =>
    have before : Event.InOrder events := by
      rw [Event.InOrder, List.filterMap_append] at ordered
      exact (List.pairwise_append.mp ordered).1
    rw [steps_concat, run_concat]
    exact (ih before).next ordered

/-! During a cooldown only a forced move or a new start is heeded. -/

theorem update_of_cooldown {c : TransitionController} {until_ now : Instant} (p : Vec2)
    (connected : Option Zone) (cooling : c.phase = .cooldown until_) (early : now < until_) :
    (c.update p connected now).1.isForced = true ∨
      (c.update p connected now).1 = .stay ∧
        (c.update p connected now).2.phase = .cooldown until_ := by
  have phase : (c.unforced p connected now).phase = .cooldown until_ := by
    have running : ¬until_ ≤ now := Nat.not_le.mpr early
    simp [unforced, endCooldown, cooling, running]
  have updated := c.update_updated p connected now
  generalize c.update p connected now = outcome at updated
  cases updated with
  | forced => exact .inl rfl
  | weighed patient weighed =>
    -- The cooldown has not ended with this update, so it still rules out every candidate.
    have asleep : ¬(c.unforced p connected now).Considers p now := by
      intro considers
      have awake := considers.awake
      simp [isCoolingDown, phase, early] at awake
    cases weighed with
    | stayed => exact .inr ⟨rfl, phase⟩
    | pended considers | committed considers | overran considers => exact absurd considers asleep

theorem run_of_cooldown {c : TransitionController} {until_ : Instant} {events : List Event}
    (cooling : c.phase = .cooldown until_)
    (early : ∀ time ∈ events.filterMap Event.time?, time < until_)
    (heeded : ∀ entry ∈ (c.run events).1, entry.overrides = false) :
    (c.run events).2.phase = .cooldown until_ := by
  induction events generalizing c with
  | nil => exact cooling
  | cons event rest ih =>
    obtain ⟨first, later⟩ := List.forall_mem_cons.mp heeded
    cases event with
    | resetTo zone => cases first
    | update p connected now =>
      obtain ⟨now_early, rest_early⟩ := List.forall_mem_cons.mp early
      rcases update_of_cooldown p connected cooling now_early with forced | ⟨-, still⟩
      · exact absurd forced (Bool.eq_false_iff.mp first)
      · exact ih still rest_early later

/-- A move of the controller's own accord starts a cooldown exactly when it is one too many in the
window of time that ends with it, not counting what came before the last cooldown; nothing else
starts one. Until it is over, or a forced move or a new start ends it, all else is ignored. The
controller breaks down at a move exactly when it is one too many and no clock shows the end of the
cooldown. -/
theorem cooldowns_exact (grid : Grid) (config : TransitionConfig) (initial : Zone)
    {events : List Event} {event : Event} (ordered : Event.InOrder (events ++ [event])) :
    let start := settled grid config initial
    let s : Step := ⟨(start.run events).2, event⟩
    let tooMany (now : Instant) := config.maxRapidTransitions <
      (lately config.rapidWindow now (commitsSinceCooldown (start.steps events) ++ [now])).length
    (∀ p connected now origin target,
      s.entry = .update p connected now (.commit origin target) →
        (s.after.phase = .cooldown (now.after config.cooldown) ↔ tooMany now)) ∧
      (∀ until_, s.after.phase = .cooldown until_ →
        s.before.phase = .cooldown until_ ∨
          ∃ p connected now origin target,
            s.entry = .update p connected now (.commit origin target) ∧
              until_ = now.after config.cooldown) ∧
      (∀ until_, s.after.phase = .cooldown until_ → ∀ more p connected now,
        Event.InOrder (more ++ [.update p connected now]) → now < until_ →
        (∀ entry ∈ (s.after.run more).1, entry.overrides = false) →
        let decision := ((s.after.run more).2.update p connected now).1
        decision = .stay ∨ decision.isForced = true) ∧
      s.after.recentCommits.length ≤ config.maxRapidTransitions ∧
      (∀ p connected now, event = .update p connected now →
        ((∃ origin target, s.entry = .update p connected now (.commit origin target)) ↔
          s.before.Moves p connected now ∧
            (tooMany now → now.after config.cooldown < Instant.limit)) ∧
        (s.entry = .update p connected now .unrepresentable ↔
          s.before.Moves p connected now ∧
            tooMany now ∧ Instant.limit ≤ now.after config.cooldown)) := by
  intro start s tooMany
  have in_order := ordered
  rw [Event.InOrder, List.filterMap_append, List.pairwise_append] at in_order
  have before : Counts config events (start.steps events) s.before :=
    run_counts grid config initial in_order.1
  have after : Counts config (events ++ [event]) (start.steps events ++ [s]) s.after :=
    before.next ordered
  have paced : s.before.Paced s.entry s.after := s.before.step_paced event
  -- The controller's list stands for the log, so both count the same moves.
  have counted {p : Vec2} {connected : Option Zone} {now : Instant}
      (told : event = .update p connected now) :
      s.before.config.maxRapidTransitions < (s.before.recent now).length ↔ tooMany now := by
    subst told
    rw [before.setup, before.recent_commits fun time told =>
      in_order.2.2 time told now List.mem_cons_self]
  refine ⟨?exact, ?only, ?ignored, after.short, ?possible⟩
  case exact =>
    intro p connected now origin target made
    cases event with
    | resetTo zone => cases made
    | update p' connected' now' =>
      obtain ⟨rfl, rfl, rfl, -⟩ := Entry.update.inj made
      rw [made] at paced
      rw [← counted rfl, ← before.setup]
      exact paced.cools_iff
  case only =>
    intro until_ cooling
    rw [← before.setup]
    exact paced.of_cooldown cooling
  case ignored =>
    intro until_ cooling more p connected now ordered early heeded
    rw [Event.InOrder, List.filterMap_append, List.pairwise_append] at ordered
    have times_early : ∀ time ∈ more.filterMap Event.time?, time < until_ := fun time told =>
      Nat.lt_of_le_of_lt (ordered.2.2 time told now List.mem_cons_self) early
    have still := run_of_cooldown cooling times_early heeded
    exact (update_of_cooldown p connected still early).symm.imp And.left id
  case possible =>
    intro p connected now told
    have overruns : s.before.Overruns now ↔
        tooMany now ∧ Instant.limit ≤ now.after config.cooldown := by
      rw [overruns_iff, counted told, before.setup]
    subst told
    obtain ⟨commits, overran⟩ := s.before.update_moves p connected now
    rw [overruns] at commits overran
    have made (decision : Decision) :
        s.entry = .update p connected now decision ↔
          (s.before.update p connected now).1 = decision := by
      simp [Step.entry, step, s]
    simp only [made]
    refine ⟨commits.trans (and_congr_right fun _ => ?_), overran⟩
    rw [not_and, Instant.lt_iff, Instant.le_iff, Nat.not_le]

def brisk : TransitionConfig :=
  { hasty with cooldown := .ofSeconds 1 }

/-- A player who enters another zone each second: the second move starts a cooldown, which is over
when the third is made. -/
def sprint : List Event :=
  [.update ⟨.ofInt 600, .ofInt 10⟩ none ⟨1000000000⟩,
    .update ⟨.ofInt 1100, .ofInt 10⟩ none ⟨2000000000⟩,
    .update ⟨.ofInt 1600, .ofInt 10⟩ none ⟨3000000000⟩]

theorem sprinter_cools_down_again :
    let start := settled .standard brisk ⟨0, 0⟩
    let s : Step := ⟨(start.run sprint).2, .update ⟨.ofInt 2100, .ofInt 10⟩ none ⟨4000000000⟩⟩
    lately brisk.rapidWindow ⟨4000000000⟩
        (commitsSinceCooldown (start.steps sprint) ++ [⟨4000000000⟩]) =
        [⟨3000000000⟩, ⟨4000000000⟩] ∧
      s.after.phase = .cooldown ⟨5000000000⟩ ∧
      (s.after.update ⟨.ofInt 2600, .ofInt 10⟩ none ⟨4900000000⟩).1 = .stay := by
  have exact := cooldowns_exact .standard brisk ⟨0, 0⟩
    (show Event.InOrder
      (sprint ++ [.update ⟨.ofInt 2100, .ofInt 10⟩ none ⟨4000000000⟩]) by decide)
  have counted : lately brisk.rapidWindow ⟨4000000000⟩
      (commitsSinceCooldown ((settled .standard brisk ⟨0, 0⟩).steps sprint) ++ [⟨4000000000⟩]) =
      [⟨3000000000⟩, ⟨4000000000⟩] := by decide +kernel
  have cooled := (exact.1 ⟨.ofInt 2100, .ofInt 10⟩ none ⟨4000000000⟩ ⟨3, 0⟩ ⟨4, 0⟩
    (by decide +kernel)).mpr (by dsimp only; rw [counted]; decide)
  have ignored := exact.2.2.1 ⟨5000000000⟩ cooled [] ⟨.ofInt 2600, .ofInt 10⟩ none ⟨4900000000⟩
    (by decide) (by decide) (by simp [run])
  exact ⟨counted, cooled, ignored.resolve_right (by decide +kernel)⟩

/-- The longest cooldown that a configuration can have. -/
def endless : TransitionConfig :=
  { hasty with cooldown := ⟨Duration.limit.nanos - 1⟩ }

/-- The second move is one too many, and the controller breaks down at it. -/
theorem endless_cooldown_not_entered :
    let start := settled .standard endless ⟨0, 0⟩
    let strolled : List Event := [.update ⟨.ofInt 600, .ofInt 10⟩ none ⟨1000000000⟩]
    let p : Vec2 := ⟨.ofInt 1100, .ofInt 10⟩
    let s : Step := ⟨(start.run strolled).2, .update p none ⟨2000000000⟩⟩
    endless.validate = .ok () ∧ Event.InOrder (strolled ++ [.update p none ⟨2000000000⟩]) ∧
      s.before.Moves p none ⟨2000000000⟩ ∧
      endless.maxRapidTransitions < (lately endless.rapidWindow ⟨2000000000⟩
        (commitsSinceCooldown (start.steps strolled) ++ [⟨2000000000⟩])).length ∧
      s.entry = .update p none ⟨2000000000⟩ .unrepresentable := by
  intro start strolled p s
  have broken : (s.before.update p none ⟨2000000000⟩).1 = .unrepresentable := by decide +kernel
  obtain ⟨moves, -⟩ := (s.before.update_moves p none ⟨2000000000⟩).2.mp broken
  exact ⟨by decide +kernel, by decide, moves, by decide +kernel, by decide +kernel⟩

end TransitionController

end ShardedWorld
