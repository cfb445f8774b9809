import Mathlib.Data.List.Induction
import ShardedWorld.Proofs.Handover.Tracking

/-! When a player gets lost between two servers.

A server that still waits for the answer to its offer accepts the player from the very server that
it was offered to, as one that it holds already. If both act on what they were told, neither holds
the player. This is the only way to lose one.
-/

set_option autoImplicit false

namespace ShardedWorld.Handover

/-- Two handoffs of a player cross: a server accepts the player and takes it out again, and without
its accepting the player anew the other server takes it out as well. -/
def Crossed (player : PlayerId) (acts : List Act) : Prop :=
  ∃ side first second third fourth,
    acts = first ++ .accepted (Side.other side) player :: second ++
        .removed side.other player :: third ++ .removed side player :: fourth ∧
      .accepted side.other player ∉ third

theorem Crossed.append {player : PlayerId} {acts : List Act} (crossed : Crossed player acts)
    (more : List Act) : Crossed player (acts ++ more) := by
  obtain ⟨side, first, second, third, fourth, rfl, free⟩ := crossed
  refine ⟨side, first, second, third, fourth ++ more, ?_, free⟩
  simp

section Standing

variable {side : Side} {player : PlayerId}

theorem standing_of_unaccepted {acts : List Act} (free : .accepted side player ∉ acts) :
    standing side player false acts = false := by
  induction acts with
  | nil => rfl
  | cons act rest ih =>
    obtain ⟨other, free⟩ := List.ne_and_not_mem_of_not_mem_cons free
    have kept : act.settle side player false = false := by
      cases act with
      | accepted at_ id =>
        rw [Act.settle, if_neg]
        rintro ⟨rfl, rfl⟩
        exact other rfl
      | removed at_ id => simp [Act.settle]
    simp only [standing, List.foldl_cons, kept]
    exact ih free

theorem standing_of_removed (initially : Bool) (first : List Act) {last : List Act}
    (free : .accepted side player ∉ last) :
    standing side player initially (first ++ .removed side player :: last) = false := by
  have removed : Act.settle side player (standing side player initially first)
      (.removed side player) = false := by simp [Act.settle]
  simp only [standing, List.foldl_append, List.foldl_cons] at removed ⊢
  rw [removed]
  exact standing_of_unaccepted free

theorem removed_of_standing {initially : Bool} {acts : List Act}
    (accepted : .accepted side player ∈ acts)
    (gone : standing side player initially acts = false) :
    ∃ first second third, acts = first ++ .accepted side player :: second ++
        .removed side player :: third ∧ .accepted side player ∉ third := by
  -- From the end: the last act that concerns the player is its removal.
  induction acts using List.reverseRecOn with
  | nil => cases accepted
  | append_singleton acts act ih =>
    rw [standing_concat] at gone
    by_cases removes : act = .removed side player
    · subst removes
      have before : .accepted side player ∈ acts := by simpa using accepted
      obtain ⟨first, second, rfl⟩ := List.append_of_mem before
      exact ⟨first, second, [], rfl, by simp⟩
    · by_cases accepts : act = .accepted side player
      · subst accepts
        simp [Act.settle] at gone
      · have kept : standing side player initially acts = false := by
          cases act with
          | accepted at_ id => simp_all [Act.settle]
          | removed at_ id =>
            rw [Act.settle, if_neg] at gone
            · exact gone
            · rintro ⟨rfl, rfl⟩
              exact removes rfl
        have before : .accepted side player ∈ acts := by
          simpa [Ne.symm accepts] using accepted
        obtain ⟨first, second, third, rfl, free⟩ := ih before kept
        refine ⟨first, second, third ++ [act], by simp, ?_⟩
        simpa [Ne.symm accepts] using free

end Standing

variable {σ : Type}

/-! Acts of a run. -/

section Acts

variable [Store σ]

theorem World.run_concat (w : World σ) (events : List Event) (event : Event) :
    w.run (events ++ [event]) = (w.run events).step event := by
  simp [World.run]

theorem World.step_acts (w : World σ) (event : Event) :
    (w.step event).acts = w.acts ∨ ∃ act, (w.step event).acts = w.acts ++ [act] := by
  -- Only the acceptance and the removal of an entity are acts, and no event does two of them.
  have single (side : Side) (request : Request) (response : Response) :
      w.acts ++ Act.ofResponse side request response = w.acts ∨
        ∃ act, w.acts ++ Act.ofResponse side request response = w.acts ++ [act] := by
    unfold Act.ofResponse
    split
    · exact .inr ⟨_, rfl⟩
    · exact .inl (List.append_nil _)
  cases event with
  | tick side seconds timestamp => exact .inl rfl
  | hear side now sender datagram => exact .inl rfl
  | scan side now => exact .inl rfl
  | send side =>
    simp only [World.step, World.send]
    split
    · split
      · exact .inl rfl
      · exact .inl rfl
    · exact .inl rfl
  | serve number now sender =>
    simp only [World.step, World.serve]
    split
    · exact .inl rfl
    · exact .inl rfl
    · split
      · exact .inl rfl
      · exact single _ _ _
  | receive side place =>
    simp only [World.step, World.receive]
    split
    · exact .inl rfl
    · split
      · exact .inl rfl
      · exact .inl rfl
  | fail side e => exact .inl rfl
  | proceed side opened stale =>
    simp only [World.step, World.proceed]
    split
    · exact .inl rfl
    · exact .inl rfl
    · exact .inl rfl
    · exact .inr ⟨_, rfl⟩
    · exact .inl rfl

theorem World.acts_reached {w : World σ} (fresh : w.acts = []) {events : List Event}
    {first last : List Act} {act : Act} (done : (w.run events).acts = first ++ act :: last) :
    ∃ before, before <+: events ∧ (w.run before).acts = first ++ [act] := by
  induction events using List.reverseRecOn generalizing last with
  | nil => simp [World.run, fresh] at done
  | append_singleton events event ih =>
    rw [World.run_concat] at done
    rcases (w.run events).step_acts event with same | ⟨new, added⟩
    · rw [same] at done
      obtain ⟨before, early, reached⟩ := ih done
      exact ⟨before, early.trans (List.prefix_append ..), reached⟩
    · rcases List.eq_nil_or_concat last with rfl | ⟨front, final, rfl⟩
      · exact ⟨events ++ [event], List.prefix_rfl, by rw [World.run_concat, done]⟩
      · rw [added, List.concat_eq_append, ← List.cons_append, ← List.append_assoc] at done
        obtain ⟨before, early, reached⟩ := ih (List.append_inj' done rfl).1
        exact ⟨before, early.trans (List.prefix_append ..), reached⟩

theorem World.acts_prefix (w : World σ) {before events : List Event} (early : before <+: events) :
    ∃ more, (w.run events).acts = (w.run before).acts ++ more := by
  obtain ⟨rest, rfl⟩ := early
  induction rest using List.reverseRecOn with
  | nil => exact ⟨[], by simp⟩
  | append_singleton rest event ih =>
    obtain ⟨more, reached⟩ := ih
    rw [← List.append_assoc, World.run_concat]
    rcases (w.run (before ++ rest)).step_acts event with same | ⟨new, added⟩
    · exact ⟨more, by rw [same, reached]⟩
    · exact ⟨more ++ [new], by rw [added, reached, List.append_assoc]⟩

end Acts

/-! Losing a player. -/

/-- Two servers that can be told apart, which are the only ones that the coordinator knows, before
anything is under way. One of them holds the player, and neither holds anything else under the
player's number. -/
structure World.Settled (w : World σ) (player : PlayerId) : Prop where
  apart : (w.party .left).server.endpoint ≠ (w.party .right).server.endpoint
  registered : ∀ info, w.coordinator.mailbox.registry.Lists info → ∃ side,
    info.serverId = (w.party side).server.config.serverId ∧
      info.endpoint = (w.party side).server.endpoint
  idle : ∀ side, (∃ report, (w.party side).scan = .finished report) ∧
    (w.party side).awaited = none
  quiet : w.requests = [] ∧ w.responses = [] ∧ w.acts = []
  kind : ∀ side kind, (w.party side).server.population.kindOf? player = some kind →
    kind = .player
  held : w.Holds player

theorem World.Settled.tracked {w : World σ} {player : PlayerId} (settled : w.Settled player) :
    Tracked (fun side => (w.party side).server.config) player
      (fun side => (w.party side).server.population.contains player) w := by
  obtain ⟨unsent, unanswered, undone⟩ := settled.quiet
  refine ⟨?_, settled.registered, ?_, ?_, ?_⟩
  · intro side
    refine ⟨rfl, ?_, ⟨false, by simp, ?_⟩, ?_⟩
    · rw [undone, Population.contains_eq]
      simp only [standing, List.foldl_nil]
      cases held : (w.party side).server.population.kindOf? player with
      | none => rfl
      | some kind => simp [settled.kind side kind held]
    · obtain ⟨report, stands⟩ := (settled.idle side).1
      rw [stands]
      trivial
    · intro number waits
      rw [(settled.idle side).2] at waits
      cases waits
  · simp [unsent]
  · simp [unanswered]
  · intro side first last split
    rw [undone] at split
    simp at split

theorem Tracked.holds_iff {site : Side → ServerConfig} {player : PlayerId}
    {initially : Side → Bool} {w : World σ} (tracked : Tracked site player initially w) :
    w.Holds player ↔ ∃ side, standing side player (initially side) w.acts = true := by
  apply exists_congr
  intro side
  rw [Population.contains_eq, (tracked.parties side).present]
  split <;> simp_all

/-- A server that takes the only copy of a player out does so on the word of the other server, which
has taken the player out itself since. -/
theorem Tracked.crossed_of_lost {site : Side → ServerConfig} {player : PlayerId}
    {initially : Side → Bool} {before after : World σ} {act : Act}
    (trackedBefore : Tracked site player initially before)
    (tracked : Tracked site player initially after) (acts : after.acts = before.acts ++ [act])
    (held : before.Holds player) (lost : ¬ after.Holds player) : Crossed player after.acts := by
  obtain ⟨side, stood⟩ := trackedBefore.holds_iff.mp held
  rw [tracked.holds_iff, not_exists] at lost
  have gone := lost side
  have other := lost side.other
  rw [acts, standing_concat, Bool.not_eq_true] at gone other
  have removes : act = .removed side player := by
    cases act <;> simp_all [Act.settle]
  subst removes
  -- The other server had accepted the player, and does not hold it any more.
  have accepted := tracked.backed side before.acts [] acts
  have away : standing side.other player (initially side.other) before.acts = false := by
    cases side <;> simpa [Act.settle, Side.other] using other
  obtain ⟨first, second, third, split, free⟩ := removed_of_standing accepted away
  exact ⟨side, first, second, third, [], by rw [acts, split], free⟩

/-- A player of one of two servers is held by one of them all along, if and only if no two handoffs
of it cross. -/
theorem players_kept_iff_no_handoffs_cross [Store σ] {w : World σ} {player : PlayerId}
    (settled : w.Settled player) (events : List Event) :
    (∀ before, before <+: events → (w.run before).Holds player) ↔
      ¬ Crossed player (w.run events).acts := by
  have tracked (before : List Event) := settled.tracked.run settled.apart before
  constructor
  -- After the second removal neither server has accepted the player since it took it out.
  · rintro kept ⟨side, first, second, third, fourth, acts, free⟩
    obtain ⟨before, early, reached⟩ := World.acts_reached settled.quiet.2.2 acts
    obtain ⟨holder, stands⟩ := (tracked before).holds_iff.mp (kept before early)
    rw [reached] at stands
    by_cases here : holder = side
    · subst here
      rw [standing_of_removed _ _ (by simp)] at stands
      cases stands
    · obtain rfl := Side.eq_other_of_ne here
      rw [List.append_assoc, List.cons_append, standing_of_removed _ _ (by simpa using free)]
        at stands
      cases stands
  -- The first event that loses the player is a removal, and handoffs have crossed by then.
  · intro apart before early
    induction before using List.reverseRecOn with
    | nil => exact settled.held
    | append_singleton before event ih =>
      have held := ih ((List.prefix_append ..).trans early)
      by_contra lost
      have after := tracked (before ++ [event])
      rw [World.run_concat] at lost after
      rcases (w.run before).step_acts event with same | ⟨act, added⟩
      · apply lost
        rw [after.holds_iff, same]
        exact (tracked before).holds_iff.mp held
      · have crossed := (tracked before).crossed_of_lost after added held lost
        obtain ⟨more, acts⟩ := w.acts_prefix early
        rw [World.run_concat] at acts
        rw [acts] at apart
        exact apart (crossed.append more)

/-! A player that gets lost. -/

/-- Two servers have registered for neighbouring zones, and a player has joined the right one. -/
def meeting : World MemoryStore where
  coordinator :=
    let c := Coordinator.start .standard MemoryStore.empty .start
    let c := (c.command .start (.registerServer ⟨"left"⟩ (.loopback 8001))).2
    let c := (c.command .start (.registerServer ⟨"right"⟩ (.loopback 8002))).2
    (c.command .start (.updatePlayer (.appearing 7 "ann" ⟨.ofInt 505, .ofInt 10⟩))).2
  party side :=
    let config : ServerConfig :=
      match side with
      | .left => { ServerConfig.standard with serverId := ⟨"left"⟩, listen := .loopback 8001 }
      | .right => { ServerConfig.standard with serverId := ⟨"right"⟩, listen := .loopback 8002 }
    let server :=
      match side with
      | .left => .assigned config ⟨0, 0⟩
      | .right => ((ZoneServer.assigned config ⟨1, 0⟩).join .start (.loopback 9000) 7 "ann" "key"
          (some ⟨.ofInt 505, .ofInt 10⟩)).2
    ⟨server, .finished default, none⟩
  requests := []
  responses := []
  acts := []

def exchange (side : Side) (number : Nat) : List Event :=
  [.send side, .serve number .start (.loopback 9000), .receive side number]

def walk (sequence : UInt32) (speed : Int) : Event :=
  .hear .right .start (.loopback 9000) (.move 7 sequence ⟨.ofInt speed, .zero⟩)

def tick (side : Side) : Event := .tick side (.ofInt 1 / .ofInt 10) 0

def proceed (side : Side) : Event := .proceed side (.ok 0) false

/-- The player walks to the left, where the other server accepts it, and the right one takes it
out. -/
def delivery : List Event :=
  [walk 1 (-100), tick .right, .scan .right .start] ++ exchange .right 0 ++ [proceed .right] ++
    exchange .right 1 ++ exchange .right 2 ++ [proceed .right]

/-- The player walks to the left and turns round. The right server offers it, the left one accepts,
and while the answer is on its way the player walks back and is offered to the right server, which
holds it still. -/
def encounter : List Event :=
  [walk 1 (-100), tick .right, walk 2 100, .scan .right .start] ++ exchange .right 0 ++
    [proceed .right, .send .right, .serve 1 .start (.loopback 9000)] ++
    [tick .left, .scan .left .start] ++ exchange .left 2 ++ [proceed .left] ++
    exchange .left 3 ++ exchange .left 4 ++ [proceed .left] ++
    [.receive .right 1] ++ exchange .right 5 ++ [proceed .right]

theorem meeting_settled : meeting.Settled 7 where
  apart := by decide +kernel
  registered := by
    have servers : meeting.coordinator.mailbox.registry.servers.toList.map (·.2.info) =
        [⟨⟨"left"⟩, .loopback 8001, ⟨0, 0⟩⟩, ⟨⟨"right"⟩, .loopback 8002, ⟨1, 0⟩⟩] := by
      decide +kernel
    rintro info ⟨id, s, registered, rfl⟩
    have listed := List.mem_map_of_mem (f := fun entry => entry.2.info)
      (Std.ExtTreeMap.mem_toList_iff_getElem?_eq_some.mpr registered)
    rw [servers] at listed
    rcases List.mem_cons.mp listed with left | right
    · exact ⟨.left, congrArg ServerInfo.serverId left, congrArg ServerInfo.endpoint left⟩
    · rw [List.mem_singleton] at right
      exact ⟨.right, congrArg ServerInfo.serverId right, congrArg ServerInfo.endpoint right⟩
  idle side := ⟨⟨default, rfl⟩, rfl⟩
  quiet := ⟨rfl, rfl, rfl⟩
  kind side kind found := by
    have players : ∀ side, (meeting.party side).server.population.kindOf? 7 = none ∨
        (meeting.party side).server.population.kindOf? 7 = some .player := by
      intro side
      cases side <;> decide +kernel
    rcases players side with none | player
    · rw [none] at found
      cases found
    · exact (Option.some.inj (player.symm.trans found)).symm
  held := ⟨.right, by decide +kernel⟩

/-- A handoff that nothing crosses brings the player over. -/
theorem delivery_keeps_player :
    meeting.Settled 7 ∧
      (meeting.run delivery).acts = [.accepted .left 7, .removed .right 7] ∧
      ∀ before, before <+: delivery → (meeting.run before).Holds 7 := by
  have acts : (meeting.run delivery).acts = [.accepted .left 7, .removed .right 7] := by
    decide +kernel
  refine ⟨meeting_settled, acts, ?_⟩
  rw [players_kept_iff_no_handoffs_cross meeting_settled, acts]
  -- Crossing takes two removals.
  rintro ⟨side, first, second, third, fourth, crossing, -⟩
  have lengths := congrArg (List.countP fun act => act matches .removed _ _) crossing
  simp [List.countP_append] at lengths
  omega

theorem encounter_loses_player :
    meeting.Settled 7 ∧ ¬ ∀ before, before <+: encounter → (meeting.run before).Holds 7 := by
  refine ⟨meeting_settled, ?_⟩
  intro kept
  obtain ⟨side, holds⟩ := kept encounter List.prefix_rfl
  have gone : ∀ side, (meeting.run encounter |>.party side).server.population.contains 7 =
      false := by
    intro side
    cases side <;> decide +kernel
  rw [gone side] at holds
  cases holds

end ShardedWorld.Handover
