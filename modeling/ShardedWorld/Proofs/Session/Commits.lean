import ShardedWorld.Proofs.Player.Scopes
import ShardedWorld.Proofs.Session.Links

/-! A session moves its link, or keeps it.

However its questions are answered, and wherever it is interrupted, a move ends with the timers as
they were before it. It goes to the server that let the player in, or it leaves the link as it was.
-/

set_option autoImplicit false

namespace ShardedWorld.Session

open Dialogue (Leads)

abbrev Exchange := Dialogue.Exchange Question Answer

def joins (s : Session) (spawnAt : Option Vec2) (link : Link) (answer : JoinAnswer)
    (time : Instant) : Exchange :=
  ⟨.join link.id s.config.playerId s.config.name s.config.sessionKey spawnAt, ⟨time, .ok answer⟩⟩

def reaches (place : Vec2) (server : ServerInfo) (id : LinkId) (located connected : Instant) :
    List Exchange :=
  [⟨.locate place, ⟨located, .ok (some server)⟩⟩, ⟨.connect server.endpoint, ⟨connected, .ok id⟩⟩]

/-- A server of `target` lets the player in: the one to which a connection was opened ahead of time,
as long as that is open, and otherwise the one that the coordinator names. -/
inductive LetIn (s : Session) (target : Zone) (spawnAt : Option Vec2) (isStale : LinkId → Bool) :
    List Exchange → Arrival → Prop where
  | ahead {link : Link} (answer : JoinAnswer) (time : Instant)
      (ready : s.prewarmed = some (target, link)) (fresh : isStale link.id = false) :
      LetIn s target spawnAt isStale [s.joins spawnAt link answer time] ⟨link, answer, time⟩
  | found (server : ServerInfo) (id : LinkId) (answer : JoinAnswer)
      (located connected time : Instant)
      (unready : ∀ link, s.prewarmed = some (target, link) → isStale link.id = true) :
      LetIn s target spawnAt isStale
        (reaches (s.placeIn target) server id located connected ++
          [s.joins spawnAt ⟨server, id⟩ answer time])
        ⟨⟨server, id⟩, answer, time⟩

theorem LetIn.of_same {s s' : Session} {target : Zone} {spawnAt : Option Vec2}
    {isStale : LinkId → Bool} {told : List Exchange} {arrival : Arrival}
    (letIn : s.LetIn target spawnAt isStale told arrival) (config : s'.config = s.config)
    (position : s'.position = s.position) (prewarmed : s'.prewarmed = s.prewarmed) :
    s'.LetIn target spawnAt isStale told arrival := by
  have joins : s'.joins = s.joins := by
    unfold joins
    rw [config]
  have place : s'.placeIn target = s.placeIn target := by
    unfold placeIn localZone
    rw [config, position]
  cases letIn with
  | ahead answer time ready fresh =>
    rw [← joins]
    exact .ahead answer time (prewarmed.trans ready) fresh
  | found server id answer located connected time unready =>
    rw [← joins, ← place]
    exact .found server id answer located connected time (prewarmed ▸ unready)

theorem expect_leads_ok_iff {α β : Type} {reply : Reply α} {next : α → Attempt β}
    {told : List Exchange} {b : β} :
    Leads (expect reply next) told (.ok b) ↔
      ∃ a, reply.outcome = .ok a ∧ Leads (next a) told (.ok b) := by
  unfold expect
  cases reply.outcome with
  | ok a => simp
  | error e =>
    simp only [reduceCtorEq, false_and, exists_false, iff_false]
    intro leads
    cases leads

theorem andThen_leads_ok_iff {α β : Type} {attempt : Attempt α} {next : α → Attempt β}
    {told : List Exchange} {b : β} :
    Leads (andThen attempt next) told (.ok b) ↔
      ∃ first a second, told = first ++ second ∧ Leads attempt first (.ok a) ∧
        Leads (next a) second (.ok b) := by
  constructor
  · intro leads
    obtain ⟨first, outcome, second, split, before, after⟩ := leads.of_bind
    cases outcome with
    | ok a => exact ⟨first, a, second, split, before, after⟩
    | error e => cases after
  · rintro ⟨first, a, second, rfl, before, after⟩
    exact before.bind after

theorem enter_leads_ok_iff {s : Session} {spawnAt : Option Vec2} {link : Link}
    {told : List Exchange} {arrival : Arrival} :
    Leads (enter s.config spawnAt link) told (.ok arrival) ↔
      ∃ answer time, told = [s.joins spawnAt link answer time] ∧
        arrival = ⟨link, answer, time⟩ := by
  constructor
  · intro leads
    obtain _ | ⟨⟨time, outcome⟩, leads⟩ := leads
    obtain ⟨answer, rfl, leads⟩ := expect_leads_ok_iff.mp leads
    cases leads
    exact ⟨answer, time, rfl, rfl⟩
  · rintro ⟨answer, time, rfl, rfl⟩
    exact .ask _ (.finished _)

theorem reach_leads_ok_iff {zone : Zone} {place : Vec2} {told : List Exchange} {link : Link} :
    Leads (reach zone place) told (.ok link) ↔
      ∃ server id located connected,
        told = reaches place server id located connected ∧ link = ⟨server, id⟩ := by
  constructor
  · intro leads
    obtain _ | ⟨⟨located, outcome⟩, leads⟩ := leads
    obtain ⟨server?, rfl, leads⟩ := expect_leads_ok_iff.mp leads
    cases server? with
    | none => cases leads
    | some server =>
      obtain _ | ⟨⟨connected, outcome⟩, leads⟩ := leads
      obtain ⟨id, rfl, leads⟩ := expect_leads_ok_iff.mp leads
      cases leads
      exact ⟨server, id, located, connected, rfl, rfl⟩
  · rintro ⟨server, id, located, connected, rfl, rfl⟩
    exact .ask _ (.ask _ (.finished _))

section Switching

variable (s : Session) (target : Zone) (spawnAt : Option Vec2) (isStale : LinkId → Bool)

/-- Before the server is asked to let the player in, nothing changes but what was opened ahead. -/
theorem switchTo_session : ∃ hits, (s.switchTo target spawnAt isStale).1 =
    { s with prewarmed := none, stats := { s.stats with prewarmHits := hits } } := by
  unfold switchTo
  dsimp only
  split
  · exact ⟨_, rfl⟩
  · exact ⟨s.stats.prewarmHits, rfl⟩

theorem switchTo_leads_ok_iff {told : List Exchange} {arrival : Arrival} :
    Leads (s.switchTo target spawnAt isStale).2 told (.ok arrival) ↔
      s.LetIn target spawnAt isStale told arrival := by
  unfold switchTo
  dsimp only
  split
  next zone link ready =>
    simp only [Option.filter_eq_some_iff, Bool.and_eq_true, decide_eq_true_eq, Bool.not_eq_true']
      at ready
    obtain ⟨ready, rfl, fresh⟩ := ready
    rw [enter_leads_ok_iff]
    constructor
    · rintro ⟨answer, time, rfl, rfl⟩
      exact .ahead answer time ready fresh
    · rintro (⟨answer, time, ready', -⟩ | ⟨server, id, answer, located, connected, time, unready⟩)
      · rw [ready] at ready'
        cases ready'
        exact ⟨answer, time, rfl, rfl⟩
      · have stale := unready link ready
        rw [fresh] at stale
        cases stale
  -- Whatever was prewarmed is for another zone or stale, and a connection is looked for.
  next missing =>
    have unready : ∀ link, s.prewarmed = some (target, link) → isStale link.id = true := by
      intro link ready
      simpa [ready] using missing
    rw [andThen_leads_ok_iff]
    constructor
    · rintro ⟨first, link, second, rfl, reached, entered⟩
      obtain ⟨server, id, located, connected, rfl, rfl⟩ := reach_leads_ok_iff.mp reached
      obtain ⟨answer, time, rfl, rfl⟩ := enter_leads_ok_iff.mp entered
      exact .found server id answer located connected time unready
    · rintro (⟨answer, time, ready, fresh⟩ | ⟨server, id, answer, located, connected, time, -⟩)
      · rw [unready _ ready] at fresh
        cases fresh
      · exact ⟨_, _, _, rfl, reach_leads_ok_iff.mpr ⟨server, id, located, connected, rfl, rfl⟩,
          enter_leads_ok_iff.mpr ⟨answer, time, rfl, rfl⟩⟩

/-- A question that does not end the player's stay at a server. -/
def Question.Stays : Question → Prop
  | .leave .. => False
  | _ => True

theorem expect_stays {α β : Type} (reply : Reply α) {next : α → Attempt β}
    (rest : ∀ a, (next a).Asks Question.Stays) : (expect reply next).Asks Question.Stays := by
  unfold expect
  split
  next a _ => exact rest a
  · trivial

theorem enter_stays (link : Link) : (enter s.config spawnAt link).Asks Question.Stays :=
  ⟨trivial, fun reply => expect_stays reply fun _ => trivial⟩

theorem reach_stays (place : Vec2) : (reach target place).Asks Question.Stays := by
  refine ⟨trivial, fun reply => expect_stays reply ?_⟩
  rintro (_ | server)
  · trivial
  · exact ⟨trivial, fun reply => expect_stays reply fun _ => trivial⟩

theorem switchTo_stays : (s.switchTo target spawnAt isStale).2.Asks Question.Stays := by
  unfold switchTo
  dsimp only
  split
  next link _ => exact enter_stays s spawnAt _
  · refine (reach_stays target _).bind ?_
    rintro (e | link)
    · trivial
    · exact enter_stays s spawnAt link

end Switching

/-- A move that led to the server that let the player in. -/
structure Moved (s : Session) (arrival : Arrival) (done : Committed) : Prop where
  link : done.session.link = some arrival.link
  probed : done.session.probed = some arrival.link.id
  switches : done.session.stats.switches = s.stats.switches + 1
  failedSwitches : done.session.stats.failedSwitches = s.stats.failedSwitches
  effects : done.effects =
    s.link.toList.map fun previous => .leave previous.id s.config.playerId

/-- A move that led nowhere. -/
structure Kept (s : Session) (done : Committed) : Prop where
  link : done.session.link = s.link
  probed : done.session.probed = s.probed
  position : done.session.position = s.position
  switches : done.session.stats.switches = s.stats.switches
  failedSwitches : done.session.stats.failedSwitches = s.stats.failedSwitches + 1
  effects : done.effects = []

abbrev Transcript :=
  List (Dialogue.Exchange Question fun question => Except Instant (Answer question))

/-- A move after which the session is whole, whether it succeeded or not. -/
structure Whole (s : Session) (target : Zone) (isStale : LinkId → Bool) (said : Transcript)
    (done : Committed) : Prop where
  paused : done.session.timers.isPaused = s.timers.isPaused
  pauses : done.session.timers.pauses =
    s.timers.pauses + if s.timers.isPaused then 0 else 1
  resumes : done.session.timers.resumes =
    s.timers.resumes + if s.timers.isPaused then 0 else 1
  committing : done.session.health.isCommitting = false
  controller : done.session.controller = s.controller
  stays : ∀ x ∈ said, x.question.Stays
  moved : done.success = true → ∃ told arrival, s.LetIn target none isStale told arrival ∧
    said = told.map .completed ∧ s.Moved arrival done
  kept : done.success = false → s.Kept done ∧
    ∀ told arrival, s.LetIn target none isStale told arrival → said ≠ told.map .completed

section Committing

variable (s : Session) (now : Instant) (target : Zone) (isStale : LinkId → Bool)

def underway : Session × Attempt Arrival := (s.startCommit now).switchTo target none isStale

theorem underway_session : ∃ hits, (s.underway now target isStale).1 =
    { s with
      prewarmed := none
      timers := s.timers.openScope
      health := s.health.startCommit now
      stats := { s.stats with prewarmHits := hits } } :=
  (s.startCommit now).switchTo_session target none isStale

theorem underway_leads_ok_iff {told : List Exchange} {arrival : Arrival} :
    Leads (s.underway now target isStale).2 told (.ok arrival) ↔
      s.LetIn target none isStale told arrival := by
  unfold underway
  rw [switchTo_leads_ok_iff]
  exact ⟨fun letIn => letIn.of_same rfl rfl rfl, fun letIn => letIn.of_same rfl rfl rfl⟩

theorem commit_leads_iff {s : Session} {target : Zone} (elsewhere : s.connectedZone ≠ some target)
    {said : Transcript} {done : Committed} :
    Leads (s.commit now target isStale) said done ↔
      ∃ outcome, Leads ((s.underway now target isStale).2.interruptible Instant) said outcome ∧
        done = (s.underway now target isStale).1.conclude now outcome := by
  unfold commit
  rw [if_neg elsewhere]
  constructor
  · intro leads
    obtain ⟨first, outcome, second, rfl, before, after⟩ := leads.of_bind
    cases after
    exact ⟨outcome, by rwa [List.append_nil], rfl⟩
  · rintro ⟨outcome, leads, rfl⟩
    have complete : Leads
        (((s.underway now target isStale).2.interruptible Instant).bind fun outcome =>
          .finished ((s.underway now target isStale).1.conclude now outcome))
        (said ++ []) ((s.underway now target isStale).1.conclude now outcome) :=
      leads.bind (.finished _)
    rwa [List.append_nil] at complete

theorem conclude_moved (arrival : Arrival) :
    s.Moved arrival ((s.underway now target isStale).1.conclude now (.ok (.ok arrival))) := by
  obtain ⟨hits, begun⟩ := s.underway_session now target isStale
  rw [begun]
  exact ⟨rfl, rfl, rfl, rfl, rfl⟩

theorem conclude_kept {outcome : Except Instant (Except Setback Arrival)}
    (failed : ((s.underway now target isStale).1.conclude now outcome).success = false) :
    s.Kept ((s.underway now target isStale).1.conclude now outcome) := by
  obtain ⟨hits, begun⟩ := s.underway_session now target isStale
  rw [begun] at failed ⊢
  -- Whether the move was given up or refused, the link has not been touched yet.
  rcases outcome with stopped | setback | arrival
  · exact ⟨rfl, rfl, rfl, rfl, rfl, rfl⟩
  · exact ⟨rfl, rfl, rfl, rfl, rfl, rfl⟩
  · cases failed

/-- Whatever comes of a move, its scope is closed, and none is under way. -/
theorem conclude_ends (outcome : Except Instant (Except Setback Arrival)) :
    let done := (s.underway now target isStale).1.conclude now outcome
    done.session.timers = s.timers.openScope.closeScope ∧
      done.session.health.isCommitting = false ∧ done.session.controller = s.controller := by
  obtain ⟨hits, begun⟩ := s.underway_session now target isStale
  rw [begun]
  rcases outcome with stopped | setback | arrival <;> exact ⟨rfl, rfl, rfl⟩

variable {s now target isStale}

theorem commit_whole_of_leads (sound : s.timers.Sound) (elsewhere : s.connectedZone ≠ some target)
    {said : Transcript} {done : Committed} (leads : Leads (s.commit now target isStale) said done) :
    s.Whole target isStale said done := by
  obtain ⟨outcome, talk, rfl⟩ := (commit_leads_iff now isStale elsewhere).mp leads
  obtain ⟨timers, committing, controller⟩ := s.conclude_ends now target isStale outcome
  obtain ⟨paused, pauses, resumes⟩ := sound.scope
  refine ⟨?_, ?_, ?_, committing, controller, ?_, ?_, ?_⟩
  · rw [timers]
    exact paused
  · rw [timers]
    exact pauses
  · rw [timers]
    exact resumes
  · exact (switchTo_stays _ target none isStale).interruptible.of_mem talk
  · intro success
    rcases outcome with stopped | setback | arrival
    · cases success
    · cases success
    · obtain ⟨told, talked, rfl⟩ := talk.of_interruptible
      exact ⟨told, arrival, (s.underway_leads_ok_iff now target isStale).mp talked, rfl,
        s.conclude_moved now target isStale arrival⟩
  · intro failed
    refine ⟨s.conclude_kept now target isStale failed, ?_⟩
    -- Had a server let the player in without an interruption, the move would have succeeded.
    rintro told arrival letIn rfl
    have talked := (s.underway_leads_ok_iff now target isStale).mpr letIn
    rw [talk.unique talked.interruptible] at failed
    cases failed

end Committing

/-- However the coordinator and the servers answer, and wherever a move is interrupted, the session
is whole after it. Whatever a session goes through, the connection that it probes is that of its
link, and its timers stand still exactly while scopes are open, as long as the others who share
them open and close scopes only. -/
theorem commit_keeps_whole :
    (∀ (s : Session) (now : Instant) (target : Zone) (isStale : LinkId → Bool) (σ : Type)
        (surroundings : (question : Question) → σ → Except Instant (Answer question) × σ) (w : σ),
      s.timers.Sound → s.connectedZone ≠ some target →
        s.Whole target isStale ((s.commit now target isStale).converse surroundings w).2.1
          ((s.commit now target isStale).converse surroundings w).1) ∧
    ∀ (others : TimerGroup → Prop) (setup : SessionConfig) (arrival : Arrival) (s : Session),
      Reached others (joined setup arrival) s →
        s.probed = s.link.map (·.id) ∧ ((∀ g, others g → Schedule.Reaches g) → s.timers.Sound) := by
  refine ⟨?_, fun others setup arrival s reached => ⟨?_, fun scopes => ?_⟩⟩
  · intro s now target isStale σ surroundings w sound elsewhere
    exact commit_whole_of_leads sound elsewhere (Dialogue.converse_leads surroundings _ w)
  · have linked : s.Linked fun _ => True :=
      reached.linked trivial (fun _ _ => trivial) fun _ _ => trivial
    exact linked.1
  · have linked : s.Linked Schedule.Reaches :=
      reached.linked Schedule.Reaches.running (fun _ => Schedule.Reaches.scope) scopes
    exact linked.2.sound

/-- The zone beside the first one has a server, which lets the player in, or none. -/
def beyond (server : Option ServerInfo) :
    (question : Question) → Unit → Except Instant (Answer question) × Unit
  | .locate _, w => (.ok ⟨.start, .ok server⟩, w)
  | .connect _, w => (.ok ⟨.start, .ok 1⟩, w)
  | .join .., w => (.ok ⟨.start, .ok ⟨⟨"neighbour"⟩, ⟨1, 0⟩, none⟩⟩, w)
  | .leave .., w => (.ok ⟨.start, .ok ()⟩, w)

theorem newcomer_keeps_whole :
    newcomer.timers.Sound ∧ newcomer.connectedZone ≠ some ⟨1, 0⟩ ∧
      Reached Schedule.Reaches newcomer newcomer ∧
      newcomer.Kept
        ((newcomer.commit .start ⟨1, 0⟩ fun _ => false).converse (beyond none) ()).1 ∧
      (∃ arrival, newcomer.Moved arrival
        ((newcomer.commit .start ⟨1, 0⟩ fun _ => false).converse
          (beyond (some ⟨⟨"neighbour"⟩, .loopback 8081, ⟨1, 0⟩⟩)) ()).1) ∧
      newcomer.probed = newcomer.link.map (·.id) := by
  have elsewhere : newcomer.connectedZone ≠ some ⟨1, 0⟩ := by decide
  have reached : Reached Schedule.Reaches newcomer newcomer := .begun
  obtain ⟨whole, sane⟩ := commit_keeps_whole
  obtain ⟨linked, scopes⟩ := sane Schedule.Reaches _ _ newcomer reached
  have sound : newcomer.timers.Sound := scopes fun _ => id
  have alone := whole newcomer .start ⟨1, 0⟩ (fun _ => false) Unit (beyond none) () sound elsewhere
  have invited := whole newcomer .start ⟨1, 0⟩ (fun _ => false) Unit
    (beyond (some ⟨⟨"neighbour"⟩, .loopback 8081, ⟨1, 0⟩⟩)) () sound elsewhere
  have stayed := alone.kept (by decide +kernel)
  obtain ⟨told, arrival, -, -, moved⟩ := invited.moved (by decide +kernel)
  exact ⟨sound, elsewhere, reached, stayed.1, ⟨arrival, moved⟩, linked⟩

end ShardedWorld.Session
