import ShardedWorld.Proofs.Scan.Transcript
import ShardedWorld.Session.Tick

/-! A session numbers its moves one after the other.

Whatever a session hears, however its questions are answered and wherever its link leads, only a
move that it sends counts. The numbers begin with one and start over with zero when 32 bits are used
up.
-/

set_option autoImplicit false

namespace ShardedWorld.Session

open Dialogue (Leads)

def Effect.move? : Effect → Option (PlayerId × UInt32)
  | .move _ (.move player number _) => some (player, number)
  | _ => none

def moves (effects : List Effect) : List (PlayerId × UInt32) := effects.filterMap Effect.move?

theorem moves_append (effects more : List Effect) :
    moves (effects ++ more) = moves effects ++ moves more :=
  List.filterMap_append

def numbered (player : PlayerId) (count : Nat) : List (PlayerId × UInt32) :=
  (List.range' 1 count).map fun number => (player, .ofNat number)

theorem numbered_succ (player : PlayerId) (count : Nat) :
    numbered player (count + 1) = numbered player count ++ [(player, .ofNat (count + 1))] := by
  simp [numbered, List.range'_1_concat, Nat.add_comm]

/-- What a tick comes to, however its questions are answered. -/
inductive Tick.Ends : Tick → List Effect → Session → Prop where
  | finished (s : Session) (effects : List Effect) : Ends (.finished s effects) effects s
  | ended (ending : Ending) (s : Session) : Ends (.ended ending s) [] s
  | committed {limit : Instant}
      {talk : Dialogue Question (fun question => Except Instant (Answer question))
        (Session × List Effect)}
      {said : List (Dialogue.Exchange Question fun question => Except Instant (Answer question))}
      {done : Session × List Effect} (leads : Leads talk said done) :
      Ends (.committing limit talk) done.2 done.1
  | reconnected {talk : Talk Reconnected} {said : List (Dialogue.Exchange Question Answer)}
      {done : Reconnected} (leads : Leads talk said done) :
      Ends (.reconnecting talk) done.effects done.session

/-- The life of a session, with all that it does to the outside. -/
inductive Lives (start : Session) : List Effect → Session → Prop where
  | begun : Lives start [] start
  | resumed {effects : List Effect} {s : Session} (lives : Lives start effects s) (now : Instant) :
      Lives start effects (s.resume now)
  | steered {effects : List Effect} {s : Session} (lives : Lives start effects s)
      (velocity : Vec2) : Lives start effects { s with velocity }
  | heard {effects : List Effect} {s : Session} (lives : Lives start effects s) (now : Instant)
      (datagram : Datagram) : Lives start effects (s.hear now datagram)
  | signalled {effects : List Effect} {s : Session} (lives : Lives start effects s) (now : Instant)
      (signal : Signal) : Lives start effects (s.signal now signal)
  | ticked {effects more : List Effect} {s s' : Session} (lives : Lives start effects s)
      (now : Instant) (isStale : LinkId → Bool) (ends : (s.tick now isStale).Ends more s') :
      Lives start (effects ++ more) s'

/-- A session that sends no move and counts none. -/
structure Quiet (s : Session) (effects : List Effect) (s' : Session) : Prop where
  config : s'.config = s.config
  sequence : s'.sequence = s.sequence
  moves : moves effects = []

namespace Quiet

variable {s s' s'' : Session} {effects more : List Effect}

theorem refl (s : Session) : Quiet s [] s := ⟨rfl, rfl, rfl⟩

theorem trans (first : Quiet s effects s') (second : Quiet s' more s'') :
    Quiet s (effects ++ more) s'' where
  config := second.config.trans first.config
  sequence := second.sequence.trans first.sequence
  moves := by rw [moves_append, first.moves, second.moves, List.append_nil]

end Quiet

variable (s : Session) (now : Instant)

theorem foldl_report_quiet (anomalies : List Anomaly) : Quiet s [] (anomalies.foldl report s) := by
  induction anomalies generalizing s with
  | nil => exact .refl s
  | cons anomaly rest ih =>
    have later := ih (s.report anomaly)
    exact ⟨later.config, later.sequence, later.moves⟩

theorem observe_quiet : Quiet s [] (s.observe now).2 := by
  have reported := foldl_report_quiet
    { s with health := (s.health.observeZones s.localZone s.connectedZone now).2 }
    (s.health.observeZones s.localZone s.connectedZone now).1
  exact ⟨reported.config, reported.sequence, rfl⟩

theorem prewarm_quiet (candidate : Zone) :
    Quiet s (s.prewarm candidate).2 (s.prewarm candidate).1 := by
  unfold prewarm
  split <;> exact ⟨rfl, rfl, rfl⟩

theorem hear_quiet (datagram : Datagram) : Quiet s [] (s.hear now datagram) := by
  cases datagram with
  | worldState tick timestamp zone entities =>
    simp only [hear]
    split
    · exact ⟨rfl, rfl, rfl⟩
    next own _ =>
      have reported := foldl_report_quiet
        { s.count fun c => { c with worldStates := c.worldStates + 1 } with
          lastWorldState := now
          health := (s.health.observePosition own.position).2 }
        (s.health.observePosition own.position).1.toList
      exact ⟨reported.config, reported.sequence, rfl⟩
  | _ => exact .refl s

theorem keepPrewarmed_quiet (zone : Zone) (link : Link) :
    Quiet s [] (s.keepPrewarmed zone link) := by
  unfold keepPrewarmed
  split
  · split <;> exact ⟨rfl, rfl, rfl⟩
  · exact .refl s

theorem endPrewarming_quiet (zone : Zone) : Quiet s [] (s.endPrewarming zone) := by
  unfold endPrewarming
  split <;> exact ⟨rfl, rfl, rfl⟩

theorem signal_quiet (signal : Signal) : Quiet s [] (s.signal now signal) := by
  cases signal with
  | probe roundTrip => cases roundTrip <;> exact ⟨rfl, rfl, rfl⟩
  | watchdog stale =>
    simp only [Session.signal]
    split <;> exact ⟨rfl, rfl, rfl⟩
  | prewarmed zone link =>
    exact (s.endPrewarming_quiet zone).trans (keepPrewarmed_quiet _ zone link)
  | prewarmFailed zone => exact s.endPrewarming_quiet zone
  | moveFailed => exact ⟨rfl, rfl, rfl⟩

/-- The server that a session leaves is told no move. -/
theorem attach_quiet (arrival : Arrival) : Quiet s (s.attach arrival).2 (s.attach arrival).1 := by
  refine ⟨rfl, rfl, ?_⟩
  simp only [attach]
  cases s.link <;> rfl

theorem switchTo_quiet (target : Zone) (spawnAt : Option Vec2) (isStale : LinkId → Bool) :
    Quiet s [] (s.switchTo target spawnAt isStale).1 := by
  unfold switchTo
  dsimp only
  split <;> exact ⟨rfl, rfl, rfl⟩

theorem schedule_quiet : Quiet s [] (s.schedule now).2 := by
  unfold schedule
  split
  · split <;> exact ⟨rfl, rfl, rfl⟩
  all_goals exact ⟨rfl, rfl, rfl⟩

theorem conclude_quiet (outcome : Except Instant (Except Setback Arrival)) :
    Quiet s (s.conclude now outcome).effects (s.conclude now outcome).session := by
  rcases outcome with stopped | setback | arrival
  · exact ⟨rfl, rfl, rfl⟩
  · exact ⟨rfl, rfl, rfl⟩
  · have attached := s.attach_quiet arrival
    exact ⟨attached.config, attached.sequence, attached.moves⟩

theorem settle_quiet (zone : Zone) (outcome : Except Setback Arrival) :
    Quiet s (s.settle zone outcome).effects (s.settle zone outcome).session := by
  cases outcome with
  | error setback =>
    have scheduled :=
      schedule_quiet { s with health := s.health.recordOutcome false } setback.time
    exact ⟨scheduled.config, scheduled.sequence, rfl⟩
  | ok arrival =>
    have attached := s.attach_quiet arrival
    exact ⟨attached.config, attached.sequence, attached.moves⟩

variable {s} {isStale : LinkId → Bool}

theorem commit_quiet {target : Zone} {done : Committed}
    {said : List (Dialogue.Exchange Question fun question => Except Instant (Answer question))}
    (leads : Leads (s.commit now target isStale) said done) :
    Quiet s done.effects done.session := by
  unfold commit at leads
  split at leads
  · cases leads
    exact .refl s
  · obtain ⟨_, outcome, _, -, -, ended⟩ := leads.of_bind
    cases ended
    have begun : Quiet s [] (s.startCommit now) := ⟨rfl, rfl, rfl⟩
    exact (begun.trans (switchTo_quiet _ target none isStale)).trans (conclude_quiet _ now outcome)

def reconnectDue (s : Session) (now : Instant) : Except Ending Instant × Session :=
  match s.reconnectAt with
  | some due => (.ok due, s)
  | none => s.schedule now

theorem reconnectDue_quiet : Quiet s [] (s.reconnectDue now).2 := by
  unfold reconnectDue
  split
  · exact .refl s
  · exact s.schedule_quiet now

/-- What is left of an attempt when it is known when it is due. -/
def reconnectWhen (s : Session) (now : Instant) (isStale : LinkId → Bool) :
    Except Ending Instant → Talk Reconnected
  | .error ending => .finished ⟨some ending, s, []⟩
  | .ok due =>
    if now < due then .finished ⟨none, s, []⟩
    else
      let switched := { s with timers := s.timers.openScope }.switchTo s.localZone (some s.position)
        isStale
      switched.2.bind fun outcome => .finished (switched.1.settle s.localZone outcome)

theorem reconnect_eq (s : Session) (now : Instant) (isStale : LinkId → Bool) :
    s.reconnect now isStale =
      (s.reconnectDue now).2.reconnectWhen now isStale (s.reconnectDue now).1 := rfl

theorem reconnectWhen_quiet {due : Except Ending Instant} {done : Reconnected}
    {said : List (Dialogue.Exchange Question Answer)}
    (leads : Leads (s.reconnectWhen now isStale due) said done) :
    Quiet s done.effects done.session := by
  unfold reconnectWhen at leads
  split at leads
  · cases leads
    exact .refl s
  · split at leads
    · cases leads
      exact .refl s
    · obtain ⟨_, outcome, _, -, -, ended⟩ := leads.of_bind
      cases ended
      have paused : Quiet s [] { s with timers := s.timers.openScope } := ⟨rfl, rfl, rfl⟩
      exact (paused.trans (switchTo_quiet _ _ _ isStale)).trans (settle_quiet _ _ outcome)

theorem reconnect_quiet {done : Reconnected} {said : List (Dialogue.Exchange Question Answer)}
    (leads : Leads (s.reconnect now isStale) said done) : Quiet s done.effects done.session := by
  rw [reconnect_eq] at leads
  exact (reconnectDue_quiet now).trans (reconnectWhen_quiet now leads)

inductive Counts (s : Session) : List Effect → Session → Prop where
  | quiet {effects : List Effect} {s' : Session} (quiet : Quiet s effects s') : Counts s effects s'
  | moved {before effects : List Effect} {s' s'' : Session} (quiet : Quiet s before s')
      (config : s''.config = s'.config) (sequence : s''.sequence = s'.sequence + 1)
      (moves : moves effects = [(s'.config.playerId, s'.sequence + 1)]) :
      Counts s (before ++ effects) s''

theorem Quiet.counts {before effects : List Effect} {s' s'' : Session} (quiet : Quiet s before s')
    (counts : Counts s' effects s'') : Counts s (before ++ effects) s'' := by
  cases counts with
  | quiet later => exact .quiet (quiet.trans later)
  | moved later config sequence moves =>
    rw [← List.append_assoc]
    exact .moved (quiet.trans later) config sequence moves

theorem Quiet.sendMoveAfter {effects : List Effect} {s' : Session} (quiet : Quiet s effects s') :
    Counts s (s'.sendMoveAfter effects).2 (s'.sendMoveAfter effects).1 := by
  unfold Session.sendMoveAfter sendMove
  split
  next sent =>
    split at sent
    · cases sent
      rw [List.append_nil]
      exact .quiet quiet
    · cases sent
      exact .moved quiet rfl rfl rfl

theorem commitAndMove_counts {target : Zone} {effects : List Effect} {s' : Session}
    (ends : (s.commitAndMove now target isStale).Ends effects s') : Counts s effects s' := by
  cases ends with
  | committed leads =>
    obtain ⟨_, done, _, -, committed, ended⟩ := leads.of_bind
    cases ended
    exact (commit_quiet now committed).sendMoveAfter

theorem tick_counts {effects : List Effect} {s' : Session}
    (ends : (s.tick now isStale).Ends effects s') : Counts s effects s' := by
  -- All that a tick does before its move is quiet.
  have predicted : Quiet s [] (s.predict now) := ⟨rfl, rfl, rfl⟩
  have observed := predicted.trans ((s.predict now).observe_quiet now)
  unfold tick at ends
  dsimp only at ends
  split at ends
  · cases ends with
    | reconnected leads => exact .quiet (predicted.trans (reconnect_quiet now leads))
  · generalize (s.predict now).observe now = outcome at ends observed
    obtain ⟨decision, s₁⟩ := outcome
    cases decision with
    | stay =>
      cases ends
      exact observed.sendMoveAfter
    | pending candidate =>
      cases ends
      exact (observed.trans (s₁.prewarm_quiet candidate)).sendMoveAfter
    | commit origin target => exact observed.counts (commitAndMove_counts now ends)
    | forcedCommit origin target mismatch => exact observed.counts (commitAndMove_counts now ends)
    | unrepresentable =>
      cases ends
      exact .quiet observed

structure Numbered (setup : SessionConfig) (effects : List Effect) (s : Session) (count : Nat) :
    Prop where
  config : s.config = setup
  moves : moves effects = numbered setup.playerId count
  sequence : s.sequence = .ofNat count

theorem Numbered.quiet {setup : SessionConfig} {effects more : List Effect} {s s' : Session}
    {count : Nat} (numbered : Numbered setup effects s count) (quiet : Quiet s more s') :
    Numbered setup (effects ++ more) s' count where
  config := quiet.config.trans numbered.config
  moves := by rw [moves_append, quiet.moves, List.append_nil, numbered.moves]
  sequence := quiet.sequence.trans numbered.sequence

theorem Numbered.silent {setup : SessionConfig} {effects : List Effect} {s s' : Session}
    {count : Nat} (numbered : Numbered setup effects s count) (quiet : Quiet s [] s') :
    Numbered setup effects s' count := by
  have same := numbered.quiet quiet
  rwa [List.append_nil] at same

theorem Numbered.counts {setup : SessionConfig} {effects more : List Effect} {s s' : Session}
    {count : Nat} (numbered : Numbered setup effects s count) (counts : Counts s more s') :
    ∃ count, Numbered setup (effects ++ more) s' count := by
  cases counts with
  | quiet quiet => exact ⟨count, numbered.quiet quiet⟩
  | moved quiet config sequence moved =>
    have before := numbered.quiet quiet
    rw [before.config, before.sequence] at moved
    rw [before.sequence] at sequence
    have next : UInt32.ofNat count + 1 = .ofNat (count + 1) := by
      rw [UInt32.ofNat_add]
      rfl
    refine ⟨count + 1, config.trans before.config, ?_, sequence.trans next⟩
    rw [← List.append_assoc, moves_append, before.moves, moved, next, numbered_succ]

/-- The moves that a session sends in its life are numbered one after the other from one on. -/
theorem moves_numbered {setup : SessionConfig} {arrival : Arrival} {effects : List Effect}
    {s : Session} (lives : Lives (joined setup arrival) effects s) :
    ∃ count, Numbered setup effects s count := by
  induction lives with
  | begun => exact ⟨0, rfl, rfl, rfl⟩
  | resumed _ now ih => exact ih.imp fun _ numbered => numbered.silent ⟨rfl, rfl, rfl⟩
  | steered _ velocity ih => exact ih.imp fun _ numbered => numbered.silent ⟨rfl, rfl, rfl⟩
  | heard _ now datagram ih =>
    exact ih.imp fun _ numbered => numbered.silent (hear_quiet _ now datagram)
  | signalled _ now signal ih =>
    exact ih.imp fun _ numbered => numbered.silent (signal_quiet _ now signal)
  | ticked _ now isStale ends ih =>
    obtain ⟨count, numbered⟩ := ih
    exact numbered.counts (tick_counts now ends)

theorem tick_of_stay {s : Session} {now : Instant} (isStale : LinkId → Bool)
    (linked : s.link.isSome = true) (stay : ((s.predict now).observe now).1 = .stay) :
    s.tick now isStale = .finished (((s.predict now).observe now).2.sendMoveAfter []).1
      (((s.predict now).observe now).2.sendMoveAfter []).2 := by
  have open_ : (s.predict now).link.isNone = false := by
    rw [Option.isNone_eq_false_iff]
    exact linked
  unfold tick
  dsimp only
  rw [open_, if_neg (by simp)]
  generalize (s.predict now).observe now = outcome at stay ⊢
  obtain ⟨decision, s'⟩ := outcome
  cases stay
  rfl

def newcomer : Session :=
  joined .standard ⟨⟨⟨⟨"zone-server"⟩, .loopback 8080, ⟨0, 0⟩⟩, 0⟩,
    ⟨⟨"zone-server"⟩, ⟨0, 0⟩, none⟩, .start⟩

theorem newcomer_moves : ∃ s, newcomer.Lives [.move 0 (.move 1 1 .zero)] s := by
  have linked : newcomer.link.isSome = true := rfl
  have stay : ((newcomer.predict .start).observe .start).1 = .stay := by decide +kernel
  have sent : (((newcomer.predict .start).observe .start).2.sendMoveAfter []).2 =
      [.move 0 (.move 1 1 .zero)] := by decide +kernel
  have ends := Tick.Ends.finished
    (((newcomer.predict .start).observe .start).2.sendMoveAfter []).1
    (((newcomer.predict .start).observe .start).2.sendMoveAfter []).2
  rw [← tick_of_stay (fun _ => false) linked stay, sent] at ends
  exact ⟨_, .ticked .begun .start _ ends⟩

end ShardedWorld.Session
