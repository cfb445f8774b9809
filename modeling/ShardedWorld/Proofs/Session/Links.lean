import ShardedWorld.Proofs.Session.Moves

/-! The connection that a session probes is that of its link, and it closes the scopes it opens.

This holds whatever a session hears and is told by its timers, when it moves its link, loses it or
looks for a new one, and also when it is left in the middle of a tick.
-/

set_option autoImplicit false

namespace ShardedWorld.Session

open Dialogue (Leads)

/-- What is left of a session that is abandoned while it waits to join the server of `target`. -/
def abandonSwitch (s : Session) (target : Zone) (spawnAt : Option Vec2)
    (isStale : LinkId → Bool) : Session :=
  let (s, _) := s.switchTo target spawnAt isStale
  { s with timers := s.timers.closeScope }

/-- What a session can come to. It may be abandoned in a tick while an answer is awaited, leave its
server and go on, and it shares its timers with others that make of them what is `allowed`. -/
inductive Reached (allowed : TimerGroup → Prop) (start : Session) : Session → Prop where
  | begun : Reached allowed start start
  | lived {effects : List Effect} {s s' : Session} (reached : Reached allowed start s)
      (lives : Lives s effects s') : Reached allowed start s'
  | moveAbandoned {s : Session} (reached : Reached allowed start s) (now : Instant)
      (target : Zone) (isStale : LinkId → Bool) :
      Reached allowed start
        ((((s.predict now).observe now).2.startCommit now).abandonSwitch target none isStale)
  | searchAbandoned {s due : Session} (reached : Reached allowed start s) (now : Instant)
      (isStale : LinkId → Bool) (begins : due = ((s.predict now).reconnectDue now).2) :
      Reached allowed start
        ({ due with timers := due.timers.openScope }.abandonSwitch due.localZone
          (some due.position) isStale)
  | left {s : Session} (reached : Reached allowed start s) : Reached allowed start s.leave.1
  | shared {s : Session} (reached : Reached allowed start s) {timers : TimerGroup}
      (may : allowed timers) : Reached allowed start { s with timers }

/-- The session probes the connection of its link, and its timers are as they may be. -/
def Linked (allowed : TimerGroup → Prop) (s : Session) : Prop :=
  s.probed = s.link.map (·.id) ∧ allowed s.timers

/-- What a group of timers is allowed to be however often a scope is opened and closed again. -/
def Balanced (allowed : TimerGroup → Prop) : Prop :=
  ∀ g, allowed g → allowed g.openScope.closeScope

namespace Linked

variable {allowed : TimerGroup → Prop} {s : Session}

theorem foldl_report (linked : s.Linked allowed) (anomalies : List Anomaly) :
    (anomalies.foldl report s).Linked allowed := by
  induction anomalies generalizing s with
  | nil => exact linked
  | cons anomaly rest ih => exact @ih (s.report anomaly) linked

theorem observe (linked : s.Linked allowed) (now : Instant) :
    (s.observe now).2.Linked allowed := by
  let s' := { s with health := (s.health.observeZones s.localZone s.connectedZone now).2 }
  have same : s'.Linked allowed := linked
  exact same.foldl_report (s.health.observeZones s.localZone s.connectedZone now).1

theorem prewarm (linked : s.Linked allowed) (candidate : Zone) :
    (s.prewarm candidate).1.Linked allowed := by
  unfold Session.prewarm
  split <;> exact linked

theorem hear (linked : s.Linked allowed) (now : Instant) (datagram : Datagram) :
    (s.hear now datagram).Linked allowed := by
  cases datagram with
  | worldState tick timestamp zone entities =>
    simp only [Session.hear]
    split
    · exact linked
    next own _ =>
      let s' := { s.count fun c => { c with worldStates := c.worldStates + 1 } with
        lastWorldState := now
        health := (s.health.observePosition own.position).2 }
      have same : s'.Linked allowed := linked
      exact same.foldl_report (s.health.observePosition own.position).1.toList
  | _ => exact linked

theorem endPrewarming (linked : s.Linked allowed) (zone : Zone) :
    (s.endPrewarming zone).Linked allowed := by
  unfold Session.endPrewarming
  split <;> exact linked

theorem keepPrewarmed (linked : s.Linked allowed) (zone : Zone) (link : Link) :
    (s.keepPrewarmed zone link).Linked allowed := by
  unfold Session.keepPrewarmed
  split
  · split <;> exact linked
  · exact linked

theorem signal (linked : s.Linked allowed) (now : Instant) (signal : Signal) :
    (s.signal now signal).Linked allowed := by
  cases signal with
  | probe roundTrip => cases roundTrip <;> exact linked
  | watchdog stale =>
    simp only [Session.signal]
    split
    · exact ⟨rfl, linked.2⟩
    · exact linked
  | prewarmed zone link => exact (linked.endPrewarming zone).keepPrewarmed zone link
  | prewarmFailed zone => exact linked.endPrewarming zone
  | moveFailed => exact linked

theorem switchTo (linked : s.Linked allowed) (target : Zone) (spawnAt : Option Vec2)
    (isStale : LinkId → Bool) : (s.switchTo target spawnAt isStale).1.Linked allowed := by
  unfold Session.switchTo
  dsimp only
  split <;> exact linked

/-- Between the opening and the closing of its scope a session is fit to close it. -/
theorem openScope (linked : s.Linked allowed) (balanced : Balanced allowed) :
    { s with timers := s.timers.openScope }.Linked (allowed ∘ TimerGroup.closeScope) :=
  ⟨linked.1, balanced s.timers linked.2⟩

theorem abandonSwitch (paused : s.Linked (allowed ∘ TimerGroup.closeScope)) (target : Zone)
    (spawnAt : Option Vec2) (isStale : LinkId → Bool) :
    (s.abandonSwitch target spawnAt isStale).Linked allowed :=
  paused.switchTo target spawnAt isStale

theorem conclude (paused : s.Linked (allowed ∘ TimerGroup.closeScope)) (started : Instant)
    (outcome : Except Instant (Except Setback Arrival)) :
    (s.conclude started outcome).session.Linked allowed := by
  rcases outcome with stopped | setback | arrival
  · exact paused
  · exact paused
  · exact ⟨rfl, paused.2⟩

theorem schedule (linked : s.Linked allowed) (now : Instant) :
    (s.schedule now).2.Linked allowed := by
  unfold Session.schedule
  split
  · split <;> exact linked
  all_goals exact linked

theorem settle (paused : s.Linked (allowed ∘ TimerGroup.closeScope)) (zone : Zone)
    (outcome : Except Setback Arrival) : (s.settle zone outcome).session.Linked allowed := by
  cases outcome with
  | error setback =>
    let s' := { s with health := s.health.recordOutcome false }
    have same : s'.Linked (allowed ∘ TimerGroup.closeScope) := paused
    exact same.schedule setback.time
  | ok arrival => exact ⟨rfl, paused.2⟩

theorem commit (linked : s.Linked allowed) (balanced : Balanced allowed) {now : Instant}
    {target : Zone} {isStale : LinkId → Bool}
    {said : List (Dialogue.Exchange Question fun question => Except Instant (Answer question))}
    {done : Committed} (leads : Leads (s.commit now target isStale) said done) :
    done.session.Linked allowed := by
  unfold Session.commit at leads
  split at leads
  · cases leads
    exact linked
  · obtain ⟨_, outcome, _, -, -, ended⟩ := leads.of_bind
    cases ended
    have begun : (s.startCommit now).Linked (allowed ∘ TimerGroup.closeScope) :=
      linked.openScope balanced
    exact (begun.switchTo target none isStale).conclude now outcome

theorem reconnectDue (linked : s.Linked allowed) (now : Instant) :
    (s.reconnectDue now).2.Linked allowed := by
  unfold Session.reconnectDue
  split
  · exact linked
  · exact linked.schedule now

theorem reconnectWhen (linked : s.Linked allowed) (balanced : Balanced allowed) {now : Instant}
    {isStale : LinkId → Bool} {due : Except Ending Instant}
    {said : List (Dialogue.Exchange Question Answer)} {done : Reconnected}
    (leads : Leads (s.reconnectWhen now isStale due) said done) :
    done.session.Linked allowed := by
  unfold Session.reconnectWhen at leads
  split at leads
  · cases leads
    exact linked
  · split at leads
    · cases leads
      exact linked
    · -- The timers pause meanwhile; the link changes only when the search is settled.
      obtain ⟨_, outcome, _, -, -, ended⟩ := leads.of_bind
      cases ended
      exact ((linked.openScope balanced).switchTo _ _ isStale).settle _ outcome

theorem sendMove (linked : s.Linked allowed) : s.sendMove.1.Linked allowed := by
  unfold Session.sendMove
  split <;> exact linked

theorem commitAndMove (linked : s.Linked allowed) (balanced : Balanced allowed) {now : Instant}
    {target : Zone} {isStale : LinkId → Bool} {effects : List Effect} {s' : Session}
    (ends : (s.commitAndMove now target isStale).Ends effects s') : s'.Linked allowed := by
  cases ends with
  | committed leads =>
    obtain ⟨_, done, _, -, committed, ended⟩ := leads.of_bind
    cases ended
    exact (linked.commit balanced committed).sendMove

theorem tick (linked : s.Linked allowed) (balanced : Balanced allowed) {now : Instant}
    {isStale : LinkId → Bool} {effects : List Effect} {s' : Session}
    (ends : (s.tick now isStale).Ends effects s') : s'.Linked allowed := by
  have predicted : (s.predict now).Linked allowed := linked
  have observed := predicted.observe now
  unfold Session.tick at ends
  dsimp only at ends
  split at ends
  · cases ends with
    | reconnected leads => exact (predicted.reconnectDue now).reconnectWhen balanced leads
  · generalize (s.predict now).observe now = outcome at ends observed
    obtain ⟨decision, s₁⟩ := outcome
    cases decision with
    | stay =>
      cases ends
      exact observed.sendMove
    | pending candidate =>
      cases ends
      exact (observed.prewarm candidate).sendMove
    | commit origin target => exact observed.commitAndMove balanced ends
    | forcedCommit origin target mismatch => exact observed.commitAndMove balanced ends
    | unrepresentable =>
      cases ends
      exact observed

theorem lives {effects : List Effect} {s' : Session} (linked : s.Linked allowed)
    (balanced : Balanced allowed) (lives : Lives s effects s') : s'.Linked allowed := by
  induction lives with
  | begun => exact linked
  | resumed _ _ ih => exact ih
  | steered _ _ ih => exact ih
  | heard _ now datagram ih => exact ih.hear now datagram
  | signalled _ now signal ih => exact ih.signal now signal
  | ticked _ _ _ ends ih => exact ih.tick balanced ends

end Linked

theorem Reached.linked {others allowed : TimerGroup → Prop} {setup : SessionConfig}
    {arrival : Arrival} {s : Session} (reached : Reached others (joined setup arrival) s)
    (running : allowed .running) (balanced : Balanced allowed) (may : ∀ g, others g → allowed g) :
    s.Linked allowed := by
  induction reached with
  | begun => exact ⟨rfl, running⟩
  | lived _ lives ih => exact ih.lives balanced lives
  | @moveAbandoned s _ now target isStale ih =>
    have predicted : (s.predict now).Linked allowed := ih
    have begun : (((s.predict now).observe now).2.startCommit now).Linked
        (allowed ∘ TimerGroup.closeScope) := (predicted.observe now).openScope balanced
    exact begun.abandonSwitch target none isStale
  | @searchAbandoned s due _ now isStale begins ih =>
    have predicted : (s.predict now).Linked allowed := ih
    have searching : due.Linked allowed := begins ▸ predicted.reconnectDue now
    exact (searching.openScope balanced).abandonSwitch due.localZone (some due.position) isStale
  | left _ ih => exact ⟨rfl, ih.2⟩
  | shared _ allows ih => exact ⟨ih.1, may _ allows⟩

end ShardedWorld.Session
