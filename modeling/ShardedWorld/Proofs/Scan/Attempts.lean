import ShardedWorld.Proofs.Scan.Transcript

/-! What a scan says for one of its candidates.

All ways through an attempt, however the registry and the peers answer: what was said, and what
comes of it for the entity.
-/

set_option autoImplicit false

namespace ShardedWorld.Scan

open Dialogue (Leads)

/-! Offers. -/

/-- The pushes of one offer, and how the last one ended. -/
inductive Pushed (link : LinkId) (peer : Address) (entity : EntitySnapshot) (left : Option UInt64) :
    List Exchange → Except TransportError Bool → Prop where
  | once {outcome : Except TransportError Bool} :
      (∀ id deadline, outcome ≠ .error (.timeout id deadline)) →
      Pushed link peer entity left [⟨.push link peer entity left, outcome⟩] outcome
  | twice (id : UInt64) (deadline : Duration) {outcome : Except TransportError Bool} :
      Pushed link peer entity left
        [⟨.push link peer entity left, .error (.timeout id deadline)⟩,
          ⟨.push link peer entity left, outcome⟩] outcome

inductive Offered (peer : Address) (entity : EntitySnapshot) (left : Option UInt64) :
    List Exchange → Except HandoffError Bool → Prop where
  | unreachable (e : TransportError) :
      Offered peer entity left [⟨.connect peer, .error e⟩] (.error (.ofTransport e))
  | answered {link : LinkId} {pushes : List Exchange} {accepted : Bool} :
      Pushed link peer entity left pushes (.ok accepted) →
      Offered peer entity left (⟨.connect peer, .ok link⟩ :: pushes) (.ok accepted)
  | failed {link : LinkId} {pushes : List Exchange} {e : TransportError} (stale : Bool) :
      Pushed link peer entity left pushes (.error e) →
      Offered peer entity left (⟨.connect peer, .ok link⟩ :: (pushes ++ [⟨.isStale link, stale⟩]))
        (.error (if stale then .staleConnection peer else .ofTransport e))

theorem settleOffer_leads {peer : Address} {link : LinkId} {answer : Except TransportError Bool}
    {said : List Exchange} {outcome : Except HandoffError Bool}
    (leads : Leads (settleOffer peer link answer) said outcome) :
    (∃ accepted, answer = .ok accepted ∧ said = [] ∧ outcome = .ok accepted) ∨
      ∃ e stale, answer = .error e ∧ said = [⟨.isStale link, stale⟩] ∧
        outcome = .error (if stale then .staleConnection peer else .ofTransport e) := by
  cases answer with
  | ok accepted =>
    cases leads
    exact .inl ⟨accepted, rfl, rfl, rfl⟩
  | error e =>
    obtain _ | ⟨stale, leads⟩ := leads
    cases leads
    exact .inr ⟨e, stale, rfl, rfl, rfl⟩

theorem Pushed.settle {peer : Address} {link : LinkId} {entity : EntitySnapshot}
    {left : Option UInt64} {pushes said : List Exchange} {answer : Except TransportError Bool}
    {outcome : Except HandoffError Bool} (pushed : Pushed link peer entity left pushes answer)
    (leads : Leads (settleOffer peer link answer) said outcome) :
    Offered peer entity left (⟨.connect peer, .ok link⟩ :: (pushes ++ said)) outcome := by
  obtain ⟨accepted, rfl, rfl, rfl⟩ | ⟨e, stale, rfl, rfl, rfl⟩ := settleOffer_leads leads
  · rw [List.append_nil]
    exact .answered pushed
  · exact .failed stale pushed

theorem offer_leads {peer : Address} {entity : EntitySnapshot} {left : Option UInt64}
    {said : List Exchange} {outcome : Except HandoffError Bool}
    (leads : Leads (offer peer entity left) said outcome) :
    Offered peer entity left said outcome := by
  obtain _ | ⟨opened, leads⟩ := leads
  cases opened with
  | error e =>
    cases leads
    exact .unreachable e
  | ok link =>
    obtain _ | ⟨first, leads⟩ := leads
    dsimp only at leads
    split at leads
    next id deadline =>
      obtain _ | ⟨second, leads⟩ := leads
      exact (Pushed.twice id deadline).settle leads
    next final => exact (Pushed.once final).settle leads

/-! Players. -/

inductive Reclaimed (self : ServerId) (e : Entity) :
    List Exchange → Except HandoffError Outcome → Prop where
  | unanswered (cause : TransportError) :
      Reclaimed self e [⟨.locate e.position, .error cause⟩] (.error (.ofTransport cause))
  | foreignToNobody {owner : Option ServerInfo} :
      (∀ info, owner = some info → info.serverId = self) →
      Reclaimed self e [⟨.locate e.position, .ok owner⟩] (.ok .retained)
  | claimed {owner : ServerInfo} (confirmed : Except TransportError Unit) : owner.serverId ≠ self →
      Reclaimed self e
        [⟨.locate e.position, .ok (some owner)⟩, ⟨.completeTransfer e.id self, confirmed⟩]
        ((confirmed.mapError .ofTransport).map fun _ => .retained)

theorem reclaim_leads {self : ServerId} {e : Entity} {said : List Exchange}
    {outcome : Except HandoffError Outcome} (leads : Leads (reclaim self e) said outcome) :
    Reclaimed self e said outcome := by
  obtain _ | ⟨located, leads⟩ := leads
  cases located with
  | error cause =>
    cases leads
    exact .unanswered cause
  | ok owner =>
    cases owner with
    | none =>
      cases leads
      exact .foreignToNobody (by simp)
    | some owner =>
      dsimp only [expect] at leads
      split at leads
      next own =>
        cases leads
        exact .foreignToNobody (by simp [own])
      next foreign =>
        obtain _ | ⟨confirmed, leads⟩ := leads
        cases confirmed with
        | error cause =>
          cases leads
          exact .claimed (.error cause) foreign
        | ok done =>
          cases leads
          exact .claimed (.ok done) foreign

/-- What becomes of a player outside its zone. A confirmation that gets lost changes nothing. -/
inductive PlayerTried (self : ServerId) (e : Entity) :
    List Exchange → Except HandoffError Outcome → Prop where
  | unanswered (cause : TransportError) :
      PlayerTried self e [⟨.initiateTransfer e.id e.position, .error cause⟩]
        (.error (.ofTransport cause))
  | undirected {said : List Exchange} {outcome : Except HandoffError Outcome} :
      Reclaimed self e said outcome →
      PlayerTried self e (⟨.initiateTransfer e.id e.position, .ok none⟩ :: said) outcome
  | directedHere {order : TransferDirective} : order.target.serverId = self →
      PlayerTried self e [⟨.initiateTransfer e.id e.position, .ok (some order)⟩] (.ok .retained)
  | failed {order : TransferDirective} {said : List Exchange} {cause : HandoffError} :
      order.target.serverId ≠ self →
      Offered order.target.endpoint e.snapshot none said (.error cause) →
      PlayerTried self e (⟨.initiateTransfer e.id e.position, .ok (some order)⟩ :: said)
        (.error cause)
  | declined {order : TransferDirective} {said : List Exchange} :
      order.target.serverId ≠ self →
      Offered order.target.endpoint e.snapshot none said (.ok false) →
      PlayerTried self e (⟨.initiateTransfer e.id e.position, .ok (some order)⟩ :: said)
        (.error (.misuse
          (order.target.serverId.name ++ " declined player " ++ toString e.id.toNat)))
  | accepted {order : TransferDirective} {said : List Exchange}
      (confirmed : Except TransportError Unit) : order.target.serverId ≠ self →
      Offered order.target.endpoint e.snapshot none said (.ok true) →
      PlayerTried self e
        (⟨.initiateTransfer e.id e.position, .ok (some order)⟩ ::
          (said ++ [⟨.completeTransfer e.id order.target.serverId, confirmed⟩]))
        (.ok .handedOff)

theorem PlayerTried.asks_first {self : ServerId} {e : Entity} {said : List Exchange}
    {outcome : Except HandoffError Outcome} (tried : PlayerTried self e said outcome) :
    ∃ answer rest, said = ⟨.initiateTransfer e.id e.position, answer⟩ :: rest := by
  cases tried <;> exact ⟨_, _, rfl⟩

theorem transferPlayer_leads {self : ServerId} {e : Entity} {said : List Exchange}
    {outcome : Except HandoffError Outcome} (leads : Leads (transferPlayer self e) said outcome) :
    PlayerTried self e said outcome := by
  obtain _ | ⟨answer, leads⟩ := leads
  cases answer with
  | error cause =>
    cases leads
    exact .unanswered cause
  | ok order =>
    cases order with
    | none => exact .undirected (reclaim_leads leads)
    | some order =>
      dsimp only [expect] at leads
      split at leads
      next own =>
        cases leads
        exact .directedHere own
      next foreign =>
        obtain ⟨first, outcome, rest, rfl, offered, leads⟩ := leads.of_bind
        have offered := offer_leads offered
        cases outcome with
        | error cause =>
          cases leads
          rw [List.append_nil]
          exact .failed foreign offered
        | ok taken =>
          cases taken with
          | false =>
            cases leads
            rw [List.append_nil]
            exact .declined foreign offered
          | true =>
            obtain _ | ⟨confirmed, leads⟩ := leads
            cases leads
            exact .accepted confirmed foreign offered

/-! Other entities. -/

def outsideMillis (now : Instant) (e : Entity) : Option UInt64 :=
  e.leftOriginAt.map fun since => .ofNat (now.since since).millis

inductive PositionTried (self : ServerId) (grid : Grid) (now : Instant) (e : Entity) (zone : Zone)
    (outside : Bool) : List Exchange → Except HandoffError Outcome → Prop where
  | unanswered (cause : TransportError) :
      PositionTried self grid now e zone outside
        [⟨.locate (grid.bounds zone).center, .error cause⟩] (.error (.ofTransport cause))
  | foreignToNobody {owner : Option ServerInfo} :
      (∀ info, owner = some info → info.serverId = self) →
      PositionTried self grid now e zone outside [⟨.locate (grid.bounds zone).center, .ok owner⟩]
        (.ok (if outside then .destroyed else .kept))
  | offered {owner : ServerInfo} {said : List Exchange} {answer : Except HandoffError Bool} :
      owner.serverId ≠ self →
      Offered owner.endpoint e.snapshot (outsideMillis now e) said answer →
      PositionTried self grid now e zone outside
        (⟨.locate (grid.bounds zone).center, .ok (some owner)⟩ :: said)
        (answer.map fun accepted => if accepted then .handedOff else .kept)

theorem transferByPosition_leads {self : ServerId} {grid : Grid} {now : Instant} {e : Entity}
    {zone : Zone} {outside : Bool} {said : List Exchange} {outcome : Except HandoffError Outcome}
    (leads : Leads (transferByPosition self grid now e zone outside) said outcome) :
    PositionTried self grid now e zone outside said outcome := by
  obtain _ | ⟨located, leads⟩ := leads
  cases located with
  | error cause =>
    cases leads
    exact .unanswered cause
  | ok owner =>
    dsimp only [expect] at leads
    split at leads
    next nobody =>
      cases leads
      refine .foreignToNobody fun info found => ?_
      simpa [found] using nobody
    next target found =>
      obtain ⟨rfl, foreign⟩ := Option.filter_eq_some_iff.mp found
      obtain ⟨first, outcome, rest, rfl, offered, leads⟩ := leads.of_bind
      cases outcome with
      | error cause =>
        cases leads
        rw [List.append_nil]
        exact .offered (by simpa using foreign) (offer_leads offered)
      | ok taken =>
        cases leads
        rw [List.append_nil]
        exact .offered (by simpa using foreign) (offer_leads offered)

/-! Any candidate. -/

inductive Tried (self : ServerId) (grid : Grid) (now : Instant) (e : Entity) :
    Crossing → List Exchange → Except HandoffError Outcome → Prop where
  | player {crossing : Crossing} {said : List Exchange} {outcome : Except HandoffError Outcome} :
      e.kind = .player → PlayerTried self e said outcome →
      Tried self grid now e crossing said outcome
  | inside : e.kind ≠ .player → Tried self grid now e .inside [] (.ok .kept)
  | outside {zone : Zone} {said : List Exchange} {outcome : Except HandoffError Outcome} :
      e.kind ≠ .player → PositionTried self grid now e zone true said outcome →
      Tried self grid now e (.outside zone) said outcome
  | leaving {zone : Zone} {said : List Exchange} {outcome : Except HandoffError Outcome} :
      e.kind ≠ .player → PositionTried self grid now e zone false said outcome →
      Tried self grid now e (.leaving zone) said outcome

theorem transfer_leads {self : ServerId} {grid : Grid} {now : Instant} {e : Entity}
    {crossing : Crossing} {said : List Exchange} {outcome : Except HandoffError Outcome}
    (leads : Leads (transfer self grid now e crossing) said outcome) :
    Tried self grid now e crossing said outcome := by
  unfold transfer at leads
  split at leads
  next player => exact .player player (transferPlayer_leads leads)
  next other =>
    split at leads
    · cases leads
      exact .inside other
    · exact .outside other (transferByPosition_leads leads)
    · exact .leaving other (transferByPosition_leads leads)

theorem Tried.of_player {self : ServerId} {grid : Grid} {now : Instant} {e : Entity}
    {crossing : Crossing} {said : List Exchange} {outcome : Except HandoffError Outcome}
    (tried : Tried self grid now e crossing said outcome) (isPlayer : e.kind = .player) :
    PlayerTried self e said outcome := by
  cases tried with
  | player _ tried => exact tried
  | inside other => exact absurd isPlayer other
  | outside other tried => exact absurd isPlayer other
  | leaving other tried => exact absurd isPlayer other

end ShardedWorld.Scan
