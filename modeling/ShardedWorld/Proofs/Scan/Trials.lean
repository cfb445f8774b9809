import ShardedWorld.Proofs.Scan.Attempts

/-! A scan is one trial after the other.

Each candidate is tried once, whatever came of the others, and what is said for it is said on its
own behalf. The report counts the outcomes.
-/

set_option autoImplicit false

namespace ShardedWorld.Scan

open Dialogue (Leads)

/-! What is said on behalf of an entity. -/

/-- The questions of an attempt name no entity but its own. -/
def Asks (grid : Grid) (e : Entity) (crossing : Crossing) : Question → Prop
  | .initiateTransfer player position => player = e.id ∧ position = e.position
  | .completeTransfer player _ => player = e.id
  | .locate position => position = e.position ∨
      ∃ zone, (crossing = .outside zone ∨ crossing = .leaving zone) ∧
        position = (grid.bounds zone).center
  | .push _ _ entity _ => entity = e.snapshot
  | .connect _ | .isStale _ => True
  | .invalidate _ | .discard _ => False

def Names (id : EntityId) : Question → Prop
  | .initiateTransfer player _ | .completeTransfer player _ => player = id
  | .push _ _ entity _ => entity.id = id
  | .discard other => other = id
  | _ => False

theorem Asks.names {grid : Grid} {e : Entity} {crossing : Crossing} {question : Question}
    (asked : Asks grid e crossing question) {id : EntityId} (named : Names id question) :
    e.id = id := by
  cases question with
  | initiateTransfer player position => exact asked.1.symm.trans named
  | completeTransfer player server => exact asked.symm.trans named
  | push link peer entity left => exact (congrArg EntitySnapshot.id asked).symm.trans named
  | discard other => exact asked.elim
  | locate position => exact named.elim
  | connect peer => exact named.elim
  | isStale link => exact named.elim
  | invalidate peer => exact named.elim

def push? : Exchange → Option (EntitySnapshot × Except TransportError Bool)
  | ⟨.push _ _ entity _, outcome⟩ => some (entity, outcome)
  | _ => none

/-- No push, or one, or a second one of the same entity after the first timed out. -/
inductive Sparing : List (EntitySnapshot × Except TransportError Bool) → Prop where
  | none : Sparing []
  | once (entity : EntitySnapshot) (outcome : Except TransportError Bool) :
      Sparing [(entity, outcome)]
  | twice (entity : EntitySnapshot) (id : UInt64) (deadline : Duration)
      (outcome : Except TransportError Bool) :
      Sparing [(entity, .error (.timeout id deadline)), (entity, outcome)]

def IsConfirmation (x : Exchange) : Prop :=
  ∃ player server, x.question = .completeTransfer player server

/-- A confirmation for another server is the last thing that is said, after that server, which the
player was directed to, has accepted it. -/
def ConfirmsAcceptance (self : ServerId) (e : Entity) (said : List Exchange) : Prop :=
  ∀ player server confirmed, server ≠ self →
    (⟨.completeTransfer player server, confirmed⟩ : Exchange) ∈ said →
    ∃ before order link, said = before ++ [⟨.completeTransfer player server, confirmed⟩] ∧
      (∀ x ∈ before, ¬ IsConfirmation x) ∧
      ⟨.initiateTransfer player e.position, .ok (some order)⟩ ∈ before ∧
      order.target.serverId = server ∧
      ⟨.push link order.target.endpoint e.snapshot none, .ok true⟩ ∈ before

section Offered

variable {peer : Address} {entity : EntitySnapshot} {left : Option UInt64} {said : List Exchange}
  {outcome : Except HandoffError Bool}

inductive AsksPeer (peer : Address) (entity : EntitySnapshot) (left : Option UInt64) :
    Question → Prop where
  | connect : AsksPeer peer entity left (.connect peer)
  | push (link : LinkId) : AsksPeer peer entity left (.push link peer entity left)
  | isStale (link : LinkId) : AsksPeer peer entity left (.isStale link)

theorem AsksPeer.asks {e : Entity} {question : Question}
    (asked : AsksPeer peer e.snapshot left question) (grid : Grid) (crossing : Crossing) :
    Asks grid e crossing question := by
  cases asked with
  | connect => trivial
  | push link => rfl
  | isStale link => trivial

theorem AsksPeer.not_confirmation {x : Exchange} (asked : AsksPeer peer entity left x.question) :
    ¬ IsConfirmation x := by
  rintro ⟨player, server, same⟩
  rw [same] at asked
  cases asked

theorem Pushed.asks {link : LinkId} {answer : Except TransportError Bool}
    (pushed : Pushed link peer entity left said answer) :
    ∀ x ∈ said, AsksPeer peer entity left x.question := by
  cases pushed <;> simp [AsksPeer.push]

theorem Offered.asks (offered : Offered peer entity left said outcome) :
    ∀ x ∈ said, AsksPeer peer entity left x.question := by
  cases offered with
  | unreachable e => simp [AsksPeer.connect]
  | answered pushed =>
    rw [List.forall_mem_cons]
    exact ⟨.connect, pushed.asks⟩
  | failed stale pushed =>
    rw [List.forall_mem_cons, List.forall_mem_append]
    exact ⟨.connect, pushed.asks, by simp [AsksPeer.isStale]⟩

theorem Pushed.sparing {link : LinkId} {answer : Except TransportError Bool}
    (pushed : Pushed link peer entity left said answer) : Sparing (said.filterMap push?) := by
  cases pushed with
  | once final => exact .once entity answer
  | twice id deadline => exact .twice entity id deadline answer

theorem Pushed.last {link : LinkId} {answer : Except TransportError Bool}
    (pushed : Pushed link peer entity left said answer) :
    ⟨.push link peer entity left, answer⟩ ∈ said := by
  cases pushed <;> simp

theorem Offered.sparing (offered : Offered peer entity left said outcome) :
    Sparing (said.filterMap push?) := by
  cases offered with
  | unreachable e => exact .none
  | answered pushed => exact pushed.sparing
  | failed stale pushed =>
    rw [List.filterMap_cons_none rfl, List.filterMap_append, List.filterMap_cons_none rfl,
      List.filterMap_nil, List.append_nil]
    exact pushed.sparing

theorem Offered.granted (offered : Offered peer entity left said (.ok true)) :
    ∃ link, ⟨.push link peer entity left, .ok true⟩ ∈ said := by
  cases offered with
  | answered pushed => exact ⟨_, List.mem_cons_of_mem _ pushed.last⟩

end Offered

section Tried

variable {self : ServerId} {grid : Grid} {now : Instant} {e : Entity} {crossing : Crossing}
  {said : List Exchange} {outcome : Except HandoffError Outcome}

theorem Reclaimed.asks (reclaimed : Reclaimed self e said outcome) :
    ∀ x ∈ said, Asks grid e crossing x.question := by
  cases reclaimed <;> simp [Asks]

theorem PlayerTried.asks (tried : PlayerTried self e said outcome) :
    ∀ x ∈ said, Asks grid e crossing x.question := by
  cases tried with
  | unanswered cause => simp [Asks]
  | undirected reclaimed =>
    rw [List.forall_mem_cons]
    exact ⟨⟨rfl, rfl⟩, reclaimed.asks⟩
  | directedHere own => simp [Asks]
  | failed foreign offered =>
    rw [List.forall_mem_cons]
    exact ⟨⟨rfl, rfl⟩, fun x member => (offered.asks x member).asks grid crossing⟩
  | declined foreign offered =>
    rw [List.forall_mem_cons]
    exact ⟨⟨rfl, rfl⟩, fun x member => (offered.asks x member).asks grid crossing⟩
  | accepted confirmed foreign offered =>
    rw [List.forall_mem_cons, List.forall_mem_append]
    exact ⟨⟨rfl, rfl⟩, fun x member => (offered.asks x member).asks grid crossing, by simp [Asks]⟩

theorem PositionTried.asks {zone : Zone} {outside : Bool}
    (bound : crossing = .outside zone ∨ crossing = .leaving zone)
    (tried : PositionTried self grid now e zone outside said outcome) :
    ∀ x ∈ said, Asks grid e crossing x.question := by
  have center : Asks grid e crossing (.locate (grid.bounds zone).center) :=
    .inr ⟨zone, bound, rfl⟩
  cases tried with
  | unanswered cause => simpa using center
  | foreignToNobody owner => simpa using center
  | offered foreign offered =>
    rw [List.forall_mem_cons]
    exact ⟨center, fun x member => (offered.asks x member).asks grid crossing⟩

theorem Tried.asks (tried : Tried self grid now e crossing said outcome) :
    ∀ x ∈ said, Asks grid e crossing x.question := by
  cases tried with
  | player isPlayer tried => exact tried.asks
  | inside other => simp
  | outside other tried => exact tried.asks (.inl rfl)
  | leaving other tried => exact tried.asks (.inr rfl)

theorem PlayerTried.sparing (tried : PlayerTried self e said outcome) :
    Sparing (said.filterMap push?) := by
  cases tried with
  | unanswered cause => exact .none
  | undirected reclaimed => cases reclaimed <;> exact .none
  | directedHere own => exact .none
  | failed foreign offered => exact offered.sparing
  | declined foreign offered => exact offered.sparing
  | accepted confirmed foreign offered =>
    rw [List.filterMap_cons_none rfl, List.filterMap_append, List.filterMap_cons_none rfl,
      List.filterMap_nil, List.append_nil]
    exact offered.sparing

theorem Tried.sparing (tried : Tried self grid now e crossing said outcome) :
    Sparing (said.filterMap push?) := by
  have byPosition {zone : Zone} {outside : Bool}
      (tried : PositionTried self grid now e zone outside said outcome) :
      Sparing (said.filterMap push?) := by
    cases tried with
    | unanswered cause => exact .none
    | foreignToNobody owner => exact .none
    | offered foreign offered => exact offered.sparing
  cases tried with
  | player isPlayer tried => exact tried.sparing
  | inside other => exact .none
  | outside other tried => exact byPosition tried
  | leaving other tried => exact byPosition tried

theorem PositionTried.granted {zone : Zone} {outside : Bool}
    (tried : PositionTried self grid now e zone outside said (.ok .handedOff)) :
    ∃ link peer left, ⟨.push link peer e.snapshot left, .ok true⟩ ∈ said := by
  generalize handed : Except.ok Outcome.handedOff = outcome at tried
  cases tried with
  | unanswered cause => cases handed
  | foreignToNobody owner => cases outside <;> cases handed
  | @offered owner said answer foreign offered =>
    match answer with
    | .error cause => cases handed
    | .ok false => cases handed
    | .ok true =>
      obtain ⟨link, member⟩ := offered.granted
      exact ⟨link, _, _, List.mem_cons_of_mem _ member⟩

theorem PlayerTried.granted (tried : PlayerTried self e said (.ok .handedOff)) :
    ∃ link peer left, ⟨.push link peer e.snapshot left, .ok true⟩ ∈ said := by
  generalize handed : Except.ok Outcome.handedOff = outcome at tried
  cases tried with
  | unanswered cause => cases handed
  | undirected reclaimed =>
    cases reclaimed with
    | unanswered cause => cases handed
    | foreignToNobody owner => cases handed
    | claimed confirmed foreign => cases confirmed <;> cases handed
  | directedHere own => cases handed
  | failed foreign offered => cases handed
  | declined foreign offered => cases handed
  | accepted confirmed foreign offered =>
    obtain ⟨link, member⟩ := offered.granted
    exact ⟨link, _, _, List.mem_cons_of_mem _ (List.mem_append_left _ member)⟩

theorem Tried.granted (tried : Tried self grid now e crossing said (.ok .handedOff)) :
    ∃ link peer left, ⟨.push link peer e.snapshot left, .ok true⟩ ∈ said := by
  cases tried with
  | player isPlayer tried => exact tried.granted
  | outside other tried => exact tried.granted
  | leaving other tried => exact tried.granted

theorem PlayerTried.not_destroyed (tried : PlayerTried self e said outcome) :
    outcome ≠ .ok .destroyed := by
  cases tried with
  | undirected reclaimed =>
    cases reclaimed with
    | claimed confirmed foreign => cases confirmed <;> nofun
    | unanswered cause => nofun
    | foreignToNobody owner => nofun
  | unanswered cause => nofun
  | directedHere own => nofun
  | failed foreign offered => nofun
  | declined foreign offered => nofun
  | accepted confirmed foreign offered => nofun

theorem Tried.not_player (tried : Tried self grid now e crossing said (.ok .destroyed)) :
    e.kind ≠ .player := by
  cases tried with
  | player isPlayer tried => exact absurd rfl tried.not_destroyed
  | outside other tried => exact other
  | leaving other tried => exact other

theorem PlayerTried.confirms (tried : PlayerTried self e said outcome) :
    ConfirmsAcceptance self e said := by
  intro player server answer foreign member
  cases tried with
  | unanswered cause => simp at member
  | undirected reclaimed =>
    cases reclaimed with
    | unanswered cause => simp at member
    | foreignToNobody owner => simp at member
    | claimed confirmed other =>
      -- This one takes the player back for this server itself.
      simp at member
      exact absurd member.1.2 foreign
  | directedHere own => simp at member
  | failed other offered =>
    rcases List.mem_cons.mp member with same | member
    · cases same
    · exact absurd ⟨player, server, rfl⟩ (offered.asks _ member).not_confirmation
  | declined other offered =>
    rcases List.mem_cons.mp member with same | member
    · cases same
    · exact absurd ⟨player, server, rfl⟩ (offered.asks _ member).not_confirmation
  | @accepted order said confirmed other offered =>
    rw [← List.cons_append, List.mem_append, List.mem_singleton] at member
    have before (x : Exchange)
        (earlier : x ∈ ⟨.initiateTransfer e.id e.position, .ok (some order)⟩ :: said) :
        ¬ IsConfirmation x := by
      rcases List.mem_cons.mp earlier with rfl | earlier
      · simp [IsConfirmation]
      · exact (offered.asks x earlier).not_confirmation
    rcases member with earlier | same
    · exact absurd ⟨player, server, rfl⟩ (before _ earlier)
    · cases same
      obtain ⟨link, granted⟩ := offered.granted
      exact ⟨_, order, link, rfl, before, List.mem_cons_self, rfl, List.mem_cons_of_mem _ granted⟩

theorem Tried.confirms (tried : Tried self grid now e crossing said outcome) :
    ConfirmsAcceptance self e said := by
  have byPosition {zone : Zone} {outside : Bool}
      (tried : PositionTried self grid now e zone outside said outcome) :
      ConfirmsAcceptance self e said := by
    intro player server answer foreign member
    cases tried with
    | unanswered cause => simp at member
    | foreignToNobody owner => simp at member
    | offered other offered =>
      rcases List.mem_cons.mp member with same | member
      · cases same
      · exact absurd ⟨player, server, rfl⟩ (offered.asks _ member).not_confirmation
  cases tried with
  | player isPlayer tried => exact tried.confirms
  | inside other => simp [ConfirmsAcceptance]
  | outside other tried => exact byPosition tried
  | leaving other tried => exact byPosition tried

end Tried

/-! All candidates. -/

/-- What was said for one candidate, and what came of it. -/
structure Trial where
  entity : Entity
  crossing : Crossing
  said : List Exchange
  outcome : Except HandoffError Outcome

namespace Trial

def endsWith (t : Trial) (end_ : Outcome) : Bool :=
  match t.outcome with
  | .ok outcome => outcome == end_
  | .error _ => false

def removes (t : Trial) : Bool := t.endsWith .handedOff || t.endsWith .destroyed

def closing (t : Trial) : List Exchange :=
  match t.outcome with
  | .ok .handedOff | .ok .destroyed => [⟨.discard t.entity.id, ()⟩]
  | .error (.staleConnection peer) => [⟨.invalidate peer, ()⟩]
  | _ => []

def all (t : Trial) : List Exchange := t.said ++ t.closing

def count (report : ScanReport) (t : Trial) : ScanReport :=
  match t.outcome with
  | .ok .handedOff => { report with handedOff := report.handedOff + 1 }
  | .ok .destroyed => { report with destroyed := report.destroyed + 1 }
  | .ok .retained => { report with retained := report.retained + 1 }
  | .ok .kept => report
  | .error _ => { report with failed := report.failed + 1 }

def failed (t : Trial) : Bool :=
  match t.outcome with
  | .ok _ => false
  | .error _ => true

end Trial

def talk (self : ServerId) (grid : Grid) (now : Instant) (p : Population)
    (order : List (Entity × Crossing)) : Talk ScanReport :=
  transferAll self grid now order { (default : ScanReport) with scanned := p.size }

/-- `start` takes the candidates up in the order of their numbers. -/
example (self : ServerId) (grid : Grid) (w : ProjectileWindow) (zone : Zone) (now : Instant)
    (p : Population) :
    (start self grid w zone now p).2 = talk self grid now p (collect grid zone w now p).2 := rfl

theorem conclude_leads {report report' : ScanReport} {t : Trial} {said : List Exchange}
    (leads : Leads (conclude report t.entity t.outcome) said report') :
    said = t.closing ∧ report' = t.count report := by
  obtain ⟨e, crossing, attempt, outcome⟩ := t
  -- What is taken out is discarded, and a stale connection given up; all else ends here.
  match outcome with
  | .ok .handedOff | .ok .destroyed | .error (.staleConnection peer) =>
    obtain _ | ⟨_, leads⟩ := leads
    cases leads
    exact ⟨rfl, rfl⟩
  | .ok .retained | .ok .kept | .error (.transientNetwork reason) | .error .authorityConflict
  | .error .capacityExceeded | .error (.misuse reason) =>
    cases leads
    exact ⟨rfl, rfl⟩

theorem transferAll_leads {self : ServerId} {grid : Grid} {now : Instant}
    {order : List (Entity × Crossing)} {report report' : ScanReport} {said : List Exchange}
    (leads : Leads (transferAll self grid now order report) said report') :
    ∃ trials : List Trial, trials.map (fun t => (t.entity, t.crossing)) = order ∧
      (∀ t ∈ trials, Leads (transfer self grid now t.entity t.crossing) t.said t.outcome) ∧
      said = trials.flatMap Trial.all ∧ report' = trials.foldl Trial.count report := by
  induction order generalizing report said with
  | nil =>
    cases leads
    exact ⟨[], rfl, by simp, rfl, rfl⟩
  | cons first rest ih =>
    obtain ⟨e, crossing⟩ := first
    obtain ⟨attempt, outcome, after, rfl, tried, leads⟩ := leads.of_bind
    obtain ⟨closing, counted, others, rfl, concluded, leads⟩ := leads.of_bind
    obtain ⟨trials, taken, attempts, rfl, rfl⟩ := ih leads
    obtain ⟨rfl, rfl⟩ := conclude_leads (t := ⟨e, crossing, attempt, outcome⟩) concluded
    refine ⟨⟨e, crossing, attempt, outcome⟩ :: trials, ?_, ?_, ?_, rfl⟩
    · rw [List.map_cons, taken]
    · rw [List.forall_mem_cons]
      exact ⟨tried, attempts⟩
    · simp only [List.flatMap_cons, Trial.all, List.append_assoc]

theorem foldl_count (trials : List Trial) (report : ScanReport) :
    trials.foldl Trial.count report =
      { scanned := report.scanned
        handedOff := report.handedOff + trials.countP (·.endsWith .handedOff)
        retained := report.retained + trials.countP (·.endsWith .retained)
        destroyed := report.destroyed + trials.countP (·.endsWith .destroyed)
        failed := report.failed + trials.countP (·.failed) } := by
  induction trials generalizing report with
  | nil => rfl
  | cons t rest ih =>
    rw [List.foldl_cons, ih]
    simp only [List.countP_cons, Trial.count, Trial.endsWith, Trial.failed]
    rcases t.outcome with e | (_ | _ | _ | _) <;> simp [Nat.add_assoc, Nat.add_comm]

end ShardedWorld.Scan
