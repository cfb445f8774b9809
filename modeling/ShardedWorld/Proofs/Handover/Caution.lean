import ShardedWorld.Proofs.Handover.World

/-! What a scan does with one player.

However it is answered, a scan offers the player to the other server only and takes it out only
after that server has granted the offer.
-/

set_option autoImplicit false

namespace ShardedWorld.Handover

open Scan (Question Answer Talk)

def endpointOf (config : ServerConfig) : Address := config.advertise.getD config.listen

theorem endpoint_eq (s : ZoneServer) : s.endpoint = endpointOf s.config := rfl

def Known (site : Side → ServerConfig) (info : ServerInfo) : Prop :=
  ∃ side, info.serverId = (site side).serverId ∧ info.endpoint = endpointOf (site side)

theorem Side.eq_other_of_ne {a b : Side} (different : a ≠ b) : a = b.other := by
  cases a <;> cases b <;> simp_all [Side.other]

variable (site : Side → ServerConfig) (side : Side) (player : PlayerId)

def grants : (question : Question) → Answer question → Bool
  | .push _ _ entity _, .ok true => entity.id == player
  | _, _ => false

def Credible : (question : Question) → Answer question → Prop
  | .initiateTransfer .., answer => ∀ d, answer = .ok (some d) → Known site d.target
  | _, _ => True

/-- What the server at `side` may ask, depending on whether the player was granted. -/
def Allowed (granted : Bool) : Question → Prop
  | .push _ peer entity _ =>
    entity.id = player → entity.kind = .player ∧ peer = endpointOf (site side.other)
  | .discard id => id = player → granted = true
  | _ => True

/-- A talk in which all that is asked is allowed, whatever credible answers it gets, and which ends
with what `goal` holds of. -/
def Cautious {α : Type} (goal : Bool → α → Prop) : Talk α → Bool → Prop
  | .finished a, granted => goal granted a
  | .ask question resume, granted =>
    Allowed site side player granted question ∧
      ∀ answer, Credible site question answer →
        Cautious goal (resume answer) (granted || grants player question answer)

variable {site side player}

theorem Cautious.bind {α β : Type} {goal : Bool → α → Prop} {goal' : Bool → β → Prop}
    {talk : Talk α} {next : α → Talk β} {granted : Bool}
    (cautious : Cautious site side player goal talk granted)
    (rest : ∀ granted a, goal granted a → Cautious site side player goal' (next a) granted) :
    Cautious site side player goal' (talk.bind next) granted := by
  induction talk generalizing granted with
  | finished a => exact rest granted a cautious
  | ask question resume ih =>
    refine ⟨cautious.1, ?_⟩
    intro answer credible
    exact ih answer (cautious.2 answer credible)

theorem offer_cautious {peer : Address} {entity : EntitySnapshot} (left : Option UInt64)
    (granted : Bool)
    (allowed : entity.id = player → entity.kind = .player ∧ peer = endpointOf (site side.other)) :
    Cautious site side player
      (fun granted outcome => outcome = .ok true → entity.id = player → granted = true)
      (Scan.offer peer entity left) granted := by
  have settled (link : LinkId) (granted : Bool) (outcome : Except TransportError Bool)
      (sound : outcome = .ok true → entity.id = player → granted = true) :
      Cautious site side player
        (fun granted outcome => outcome = .ok true → entity.id = player → granted = true)
        (Scan.settleOffer peer link outcome) granted := by
    cases outcome with
    | ok accepted =>
      intro same
      rw [Except.ok.inj same] at sound
      exact sound rfl
    | error e =>
      refine ⟨trivial, ?_⟩
      intro stale _ same
      cases same
  have answered (link : LinkId) (granted : Bool) (outcome : Except TransportError Bool) :
      outcome = .ok true → entity.id = player →
        (granted || grants player (.push link peer entity left) outcome) = true := by
    rintro rfl same
    simp [grants, same]
  refine ⟨trivial, ?_⟩
  intro opened _
  cases opened with
  | error e =>
    intro same
    cases same
  | ok link =>
    refine ⟨allowed, ?_⟩
    intro first _
    dsimp only
    split
    -- The first attempt has timed out, and a second one is made on the same connection.
    · refine ⟨allowed, ?_⟩
      intro second _
      exact settled link _ second (answered link _ second)
    · exact settled link _ first (answered link _ first)

/-- A candidate of a scan is taken out only if it is not the player or the player was granted. -/
def Accounted (player : PlayerId) (e : Entity) (granted : Bool) :
    Except HandoffError Scan.Outcome → Prop
  | .ok .handedOff | .ok .destroyed => e.id = player → granted = true
  | _ => True

theorem reclaim_cautious (self : ServerId) (e : Entity) (granted : Bool) :
    Cautious site side player (Accounted player e) (Scan.reclaim self e) granted := by
  refine ⟨trivial, ?_⟩
  intro located _
  cases located with
  | error cause => trivial
  | ok owner =>
    cases owner with
    | none => trivial
    | some owner =>
      dsimp only [Scan.expect]
      split
      · trivial
      · refine ⟨trivial, ?_⟩
        intro confirmed _
        cases confirmed <;> trivial

theorem transferPlayer_cautious {e : Entity} (kind : e.kind = .player) (granted : Bool) :
    Cautious site side player (Accounted player e) (Scan.transferPlayer (site side).serverId e)
      granted := by
  refine ⟨trivial, ?_⟩
  intro directed credible
  cases directed with
  | error cause => trivial
  | ok directive =>
    cases directive with
    | none => exact reclaim_cautious (site side).serverId e _
    | some d =>
      dsimp only [Scan.expect]
      split
      · trivial
      next foreign =>
        -- The order names one of the two servers, and not this one.
        obtain ⟨owner, name, reached⟩ := credible d rfl
        have peer : owner = side.other := by
          apply Side.eq_other_of_ne
          rintro rfl
          exact foreign name
        rw [peer] at reached
        apply (offer_cautious none _ fun _ => ⟨kind, reached⟩).bind
        intro granted outcome sound
        cases outcome with
        | error cause => trivial
        | ok accepted =>
          cases accepted with
          | false => trivial
          | true =>
            refine ⟨trivial, ?_⟩
            intro confirmed _ same
            rw [sound rfl same]
            rfl

theorem transferByPosition_cautious (self : ServerId) (grid : Grid) (now : Instant) {e : Entity}
    (foreign : e.id ≠ player) (zone : Zone) (outside granted : Bool) :
    Cautious site side player (Accounted player e)
      (Scan.transferByPosition self grid now e zone outside) granted := by
  have accounted (granted : Bool) (outcome : Except HandoffError Scan.Outcome) :
      Accounted player e granted outcome := by
    unfold Accounted
    split
    · exact fun same => absurd same foreign
    · exact fun same => absurd same foreign
    · trivial
  refine ⟨trivial, ?_⟩
  intro located _
  cases located with
  | error cause => trivial
  | ok owner =>
    dsimp only [Scan.expect]
    split
    · exact accounted _ _
    next target _ =>
      refine Cautious.bind (offer_cautious _ _ fun same => absurd same foreign) ?_
      intro granted outcome _
      cases outcome with
      | error cause => trivial
      | ok accepted => exact accounted _ _

theorem transfer_cautious {e : Entity} (kind : e.id = player → e.kind = .player) (grid : Grid)
    (now : Instant) (crossing : Crossing) (granted : Bool) :
    Cautious site side player (Accounted player e)
      (Scan.transfer (site side).serverId grid now e crossing) granted := by
  unfold Scan.transfer
  split
  next isPlayer => exact transferPlayer_cautious isPlayer granted
  next isNone =>
    have foreign : e.id ≠ player := fun same => isNone (kind same)
    split
    · trivial
    · exact transferByPosition_cautious _ grid now foreign _ _ granted
    · exact transferByPosition_cautious _ grid now foreign _ _ granted

theorem conclude_cautious (report : ScanReport) {e : Entity}
    {outcome : Except HandoffError Scan.Outcome} {granted : Bool}
    (accounted : Accounted player e granted outcome) :
    Cautious site side player (fun _ _ => True) (Scan.conclude report e outcome) granted := by
  unfold Scan.conclude
  split
  · exact ⟨accounted, fun _ _ => trivial⟩
  · exact ⟨accounted, fun _ _ => trivial⟩
  · trivial
  · trivial
  · exact ⟨trivial, fun _ _ => trivial⟩
  · trivial

theorem transferAll_cautious (grid : Grid) (now : Instant) {candidates : List (Entity × Crossing)}
    (kinds : ∀ candidate ∈ candidates, candidate.1.id = player → candidate.1.kind = .player)
    (report : ScanReport) (granted : Bool) :
    Cautious site side player (fun _ _ => True)
      (Scan.transferAll (site side).serverId grid now candidates report) granted := by
  induction candidates generalizing report granted with
  | nil => trivial
  | cons first rest ih =>
    obtain ⟨e, crossing⟩ := first
    have kind := kinds (e, crossing) (by simp)
    apply (transfer_cautious kind grid now crossing granted).bind
    intro granted outcome accounted
    apply (conclude_cautious report accounted).bind
    intro granted report _
    exact ih (fun candidate member => kinds candidate (List.mem_cons_of_mem _ member)) report
      granted

end ShardedWorld.Handover
