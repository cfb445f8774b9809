import ShardedWorld.Proofs.Server.Runs

/-! The answer to a neighbour's offer tells whether the entity is held.

A neighbour gives its copy up on that answer alone, and repeats an offer when it missed the answer.
So an entity that is held is accepted before anything else is looked at, and an offer that is turned
down leaves what the server holds as it is.
-/

set_option autoImplicit false

namespace ShardedWorld

namespace ZoneServer

/-- The answers that turn an offer down: the projectile is not expected, the zone is another
server's, or there is no room. -/
inductive Declines : Response → Prop where
  | unexpected : Declines (.accepted false)
  | elsewhere : Declines (.error .authorityConflict)
  | full : Declines (.error .capacityExceeded)

theorem Declines.ne_accepted {answer : Response} (declines : Declines answer) :
    answer ≠ .accepted true := by
  cases declines <;> simp

inductive Answered (s : ZoneServer) (entity : EntitySnapshot) : Response × ZoneServer → Prop where
  | repeated (held : s.population.contains entity.id = true) :
      Answered s entity (.accepted true, s)
  | declined {answer : Response} (absent : s.population.contains entity.id = false)
      (declines : Declines answer) : Answered s entity (answer, s)
  | taken {population : Population} (absent : s.population.contains entity.id = false)
      (inserted : s.population.insert? (.ofSnapshot entity) = some population) :
      Answered s entity (.accepted true, { s with population, accepted := s.accepted + 1 })

theorem refusal?_declines {s : ZoneServer} {entity : EntitySnapshot} {left : Option UInt64}
    {answer : Response} (refused : s.refusal? entity left = some answer) : Declines answer := by
  unfold refusal? at refused
  split at refused
  · dsimp only at refused
    split at refused
    · cases refused
    · cases refused
      exact .unexpected
  · split at refused
    · cases refused
    · cases refused
      exact .elsewhere

theorem takeIn_answered (s : ZoneServer) (entity : EntitySnapshot) (left : Option UInt64) :
    s.Answered entity (s.takeIn entity left) := by
  unfold takeIn
  split
  next held => exact .repeated held
  next absent =>
    rw [Bool.not_eq_true] at absent
    split
    next refused => exact .declined absent (refusal?_declines refused)
    · split
      · exact .declined absent .full
      next inserted => exact .taken absent inserted

theorem takeIn_held {s : ZoneServer} {entity : EntitySnapshot}
    (held : s.population.contains entity.id = true) (left : Option UInt64) :
    s.takeIn entity left = (.accepted true, s) :=
  if_pos held

theorem Answered.accepted_iff {s : ZoneServer} {entity : EntitySnapshot}
    {outcome : Response × ZoneServer} (answered : s.Answered entity outcome) :
    outcome.1 = .accepted true ↔ outcome.2.population.contains entity.id = true := by
  cases answered with
  | repeated held => exact iff_of_true rfl held
  | declined absent declines =>
    exact iff_of_false declines.ne_accepted (by simp [absent])
  | taken absent inserted =>
    refine iff_of_true rfl ?_
    simp [Population.insert?_contains inserted, Entity.ofSnapshot]

theorem Answered.declines {s : ZoneServer} {entity : EntitySnapshot}
    {outcome : Response × ZoneServer} (answered : s.Answered entity outcome)
    (other : outcome.1 ≠ .accepted true) : Declines outcome.1 ∧ outcome.2 = s := by
  cases answered with
  | repeated held => exact absurd rfl other
  | declined absent declines => exact ⟨declines, rfl⟩
  | taken absent inserted => exact absurd rfl other

def heardFrom (s : ZoneServer) (now : Instant) (sender : Address) : ZoneServer :=
  { s with attendance := s.attendance.touch sender now }

theorem handle_held {s : ZoneServer} {entity : EntitySnapshot}
    (held : s.population.contains entity.id = true) (now : Instant) (sender : Address)
    (left : Option UInt64) : s.handle now sender (.transferEntity entity left) =
      (.accepted true, s.heardFrom now sender) :=
  takeIn_held (s := s.heardFrom now sender) held left

/-- Whatever a server has gone through, it is within its limits, and it accepts an offer exactly if
it holds the entity from then on. Until a scan is done with the entity, the offer is accepted each
time that it is repeated, and changes nothing but when its sender was heard last. -/
theorem offers_accepted_iff_held (config : ServerConfig) (zone : Zone) (events : List Event) :
    let s := (assigned config zone).run events
    s.population.size ≤ config.maxEntities ∧ s.attendance.size ≤ config.maxClients ∧
      ∀ now sender entity left,
        let answered := s.handle now sender (.transferEntity entity left)
        (answered.1 = .accepted true ↔ answered.2.population.contains entity.id = true) ∧
        (answered.1 ≠ .accepted true →
          Declines answered.1 ∧ answered.2.population = s.population) ∧
        (s.population.contains entity.id = true →
          answered = (.accepted true, s.heardFrom now sender)) ∧
        (answered.1 = .accepted true → ∀ more, (∀ event ∈ more, event ≠ .discard entity.id) →
          ∀ now' sender' again left', again.id = entity.id →
            (answered.2.run more).handle now' sender' (.transferEntity again left') =
              (.accepted true, (answered.2.run more).heardFrom now' sender')) := by
  intro s
  have limited : s.Limited config := run_limited (assigned_limited config zone) events
  refine ⟨limited.entities.size, limited.clients.size, ?_⟩
  intro now sender entity left answered
  have outcome : (s.heardFrom now sender).Answered entity answered :=
    takeIn_answered (s.heardFrom now sender) entity left
  refine ⟨outcome.accepted_iff, ?declined, fun held => handle_held held now sender left, ?repeated⟩
  case declined =>
    intro other
    obtain ⟨declines, same⟩ := outcome.declines other
    rw [same]
    exact ⟨declines, rfl⟩
  case repeated =>
    -- Only the end of a scan takes an entity out, so it is held at each later offer.
    intro accepted more kept now' sender' again left' same
    have held := run_held (outcome.accepted_iff.mp accepted) kept
    rw [← same] at held
    exact handle_held held now' sender' left'

def wanderer (id : EntityId) : EntitySnapshot where
  id
  kind := .enemy
  position := ⟨.ofInt 10, .ofInt 10⟩
  velocity := .zero
  health := .ofInt 100

/-- A server with room for one entity, which is there. -/
def cramped : ZoneServer :=
  (assigned { ServerConfig.standard with maxEntities := 1 } ⟨0, 0⟩).run
    [.request .start (.loopback 7001) (.transferEntity (wanderer 7) none)]

theorem cramped_accepts_again_elsewhere :
    let answered := cramped.handle .start (.loopback 7001) (.transferEntity (wanderer 7) none)
    let elsewhere := answered.2.run [.reassign ⟨5, 5⟩]
    (cramped.handle .start (.loopback 7001) (.transferEntity (wanderer 8) none)).1 =
        .error .capacityExceeded ∧
      elsewhere.refusal? (wanderer 7) none = some (.error .authorityConflict) ∧
      (elsewhere.handle .start (.loopback 7001) (.transferEntity (wanderer 7) none)).1 =
        .accepted true := by
  have offers := offers_accepted_iff_held { ServerConfig.standard with maxEntities := 1 } ⟨0, 0⟩
    [.request .start (.loopback 7001) (.transferEntity (wanderer 7) none)]
  have offered := offers.2.2 .start (.loopback 7001) (wanderer 7) none
  refine ⟨by decide +kernel, by decide +kernel, ?_⟩
  have accepted := offered.2.2.2 (by decide +kernel) [.reassign ⟨5, 5⟩] (by simp) .start
    (.loopback 7001) (wanderer 7) none rfl
  exact congrArg Prod.fst accepted

end ZoneServer

end ShardedWorld
