import ShardedWorld.Proofs.Server.Attending
import ShardedWorld.Proofs.Server.Intake

/-! What a request to join leaves behind when it is refused.

A player is placed before it is known whether there is room for one more client. A refusal for want
of that room is the only one that can leave something behind: the entity of a player who was not
here yet, and the announcement of its appearance.
-/

set_option autoImplicit false

namespace ShardedWorld

namespace Population

theorem contains_eq_false_iff {p : Population} {id : EntityId} :
    p.contains id = false ↔ p.get? id = none := by
  rw [contains_eq, kindOf?, get?]
  cases p.bodies[id]? <;> simp

theorem insert?_eq_none_iff {p : Population} {e : Entity} (absent : p.get? e.id = none) :
    p.insert? e = none ↔ p.isFull = true := by
  simp [insert?, contains_eq_false_iff.mpr absent]

theorem insert?_get? {p p' : Population} {e : Entity} (inserted : p.insert? e = some p')
    (id : EntityId) : p'.get? id = if id = e.id then some e else p.get? id := by
  unfold insert? at inserted
  split at inserted
  · cases inserted
  · rw [← Option.some.inj inserted]
    by_cases same : e.id = id
    · subst same
      simp [get?]
    · simp [get?, Std.ExtTreeMap.getElem?_insert, same, Ne.symm same]

end Population

namespace Attendance

/-- A player can be attached who is attached already, or if there is room for one more. -/
def HasRoom (a : Attendance) (player : PlayerId) : Prop :=
  a.seat? player = none → a.size < a.capacity

variable {a : Attendance} {player : PlayerId} {address : Address} {now : Instant}

theorem attach?_eq_none_iff : a.attach? player address now = none ↔ ¬a.HasRoom player := by
  have absent_iff : a.seat? player = none ↔ a.get? player = none := Option.map_eq_none_iff
  unfold HasRoom attach?
  rw [absent_iff]
  split
  next attendee known => simp [known]
  next unknown => simp [unknown]

theorem HasRoom.of_attach? {a' : Attendance} (attached : a.attach? player address now = some a') :
    a.HasRoom player := by
  by_contra crowded
  rw [attach?_eq_none_iff.mpr crowded] at attached
  cases attached

theorem touch_hasRoom : (a.touch address now).HasRoom player ↔ a.HasRoom player := by
  have seat := a.touch_seat? player address now
  have size : (a.touch address now).size = a.size := by
    unfold touch
    split
    · rfl
    · exact Std.ExtTreeMap.size_modify
  have capacity : (a.touch address now).capacity = a.capacity := by
    unfold touch
    split <;> rfl
  rw [HasRoom, HasRoom, seat, size, capacity]

end Attendance

namespace ZoneServer

variable {s : ZoneServer} {now : Instant} {sender : Address} {player : PlayerId}
  {name sessionKey : String} {spawnAt : Option Vec2}

def withNewcomer (s : ZoneServer) (player : PlayerId) (name : String) (position : Vec2)
    (population : Population) : ZoneServer :=
  { s with population }.announce (.appearing player name position)

inductive Placed (s : ZoneServer) (player : PlayerId) (name : String) :
    Option Vec2 → Except RemoteError (Option Vec2 × ZoneServer) → Prop where
  | found {e : Entity} (held : s.population.get? player = some e) (spawnAt : Option Vec2) :
      Placed s player name spawnAt (.ok (some e.position, s))
  | awaited (absent : s.population.get? player = none) :
      Placed s player name none (.ok (none, s))
  | outside {position : Vec2} (absent : s.population.get? player = none)
      (outside : s.config.grid.contains s.zone position = false) :
      Placed s player name (some position) (.error .authorityConflict)
  | full {position : Vec2} (absent : s.population.get? player = none)
      (full : s.population.isFull = true) :
      Placed s player name (some position) (.error .capacityExceeded)
  | appeared {position : Vec2} {population : Population}
      (absent : s.population.get? player = none)
      (inside : s.config.grid.contains s.zone position = true)
      (room : s.population.isFull = false)
      (inserted : s.population.insert? (.appearing player .player position) = some population) :
      Placed s player name (some position)
        (.ok (some position, s.withNewcomer player name position population))

theorem place_placed (s : ZoneServer) (player : PlayerId) (name : String)
    (spawnAt : Option Vec2) : s.Placed player name spawnAt (s.place player name spawnAt) := by
  unfold place
  split
  next held => exact .found held _
  next absent => exact .awaited absent
  next position absent =>
    split
    next outside => exact .outside absent (by simpa using outside)
    next inside =>
      have full_iff :=
        Population.insert?_eq_none_iff (e := .appearing player .player position) absent
      split
      next refused => exact .full absent (full_iff.mp refused)
      next population inserted =>
        have room : s.population.isFull = false := by
          rw [← Bool.not_eq_true, ← full_iff, inserted]
          simp
        exact .appeared absent (by simpa using inside) room inserted

theorem Placed.attendance {position : Option Vec2} {placed : ZoneServer}
    (outcome : s.Placed player name spawnAt (.ok (position, placed))) :
    placed.attendance = s.attendance := by
  cases outcome <;> rfl

inductive Received (s : ZoneServer) (now : Instant) (sender : Address) (player : PlayerId)
    (name sessionKey : String) (spawnAt : Option Vec2) : Response × ZoneServer → Prop where
  | unauthorized (blank : Attendance.admitsKey sessionKey = false) :
      Received s now sender player name sessionKey spawnAt (.error .unauthorized, s)
  | misplaced {refusal : RemoteError}
      (refused : s.Placed player name spawnAt (.error refusal)) :
      Received s now sender player name sessionKey spawnAt (.error refusal, s)
  | crowded {position : Option Vec2} {placed : ZoneServer}
      (admitted : Attendance.admitsKey sessionKey = true)
      (found : s.Placed player name spawnAt (.ok (position, placed)))
      (crowded : ¬s.attendance.HasRoom player) :
      Received s now sender player name sessionKey spawnAt (.error .capacityExceeded, placed)
  | attached {position : Option Vec2} {placed : ZoneServer} {attendance : Attendance}
      (admitted : Attendance.admitsKey sessionKey = true)
      (found : s.Placed player name spawnAt (.ok (position, placed)))
      (attached : s.attendance.attach? player sender now = some attendance) :
      Received s now sender player name sessionKey spawnAt
        (.joined placed.config.serverId placed.zone position, { placed with attendance })

theorem join_received (s : ZoneServer) (now : Instant) (sender : Address) (player : PlayerId)
    (name sessionKey : String) (spawnAt : Option Vec2) :
    s.Received now sender player name sessionKey spawnAt
      (s.join now sender player name sessionKey spawnAt) := by
  have outcome := s.place_placed player name spawnAt
  unfold join
  split
  next blank => exact .unauthorized (by simpa using blank)
  next admitted =>
    generalize s.place player name spawnAt = placing at outcome
    split
    · exact .misplaced outcome
    next position placed =>
      have kept : placed.attendance = s.attendance := outcome.attendance
      rw [kept]
      split
      next refused =>
        have crowded := Attendance.attach?_eq_none_iff.mp refused
        exact .crowded (by simpa using admitted) outcome crowded
      next attached => exact .attached (by simpa using admitted) outcome attached

/-- A player who is not here yet finds a place in the zone, but no room among the clients. -/
structure CrowdedOut (s : ZoneServer) (player : PlayerId) (sessionKey : String)
    (spawnAt : Option Vec2) : Prop where
  admitted : Attendance.admitsKey sessionKey = true
  absent : s.population.get? player = none
  inside : ∃ position, spawnAt = some position ∧ s.config.grid.contains s.zone position = true
  room : s.population.isFull = false
  crowded : ¬s.attendance.HasRoom player

def Appears (s : ZoneServer) (player : PlayerId) (name : String) (spawnAt : Option Vec2)
    (s' : ZoneServer) : Prop :=
  ∃ position population, spawnAt = some position ∧
    s.population.insert? (.appearing player .player position) = some population ∧
      s' = s.withNewcomer player name position population

/-- The errors with which a request to join is refused. -/
inductive RefusesJoin : RemoteError → Prop where
  | unauthorized : RefusesJoin .unauthorized
  | elsewhere : RefusesJoin .authorityConflict
  | full : RefusesJoin .capacityExceeded

/-- A refused request changes nothing, or it comes from a player who is crowded out and who has
appeared nevertheless. -/
theorem Received.refused {outcome : Response × ZoneServer} {e : RemoteError}
    (received : s.Received now sender player name sessionKey spawnAt outcome)
    (refused : outcome.1 = .error e) :
    RefusesJoin e ∧
      (¬s.CrowdedOut player sessionKey spawnAt ∧ outcome.2 = s ∨
        s.CrowdedOut player sessionKey spawnAt ∧ e = .capacityExceeded ∧
          s.Appears player name spawnAt outcome.2) := by
  cases received with
  | unauthorized blank =>
    cases refused
    exact ⟨.unauthorized, .inl ⟨fun out => (nomatch out.admitted.symm.trans blank), rfl⟩⟩
  | misplaced placed =>
    cases refused
    cases placed with
    | outside absent outside =>
      refine ⟨.elsewhere, .inl ⟨fun out => ?_, rfl⟩⟩
      obtain ⟨_, ⟨⟩, inside⟩ := out.inside
      exact nomatch inside.symm.trans outside
    | full absent full => exact ⟨.full, .inl ⟨fun out => (nomatch out.room.symm.trans full), rfl⟩⟩
  | crowded admitted found crowded =>
    cases refused
    refine ⟨.full, ?_⟩
    -- Crowded out is only one who would have appeared, not one who is here already or awaited.
    cases found with
    | found held => exact .inl ⟨fun out => (nomatch out.absent.symm.trans held), rfl⟩
    | awaited =>
      refine .inl ⟨fun out => ?_, rfl⟩
      obtain ⟨_, ⟨⟩, -⟩ := out.inside
    | appeared absent inside room inserted =>
      exact .inr ⟨⟨admitted, absent, ⟨_, rfl, inside⟩, room, crowded⟩, rfl,
        _, _, rfl, inserted, rfl⟩
  | attached => cases refused

theorem heardFrom_crowdedOut :
    (s.heardFrom now sender).CrowdedOut player sessionKey spawnAt ↔
      s.CrowdedOut player sessionKey spawnAt := by
  have crowded : (s.heardFrom now sender).attendance.HasRoom player ↔
    s.attendance.HasRoom player := Attendance.touch_hasRoom
  constructor
  · intro out
    exact { out with crowded := crowded.not.mp out.crowded }
  · intro out
    exact { out with crowded := crowded.not.mpr out.crowded }

/-- The entities, the seats of the clients and what is to be announced are the same. -/
structure LeftAlone (s s' : ZoneServer) : Prop where
  entities : s'.population = s.population
  seats : ∀ player, s'.attendance.seat? player = s.attendance.seat? player
  unannounced : s'.unannounced = s.unannounced

theorem heardFrom_leftAlone (s : ZoneServer) (now : Instant) (sender : Address) :
    s.LeftAlone (s.heardFrom now sender) :=
  ⟨rfl, fun player => s.attendance.touch_seat? player sender now, rfl⟩

/-- A refused request to join leaves the server alone exactly if its player is not crowded out. One
who is has appeared in the zone, and that is announced. -/
theorem refused_join_leaves_alone_iff (s : ZoneServer) (now : Instant) (sender : Address)
    (player : PlayerId) (name sessionKey : String) (spawnAt : Option Vec2) {e : RemoteError}
    (refused : (s.handle now sender (.join player name sessionKey spawnAt)).1 = .error e) :
    let s' := (s.handle now sender (.join player name sessionKey spawnAt)).2
    RefusesJoin e ∧ (s.LeftAlone s' ↔ ¬s.CrowdedOut player sessionKey spawnAt) ∧
      (∀ other, s'.attendance.seat? other = s.attendance.seat? other) ∧
      (s.CrowdedOut player sessionKey spawnAt →
        e = .capacityExceeded ∧ ∃ position, spawnAt = some position ∧
          s'.unannounced = s.unannounced ++ [.appearing player name position] ∧
          ∀ id, s'.population.get? id =
            if id = player then some (.appearing player .player position)
            else s.population.get? id) := by
  intro s'
  have received :=
    (s.heardFrom now sender).join_received now sender player name sessionKey spawnAt
  obtain ⟨refusal, outcome⟩ := received.refused refused
  have heard := s.heardFrom_leftAlone now sender
  rw [heardFrom_crowdedOut] at outcome
  refine ⟨refusal, ?_⟩
  -- Only one who is crowded out leaves an announcement behind, so the two cases exclude each other.
  rcases outcome with ⟨roomy, same⟩ | ⟨out, full, position, population, rfl, inserted, appeared⟩
  · have same : s' = s.heardFrom now sender := same
    have alone : s.LeftAlone s' := by rwa [same]
    exact ⟨iff_of_true alone roomy, alone.seats, fun out => absurd out roomy⟩
  · have appeared : s' = (s.heardFrom now sender).withNewcomer player name position population :=
      appeared
    have announced :
        s'.unannounced = s.unannounced ++ [.appearing player name position] := by
      rw [appeared]
      rfl
    have entities : s'.population = population := by
      rw [appeared]
      rfl
    have seats (other : PlayerId) : s'.attendance.seat? other = s.attendance.seat? other := by
      rw [appeared]
      exact heard.seats other
    refine ⟨iff_of_false (fun alone => ?_) (not_not_intro out), seats, fun _ => ?_⟩
    · simpa [announced] using alone.unannounced
    · refine ⟨full, position, rfl, announced, ?_⟩
      rw [entities]
      exact Population.insert?_get? inserted

/-- A server with room for one client, who is attached. -/
def busy : ZoneServer :=
  (assigned { ServerConfig.standard with maxClients := 1 } ⟨0, 0⟩).run
    [.request .start (.loopback 9001) (.join 1 "ann" "key" none)]

theorem busy_left_alone_by_passer :
    let asked := busy.handle .start (.loopback 9002) (.join 7 "bob" "key" none)
    asked.1 = .error .capacityExceeded ∧ busy.LeftAlone asked.2 := by
  intro asked
  have refused : asked.1 = .error .capacityExceeded := by decide +kernel
  have left := refused_join_leaves_alone_iff busy .start (.loopback 9002) 7 "bob" "key" none refused
  refine ⟨refused, left.2.1.mpr fun out => ?_⟩
  obtain ⟨_, ⟨⟩, -⟩ := out.inside

/-- A newcomer who is turned away stays in the zone. -/
theorem busy_keeps_refused_newcomer :
    let asked := busy.handle .start (.loopback 9002)
      (.join 7 "bob" "key" (some ⟨.ofInt 10, .ofInt 10⟩))
    asked.1 = .error .capacityExceeded ∧ busy.population.get? 7 = none ∧
      asked.2.population.get? 7 = some (.appearing 7 .player ⟨.ofInt 10, .ofInt 10⟩) ∧
      asked.2.unannounced = busy.unannounced ++ [.appearing 7 "bob" ⟨.ofInt 10, .ofInt 10⟩] ∧
      ¬busy.LeftAlone asked.2 := by
  intro asked
  have absent : busy.population.get? 7 = none := by decide +kernel
  have appeared :
      asked.2.population.get? 7 = some (.appearing 7 .player ⟨.ofInt 10, .ofInt 10⟩) := by
    decide +kernel
  refine ⟨by decide +kernel, absent, appeared, by decide +kernel, fun alone => ?_⟩
  rw [alone.entities, absent] at appeared
  cases appeared

end ZoneServer

end ShardedWorld
