import ShardedWorld.Proofs.Server.Joins

/-! Whether a server tells entities of different kinds apart.

Players and all other entities are numbered alike, and a server looks them up by number alone. It
takes one for another exactly when a client or a neighbour names a number under which an entity of
another kind is held. Where each number is used for entities of one kind only, this never happens.
-/

set_option autoImplicit false

namespace ShardedWorld

namespace Population

theorem kindOf?_eq (p : Population) (id : EntityId) :
    p.kindOf? id = (p.get? id).map (·.kind) := by
  rw [kindOf?, get?, Option.map_map]
  rfl

theorem modify_get? (p : Population) (change : Body → Body) (target id : EntityId) :
    (p.modify target change).get? id =
      (p.get? id).map fun e => if id = target then { change e.toBody with id := e.id } else e := by
  simp only [get?, modify, Std.ExtTreeMap.getElem?_modify]
  split
  next same =>
    obtain rfl := Std.LawfulEqOrd.eq_of_compare same
    simp [Option.map_map, Function.comp_def]
  next other =>
    have other : id ≠ target := by
      rintro rfl
      exact other Std.ReflCmp.compare_self
    simp [other, Function.comp_def]

end Population

namespace ZoneServer

variable {s s' : ZoneServer} {now : Instant} {sender : Address} {player : PlayerId}
  {name sessionKey : String} {spawnAt : Option Vec2}

/-- Moves leave the velocity of all but players, a place that a player is told is that of a player,
and an entity is accepted only to be held as what it is. -/
def TellsApart (s : ZoneServer) : Event → Prop
  | .datagram now sender (.move player sequence velocity) =>
    ∀ id e, s.population.get? id = some e → e.kind ≠ .player →
      ((s.hear now sender (.move player sequence velocity)).population.get? id).map (·.velocity) =
        some e.velocity
  | .request now sender (.join player name sessionKey spawnAt) =>
    let joined := s.handle now sender (.join player name sessionKey spawnAt)
    ∀ serverId zone position, joined.1 = .joined serverId zone (some position) →
      ∃ e, joined.2.population.get? player = some e ∧ e.kind = .player ∧ e.position = position
  | .request now sender (.transferEntity entity left) =>
    let offered := s.handle now sender (.transferEntity entity left)
    offered.1 = .accepted true → offered.2.population.kindOf? entity.id = some entity.kind
  | _ => True

/-- A number is named under which an entity of another kind is held, and that is of consequence. -/
inductive Mistakes (s : ZoneServer) : Event → Prop where
  | moved {now : Instant} {sender : Address} {player : PlayerId} {last sequence : UInt32}
      {velocity : Vec2} {e : Entity} (seated : s.attendance.seat? player = some (sender, last))
      (newer : last < sequence) (held : s.population.get? player = some e)
      (other : e.kind ≠ .player) (changed : e.velocity ≠ velocity) :
      Mistakes s (.datagram now sender (.move player sequence velocity))
  | joined {now : Instant} {sender : Address} {player : PlayerId} {name sessionKey : String}
      {spawnAt : Option Vec2} {e : Entity} (admitted : Attendance.admitsKey sessionKey = true)
      (held : s.population.get? player = some e) (other : e.kind ≠ .player)
      (room : s.attendance.HasRoom player) :
      Mistakes s (.request now sender (.join player name sessionKey spawnAt))
  | offered {now : Instant} {sender : Address} {entity : EntitySnapshot} {left : Option UInt64}
      {kind : EntityKind} (held : s.population.kindOf? entity.id = some kind)
      (other : kind ≠ entity.kind) :
      Mistakes s (.request now sender (.transferEntity entity left))

theorem move_get? (s : ZoneServer) (now : Instant) (sender : Address) (player : PlayerId)
    (sequence : UInt32) (velocity : Vec2) (id : EntityId) :
    (s.move now sender player sequence velocity).population.get? id =
      (s.population.get? id).map fun e =>
        if (s.attendance.acceptMove player sequence sender now).1 = true ∧ id = player
        then { e with velocity } else e := by
  unfold move
  dsimp only
  by_cases accepted : (s.attendance.acceptMove player sequence sender now).1 = true
  · rw [if_pos accepted, Population.modify_get?]
    congr 1
    funext e
    simp only [accepted, true_and]
  · rw [if_neg accepted]
    simp [accepted]

theorem move_tellsApart_iff (s : ZoneServer) (now : Instant) (sender : Address)
    (player : PlayerId) (sequence : UInt32) (velocity : Vec2) :
    s.TellsApart (.datagram now sender (.move player sequence velocity)) ↔
      ¬s.Mistakes (.datagram now sender (.move player sequence velocity)) := by
  have moved (id : EntityId) := s.move_get? now sender player sequence velocity id
  constructor
  · intro apart mistakes
    cases mistakes with
    | moved seated newer held other changed =>
      have accepted : (s.attendance.acceptMove player sequence sender now).1 = true :=
        Attendance.acceptMove_iff.mpr ⟨_, seated, newer⟩
      have kept := apart player _ held other
      rw [hear, moved, held, Option.map_some, if_pos ⟨accepted, rfl⟩] at kept
      exact changed (Option.some.inj kept).symm
  · intro right id e held other
    rw [hear, moved, held, Option.map_some, Option.map_some]
    split
    next own =>
      obtain ⟨accepted, rfl⟩ := own
      obtain ⟨last, seated, newer⟩ := Attendance.acceptMove_iff.mp accepted
      by_contra changed
      exact right (.moved seated newer held other fun same => changed (by rw [same]))
    · rfl

/-- A player under whose number an entity is held is told its position, if there is room. -/
theorem Received.of_held {outcome : Response × ZoneServer} {e : Entity}
    (received : s.Received now sender player name sessionKey spawnAt outcome)
    (admitted : Attendance.admitsKey sessionKey = true)
    (held : s.population.get? player = some e)
    (room : s.attendance.HasRoom player) :
    ∃ serverId zone, outcome.1 = .joined serverId zone (some e.position) ∧
      outcome.2.population = s.population := by
  have present : s.population.get? player ≠ none := by simp [held]
  cases received with
  | unauthorized blank => exact nomatch admitted.symm.trans blank
  | misplaced refused =>
    cases refused with
    | outside absent => exact absurd absent present
    | full absent => exact absurd absent present
  | crowded _ _ crowded => exact absurd room crowded
  | attached _ found =>
    cases found with
    | found known =>
      obtain rfl := Option.some.inj (held.symm.trans known)
      exact ⟨_, _, rfl, rfl⟩
    | awaited absent => exact absurd absent present
    | appeared absent => exact absurd absent present

theorem Received.of_joined {outcome : Response × ZoneServer} {serverId : ServerId} {zone : Zone}
    {position : Vec2} (received : s.Received now sender player name sessionKey spawnAt outcome)
    (answered : outcome.1 = .joined serverId zone (some position)) :
    Attendance.admitsKey sessionKey = true ∧ s.attendance.HasRoom player ∧
      ∃ e, outcome.2.population.get? player = some e ∧ e.position = position ∧
        (e.kind = .player ∨ s.population.get? player = some e) := by
  cases received with
  | unauthorized => cases answered
  | misplaced => cases answered
  | crowded => cases answered
  | attached admitted found attached =>
    refine ⟨admitted, .of_attach? attached, ?_⟩
    cases found with
    | found held =>
      cases answered
      exact ⟨_, held, rfl, .inr held⟩
    | awaited => cases answered
    | appeared absent inside room inserted =>
      cases answered
      have appeared := Population.insert?_get? inserted player
      rw [Entity.appearing, if_pos rfl] at appeared
      exact ⟨_, appeared, rfl, .inl rfl⟩

theorem join_tellsApart_iff (s : ZoneServer) (now : Instant) (sender : Address)
    (player : PlayerId) (name sessionKey : String) (spawnAt : Option Vec2) :
    s.TellsApart (.request now sender (.join player name sessionKey spawnAt)) ↔
      ¬s.Mistakes (.request now sender (.join player name sessionKey spawnAt)) := by
  have received :=
    (s.heardFrom now sender).join_received now sender player name sessionKey spawnAt
  constructor
  · intro apart mistakes
    cases mistakes with
    | joined admitted held other room =>
      -- The position that is told can only be that of the entity held, which is no player.
      obtain ⟨serverId, zone, answered, same⟩ :=
        received.of_held admitted held (Attendance.touch_hasRoom.mpr room)
      obtain ⟨e, told, kind, -⟩ := apart serverId zone _ answered
      have told : (s.heardFrom now sender).population.get? player = some e := same ▸ told
      obtain rfl := Option.some.inj (held.symm.trans told)
      exact other kind
  · intro right serverId zone position answered
    obtain ⟨admitted, room, e, told, there, kind⟩ := received.of_joined answered
    refine ⟨e, told, ?_, there⟩
    rcases kind with kind | held
    · exact kind
    · by_contra other
      exact right (.joined admitted held other (Attendance.touch_hasRoom.mp room))

theorem offer_tellsApart_iff (s : ZoneServer) (now : Instant) (sender : Address)
    (entity : EntitySnapshot) (left : Option UInt64) :
    s.TellsApart (.request now sender (.transferEntity entity left)) ↔
      ¬s.Mistakes (.request now sender (.transferEntity entity left)) := by
  constructor
  · intro apart mistakes
    cases mistakes with
    | offered held other =>
      have contained : s.population.contains entity.id = true := by
        rw [Population.contains_eq, held]
        rfl
      -- An entity that is held is accepted by its number, and stays what it is.
      have answered := handle_held contained now sender left
      have kept : s.population.kindOf? entity.id = some entity.kind := by
        simpa [TellsApart, answered, heardFrom] using apart
      exact other (Option.some.inj (held.symm.trans kept))
  · intro right
    have outcome := s.handle_considered now sender entity left
    simp only [TellsApart]
    generalize s.handle now sender (.transferEntity entity left) = answered at outcome ⊢
    intro accepted
    cases outcome with
    | accepted taken =>
      rw [taken.kinds, if_pos rfl]
      cases known : s.population.kindOf? entity.id with
      | none => rfl
      | some kind =>
        by_contra other
        exact right (.offered known fun same => other (by rw [same]; rfl))
    | refused refusal =>
      cases accepted
      cases refusal

/-- A server tells entities apart in an event exactly if it makes no mistake in it. -/
theorem tellsApart_iff (s : ZoneServer) (event : Event) :
    s.TellsApart event ↔ ¬s.Mistakes event := by
  cases event with
  | request now sender request =>
    cases request with
    | transferEntity entity left => exact s.offer_tellsApart_iff now sender entity left
    | join player name sessionKey spawnAt =>
      exact s.join_tellsApart_iff now sender player name sessionKey spawnAt
    | _ => exact iff_of_true trivial nofun
  | datagram now sender datagram =>
    cases datagram with
    | move player sequence velocity =>
      exact s.move_tellsApart_iff now sender player sequence velocity
    | _ => exact iff_of_true trivial nofun
  | _ => exact iff_of_true trivial nofun

/-! Where each number is used for entities of one kind only. -/

/-- An event uses the number of an entity that it brings for entities of its kind only. -/
def Event.Respects (kinds : EntityId → EntityKind) : Event → Prop
  | .request _ _ (.transferEntity entity _) => kinds entity.id = entity.kind
  | .request _ _ (.join player _ _ _) => kinds player = .player
  | .spawn e => kinds e.id = e.kind
  | _ => True

/-- All that is held is of the kind of its number, and so are the players who are attached. -/
structure Typed (kinds : EntityId → EntityKind) (s : ZoneServer) : Prop where
  held : ∀ {id kind}, s.population.kindOf? id = some kind → kind = kinds id
  seated : ∀ {player}, s.attendance.seat? player ≠ none → kinds player = .player

namespace Typed

variable {kinds : EntityId → EntityKind}

theorem assigned (config : ServerConfig) (zone : Zone) : Typed kinds (assigned config zone) where
  held known := by simp [ZoneServer.assigned, Population.empty, Population.kindOf?] at known
  seated known := by
    simp [ZoneServer.assigned, Attendance.empty, Attendance.seat?, Attendance.get?] at known

theorem of_kept (typed : Typed kinds s)
    (held : ∀ {id kind}, s'.population.kindOf? id = some kind →
      s.population.kindOf? id = some kind)
    (seated : ∀ {player}, s'.attendance.seat? player ≠ none → s.attendance.seat? player ≠ none) :
    Typed kinds s' :=
  ⟨fun known => typed.held (held known), fun attached => typed.seated (seated attached)⟩

theorem insert? (typed : Typed kinds s) {e : Entity} {population : Population}
    (inserted : s.population.insert? e = some population) (kind : kinds e.id = e.kind)
    (entities : s'.population = population) (clients : s'.attendance = s.attendance) :
    Typed kinds s' where
  held {id _} known := by
    rw [entities, Population.insert?_kindOf? inserted] at known
    split at known
    next same =>
      rw [← Option.some.inj known, same, kind]
    · exact typed.held known
  seated attached := typed.seated (clients ▸ attached)

theorem heardFrom (typed : Typed kinds s) : Typed kinds (s.heardFrom now sender) :=
  typed.of_kept id fun {player} attached =>
    (s.attendance.touch_seat? player sender now) ▸ attached

theorem takeIn (typed : Typed kinds s) {entity : EntitySnapshot}
    (kind : kinds entity.id = entity.kind) (left : Option UInt64) :
    Typed kinds (s.takeIn entity left).2 := by
  have answered := s.takeIn_answered entity left
  generalize s.takeIn entity left = outcome at answered ⊢
  cases answered with
  | repeated => exact typed
  | declined => exact typed
  | taken absent inserted => exact typed.insert? inserted kind rfl rfl

theorem placed (typed : Typed kinds s) (kind : kinds player = .player) {position : Option Vec2}
    (placed : s.Placed player name spawnAt (.ok (position, s'))) : Typed kinds s' := by
  cases placed with
  | found => exact typed
  | awaited => exact typed
  | appeared absent inside room inserted => exact typed.insert? inserted kind rfl rfl

theorem join (typed : Typed kinds s) (kind : kinds player = .player) (now : Instant)
    (sender : Address) (name sessionKey : String) (spawnAt : Option Vec2) :
    Typed kinds (s.join now sender player name sessionKey spawnAt).2 := by
  have received := s.join_received now sender player name sessionKey spawnAt
  generalize s.join now sender player name sessionKey spawnAt = outcome at received ⊢
  cases received with
  | unauthorized => exact typed
  | misplaced => exact typed
  | crowded admitted found => exact typed.placed kind found
  | attached admitted found attached =>
    have placed := typed.placed kind found
    refine ⟨placed.held, fun {other} seated => ?_⟩
    rw [Attendance.attach?_seat? other attached] at seated
    split at seated
    next own => rw [own, kind]
    · exact typed.seated seated

theorem handle (typed : Typed kinds s) {request : Request}
    (respects : (Event.request now sender request).Respects kinds) :
    Typed kinds (s.handle now sender request).2 := by
  have heard : Typed kinds (s.heardFrom now sender) := typed.heardFrom
  cases request with
  | transferEntity entity left => exact heard.takeIn respects left
  | join player name sessionKey spawnAt =>
    exact heard.join respects now sender name sessionKey spawnAt
  | leave player =>
    -- Whoever is seated afterwards was seated before, here and where clients are dropped.
    refine heard.of_kept id fun {other} seated absent => seated ?_
    refine (Attendance.detach_seat? _ player other).trans ?_
    split
    · rfl
    · exact absent
  | _ => exact heard

theorem move (typed : Typed kinds s) (now : Instant) (sender : Address) (player : PlayerId)
    (sequence : UInt32) (velocity : Vec2) :
    Typed kinds (s.move now sender player sequence velocity) := by
  have attendance : (s.move now sender player sequence velocity).attendance =
      (s.attendance.acceptMove player sequence sender now).2 := by
    simp only [ZoneServer.move]
    split <;> rfl
  refine typed.of_kept (fun known => ?_) fun {other} seated => ?_
  · exact (s.hear_kindOf? now sender (.move player sequence velocity) _).symm.trans known
  · rw [attendance, Attendance.acceptMove_seat?] at seated
    split at seated
    next own =>
      obtain ⟨accepted, rfl⟩ := own
      obtain ⟨last, seat, -⟩ := Attendance.acceptMove_iff.mp accepted
      simp [seat]
    · exact seated

theorem step (typed : Typed kinds s) {event : Event} (respects : event.Respects kinds) :
    Typed kinds (s.step event) := by
  cases event with
  | request now sender request => exact typed.handle respects
  | datagram now sender datagram =>
    cases datagram with
    | move player sequence velocity => exact typed.move now sender player sequence velocity
    | _ => exact typed
  | tick seconds timestamp =>
    exact typed.of_kept (fun known => (s.tick_kindOf? seconds timestamp _).symm.trans known) id
  | spawn e =>
    simp only [ZoneServer.step]
    cases spawned : s.spawn? e with
    | none => exact typed
    | some s' =>
      obtain ⟨population, inserted, rfl⟩ := Option.map_eq_some_iff.mp spawned
      refine typed.insert? inserted respects ?_ ?_
      · rw [Option.getD_some]
        split <;> rfl
      · rw [Option.getD_some]
        split <;> rfl
  | dropSilent now =>
    refine typed.of_kept id fun {player} seated absent => seated ?_
    refine (s.attendance.dropSilent_seat? player now).trans ?_
    split
    · rfl
    · exact absent
  | scan now => exact typed.of_kept (fun known => (s.scan_kindOf? now _).symm.trans known) id
  | discard target =>
    refine typed.of_kept (fun {other _} known => ?_) id
    have kinds := s.discard_kindOf? target other
    rw [ZoneServer.step, kinds] at known
    split at known
    · cases known
    · exact known
  | reassign zone => exact typed.of_kept id id

theorem run (typed : Typed kinds s) {events : List Event}
    (respect : ∀ event ∈ events, event.Respects kinds) : Typed kinds (s.run events) := by
  induction events generalizing s with
  | nil => exact typed
  | cons event rest ih =>
    obtain ⟨first, later⟩ := List.forall_mem_cons.mp respect
    exact ih (typed.step first) later

theorem not_mistakes (typed : Typed kinds s) {event : Event} (respects : event.Respects kinds) :
    ¬s.Mistakes event := by
  intro mistakes
  cases mistakes with
  | moved seated newer held other changed =>
    have kind := typed.held ((s.population.kindOf?_eq _).trans (congrArg _ held))
    exact other (kind.trans (typed.seated (by simp [seated])))
  | joined admitted held other room =>
    have kind := typed.held ((s.population.kindOf?_eq _).trans (congrArg _ held))
    exact other (kind.trans respects)
  | offered held other => exact other ((typed.held held).trans respects)

end Typed

/-- Whatever a server has gone through, it confuses entities of different kinds exactly if a client
or a neighbour names a number under which one of another kind is held. That does not happen if all
who spawn, join and hand over use each number for one kind only; moves may name any number. -/
theorem kinds_told_apart_iff (config : ServerConfig) (zone : Zone) (events : List Event) :
    let s := (assigned config zone).run events
    (∀ event, s.TellsApart event ↔ ¬s.Mistakes event) ∧
      ∀ kinds, (∀ event ∈ events, event.Respects kinds) → ∀ event, event.Respects kinds →
        s.TellsApart event := by
  intro s
  refine ⟨s.tellsApart_iff, fun kinds respect event respects => ?_⟩
  have typed : Typed kinds s := (Typed.assigned config zone).run respect
  exact (s.tellsApart_iff event).mpr (typed.not_mistakes respects)

/-- A player among wanderers, the numbers of which are above 100. -/
theorem player_among_wanderers_told_apart :
    let kinds : EntityId → EntityKind := fun id => if id < 100 then .player else .enemy
    let events : List Event :=
      [.spawn (.ofSnapshot (wanderer 107)),
        .request .start (.loopback 9001) (.join 7 "ann" "key" (some ⟨.ofInt 20, .ofInt 20⟩))]
    let s := (assigned .standard ⟨0, 0⟩).run events
    (∀ event ∈ events, event.Respects kinds) ∧
      s.population.kindOf? 107 = some .enemy ∧
      ((s.hear .start (.loopback 9001) (.move 7 1 ⟨.ofInt 5, .zero⟩)).population.get? 107).map
        (·.velocity) = some .zero := by
  intro kinds events s
  have respect : ∀ event ∈ events, event.Respects kinds := by
    simp only [events, List.forall_mem_cons]
    exact ⟨rfl, rfl, by simp⟩
  have apart := (kinds_told_apart_iff .standard ⟨0, 0⟩ events).2 kinds respect
    (.datagram .start (.loopback 9001) (.move 7 1 ⟨.ofInt 5, .zero⟩)) trivial
  refine ⟨respect, by decide +kernel, ?_⟩
  exact apart 107 (.ofSnapshot (wanderer 107)) (by decide +kernel) (by decide)

/-- A player joins under the number of a wanderer, moves the wanderer and is taken for it. -/
theorem wanderer_taken_for_player :
    let s := (assigned .standard ⟨0, 0⟩).run [.spawn (.ofSnapshot (wanderer 7))]
    let joining : Event := .request .start (.loopback 9001) (.join 7 "ann" "key" none)
    let moving : Event := .datagram .start (.loopback 9001) (.move 7 1 ⟨.ofInt 5, .zero⟩)
    let offering : Event :=
      .request .start (.loopback 8001) (.transferEntity { wanderer 7 with kind := .player } none)
    s.population.get? 7 = some (.ofSnapshot (wanderer 7)) ∧
      (s.handle .start (.loopback 9001) (.join 7 "ann" "key" none)).1 =
        .joined s.config.serverId ⟨0, 0⟩ (some (wanderer 7).position) ∧
      (((s.step joining).step moving).population.get? 7).map (·.velocity) =
        some ⟨.ofInt 5, .zero⟩ ∧
      ¬s.TellsApart joining ∧ ¬(s.step joining).TellsApart moving ∧ ¬s.TellsApart offering := by
  intro s joining moving offering
  have held : s.population.get? 7 = some (.ofSnapshot (wanderer 7)) := by decide +kernel
  have still_held : (s.step joining).population.get? 7 = some (.ofSnapshot (wanderer 7)) := by
    decide +kernel
  have seated : (s.step joining).attendance.seat? 7 = some (.loopback 9001, 0) := by
    decide +kernel
  refine ⟨held, by decide +kernel, by decide +kernel, fun apart => ?_, fun apart => ?_,
    fun apart => ?_⟩
  · have room : s.attendance.HasRoom 7 := fun _ => by decide +kernel
    exact (s.tellsApart_iff _).mp apart (.joined (by decide +kernel) held (by decide) room)
  · exact ((s.step joining).tellsApart_iff _).mp apart
      (.moved seated (by decide) still_held (by decide) (by decide +kernel))
  · have known : s.population.kindOf? 7 = some .enemy := by decide +kernel
    exact (s.tellsApart_iff _).mp apart (.offered known (by decide))

end ZoneServer

end ShardedWorld
