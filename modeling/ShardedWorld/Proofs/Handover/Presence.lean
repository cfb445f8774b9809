import ShardedWorld.Proofs.Handover.Caution

/-! Which entities a server holds.

Ticks, moves and the marks of a scan keep every entity and its kind. Taking one in adds it, and a
scan that is done with one takes it out.
-/

set_option autoImplicit false

namespace ShardedWorld

namespace Population

def kindOf? (p : Population) (id : EntityId) : Option EntityKind :=
  (p.bodies[id]?).map (·.kind)

theorem contains_eq (p : Population) (id : EntityId) : p.contains id = (p.kindOf? id).isSome := by
  simp [contains, kindOf?]

theorem map_kindOf? (p : Population) {change : EntityId → Body → Body}
    (keeps : ∀ id b, (change id b).kind = b.kind) (id : EntityId) :
    (p.map change).kindOf? id = p.kindOf? id := by
  simp only [kindOf?, map, Std.ExtTreeMap.getElem?_map, Option.map_map, Function.comp_def, keeps]

theorem modify_kindOf? (p : Population) {change : Body → Body}
    (keeps : ∀ b, (change b).kind = b.kind) (target id : EntityId) :
    (p.modify target change).kindOf? id = p.kindOf? id := by
  simp only [kindOf?, modify, Std.ExtTreeMap.getElem?_modify]
  split
  next same =>
    rw [← Std.LawfulEqOrd.eq_of_compare same]
    simp only [Option.map_map, Function.comp_def, keeps]
  · rfl

theorem insert?_kindOf? {p p' : Population} {e : Entity} (inserted : p.insert? e = some p')
    (id : EntityId) : p'.kindOf? id = if id = e.id then some e.kind else p.kindOf? id := by
  unfold insert? at inserted
  split at inserted
  · cases inserted
  · rw [← Option.some.inj inserted]
    by_cases same : e.id = id
    · simp [kindOf?, same]
    · simp [kindOf?, Std.ExtTreeMap.getElem?_insert, same, Ne.symm same]

theorem erase_kindOf? (p : Population) (target id : EntityId) :
    (p.erase target).kindOf? id = if id = target then none else p.kindOf? id := by
  by_cases same : target = id
  · simp [kindOf?, erase, same]
  · simp [kindOf?, erase, Std.ExtTreeMap.getElem?_erase, same, Ne.symm same]

theorem mem_toList {p : Population} {e : Entity} (member : e ∈ p.toList) :
    p.kindOf? e.id = some e.kind := by
  obtain ⟨⟨id, b⟩, listed, rfl⟩ := List.mem_map.mp member
  have found := Std.ExtTreeMap.mem_toList_iff_getElem?_eq_some.mp listed
  simp [kindOf?, found]

end Population

namespace ZoneServer

theorem tick_config (s : ZoneServer) (seconds : Single) (timestamp : UInt64) :
    (s.tick seconds timestamp).2.config = s.config := rfl

theorem tick_kindOf? (s : ZoneServer) (seconds : Single) (timestamp : UInt64) (id : EntityId) :
    (s.tick seconds timestamp).2.population.kindOf? id = s.population.kindOf? id := by
  apply Population.map_kindOf?
  intro id b
  rfl

theorem hear_config (s : ZoneServer) (now : Instant) (sender : Address) (datagram : Datagram) :
    (s.hear now sender datagram).config = s.config := by
  cases datagram with
  | move player sequence velocity =>
    simp only [hear, move]
    split <;> rfl
  | worldState tick timestamp zone entities => rfl
  | zoneStatistics stats => rfl

theorem hear_kindOf? (s : ZoneServer) (now : Instant) (sender : Address) (datagram : Datagram)
    (id : EntityId) :
    (s.hear now sender datagram).population.kindOf? id = s.population.kindOf? id := by
  cases datagram with
  | move player sequence velocity =>
    simp only [hear, move]
    split
    · apply Population.modify_kindOf?
      intro b
      rfl
    · rfl
  | worldState tick timestamp zone entities => rfl
  | zoneStatistics stats => rfl

theorem scan_config (s : ZoneServer) (now : Instant) : (s.scan now).1.config = s.config := rfl

end ZoneServer

namespace Scan

theorem collect_kindOf? (grid : Grid) (zone : Zone) (w : ProjectileWindow) (now : Instant)
    (p : Population) (id : EntityId) :
    (collect grid zone w now p).1.kindOf? id = p.kindOf? id := by
  apply p.map_kindOf?
  intro id b
  split <;> rfl

theorem mem_collect {grid : Grid} {zone : Zone} {w : ProjectileWindow} {now : Instant}
    {p : Population} {candidate : Entity × Crossing}
    (member : candidate ∈ (collect grid zone w now p).2) :
    p.kindOf? candidate.1.id = some candidate.1.kind := by
  obtain ⟨e, listed, crossing⟩ := List.mem_filterMap.mp member
  have held := Population.mem_toList listed
  split at crossing
  · cases crossing
  · rw [← Option.some.inj crossing, ← held]
    exact (collect_kindOf? grid zone w now p e.id).symm

end Scan

namespace ZoneServer

theorem scan_kindOf? (s : ZoneServer) (now : Instant) (id : EntityId) :
    (s.scan now).1.population.kindOf? id = s.population.kindOf? id :=
  Scan.collect_kindOf? _ _ _ now s.population id

theorem scan_cautious {site : Handover.Side → ServerConfig} {side : Handover.Side}
    {player : PlayerId} {s : ZoneServer} (config : s.config = site side)
    (kind : ∀ kind, s.population.kindOf? player = some kind → kind = .player) (now : Instant) :
    Handover.Cautious site side player (fun _ _ => True) (s.scan now).2 false := by
  simp only [scan, Scan.start, config]
  apply Handover.transferAll_cautious
  rintro candidate member rfl
  exact kind _ (Scan.mem_collect member)

theorem discard_kindOf? (s : ZoneServer) (target id : EntityId) :
    (s.discard target).population.kindOf? id =
      if id = target then none else s.population.kindOf? id :=
  s.population.erase_kindOf? target id

inductive Refusal : Response → Prop where
  | declined : Refusal (.accepted false)
  | failed (e : RemoteError) : Refusal (.error e)

/-- The entity is held from now on. One that was held before keeps its kind. -/
structure TookIn (s : ZoneServer) (entity : EntitySnapshot) (s' : ZoneServer) : Prop where
  config : s'.config = s.config
  kinds : ∀ id, s'.population.kindOf? id = if id = entity.id
    then some ((s.population.kindOf? entity.id).getD entity.kind)
    else s.population.kindOf? id

inductive Considered (s : ZoneServer) (entity : EntitySnapshot) : Response × ZoneServer → Prop where
  | accepted {s' : ZoneServer} : TookIn s entity s' → Considered s entity (.accepted true, s')
  | refused {refusal : Response} {s' : ZoneServer} : Refusal refusal → s'.config = s.config →
      s'.population = s.population → Considered s entity (refusal, s')

theorem refusal_of_refusal? {s : ZoneServer} {entity : EntitySnapshot} {left : Option UInt64}
    {response : Response} (refused : s.refusal? entity left = some response) :
    Refusal response := by
  unfold refusal? at refused
  split at refused
  · dsimp only at refused
    split at refused
    · cases refused
    · rw [← Option.some.inj refused]
      exact .declined
  · split at refused
    · cases refused
    · rw [← Option.some.inj refused]
      exact .failed _

theorem takeIn_considered (s : ZoneServer) (entity : EntitySnapshot) (left : Option UInt64) :
    Considered s entity (s.takeIn entity left) := by
  unfold takeIn
  split
  -- An entity that is held already is accepted once more and stays as it is.
  next held =>
    rw [s.population.contains_eq] at held
    obtain ⟨kind, known⟩ := Option.isSome_iff_exists.mp held
    refine .accepted ⟨rfl, ?_⟩
    intro id
    split
    next same => rw [same, known, Option.getD_some]
    · rfl
  next free =>
    rw [s.population.contains_eq, Bool.not_eq_true, Option.isSome_eq_false_iff,
      Option.isNone_iff_eq_none] at free
    split
    next refused => exact .refused (refusal_of_refusal? refused) rfl rfl
    · split
      · exact .refused (.failed _) rfl rfl
      next population inserted =>
        refine .accepted ⟨rfl, ?_⟩
        intro id
        rw [free, Option.getD_none]
        exact Population.insert?_kindOf? inserted id

theorem handle_considered (s : ZoneServer) (now : Instant) (sender : Address)
    (entity : EntitySnapshot) (left : Option UInt64) :
    Considered s entity (s.handle now sender (.transferEntity entity left)) := by
  show Considered s entity
    (takeIn { s with attendance := s.attendance.touch sender now } entity left)
  have outcome := takeIn_considered { s with attendance := s.attendance.touch sender now } entity
    left
  generalize takeIn _ entity left = answered at outcome ⊢
  cases outcome with
  | accepted taken => exact .accepted ⟨taken.config, taken.kinds⟩
  | refused refusal config population => exact .refused refusal config population

end ZoneServer

end ShardedWorld
