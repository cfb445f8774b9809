import ShardedWorld.Proofs.Handover.Presence
import ShardedWorld.Server.Enrolment

/-! What a zone server goes through, and the limits that it keeps.

Whatever happens to a server, it holds no more entities and no more clients than it was set up for.
It loses an entity only when a scan is done with it.
-/

set_option autoImplicit false

namespace ShardedWorld

namespace Population

/-- A population of a certain capacity that does not exceed it. -/
structure Within (limit : Nat) (p : Population) : Prop where
  capacity : p.capacity = limit
  size : p.size ≤ limit

variable {limit : Nat} {p : Population}

theorem empty_within (limit : Nat) : (empty limit).Within limit :=
  ⟨rfl, by simp [size, empty]⟩

theorem Within.insert? (within : p.Within limit) {p' : Population} {e : Entity}
    (inserted : p.insert? e = some p') : p'.Within limit := by
  unfold Population.insert? at inserted
  split at inserted
  · cases inserted
  next room =>
    obtain rfl := Option.some.inj inserted
    refine ⟨within.capacity, ?_⟩
    have size := within.size
    simp only [Population.size, Std.ExtTreeMap.size_insert] at size ⊢
    split
    next held => exact size
    next free =>
      simp [contains, free, isFull, within.capacity, Population.size] at room
      exact room

theorem Within.map (within : p.Within limit) (change : EntityId → Body → Body) :
    (p.map change).Within limit :=
  ⟨within.capacity, Nat.le_trans (Nat.le_of_eq Std.ExtTreeMap.size_map) within.size⟩

theorem Within.modify (within : p.Within limit) (id : EntityId) (change : Body → Body) :
    (p.modify id change).Within limit :=
  ⟨within.capacity, Nat.le_trans (Nat.le_of_eq Std.ExtTreeMap.size_modify) within.size⟩

theorem Within.erase (within : p.Within limit) (id : EntityId) : (p.erase id).Within limit :=
  ⟨within.capacity, Nat.le_trans Std.ExtTreeMap.size_erase_le within.size⟩

end Population

namespace Attendance

/-- An attendance of a certain capacity that does not exceed it. -/
structure Within (limit : Nat) (a : Attendance) : Prop where
  capacity : a.capacity = limit
  size : a.size ≤ limit

variable {limit : Nat} {a : Attendance}

theorem empty_within (limit : Nat) (timeout : Duration) :
    (empty limit timeout).Within limit :=
  ⟨rfl, by simp [size, empty]⟩

theorem Within.put (within : a.Within limit) {player : PlayerId} (attendee : Attendee)
    (room : (a.get? player).isSome = true ∨ a.size < limit) :
    (a.put player attendee).Within limit := by
  refine ⟨within.capacity, ?_⟩
  have size := within.size
  simp only [Attendance.size, Attendance.put, Std.ExtTreeMap.size_insert] at size room ⊢
  split
  next attached => exact size
  next absent =>
    simp [get?, absent] at room
    exact room

theorem Within.attach? (within : a.Within limit) {a' : Attendance} {player : PlayerId}
    {address : Address} {now : Instant} (attached : a.attach? player address now = some a') :
    a'.Within limit := by
  unfold Attendance.attach? at attached
  split at attached
  next attendee known =>
    obtain rfl := Option.some.inj attached
    exact within.put _ (.inl (by simp [known]))
  next unknown =>
    split at attached
    · cases attached
    next room =>
      obtain rfl := Option.some.inj attached
      exact within.put _ (.inr (by rw [← within.capacity]; exact Nat.not_le.mp room))

theorem Within.detach (within : a.Within limit) (player : PlayerId) :
    (a.detach player).2.Within limit :=
  ⟨within.capacity, Nat.le_trans Std.ExtTreeMap.size_erase_le within.size⟩

theorem Within.touch (within : a.Within limit) (address : Address) (now : Instant) :
    (a.touch address now).Within limit := by
  unfold Attendance.touch
  split
  · exact within
  · exact ⟨within.capacity, Nat.le_trans (Nat.le_of_eq Std.ExtTreeMap.size_modify) within.size⟩

theorem Within.acceptMove (within : a.Within limit) (player : PlayerId) (sequence : UInt32)
    (address : Address) (now : Instant) :
    (a.acceptMove player sequence address now).2.Within limit := by
  unfold Attendance.acceptMove
  split
  · exact within
  next attendee known =>
    split
    · exact within
    · exact within.put _ (.inl (by simp [known]))

theorem Within.dropSilent (within : a.Within limit) (now : Instant) :
    (a.dropSilent now).2.Within limit := by
  unfold Attendance.dropSilent
  dsimp only
  generalize List.map _ _ = silent
  induction silent generalizing a with
  | nil => exact within
  | cons player rest ih => exact ih (within.detach player)

end Attendance

namespace Population

theorem insert?_contains {p p' : Population} {e : Entity} (inserted : p.insert? e = some p')
    (id : EntityId) : p'.contains id = (decide (id = e.id) || p.contains id) := by
  rw [contains_eq, contains_eq, insert?_kindOf? inserted]
  split <;> simp [*]

end Population

namespace ZoneServer

/-- What happens to a server. A scan marks the entities at once, and discards those that it is done
with one by one. -/
inductive Event where
  | request (now : Instant) (sender : Address) (request : Request)
  | datagram (now : Instant) (sender : Address) (datagram : Datagram)
  | tick (seconds : Single) (timestamp : UInt64)
  | spawn (e : Entity)
  | dropSilent (now : Instant)
  | scan (now : Instant)
  | discard (id : EntityId)
  | reassign (zone : Zone)

def step (s : ZoneServer) : Event → ZoneServer
  | .request now sender request => (s.handle now sender request).2
  | .datagram now sender datagram => s.hear now sender datagram
  | .tick seconds timestamp => (s.tick seconds timestamp).2
  | .spawn e => (s.spawn? e).getD s
  | .dropSilent now => (s.dropSilent now).2
  | .scan now => (s.scan now).1
  | .discard id => s.discard id
  | .reassign zone => s.reassign zone

def run (s : ZoneServer) (events : List Event) : ZoneServer := events.foldl step s

structure Retains (s s' : ZoneServer) : Prop where
  config : s'.config = s.config
  entities : ∀ {limit}, s.population.Within limit → s'.population.Within limit
  clients : ∀ {limit}, s.attendance.Within limit → s'.attendance.Within limit
  held : ∀ {id}, s.population.contains id = true → s'.population.contains id = true

namespace Retains

variable {s s' s'' : ZoneServer}

theorem refl (s : ZoneServer) : Retains s s := ⟨rfl, id, id, id⟩

theorem trans (first : Retains s s') (second : Retains s' s'') : Retains s s'' where
  config := second.config.trans first.config
  entities := second.entities ∘ first.entities
  clients := second.clients ∘ first.clients
  held := second.held ∘ first.held

theorem attended (s : ZoneServer) {attendance : Attendance}
    (clients : ∀ {limit}, s.attendance.Within limit → attendance.Within limit) :
    Retains s { s with attendance } :=
  ⟨rfl, id, clients, id⟩

theorem grown {population : Population} {e : Entity}
    (inserted : s.population.insert? e = some population) : Retains s { s with population } where
  config := rfl
  entities within := within.insert? inserted
  clients := id
  held held := by simp [Population.insert?_contains inserted, held]

end Retains

variable (s : ZoneServer) (now : Instant) (sender : Address)

theorem takeIn_retains (entity : EntitySnapshot) (left : Option UInt64) :
    Retains s (s.takeIn entity left).2 := by
  unfold takeIn
  split
  · exact .refl s
  · split
    · exact .refl s
    · split
      · exact .refl s
      next inserted => exact (Retains.grown inserted).trans ⟨rfl, id, id, id⟩

theorem place_retains {s s' : ZoneServer} {player : PlayerId} {name : String}
    {spawnAt position : Option Vec2} (placed : s.place player name spawnAt = .ok (position, s')) :
    Retains s s' := by
  unfold place at placed
  split at placed
  · cases placed
    exact .refl s
  · cases placed
    exact .refl s
  · split at placed
    · cases placed
    · split at placed
      · cases placed
      next inserted =>
        cases placed
        exact (Retains.grown inserted).trans ⟨rfl, id, id, id⟩

theorem join_retains (player : PlayerId) (name sessionKey : String) (spawnAt : Option Vec2) :
    Retains s (s.join now sender player name sessionKey spawnAt).2 := by
  unfold join
  split
  · exact .refl s
  · split
    · exact .refl s
    next position s' placed =>
      have placed := place_retains placed
      split
      · exact placed
      next attendance attached =>
        exact placed.trans (.attended s' fun within => within.attach? attached)

theorem leave_retains (player : PlayerId) : Retains s (s.leave player) :=
  .attended s fun within => within.detach player

theorem handle_retains (request : Request) : Retains s (s.handle now sender request).2 := by
  have touched : Retains s { s with attendance := s.attendance.touch sender now } :=
    .attended s fun within => within.touch sender now
  cases request with
  | transferEntity entity left => exact touched.trans (takeIn_retains _ entity left)
  | join player name sessionKey spawnAt =>
    exact touched.trans (join_retains _ now sender player name sessionKey spawnAt)
  | leave player => exact touched.trans (leave_retains _ player)
  | _ => exact touched

theorem move_retains (player : PlayerId) (sequence : UInt32) (velocity : Vec2) :
    Retains s (s.move now sender player sequence velocity) := by
  have heard : Retains s
      { s with attendance := (s.attendance.acceptMove player sequence sender now).2 } :=
    .attended s fun within => within.acceptMove player sequence sender now
  simp only [move]
  split
  · refine heard.trans ⟨rfl, fun within => within.modify player _, id, fun held => ?_⟩
    exact Std.ExtTreeMap.contains_modify.trans held
  · exact heard

theorem hear_retains (datagram : Datagram) : Retains s (s.hear now sender datagram) := by
  cases datagram with
  | move player sequence velocity => exact move_retains s now sender player sequence velocity
  | _ => exact .refl s

theorem tick_retains (seconds : Single) (timestamp : UInt64) :
    Retains s (s.tick seconds timestamp).2 where
  config := rfl
  entities within := within.map _
  clients := id
  held held := by rwa [Population.contains_eq, tick_kindOf?, ← Population.contains_eq]

theorem spawn?_retains {s s' : ZoneServer} {e : Entity} (spawned : s.spawn? e = some s') :
    Retains s s' := by
  obtain ⟨population, inserted, rfl⟩ := Option.map_eq_some_iff.mp spawned
  dsimp only
  split
  · exact (Retains.grown inserted).trans ⟨rfl, id, id, id⟩
  · exact .grown inserted

theorem dropSilent_retains : Retains s (s.dropSilent now).2 :=
  .attended s fun within => within.dropSilent now

theorem scan_retains : Retains s (s.scan now).1 where
  config := rfl
  entities within := within.map _
  clients := id
  held held := by rwa [Population.contains_eq, scan_kindOf?, ← Population.contains_eq]

/-- Whatever happens to a server but that a scan is done with an entity, the server keeps what it
holds. -/
theorem step_retains (event : Event) (kept : ∀ id, event ≠ .discard id) :
    Retains s (s.step event) := by
  cases event with
  | request now sender request => exact handle_retains s now sender request
  | datagram now sender datagram => exact hear_retains s now sender datagram
  | tick seconds timestamp => exact tick_retains s seconds timestamp
  | spawn e =>
    simp only [step]
    cases spawned : s.spawn? e with
    | none => exact .refl s
    | some s' => exact spawn?_retains spawned
  | dropSilent now => exact dropSilent_retains s now
  | scan now => exact scan_retains s now
  | discard id => exact absurd rfl (kept id)
  | reassign zone => exact ⟨rfl, id, id, id⟩

structure Limited (setup : ServerConfig) (s : ZoneServer) : Prop where
  config : s.config = setup
  entities : s.population.Within setup.maxEntities
  clients : s.attendance.Within setup.maxClients

theorem assigned_limited (config : ServerConfig) (zone : Zone) :
    (assigned config zone).Limited config :=
  ⟨rfl, Population.empty_within _, Attendance.empty_within _ _⟩

theorem step_limited {s : ZoneServer} {config : ServerConfig} (limited : s.Limited config)
    (event : Event) : (s.step event).Limited config := by
  by_cases discards : ∃ id, event = .discard id
  · obtain ⟨id, rfl⟩ := discards
    exact ⟨limited.config, limited.entities.erase id, limited.clients⟩
  · have retains := s.step_retains event (not_exists.mp discards)
    exact ⟨retains.config.trans limited.config, retains.entities limited.entities,
      retains.clients limited.clients⟩

theorem run_limited {s : ZoneServer} {config : ServerConfig} (limited : s.Limited config)
    (events : List Event) : (s.run events).Limited config := by
  induction events generalizing s with
  | nil => exact limited
  | cons event rest ih => exact ih (step_limited limited event)

theorem step_held {s : ZoneServer} {id : EntityId} (held : s.population.contains id = true)
    {event : Event} (kept : event ≠ .discard id) :
    (s.step event).population.contains id = true := by
  by_cases discards : ∃ other, event = .discard other
  · obtain ⟨other, rfl⟩ := discards
    have different : id ≠ other := fun same => kept (same ▸ rfl)
    rwa [Population.contains_eq, step, discard_kindOf?, if_neg different,
      ← Population.contains_eq]
  · exact (s.step_retains event (not_exists.mp discards)).held held

theorem run_held {s : ZoneServer} {id : EntityId} (held : s.population.contains id = true)
    {events : List Event} (kept : ∀ event ∈ events, event ≠ .discard id) :
    (s.run events).population.contains id = true := by
  induction events generalizing s with
  | nil => exact held
  | cons event rest ih =>
    obtain ⟨first, later⟩ := List.forall_mem_cons.mp kept
    exact ih (step_held held first) later

end ZoneServer

end ShardedWorld
