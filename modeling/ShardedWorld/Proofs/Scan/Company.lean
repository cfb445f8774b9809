import ShardedWorld.Proofs.Handover.World
import ShardedWorld.Proofs.Registry.Availability
import ShardedWorld.Proofs.Registry.Repetition
import ShardedWorld.Proofs.Scan.Trials

/-! A coordinator beside a scan.

The coordinator answers all that the scan asks of it, and in between carries out what others ask of
it. What it knows of one player changes only by what is asked about that player.
-/

set_option autoImplicit false

namespace ShardedWorld

variable {σ : Type}

namespace Registry

def Leaves (player : PlayerId) : Command → Prop
  | .initiateTransfer id _ | .completeTransfer id _ => id ≠ player
  | .resetPlayers => False
  | _ => True

/-- Registrations stand under their names, and a zone is entered for a server exactly if the server
is registered for it. -/
structure Consistent (r : Registry σ) : Prop where
  named : ∀ {id : ServerId} {s : Registration}, r.servers[id]? = some s → s.serverId = id
  paired : ∀ {zone : Zone} {id : ServerId},
    r.zones[zone]? = some id ↔ ∃ s : Registration, r.servers[id]? = some s ∧ s.zone = zone

def Places (r : Registry σ) (player : PlayerId) (owner : Option ServerId)
    (pending : Option PendingHandoff) : Prop :=
  ∃ record, r.player? player = some ⟨record, owner, pending⟩

/-- Two registered servers, in a registry that can always write. -/
structure Serves [Store σ] (r : Registry σ) (grid : Grid) (here there : StoredServer) : Prop where
  consistent : Consistent r
  writes : Store.TakesWrites r.store
  divided : r.grid = grid
  here : (r.servers[here.serverId]?).map (·.toStoredServer) = some here
  there : (r.servers[there.serverId]?).map (·.toStoredServer) = some there

def unreported (r : Registry σ) : Registry σ := { r with zoneStats := ∅ }

theorem Consistent.coherent {r : Registry σ} (consistent : Consistent r) :
    Coherent r.unreported where
  named := consistent.named
  paired := consistent.paired
  reported kept := absurd kept Std.ExtTreeMap.not_mem_empty

theorem Coherent.consistent {r : Registry σ} (coherent : Coherent r) : Consistent r :=
  ⟨coherent.named, coherent.paired⟩

theorem Consistent.locate_eq {r : Registry σ} (consistent : Consistent r) {server : StoredServer}
    (registered : (r.servers[server.serverId]?).map (·.toStoredServer) = some server)
    {position : Vec2} (inside : server.zone = r.grid.zoneOf position) :
    r.locate position = some server.info := by
  obtain ⟨s, found, rfl⟩ := Option.map_eq_some_iff.mp registered
  exact consistent.coherent.locate_eq found inside

variable [Store σ]

theorem Change.unreported {r r' : Registry σ} (change : Change r r') :
    r'.unreported = r.unreported ∨ Change r.unreported r'.unreported := by
  cases change with
  | claim now unknown free taken => exact .inr (.claim now unknown free taken)
  | @release id known store found taken =>
    have released : Change r.unreported _ := .release found taken
    right
    simpa [Registry.unreported] using released
  | beat now found => exact .inr (.beat now found)
  | keep named taken => exact .inr (.keep named taken)
  | reset taken => exact .inr (.reset taken)
  | report stats owned => exact .inl rfl

theorem Consistent.change {r r' : Registry σ} (change : Change r r') (consistent : Consistent r) :
    Consistent r' := by
  suffices still : Coherent r'.unreported from ⟨still.named, still.paired⟩
  rcases change.unreported with same | change
  · rw [same]
    exact consistent.coherent
  · exact consistent.coherent.change change

theorem Places.execute {r : Registry σ} {player : PlayerId} {owner : Option ServerId}
    {pending : Option PendingHandoff} (placed : r.Places player owner pending) (now : Instant)
    {command : Command} (leaves : Leaves player command) :
    (r.execute now command).2.Places player owner pending := by
  obtain ⟨record, known⟩ := placed
  rw [Places, execute_player?]
  cases (r.execute now command).1 with
  | error e => exact ⟨record, known⟩
  | ok answer =>
    cases command with
    | initiateTransfer id position =>
      rw [entryAfter, if_neg leaves]
      exact ⟨record, known⟩
    | completeTransfer id server =>
      rw [entryAfter, if_neg leaves]
      exact ⟨record, known⟩
    -- A report replaces the record of a player, but neither owner nor order.
    | updatePlayer latest =>
      simp only [entryAfter, known]
      split
      · exact ⟨latest, rfl⟩
      · exact ⟨record, rfl⟩
    | resetPlayers => exact leaves.elim
    | registerServer id endpoint => exact ⟨record, known⟩
    | unregisterServer id => exact ⟨record, known⟩
    | heartbeat id => exact ⟨record, known⟩
    | evictStale timeout => exact ⟨record, known⟩
    | locate position => exact ⟨record, known⟩
    | reportZoneStats zone stats => exact ⟨record, known⟩
    | aggregate generatedAt => exact ⟨record, known⟩

theorem Serves.execute {r : Registry σ} {grid : Grid} {here there : StoredServer}
    (serves : r.Serves grid here there) (now : Instant) (command : Command)
    (keptHere : here.serverId ∈ (r.execute now command).2.servers)
    (keptThere : there.serverId ∈ (r.execute now command).2.servers) :
    (r.execute now command).2.Serves grid here there := by
  have kept {server : StoredServer}
      (before : (r.servers[server.serverId]?).map (·.toStoredServer) = some server)
      (still : server.serverId ∈ (r.execute now command).2.servers) :
      ((r.execute now command).2.servers[server.serverId]?).map (·.toStoredServer) =
        some server := by
    obtain ⟨s, found, same⟩ := Option.map_eq_some_iff.mp before
    obtain ⟨s', after⟩ := Option.isSome_iff_exists.mp
      (Std.ExtTreeMap.isSome_getElem?_iff_mem.mpr still)
    rw [after, Option.map_some, execute_stored found after, same]
  have consistent := execute_invariant Consistent.change serves.consistent now command
  obtain ⟨writes, divided⟩ : Store.TakesWrites (r.execute now command).2.store ∧
      (r.execute now command).2.grid = grid := by
    apply execute_invariant (P := fun r => Store.TakesWrites r.store ∧ r.grid = grid) ?_
      ⟨serves.writes, serves.divided⟩
    intro before after step held
    exact ⟨step.takesWrites held.1, step.grid.trans held.2⟩
  exact ⟨consistent, writes, divided, kept serves.here keptHere, kept serves.there keptThere⟩

theorem Serves.zones_differ {r : Registry σ} {grid : Grid} {here there : StoredServer}
    (serves : r.Serves grid here there) (different : here.serverId ≠ there.serverId) :
    here.zone ≠ there.zone := by
  obtain ⟨s, foundHere, sameHere⟩ := Option.map_eq_some_iff.mp serves.here
  obtain ⟨s', foundThere, sameThere⟩ := Option.map_eq_some_iff.mp serves.there
  intro same
  apply different
  apply serves.consistent.coherent.zone_injective foundHere foundThere
  rw [← sameHere, ← sameThere] at same
  exact same

theorem Places.completeTransfer {r r' : Registry σ} {player : PlayerId} {owner : Option ServerId}
    {pending : Option PendingHandoff} (placed : r.Places player owner pending) {server : ServerId}
    (done : r.completeTransfer player server = .ok r') : r'.Places player (some server) none := by
  obtain ⟨record, known⟩ := placed
  refine ⟨record, ?_⟩
  rw [completeTransfer_player? done, entryAfter, if_pos rfl, known]
  rfl

end Registry

namespace Coordinator

variable [Store σ]

structure Steady (c : Coordinator σ) (grid : Grid) (here there : StoredServer) : Prop where
  running : c.mailbox.running = true
  serves : c.mailbox.registry.Serves grid here there

theorem Steady.locate {c : Coordinator σ} {grid : Grid} {here there : StoredServer}
    (steady : c.Steady grid here there) {position : Vec2}
    (inside : there.zone = grid.zoneOf position) :
    c.mailbox.registry.locate position = some there.info := by
  apply steady.serves.consistent.locate_eq steady.serves.there
  rw [inside, steady.serves.divided]

theorem command_eq {c : Coordinator σ} (running : c.mailbox.running = true) (now : Instant)
    (command : Registry.Command) :
    c.command now command =
      (respond (c.mailbox.registry.execute now command).1,
        { c with mailbox := ⟨(c.mailbox.registry.execute now command).2,
          Registry.survives (c.mailbox.registry.execute now command).1⟩ }) := by
  simp [Coordinator.command, Mailbox.request, running]

theorem Steady.command {c : Coordinator σ} {grid : Grid} {here there : StoredServer}
    (steady : c.Steady grid here there) (now : Instant) (command : Registry.Command)
    (keptHere : here.serverId ∈ (c.command now command).2.mailbox.registry.servers)
    (keptThere : there.serverId ∈ (c.command now command).2.mailbox.registry.servers)
    (goesOn : (c.command now command).2.mailbox.running = true) :
    (c.command now command).2.Steady grid here there := by
  refine ⟨goesOn, ?_⟩
  rw [command_eq steady.running] at keptHere keptThere ⊢
  exact steady.serves.execute now command keptHere keptThere

theorem command_places {c : Coordinator σ} (running : c.mailbox.running = true) {player : PlayerId}
    {owner : Option ServerId} {pending : Option PendingHandoff}
    (placed : c.mailbox.registry.Places player owner pending) (now : Instant)
    {command : Registry.Command} (leaves : Registry.Leaves player command) :
    (c.command now command).2.mailbox.registry.Places player owner pending := by
  rw [command_eq running]
  exact placed.execute now leaves

end Coordinator

namespace Scan

variable [Store σ]

/-- An exchange as the coordinator takes part in it, or as it goes on without the coordinator. -/
inductive Hears : Coordinator σ → Exchange → Coordinator σ → Prop where
  | asked {c : Coordinator σ} {question : Question} {errand : Errand (Answer question)}
      (now : Instant) (sender : Address) :
      errand? question = some errand → errand.message.recipient = .coordinator →
      Hears c
        ⟨question, errand.conclude
          (Connection.outcome (c.handle now sender errand.message.request).1)⟩
        (c.handle now sender errand.message.request).2
  | aside {c : Coordinator σ} {x : Exchange} :
      (∀ errand, errand? x.question = some errand → errand.message.recipient ≠ .coordinator) →
      Hears c x c

/-- What becomes of a coordinator while a scan talks. Others do not tell it where the player is and
do not make it break down, and `here` and `there` stay registered. -/
inductive Attends (player : PlayerId) (here there : ServerId) :
    Coordinator σ → List Exchange → Coordinator σ → Prop where
  | silent (c : Coordinator σ) : Attends player here there c [] c
  | meanwhile {c c' : Coordinator σ} {said : List Exchange} (now : Instant)
      (command : Registry.Command) : Registry.Leaves player command →
      here ∈ (c.command now command).2.mailbox.registry.servers →
      there ∈ (c.command now command).2.mailbox.registry.servers →
      (c.command now command).2.mailbox.running = c.mailbox.running →
      Attends player here there (c.command now command).2 said c' →
      Attends player here there c said c'
  | heard {c c₁ c' : Coordinator σ} {x : Exchange} {said : List Exchange} :
      Hears c x c₁ → Attends player here there c₁ said c' →
      Attends player here there c (x :: said) c'

/-! What a scan asks of the coordinator. -/

def Moves (player : PlayerId) : Question → Prop
  | .initiateTransfer id _ | .completeTransfer id _ => id = player
  | _ => False

theorem Moves.names {player : PlayerId} {question : Question} (moves : Moves player question) :
    Names player question := by
  cases question with
  | initiateTransfer id position => exact moves
  | completeTransfer id server => exact moves
  | _ => exact moves.elim

theorem AsksPeer.not_moves {peer : Address} {entity : EntitySnapshot} {left : Option UInt64}
    {question : Question} (asked : AsksPeer peer entity left question) (player : PlayerId) :
    ¬ Moves player question := by
  cases asked <;> exact id

variable (σ) in
/-- What a scan asks of the coordinator is a command that leaves all servers and all other players
as they are, and that succeeds if the store takes writes. -/
theorem errand?_command {question : Question} {errand : Errand (Answer question)}
    (known : errand? question = some errand)
    (asked : errand.message.recipient = .coordinator) :
    ∃ command : Registry.Command,
      (∀ (c : Coordinator σ) now sender,
        c.handle now sender errand.message.request = c.command now command) ∧
      (∀ (r : Registry σ) now, (r.execute now command).2.servers = r.servers) ∧
      (∀ (r : Registry σ) now, Store.TakesWrites r.store →
        Registry.survives (r.execute now command).1 = true) ∧
      ∀ player, ¬ Moves player question → Registry.Leaves player command := by
  induction known using errand?_cases with
  | initiateTransfer player position =>
    refine ⟨.initiateTransfer player position, fun _ _ _ => rfl, ?_, ?_, fun _ other => other⟩
    · intro r now
      simp only [Registry.execute]
      cases outcome : r.initiateTransfer player position with
      | error e => rfl
      | ok done => exact (Registry.initiateTransfer_listed outcome).1
    · intro r now writes
      obtain ⟨order, after, done⟩ := Registry.initiateTransfer_succeeds writes player position
      simp only [Registry.execute, done]
      rfl
  | completeTransfer player server =>
    refine ⟨.completeTransfer player server, fun _ _ _ => rfl, ?_, ?_, fun _ other => other⟩
    · intro r now
      simp only [Registry.execute]
      cases outcome : r.completeTransfer player server with
      | error e => rfl
      | ok done => exact Registry.completeTransfer_servers outcome
    · intro r now writes
      obtain ⟨after, done⟩ := Registry.completeTransfer_succeeds writes player server
      simp only [Registry.execute, done]
      rfl
  | locate position =>
    exact ⟨.locate position, fun _ _ _ => rfl, fun _ _ => rfl, fun _ _ _ => rfl,
      fun _ _ => trivial⟩
  -- An entity is pushed to another server, not to the coordinator.
  | push link peer entity left => cases asked

section Hears

variable {c c' : Coordinator σ} {x : Exchange} {grid : Grid} {here there : StoredServer}

theorem Hears.of_no_errand (none : errand? x.question = none) : Hears c x c := by
  apply Hears.aside
  intro errand known
  rw [none] at known
  cases known

theorem Hears.steady (hears : Hears c x c') (steady : c.Steady grid here there) :
    c'.Steady grid here there := by
  cases hears with
  | asked now sender known asked =>
    -- No question of a scan registers or unregisters anybody.
    obtain ⟨command, same, servers, survives, -⟩ := errand?_command σ known asked
    have kept {server : StoredServer}
        (registered : (c.mailbox.registry.servers[server.serverId]?).map (·.toStoredServer) =
          some server) : server.serverId ∈ (c.command now command).2.mailbox.registry.servers := by
      obtain ⟨s, found, -⟩ := Option.map_eq_some_iff.mp registered
      rw [Coordinator.command_eq steady.running, servers]
      exact Std.ExtTreeMap.mem_iff_isSome_getElem?.mpr (found ▸ rfl)
    rw [same]
    refine steady.command now command (kept steady.serves.here) (kept steady.serves.there) ?_
    rw [Coordinator.command_eq steady.running]
    exact survives _ now steady.serves.writes
  | aside => exact steady

theorem Hears.places (hears : Hears c x c') (running : c.mailbox.running = true)
    {player : PlayerId} {owner : Option ServerId} {pending : Option PendingHandoff}
    (other : ¬ Moves player x.question) (placed : c.mailbox.registry.Places player owner pending) :
    c'.mailbox.registry.Places player owner pending := by
  cases hears with
  | asked now sender known asked =>
    obtain ⟨command, same, -, -, leaves⟩ := errand?_command σ known asked
    rw [same]
    exact Coordinator.command_places running placed now (leaves player other)
  | aside => exact placed

theorem Hears.initiateTransfer {player : PlayerId} {position : Vec2}
    {answer : Except TransportError (Option TransferDirective)}
    (hears : Hears c ⟨.initiateTransfer player position, answer⟩ c')
    (steady : c.Steady grid here there) :
    ∃ order, answer = .ok order ∧
      c.mailbox.registry.initiateTransfer player position = .ok (order, c'.mailbox.registry) := by
  obtain ⟨order, r, done⟩ :=
    Registry.initiateTransfer_succeeds steady.serves.writes player position
  cases hears with
  | asked now sender known asked =>
    obtain rfl := Option.some.inj known
    refine ⟨order, ?_, ?_⟩
    · change Call.conclude _ (Connection.outcome (c.command now _).1) = _
      rw [Coordinator.command_eq steady.running]
      simp only [Registry.execute, Registry.settle, done]
      rfl
    · change _ = Except.ok (order, (c.command now _).2.mailbox.registry)
      rw [Coordinator.command_eq steady.running, Registry.execute_initiateTransfer done, done]
  | aside foreign => exact absurd rfl (foreign _ rfl)

theorem Hears.completeTransfer {player : PlayerId} {server : ServerId}
    {answer : Except TransportError Unit}
    (hears : Hears c ⟨.completeTransfer player server, answer⟩ c')
    (steady : c.Steady grid here there) :
    answer = .ok () ∧
      c.mailbox.registry.completeTransfer player server = .ok c'.mailbox.registry := by
  obtain ⟨r, done⟩ := Registry.completeTransfer_succeeds steady.serves.writes player server
  cases hears with
  | asked now sender known asked =>
    obtain rfl := Option.some.inj known
    constructor
    · change Call.conclude _ (Connection.outcome (c.command now _).1) = _
      rw [Coordinator.command_eq steady.running]
      simp only [Registry.execute, Registry.settleDone, done]
      rfl
    · change _ = Except.ok (c.command now _).2.mailbox.registry
      rw [Coordinator.command_eq steady.running, Registry.execute_completeTransfer done, done]
  | aside foreign => exact absurd rfl (foreign _ rfl)

theorem Hears.locate {position : Vec2} {answer : Except TransportError (Option ServerInfo)}
    (hears : Hears c ⟨.locate position, answer⟩ c') (running : c.mailbox.running = true) :
    answer = .ok (c.mailbox.registry.locate position) ∧
      c'.mailbox.registry = c.mailbox.registry := by
  cases hears with
  | asked now sender known asked =>
    obtain rfl := Option.some.inj known
    constructor
    · change Call.conclude _ (Connection.outcome (c.command now _).1) = _
      rw [Coordinator.command_eq running]
      rfl
    · change (c.command now _).2.mailbox.registry = _
      rw [Coordinator.command_eq running]
      rfl
  | aside foreign => exact absurd rfl (foreign _ rfl)

end Hears

section Attends

variable {player : PlayerId} {c c' : Coordinator σ} {said : List Exchange}

theorem Attends.trans {here there : ServerId} {c₁ : Coordinator σ} {later : List Exchange}
    (first : Attends player here there c said c₁) (second : Attends player here there c₁ later c') :
    Attends player here there c (said ++ later) c' := by
  induction first with
  | silent => exact second
  | meanwhile now command leaves keptHere keptThere goesOn _ ih =>
    exact .meanwhile now command leaves keptHere keptThere goesOn (ih second)
  | heard hears _ ih => exact .heard hears (ih second)

theorem Attends.of_cons {here there : ServerId} {x : Exchange}
    (attends : Attends player here there c (x :: said) c') :
    ∃ c₁ c₂, Attends player here there c [] c₁ ∧ Hears c₁ x c₂ ∧
      Attends player here there c₂ said c' := by
  generalize spoken : x :: said = all at attends
  induction attends with
  | silent => cases spoken
  | meanwhile now command leaves keptHere keptThere goesOn _ ih =>
    obtain ⟨c₁, c₂, before, hears, after⟩ := ih spoken
    exact ⟨c₁, c₂, .meanwhile now command leaves keptHere keptThere goesOn before, hears, after⟩
  | @heard c c₁ c' x' said' hears after _ =>
    obtain ⟨rfl, rfl⟩ := List.cons.inj spoken
    exact ⟨c, c₁, .silent c, hears, after⟩

theorem Attends.of_append {here there : ServerId} {first second : List Exchange}
    (attends : Attends player here there c (first ++ second) c') :
    ∃ c₁, Attends player here there c first c₁ ∧ Attends player here there c₁ second c' := by
  induction first generalizing c with
  | nil => exact ⟨c, .silent c, attends⟩
  | cons x rest ih =>
    obtain ⟨c₁, c₂, before, hears, attends⟩ := attends.of_cons
    obtain ⟨c₃, middle, after⟩ := ih attends
    exact ⟨c₃, before.trans (.heard hears middle), after⟩

variable {grid : Grid} {here there : StoredServer}

theorem Attends.steady (attends : Attends player here.serverId there.serverId c said c')
    (steady : c.Steady grid here there) : c'.Steady grid here there := by
  induction attends with
  | silent => exact steady
  | meanwhile now command _ keptHere keptThere goesOn _ ih =>
    exact ih (steady.command now command keptHere keptThere (goesOn.trans steady.running))
  | heard hears _ ih => exact ih (hears.steady steady)

theorem Attends.places (attends : Attends player here.serverId there.serverId c said c')
    (steady : c.Steady grid here there) {owner : Option ServerId}
    {pending : Option PendingHandoff} (others : ∀ x ∈ said, ¬ Moves player x.question)
    (placed : c.mailbox.registry.Places player owner pending) :
    c'.mailbox.registry.Places player owner pending := by
  induction attends with
  | silent => exact placed
  | meanwhile now command leaves keptHere keptThere goesOn _ ih =>
    exact ih (steady.command now command keptHere keptThere (goesOn.trans steady.running)) others
      (Coordinator.command_places steady.running placed now leaves)
  | heard hears _ ih =>
    obtain ⟨first, others⟩ := List.forall_mem_cons.mp others
    exact ih (hears.steady steady) others (hears.places steady.running first placed)

end Attends

end Scan

end ShardedWorld
