import ShardedWorld.Proofs.Registry.Entries

/-! Orders are repeated until they are confirmed.

An order to move a player stays open through anything that neither confirms it, forgets all players,
sends the player elsewhere nor removes the target: other commands, refused writes and new starts
from the store. As long as it is open, every question about a position in the target's zone is
answered with it again.
-/

set_option autoImplicit false

namespace ShardedWorld.Registry

variable {σ : Type}

def Within (r : Registry σ) (server : ServerId) (position : Vec2) : Prop :=
  (r.server? server).map (·.zone) = some (r.grid.zoneOf position)

theorem Coherent.locate_eq {r : Registry σ} (coherent : Coherent r) {id : ServerId}
    {s : Registration} {position : Vec2} (registered : r.server? id = some s)
    (inside : s.zone = r.grid.zoneOf position) : r.locate position = some s.info := by
  have owner : r.ownerOf? (r.grid.zoneOf position) = some s :=
    coherent.owner_iff.mpr ⟨⟨id, registered⟩, inside⟩
  rw [locate, owner, Option.map_some]

theorem direct_of_holder {entry : PlayerEntry} {target : Option ServerInfo}
    (held : ∀ info, target = some info → entry.holder = some info.serverId) :
    (direct entry target).1 = entry := by
  unfold direct
  split
  · rfl
  next info =>
    rw [if_pos (held info rfl)]

theorem direct_pending {entry : PlayerEntry} {target : Option ServerInfo}
    {order : TransferDirective} (ordered : (direct entry target).2 = some order) :
    (direct entry target).1.pending = some ⟨order.target.serverId, order.previous⟩ ∧
      (direct entry target).1.record = order.player := by
  cases target with
  | none => cases ordered
  | some info =>
    by_cases held : entry.holder = some info.serverId
    · have same : direct entry (some info) =
          (entry, entry.pending.map fun handoff => ⟨info, handoff.previous, entry.record⟩) :=
        if_pos held
      rw [same] at ordered ⊢
      obtain ⟨handoff, pending, rfl⟩ := Option.map_eq_some_iff.mp ordered
      have target : handoff.target = info.serverId := by
        rw [PlayerEntry.holder, pending] at held
        exact Option.some.inj held
      refine ⟨?_, rfl⟩
      rw [pending, ← target]
    · have fresh : direct entry (some info) =
          ({ entry with pending := some ⟨info.serverId, entry.owner⟩ },
            some ⟨info, entry.owner, entry.record⟩) :=
        if_neg held
      rw [fresh] at ordered ⊢
      obtain rfl := Option.some.inj ordered
      exact ⟨rfl, rfl⟩

/-- A command that leaves open where a player is who is on the way to `target`. -/
def Spares (r : Registry σ) (player : PlayerId) (target : ServerId) : Command → Prop
  | .initiateTransfer id position =>
    id = player → ∀ owner, r.locate position = some owner → owner.serverId = target
  | .completeTransfer id _ => id ≠ player
  | .resetPlayers => False
  | _ => True

/-- The record of a player that a command gave and the registry took over. -/
def reported? (player : PlayerId) : Command → Except RegistryError Answer → Option PlayerRecord
  | .updatePlayer record, .ok _ => if record.playerId = player then some record else none
  | _, _ => none

theorem reported?_error (player : PlayerId) (command : Command) (e : RegistryError) :
    reported? player command (.error e) = none := by
  cases command <;> rfl

theorem entryAfter_of_spares {r : Registry σ} {player : PlayerId} {target : ServerId}
    {command : Command} (spares : r.Spares player target command) {entry : PlayerEntry}
    (holder : entry.holder = some target) {position : Vec2}
    (known : r.player? player = some { entry with record := { entry.record with position } })
    (answer : Answer) :
    ∃ position, r.entryAfter player command = some { entry with
      record := { (reported? player command (.ok answer)).getD entry.record with position } } := by
  cases command with
  | initiateTransfer id next =>
    simp only [entryAfter]
    split
    next same =>
      -- Wherever the player is asked for, its holder stays the target, so the order stays open.
      refine ⟨next, ?_⟩
      rw [known]
      apply congrArg some
      apply direct_of_holder
      intro info located
      exact holder.trans (congrArg some (spares same info located).symm)
    · exact ⟨position, known⟩
  | completeTransfer id server =>
    refine ⟨position, ?_⟩
    rw [entryAfter, if_neg spares]
    exact known
  | updatePlayer record =>
    simp only [entryAfter, reported?]
    split
    · exact ⟨record.position, by simp [known]⟩
    · exact ⟨position, known⟩
  | resetPlayers => exact absurd spares id
  | registerServer id endpoint => exact ⟨position, known⟩
  | unregisterServer id => exact ⟨position, known⟩
  | heartbeat id => exact ⟨position, known⟩
  | evictStale timeout => exact ⟨position, known⟩
  | locate at_ => exact ⟨position, known⟩
  | reportZoneStats zone stats => exact ⟨position, known⟩
  | aggregate generatedAt => exact ⟨position, known⟩

variable [Store σ]

/-- A registry that once started from an empty store. Between commands its store may be changed from
outside, but for what it holds, and the registry may start anew from it. -/
inductive Lived : Registry σ → Prop where
  | start {store : σ} (grid : Grid) (now : Instant) : Store.snapshot store = .empty →
      Lived (restore grid store now)
  | execute {r : Registry σ} (now : Instant) (command : Command) : Lived r →
      Lived (r.execute now command).2
  | outside {r : Registry σ} {store : σ} : Store.snapshot store = Store.snapshot r.store →
      Lived r → Lived { r with store }
  | restart {r : Registry σ} (grid : Grid) (now : Instant) : Lived r →
      Lived (restore grid r.store now)

/-- What may happen while a player is on the way to `target`, a server that stays registered, with
the last record of the player that the registry took over. -/
inductive Course (player : PlayerId) (target : ServerId) (start : Registry σ)
    (first : PlayerRecord) : PlayerRecord → Registry σ → Prop where
  | start : Course player target start first first start
  | execute {latest : PlayerRecord} {r : Registry σ} (now : Instant) (command : Command) :
      r.Spares player target command → target ∈ (r.execute now command).2.servers →
      Course player target start first latest r →
      Course player target start first
        ((reported? player command (r.execute now command).1).getD latest)
        (r.execute now command).2
  | outside {latest : PlayerRecord} {r : Registry σ} {store : σ} :
      Store.snapshot store = Store.snapshot r.store →
      Course player target start first latest r →
      Course player target start first latest { r with store }
  | restart {latest : PlayerRecord} {r : Registry σ} (grid : Grid) (now : Instant) :
      Course player target start first latest r →
      Course player target start first latest (restore grid r.store now)

theorem Lived.sound [LawfulStore σ] {r : Registry σ} (lived : Lived r) :
    Coherent r ∧ Mirrors r := by
  induction lived with
  | @start store grid now empty =>
    have sound : (Store.snapshot store).Sound := empty ▸ sound_empty
    exact ⟨restore_coherent grid now sound.servers, restore_mirrors grid now sound⟩
  | execute now command _ ih =>
    exact ⟨execute_invariant Coherent.change ih.1 now command,
      execute_invariant Mirrors.change ih.2 now command⟩
  | outside same _ ih =>
    refine ⟨⟨ih.1.named, ih.1.paired, ih.1.reported⟩, ?_, ?_, ih.2.numbered⟩
    · intro id
      rw [same]
      exact ih.2.servers id
    · rw [same]
      exact ih.2.players
  | restart grid now _ ih =>
    have sound := ih.2.sound ih.1
    exact ⟨restore_coherent grid now sound.servers, restore_mirrors grid now sound⟩

theorem Course.lived {player : PlayerId} {target : ServerId} {start r : Registry σ}
    {first latest : PlayerRecord} (course : Course player target start first latest r)
    (lived : Lived start) : Lived r := by
  induction course with
  | start => exact lived
  | execute now command _ _ _ ih => exact ih.execute now command
  | outside same _ ih => exact ih.outside same
  | restart grid now _ ih => exact ih.restart grid now

/-- A player's entry, but for the position, and a server's registration, but for the heartbeat. -/
structure Stands (r : Registry σ) (player : PlayerId) (entry : PlayerEntry)
    (server : StoredServer) : Prop where
  entry : ∃ position, r.player? player =
    some { entry with record := { entry.record with position } }
  server : (r.servers[server.serverId]?).map (·.toStoredServer) = some server

theorem Course.stands [LawfulStore σ] {player : PlayerId} {start r : Registry σ}
    {first latest : PlayerRecord} {server : StoredServer}
    (course : Course player server.serverId start first latest r) (lived : Lived start)
    {owner : Option ServerId} {pending : Option PendingHandoff}
    (holder : (⟨first, owner, pending⟩ : PlayerEntry).holder = some server.serverId)
    (stands : start.Stands player ⟨first, owner, pending⟩ server) :
    r.Stands player ⟨latest, owner, pending⟩ server := by
  induction course with
  | start => exact stands
  | @execute latest r now command spares kept _ ih =>
    obtain ⟨⟨position, known⟩, registered⟩ := ih
    obtain ⟨s, found, same⟩ := Option.map_eq_some_iff.mp registered
    obtain ⟨s', after⟩ := Option.isSome_iff_exists.mp
      (Std.ExtTreeMap.isSome_getElem?_iff_mem.mpr kept)
    refine ⟨?_, ?_⟩
    · rw [execute_player?]
      cases (r.execute now command).1 with
      | error e =>
        rw [reported?_error]
        exact ⟨position, known⟩
      | ok answer =>
        -- The holder is the same whatever the record says.
        have held : (⟨latest, owner, pending⟩ : PlayerEntry).holder = some server.serverId := holder
        exact entryAfter_of_spares spares held known answer
    · rw [after, Option.map_some, execute_stored found after, same]
  | outside _ _ ih => exact ⟨ih.entry, ih.server⟩
  | restart grid now before ih =>
    obtain ⟨coherent, mirrors⟩ := (before.lived lived).sound
    rw [mirrors.restore_eq coherent grid now]
    refine ⟨ih.entry, ?_⟩
    rw [Std.ExtTreeMap.getElem?_map, Option.map_map]
    exact ih.server

theorem initiateTransfer_order {r r' : Registry σ} {id : PlayerId} {position : Vec2}
    {order : Option TransferDirective} (done : r.initiateTransfer id position = .ok (order, r')) :
    order = (r.player? id).bind fun entry =>
      (direct { entry with record := { entry.record with position } } (r.locate position)).2 := by
  unfold initiateTransfer at done
  split at done
  next unknown =>
    obtain ⟨kept, -, done⟩ := bind_eq_ok.mp done
    rw [unknown, ← (Prod.mk.inj (Except.ok.inj done)).1]
    rfl
  next entry found =>
    obtain ⟨kept, -, done⟩ := bind_eq_ok.mp done
    rw [found, ← (Prod.mk.inj (Except.ok.inj done)).1]
    rfl

/-- Asked about a position in its zone, a player's holder is told what is pending. -/
theorem Stands.order {r r' : Registry σ} {player : PlayerId} {entry : PlayerEntry}
    {server : StoredServer} (stands : r.Stands player entry server) (coherent : Coherent r)
    (holder : entry.holder = some server.serverId) {position : Vec2}
    (within : r.Within server.serverId position) {order : Option TransferDirective}
    (done : r.initiateTransfer player position = .ok (order, r')) :
    order = entry.pending.map fun handoff =>
      ⟨server.info, handoff.previous, { entry.record with position }⟩ := by
  obtain ⟨s, registered, inside⟩ := Option.map_eq_some_iff.mp within
  have stored : s.toStoredServer = server := by
    have kept := stands.server
    rw [show r.servers[server.serverId]? = some s from registered] at kept
    exact Option.some.inj kept
  have located : r.locate position = some server.info := by
    rw [coherent.locate_eq registered inside, ← stored]
  obtain ⟨last, known⟩ := stands.entry
  rw [initiateTransfer_order done, known, located]
  exact congrArg Prod.snd (if_pos holder)

theorem execute_initiateTransfer {r r' : Registry σ} {id : PlayerId} {position : Vec2}
    {order : Option TransferDirective} (done : r.initiateTransfer id position = .ok (order, r'))
    (now : Instant) : (r.execute now (.initiateTransfer id position)).2 = r' := by
  simp only [execute, settle, done]

theorem initiateTransfer_of_told {r : Registry σ} {id : PlayerId} {position : Vec2}
    {order : Option TransferDirective}
    (told : (r.initiateTransfer id position).toOption.map (·.1) = some order) (now : Instant) :
    r.initiateTransfer id position =
      .ok (order, (r.execute now (.initiateTransfer id position)).2) := by
  cases done : r.initiateTransfer id position with
  | error e =>
    rw [done] at told
    cases told
  | ok outcome =>
    obtain ⟨given, after⟩ := outcome
    rw [done] at told
    obtain rfl : given = order := Option.some.inj told
    rw [execute_initiateTransfer done]

theorem execute_completeTransfer {r r' : Registry σ} {id : PlayerId} {server : ServerId}
    (done : r.completeTransfer id server = .ok r') (now : Instant) :
    (r.execute now (.completeTransfer id server)).2 = r' := by
  simp only [execute, settleDone, done]

theorem Stands.of_order {r r' : Registry σ} (coherent : Coherent r) {player : PlayerId}
    {position : Vec2} {order : TransferDirective}
    (done : r.initiateTransfer player position = .ok (some order, r')) :
    ∃ owner server, server.info = order.target ∧ server.serverId = order.target.serverId ∧
      r'.Stands player
        ⟨order.player, owner, some ⟨order.target.serverId, order.previous⟩⟩ server := by
  obtain ⟨noted, after, pending, record⟩ : ∃ noted, r'.player? player = some noted ∧
      noted.pending = some ⟨order.target.serverId, order.previous⟩ ∧
      noted.record = order.player := by
    obtain ⟨entry, known, ordered⟩ := Option.bind_eq_some_iff.mp (initiateTransfer_order done).symm
    refine ⟨_, ?_, direct_pending ordered⟩
    rw [initiateTransfer_player? done, entryAfter, if_pos rfl, known]
  obtain ⟨servers, listed⟩ := initiateTransfer_listed done
  obtain ⟨id, s, registered, info⟩ := listed order rfl
  refine ⟨noted.owner, s.toStoredServer, info, congrArg ServerInfo.serverId info,
    ⟨order.player.position, ?_⟩, ?_⟩
  · rw [after, ← pending, ← record]
  · rw [servers, coherent.named registered, registered, Option.map_some]

/-- An order is given again, with the same target and previous server and with what is known of the
player by then, until it is confirmed; after that the player is at the target and no order is
given. -/
theorem orders_repeat_until_confirmed [LawfulStore σ] {r r₁ r₂ : Registry σ} {player : PlayerId}
    {position : Vec2} {order : TransferDirective} {latest : PlayerRecord} (lived : Lived r)
    (ordered : r.initiateTransfer player position = .ok (some order, r₁))
    (course : Course player order.target.serverId r₁ order.player latest r₂) :
    (∀ position answer r₃, r₂.Within order.target.serverId position →
      r₂.initiateTransfer player position = .ok (answer, r₃) →
      answer = some { order with player := { latest with position } }) ∧
    ∀ r₃ latest' r₄, r₂.completeTransfer player order.target.serverId = .ok r₃ →
      Course player order.target.serverId r₃ latest latest' r₄ →
      ∀ position answer r₅, r₄.Within order.target.serverId position →
        r₄.initiateTransfer player position = .ok (answer, r₅) → answer = none := by
  obtain ⟨owner, server, info, name, stands⟩ := Stands.of_order lived.sound.1 ordered
  have lived₁ : Lived r₁ := by
    rw [← execute_initiateTransfer ordered .start]
    exact lived.execute _ _
  have lived₂ := course.lived lived₁
  have holder : (⟨latest, owner, some ⟨order.target.serverId, order.previous⟩⟩ :
      PlayerEntry).holder = some server.serverId := congrArg some name.symm
  have stands₂ : r₂.Stands player
      ⟨latest, owner, some ⟨order.target.serverId, order.previous⟩⟩ server := by
    rw [← name] at course stands ⊢
    exact course.stands lived₁ rfl stands
  constructor
  · intro position answer r₃ within repeated
    rw [← name] at within
    rw [stands₂.order lived₂.sound.1 holder within repeated, Option.map_some, info]
  · intro r₃ latest' r₄ confirmed settled position answer r₅ within asked
    have lived₃ : Lived r₃ := by
      rw [← execute_completeTransfer confirmed .start]
      exact lived₂.execute _ _
    -- The confirmation makes the target the owner, which holds the player now as it did before.
    have stands₃ : r₃.Stands player ⟨latest, some server.serverId, none⟩ server := by
      obtain ⟨last, known⟩ := stands₂.entry
      refine ⟨⟨last, ?_⟩, ?_⟩
      · rw [completeTransfer_player? confirmed, entryAfter, if_pos rfl, known, name]
        rfl
      · rw [completeTransfer_servers confirmed]
        exact stands₂.server
    rw [← name] at settled within
    have stands₄ := settled.stands lived₃ rfl stands₃
    exact stands₄.order (settled.lived lived₃).sound.1 rfl within asked

def neighbours : Registry MemoryStore :=
  let r := restore .standard MemoryStore.empty .start
  let r := (r.execute .start (.registerServer ⟨"a"⟩ (.loopback 7001))).2
  let r := (r.execute .start (.registerServer ⟨"b"⟩ (.loopback 7002))).2
  (r.execute .start (.updatePlayer (.appearing 7 "ann" ⟨.ofInt 10, .ofInt 10⟩))).2

def orderToSecond : TransferDirective :=
  ⟨⟨⟨"b"⟩, .loopback 7002, ⟨1, 0⟩⟩, some ⟨"a"⟩, .appearing 7 "ann" ⟨.ofInt 510, .ofInt 10⟩⟩

def ordered : Registry MemoryStore :=
  (neighbours.execute .start (.initiateTransfer 7 ⟨.ofInt 510, .ofInt 10⟩)).2

/-- With the order given, the player is called by another name, and walks where nobody is. -/
def wandering : Registry MemoryStore :=
  let r := (ordered.execute .start
    (.updatePlayer (.appearing 7 "anna" ⟨.ofInt 520, .ofInt 10⟩))).2
  (r.execute .start (.initiateTransfer 7 ⟨.ofInt 5000, .ofInt 10⟩)).2

theorem order_repeats_after_restart :
    let restarted := restore .standard wandering.store .start
    Lived neighbours ∧
      neighbours.initiateTransfer 7 ⟨.ofInt 510, .ofInt 10⟩ = .ok (some orderToSecond, ordered) ∧
      Course 7 ⟨"b"⟩ ordered orderToSecond.player (.appearing 7 "anna" ⟨.ofInt 520, .ofInt 10⟩)
        restarted ∧
      restarted.Within ⟨"b"⟩ ⟨.ofInt 700, .ofInt 20⟩ ∧
      ∀ answer r, restarted.initiateTransfer 7 ⟨.ofInt 700, .ofInt 20⟩ = .ok (answer, r) →
        answer = some { orderToSecond with
          player := .appearing 7 "anna" ⟨.ofInt 700, .ofInt 20⟩ } := by
  have lived : Lived neighbours :=
    .execute _ _ (.execute _ _ (.execute _ _ (.start .standard .start rfl)))
  have directed : neighbours.initiateTransfer 7 ⟨.ofInt 510, .ofInt 10⟩ =
      .ok (some orderToSecond, ordered) :=
    initiateTransfer_of_told (by decide +kernel) .start
  have course : Course 7 ⟨"b"⟩ ordered orderToSecond.player
      (.appearing 7 "anna" ⟨.ofInt 520, .ofInt 10⟩) (restore .standard wandering.store .start) := by
    apply Course.restart
    have ordering : Course 7 ⟨"b"⟩ ordered orderToSecond.player orderToSecond.player ordered :=
      .start
    have renamed := ordering.execute .start
      (.updatePlayer (.appearing 7 "anna" ⟨.ofInt 520, .ofInt 10⟩)) trivial (by decide +kernel)
    have unowned : (ordered.execute .start
        (.updatePlayer (.appearing 7 "anna" ⟨.ofInt 520, .ofInt 10⟩))).2.locate
          ⟨.ofInt 5000, .ofInt 10⟩ = none := by
      decide +kernel
    exact renamed.execute .start (.initiateTransfer 7 ⟨.ofInt 5000, .ofInt 10⟩)
      (fun _ owner found => by rw [unowned] at found; cases found) (by decide +kernel)
  have within : (restore .standard wandering.store .start).Within ⟨"b"⟩
      ⟨.ofInt 700, .ofInt 20⟩ := by
    unfold Within
    decide +kernel
  refine ⟨lived, directed, course, within, ?_⟩
  intro answer r asked
  exact (orders_repeat_until_confirmed lived directed course).1 _ answer r within asked

end ShardedWorld.Registry
