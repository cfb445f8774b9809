import ShardedWorld.Proofs.Registry.Entries
import ShardedWorld.Proofs.Wire.Sizes

/-! How long the names in a registry are.

A registry knows only names that a command has brought to it, and those that it gives to players who
have none. So limits that all commands keep to, the registry keeps to.
-/

set_option autoImplicit false

namespace ShardedWorld

/-- How many bytes the names of servers and of players take at most. -/
structure Limits where
  server : Nat
  player : Nat

def Limits.Allows (limits : Limits) : Registry.Command → Prop
  | .registerServer id _ | .completeTransfer _ id => id.name.utf8ByteSize ≤ limits.server
  | .updatePlayer record => record.name.utf8ByteSize ≤ limits.player
  | _ => True

structure PlayerEntry.Bounded (limits : Limits) (entry : PlayerEntry) : Prop where
  record : entry.record.name.utf8ByteSize ≤ limits.player
  owner : ∀ id, entry.owner = some id → id.name.utf8ByteSize ≤ limits.server
  previous : ∀ handoff id, entry.pending = some handoff → handoff.previous = some id →
    id.name.utf8ByteSize ≤ limits.server

theorem PlayerEntry.Bounded.moved {limits : Limits} {entry : PlayerEntry}
    (bounded : entry.Bounded limits) (position : Vec2) :
    ({ entry with record := { entry.record with position } } : PlayerEntry).Bounded limits :=
  ⟨bounded.record, bounded.owner, bounded.previous⟩

structure Snapshot.Bounded (limits : Limits) (s : Snapshot) : Prop where
  servers : ∀ (id : ServerId) (stored : StoredServer), s.servers[id]? = some stored →
    stored.serverId.name.utf8ByteSize ≤ limits.server
  players : ∀ (id : PlayerId) (entry : PlayerEntry), s.players[id]? = some entry →
    entry.Bounded limits

structure TransferDirective.Bounded (limits : Limits) (directive : TransferDirective) : Prop where
  target : directive.target.serverId.name.utf8ByteSize ≤ limits.server
  previous : ∀ id, directive.previous = some id → id.name.utf8ByteSize ≤ limits.server
  player : directive.player.name.utf8ByteSize ≤ limits.player

namespace Registry

variable {σ : Type} {limits : Limits}

structure Bounded (limits : Limits) (r : Registry σ) : Prop where
  servers : ∀ info, r.Lists info → info.serverId.name.utf8ByteSize ≤ limits.server
  players : ∀ id entry, r.player? id = some entry → entry.Bounded limits

theorem Bounded.located {r : Registry σ} (bounded : r.Bounded limits) {position : Vec2}
    {id : ServerId} (owner : (r.locate position).map (·.serverId) = some id) :
    id.name.utf8ByteSize ≤ limits.server := by
  obtain ⟨info, found, rfl⟩ := Option.map_eq_some_iff.mp owner
  exact bounded.servers info (locate_listed found)

theorem direct_bounded {entry : PlayerEntry} (bounded : entry.Bounded limits)
    {target : Option ServerInfo}
    (known : ∀ info, target = some info → info.serverId.name.utf8ByteSize ≤ limits.server) :
    (direct entry target).1.Bounded limits ∧
      ∀ directive, (direct entry target).2 = some directive → directive.Bounded limits := by
  unfold direct
  split
  · exact ⟨bounded, nofun⟩
  next info =>
    split
    next here =>
      refine ⟨bounded, ?_⟩
      intro directive ordered
      -- An order that is repeated names the previous owner as of when it was given first.
      obtain ⟨handoff, pending, rfl⟩ := Option.map_eq_some_iff.mp ordered
      exact ⟨known info rfl, fun id => bounded.previous handoff id pending, bounded.record⟩
    next elsewhere =>
      refine ⟨⟨bounded.record, bounded.owner, ?_⟩, ?_⟩
      · rintro handoff id pending previous
        obtain rfl := Option.some.inj pending
        exact bounded.owner id previous
      · intro directive ordered
        obtain rfl := Option.some.inj ordered
        exact ⟨known info rfl, bounded.owner, bounded.record⟩

theorem Bounded.newcomer {r : Registry σ} (bounded : r.Bounded limits) {record : PlayerRecord}
    (short : record.name.utf8ByteSize ≤ limits.player) (position : Vec2) :
    (⟨record, (r.locate position).map (·.serverId), none⟩ : PlayerEntry).Bounded limits :=
  ⟨short, fun _ => bounded.located, nofun⟩

theorem Bounded.entryAfter {r : Registry σ} (bounded : r.Bounded limits)
    (roomy : 27 ≤ limits.player) {command : Command} (allowed : limits.Allows command)
    {player : PlayerId} {entry : PlayerEntry}
    (after : r.entryAfter player command = some entry) : entry.Bounded limits := by
  cases command with
  | initiateTransfer id position =>
    simp only [Registry.entryAfter] at after
    split at after
    next =>
      obtain rfl := Option.some.inj after
      split
      next unknown =>
        -- The registry itself names this player.
        have short : (PlayerRecord.defaultName player).utf8ByteSize ≤ limits.player :=
          Nat.le_trans (PlayerRecord.defaultName_size player) roomy
        exact @Bounded.newcomer _ _ _ bounded (.appearing player _ position) short position
      next entry found =>
        refine (direct_bounded ((bounded.players player entry found).moved position) ?_).1
        intro info located
        exact bounded.servers info (locate_listed located)
    next => exact bounded.players player entry after
  | completeTransfer id server =>
    simp only [Registry.entryAfter] at after
    split at after
    next =>
      obtain ⟨before, found, rfl⟩ := Option.map_eq_some_iff.mp after
      refine ⟨(bounded.players player before found).record, ?owner, ?previous⟩
      case owner =>
        intro id owner
        rw [← Option.some.inj owner]
        exact allowed
      case previous =>
        intro handoff id pending
        cases pending
    next => exact bounded.players player entry after
  | updatePlayer record =>
    simp only [Registry.entryAfter] at after
    split at after
    next =>
      obtain rfl := Option.some.inj after
      split
      next unknown => exact bounded.newcomer allowed record.position
      next entry found =>
        have before := bounded.players player entry found
        exact ⟨allowed, before.owner, before.previous⟩
    next => exact bounded.players player entry after
  | resetPlayers => cases after
  | registerServer | unregisterServer | heartbeat | evictStale | locate | reportZoneStats
  | aggregate => exact bounded.players player entry after

/-! Which servers there are after a command. -/

theorem lists_of_servers {r r' : Registry σ} (same : r'.servers = r.servers) {info : ServerInfo}
    (listed : r'.Lists info) : r.Lists info := by
  rwa [Lists, same] at listed

theorem lists_of_insert {r r' : Registry σ} {id : ServerId} {s : Registration}
    (entered : r'.servers = r.servers.insert id s) {info : ServerInfo} (listed : r'.Lists info) :
    r.Lists info ∨ s.info = info := by
  obtain ⟨other, s', found, rfl⟩ := listed
  rw [entered, Std.ExtTreeMap.getElem?_insert] at found
  split at found
  · exact .inr (congrArg (·.info) (Option.some.inj found))
  · exact .inl ⟨other, s', found, rfl⟩

theorem takeOverAll_lists {now : Instant} {entries : List (ServerId × StoredServer)}
    {r : Registry σ} {info : ServerInfo} (listed : (r.takeOverAll now entries).Lists info) :
    r.Lists info ∨ ∃ entry ∈ entries, entry.2.info = info := by
  induction entries generalizing r with
  | nil => exact .inl listed
  | cons first rest ih =>
    rcases ih listed with earlier | ⟨entry, member, stored⟩
    · change (r.takeOver now first.1 first.2).Lists info at earlier
      unfold takeOver at earlier
      split at earlier
      · exact .inl earlier
      · rcases lists_of_insert rfl earlier with before | taken
        · exact .inl before
        · exact .inr ⟨first, List.mem_cons_self, taken⟩
    · exact .inr ⟨entry, List.mem_cons_of_mem first member, stored⟩

private theorem settle_lists {α : Type} {r : Registry σ} {answer : α → Answer}
    {outcome : Except RegistryError (α × Registry σ)} {info : ServerInfo} {P : Prop}
    (before : r.Lists info → P)
    (done : ∀ a r', outcome = .ok (a, r') → r'.Lists info → P)
    (listed : (r.settle answer outcome).2.Lists info) : P := by
  match outcome with
  | .ok (a, r') => exact done a r' rfl listed
  | .error e => exact before listed

private theorem settleDone_lists {r : Registry σ}
    {outcome : Except RegistryError (Registry σ)} {info : ServerInfo} {P : Prop}
    (before : r.Lists info → P) (done : ∀ r', outcome = .ok r' → r'.Lists info → P)
    (listed : (r.settleDone outcome).2.Lists info) : P := by
  cases outcome with
  | ok r' => exact done r' rfl listed
  | error e => exact before listed

theorem heartbeat_lists {r r' : Registry σ} {id : ServerId} {now : Instant}
    (done : r.heartbeat id now = .ok r') {info : ServerInfo} (listed : r'.Lists info) :
    r.Lists info := by
  unfold heartbeat at done
  split at done
  · cases done
  next known registered =>
    rw [← Except.ok.inj done] at listed
    rcases lists_of_insert rfl listed with before | rfl
    · exact before
    · exact ⟨id, known, registered, rfl⟩

variable [Store σ]

theorem registerServer_lists {r r' : Registry σ} {id : ServerId} {endpoint : Address}
    {now : Instant} {zone : Zone} (done : r.registerServer id endpoint now = .ok (zone, r'))
    {info : ServerInfo} (listed : r'.Lists info) : r.Lists info ∨ info.serverId = id := by
  unfold registerServer at done
  split at done
  · rw [← (Prod.mk.inj (Except.ok.inj done)).2] at listed
    exact .inl listed
  · split at done
    · cases done
    · obtain ⟨claimed, outcome, done⟩ := bind_eq_ok.mp done
      obtain ⟨store, -, rfl⟩ := claim_eq_ok outcome
      rw [← (Prod.mk.inj (Except.ok.inj done)).2] at listed
      rcases lists_of_insert rfl listed with before | rfl
      · exact .inl before
      · exact .inr rfl

/-- The servers of a registry after a command were there before it or were registered by it. -/
theorem execute_lists {r : Registry σ} {now : Instant} {command : Command} {info : ServerInfo}
    (listed : (r.execute now command).2.Lists info) :
    r.Lists info ∨ ∃ endpoint, command = .registerServer info.serverId endpoint := by
  cases command with
  | registerServer id endpoint =>
    refine settle_lists .inl ?_ listed
    intro zone r' done listed
    rcases registerServer_lists done listed with before | rfl
    · exact .inl before
    · exact .inr ⟨endpoint, rfl⟩
  -- Whatever takes servers out lists fewer than before.
  | unregisterServer id =>
    refine settleDone_lists .inl ?_ listed
    rintro r' done ⟨other, s, found, rfl⟩
    exact .inl ⟨other, s, (unregisterServer_left done).2 found, rfl⟩
  | heartbeat id =>
    exact settleDone_lists .inl (fun _ done after => .inl (heartbeat_lists done after)) listed
  | evictStale timeout =>
    obtain ⟨other, s, found, rfl⟩ := listed
    exact .inl ⟨other, s, (r.unregisterAll_left _).2 found, rfl⟩
  | initiateTransfer id position =>
    refine settle_lists .inl ?_ listed
    exact fun _ _ done after => .inl (lists_of_servers (initiateTransfer_listed done).1 after)
  | completeTransfer id server =>
    refine settleDone_lists .inl ?_ listed
    exact fun _ done after => .inl (lists_of_servers (completeTransfer_servers done) after)
  | updatePlayer record =>
    refine settleDone_lists .inl ?_ listed
    intro r' done after
    unfold updatePlayer at done
    split at done
    all_goals exact .inl (lists_of_servers (keepPlayer_servers done) after)
  | resetPlayers =>
    refine settleDone_lists .inl ?_ listed
    intro r' done after
    obtain ⟨store, -, done⟩ := bind_eq_ok.mp done
    rw [← Except.ok.inj done] at after
    exact .inl after
  | reportZoneStats zone stats =>
    simp only [execute, reportZoneStats] at listed
    split at listed
    all_goals exact .inl listed
  | locate | aggregate => exact .inl listed

theorem restore_bounded (grid : Grid) {store : σ} (now : Instant)
    (bounded : (Store.snapshot store).Bounded limits) :
    (restore grid store now).Bounded limits := by
  rw [restore_eq_takeOverAll]
  constructor
  · intro info listed
    rcases takeOverAll_lists listed with ⟨id, s, found, -⟩ | ⟨⟨id, stored⟩, member, rfl⟩
    · simp [unserved] at found
    · exact bounded.servers id stored (Std.ExtTreeMap.mem_toList_iff_getElem?_eq_some.mp member)
  · intro id entry found
    rw [player?, (takeOverAll_keeps now _ _).2.2.1] at found
    exact bounded.players id entry found

theorem Bounded.execute {r : Registry σ} (bounded : r.Bounded limits) (roomy : 27 ≤ limits.player)
    (now : Instant) {command : Command} (allowed : limits.Allows command) :
    (r.execute now command).2.Bounded limits where
  servers := by
    intro info listed
    rcases execute_lists listed with before | ⟨endpoint, rfl⟩
    · exact bounded.servers info before
    · exact allowed
  players := by
    intro player entry found
    rw [execute_player?] at found
    split at found
    · exact bounded.entryAfter roomy allowed found
    · exact bounded.players player entry found

theorem Bounded.order {r r' : Registry σ} (bounded : r.Bounded limits) {id : PlayerId}
    {position : Vec2} {directive : TransferDirective}
    (done : r.initiateTransfer id position = .ok (some directive, r')) :
    directive.Bounded limits := by
  unfold initiateTransfer at done
  split at done
  next unknown =>
    obtain ⟨kept, -, done⟩ := bind_eq_ok.mp done
    cases done
  next entry found =>
    obtain ⟨kept, -, done⟩ := bind_eq_ok.mp done
    have moved := (bounded.players id entry found).moved position
    refine (direct_bounded moved ?_).2 directive (Prod.mk.inj (Except.ok.inj done)).1
    intro info located
    exact bounded.servers info (locate_listed located)

/-! Why a command fails. -/

inductive Failure (σ : Type) [Store σ] : RegistryError → Prop where
  | refused {store : σ} {next : Snapshot} {cause : StoreError} :
      Store.commit store next = .error cause → Failure σ (.persistence cause)
  | unknown (id : ServerId) : Failure σ (.unknownServer id)
  | stopped : Failure σ .stopped

theorem bind_eq_error {ε α β : Type} {first : Except ε α} {next : α → Except ε β} {e : ε} :
    first >>= next = .error e ↔ first = .error e ∨ ∃ a, first = .ok a ∧ next a = .error e := by
  cases first <;> simp [bind, Except.bind]

theorem Failure.written {store : σ} {next : Snapshot} {e : RegistryError}
    (failed : Registry.written (Store.commit store next) = .error e) : Failure σ e := by
  cases outcome : Store.commit store next with
  | ok taken =>
    rw [outcome, written_ok] at failed
    cases failed
  | error cause =>
    rw [outcome, written_error] at failed
    cases failed
    exact .refused outcome

theorem registerServer_fails {r : Registry σ} {id : ServerId} {endpoint : Address} {now : Instant}
    {e : RegistryError} (failed : r.registerServer id endpoint now = .error e) : Failure σ e := by
  unfold registerServer at failed
  split at failed
  · cases failed
  · split at failed
    · rw [← Except.error.inj failed]
      exact .stopped
    · rcases bind_eq_error.mp failed with failed | ⟨claimed, -, failed⟩
      · rcases bind_eq_error.mp failed with failed | ⟨store, -, failed⟩
        · exact .written failed
        · cases failed
      · cases failed

theorem unregisterServer_fails {r : Registry σ} {id : ServerId} {e : RegistryError}
    (failed : r.unregisterServer id = .error e) : Failure σ e := by
  unfold unregisterServer at failed
  split at failed
  · cases failed
  · rcases bind_eq_error.mp failed with failed | ⟨store, -, failed⟩
    · exact .written failed
    · cases failed

theorem heartbeat_fails {r : Registry σ} {id : ServerId} {now : Instant} {e : RegistryError}
    (failed : r.heartbeat id now = .error e) : Failure σ e := by
  unfold heartbeat at failed
  split at failed
  · rw [← Except.error.inj failed]
    exact .unknown id
  · cases failed

theorem unregisterAll_fails {r : Registry σ} {ids : List ServerId} {e : RegistryError}
    (failed : (r.unregisterAll ids).1 = .error e) : Failure σ e := by
  induction ids generalizing r with
  | nil => cases failed
  | cons id rest ih =>
    unfold unregisterAll at failed
    cases outcome : r.unregisterServer id with
    | error e' =>
      rw [outcome] at failed
      rw [← Except.error.inj failed]
      exact unregisterServer_fails outcome
    | ok freed =>
      rw [outcome] at failed
      exact ih failed

theorem keepPlayer_fails {r : Registry σ} {id : PlayerId} {entry : PlayerEntry}
    {e : RegistryError} (failed : r.keepPlayer id entry = .error e) : Failure σ e := by
  rcases bind_eq_error.mp failed with failed | ⟨store, -, failed⟩
  · exact .written failed
  · cases failed

theorem initiateTransfer_fails {r : Registry σ} {id : PlayerId} {position : Vec2}
    {e : RegistryError} (failed : r.initiateTransfer id position = .error e) : Failure σ e := by
  unfold initiateTransfer at failed
  split at failed
  all_goals
    rcases bind_eq_error.mp failed with failed | ⟨kept, -, failed⟩
    · exact keepPlayer_fails failed
    · cases failed

theorem completeTransfer_fails {r : Registry σ} {id : PlayerId} {server : ServerId}
    {e : RegistryError} (failed : r.completeTransfer id server = .error e) : Failure σ e := by
  unfold completeTransfer at failed
  split at failed
  · cases failed
  · split at failed
    · cases failed
    · exact keepPlayer_fails failed

theorem updatePlayer_fails {r : Registry σ} {record : PlayerRecord} {e : RegistryError}
    (failed : r.updatePlayer record = .error e) : Failure σ e := by
  unfold updatePlayer at failed
  split at failed
  all_goals exact keepPlayer_fails failed

theorem resetPlayers_fails {r : Registry σ} {e : RegistryError}
    (failed : r.resetPlayers = .error e) : Failure σ e := by
  rcases bind_eq_error.mp failed with failed | ⟨store, -, failed⟩
  · exact .written failed
  · cases failed

theorem aggregate_fails {r : Registry σ} {generatedAt : UInt64} {e : RegistryError}
    (failed : r.aggregate generatedAt = .error e) : Failure σ e := by
  unfold aggregate at failed
  dsimp only at failed
  split at failed
  · cases failed
  · rw [← Except.error.inj failed]
    exact .stopped

private theorem settle_fails {α : Type} {r : Registry σ} {answer : α → Answer}
    {outcome : Except RegistryError (α × Registry σ)} {e : RegistryError}
    (fails : ∀ e, outcome = .error e → Failure σ e)
    (failed : (r.settle answer outcome).1 = .error e) : Failure σ e := by
  match outcome with
  | .ok (a, r') => cases failed
  | .error e' =>
    rw [← Except.error.inj failed]
    exact fails e' rfl

private theorem settleDone_fails {r : Registry σ}
    {outcome : Except RegistryError (Registry σ)} {e : RegistryError}
    (fails : ∀ e, outcome = .error e → Failure σ e)
    (failed : (r.settleDone outcome).1 = .error e) : Failure σ e := by
  cases outcome with
  | ok r' => cases failed
  | error e' =>
    rw [← Except.error.inj failed]
    exact fails e' rfl

theorem execute_fails {r : Registry σ} {now : Instant} {command : Command} {e : RegistryError}
    (failed : (r.execute now command).1 = .error e) : Failure σ e := by
  cases command with
  | registerServer id endpoint => exact settle_fails (fun _ => registerServer_fails) failed
  | unregisterServer id => exact settleDone_fails (fun _ => unregisterServer_fails) failed
  | heartbeat id => exact settleDone_fails (fun _ => heartbeat_fails) failed
  | evictStale timeout =>
    simp only [execute, evictStale] at failed
    cases outcome : (r.unregisterAll (r.staleServers now timeout)).1 with
    | error e' =>
      simp only [outcome, Except.map, Except.error.injEq] at failed
      rw [← failed]
      exact unregisterAll_fails outcome
    | ok gone => simp [outcome, Except.map] at failed
  | initiateTransfer id position => exact settle_fails (fun _ => initiateTransfer_fails) failed
  | completeTransfer id server => exact settleDone_fails (fun _ => completeTransfer_fails) failed
  | updatePlayer record => exact settleDone_fails (fun _ => updatePlayer_fails) failed
  | resetPlayers => exact settleDone_fails (fun _ => resetPlayers_fails) failed
  | locate | reportZoneStats => cases failed
  | aggregate generatedAt =>
    simp only [execute] at failed
    cases outcome : r.aggregate generatedAt with
    | error e' =>
      simp only [outcome, Except.map, Except.error.injEq] at failed
      rw [← failed]
      exact aggregate_fails outcome
    | ok stats => simp [outcome, Except.map] at failed

end Registry

end ShardedWorld
