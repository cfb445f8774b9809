import ShardedWorld.Proofs.Registry.Ownership

/-! A registry and its store say the same.

Every change is in the store before it is made in memory, so a refused write leaves both as they
were, and a registry that starts again from the store is the one that was left, but for heartbeats
and statistics.
-/

set_option autoImplicit false

namespace ShardedWorld

/-- A store that takes a snapshot over holds this snapshot afterwards. -/
class LawfulStore (σ : Type) [Store σ] : Prop where
  snapshot_of_commit : ∀ {store taken : σ} {next : Snapshot},
    Store.commit store next = .ok taken → Store.snapshot taken = next

instance : LawfulStore MemoryStore where
  snapshot_of_commit {store taken next} done := by
    simp only [Store.commit] at done
    split at done
    · cases done
    · rw [← Except.ok.inj done]
      rfl

instance : LawfulStore FileStore where
  snapshot_of_commit {store taken next} done := by
    simp only [Store.commit, FileStore.commitBy] at done
    split at done
    · cases done
    · rw [← Except.ok.inj done]
      rfl

instance : LawfulStore SnapshotStore where
  snapshot_of_commit {store taken next} done := by
    cases store with
    | memory store =>
      change (Store.commit store next).map _ = _ at done
      cases committed : Store.commit store next with
      | error e =>
        rw [committed] at done
        cases done
      | ok kept =>
        rw [committed] at done
        have same := LawfulStore.snapshot_of_commit committed
        rw [← Except.ok.inj done]
        exact same
    | file store =>
      change (Store.commit store next).map _ = _ at done
      cases committed : Store.commit store next with
      | error e =>
        rw [committed] at done
        cases done
      | ok kept =>
        rw [committed] at done
        have same := LawfulStore.snapshot_of_commit committed
        rw [← Except.ok.inj done]
        exact same

/-- A snapshot as registries write them: everything stands under its own name or number, and no two
servers stand for one zone. -/
structure Snapshot.Sound (s : Snapshot) : Prop where
  servers : s.NamesServers
  players : ∀ (id : PlayerId) (entry : PlayerEntry), s.players[id]? = some entry →
    entry.record.playerId = id
  zones : ∀ (id id' : ServerId) (a b : StoredServer), s.servers[id]? = some a →
    s.servers[id']? = some b → a.zone = b.zone → id = id'

namespace Registry

variable {σ : Type}

/-- Memory and store agree on all that lasts. -/
structure Mirrors [Store σ] (r : Registry σ) : Prop where
  servers : ∀ id : ServerId,
    (Store.snapshot r.store).servers[id]? = (r.servers[id]?).map (·.toStoredServer)
  players : (Store.snapshot r.store).players = r.players
  numbered : ∀ (id : PlayerId) (entry : PlayerEntry), r.players[id]? = some entry →
    entry.record.playerId = id

structure MirrorsPlayers [Store σ] (r : Registry σ) : Prop where
  players : (Store.snapshot r.store).players = r.players
  numbered : ∀ (id : PlayerId) (entry : PlayerEntry), r.players[id]? = some entry →
    entry.record.playerId = id

theorem MirrorsPlayers.change [Store σ] [LawfulStore σ] {r r' : Registry σ} (change : Change r r')
    (mirrors : MirrorsPlayers r) : MirrorsPlayers r' := by
  cases change with
  | claim now unknown free taken =>
    refine ⟨?_, mirrors.numbered⟩
    rw [LawfulStore.snapshot_of_commit taken]
    exact mirrors.players
  | release found taken =>
    refine ⟨?_, mirrors.numbered⟩
    rw [LawfulStore.snapshot_of_commit taken]
    exact mirrors.players
  | beat now found => exact ⟨mirrors.players, mirrors.numbered⟩
  | @keep id entry store named taken =>
    -- Memory keeps the entry under `id`, the store under the number in its record.
    have number : entry.record.playerId = id := by
      rcases named with same | ⟨old, found, same⟩
      · exact same
      · exact same.trans (mirrors.numbered id old found)
    refine ⟨?_, ?_⟩
    · rw [LawfulStore.snapshot_of_commit taken]
      simp only [Snapshot.putPlayer, number, mirrors.players]
    · intro other kept found
      rw [Std.ExtTreeMap.getElem?_insert] at found
      split at found
      next same =>
        rw [← Option.some.inj found, number]
        exact Std.LawfulEqOrd.eq_of_compare same
      · exact mirrors.numbered other kept found
  | reset taken =>
    refine ⟨?_, ?_⟩
    · rw [LawfulStore.snapshot_of_commit taken]
      rfl
    · intro id entry found
      simp at found
  | report stats owned => exact ⟨mirrors.players, mirrors.numbered⟩

theorem Mirrors.change [Store σ] [LawfulStore σ] {r r' : Registry σ} (change : Change r r')
    (mirrors : Mirrors r) : Mirrors r' := by
  have players := MirrorsPlayers.change change ⟨mirrors.players, mirrors.numbered⟩
  refine ⟨?_, players.players, players.numbered⟩
  cases change with
  | claim now unknown free taken =>
    intro id
    simp only [LawfulStore.snapshot_of_commit taken, Snapshot.putServer,
      Std.ExtTreeMap.getElem?_insert]
    split
    · rfl
    · exact mirrors.servers id
  | release found taken =>
    intro other
    simp only [LawfulStore.snapshot_of_commit taken, Snapshot.removeServer,
      Std.ExtTreeMap.getElem?_erase]
    split
    · rfl
    · exact mirrors.servers other
  | beat now found =>
    -- A heartbeat is not stored, and changes nothing of the registration that is.
    intro other
    rw [mirrors.servers, Std.ExtTreeMap.getElem?_insert]
    split
    next same =>
      rw [← Std.LawfulEqOrd.eq_of_compare same, found]
      rfl
    · rfl
  | keep named taken =>
    rw [LawfulStore.snapshot_of_commit taken]
    exact mirrors.servers
  | reset taken =>
    rw [LawfulStore.snapshot_of_commit taken]
    exact mirrors.servers
  | report stats owned => exact mirrors.servers

/-! Starting from a sound snapshot. -/

theorem takeOver_of_free {r : Registry σ} (now : Instant) (id : ServerId) {stored : StoredServer}
    (free : r.zones[stored.zone]? = none) :
    r.takeOver now id stored = { r with
      zones := r.zones.insert stored.zone id
      servers := r.servers.insert id { stored with lastHeartbeat := now } } := by
  unfold takeOver
  rw [if_neg]
  simpa using free

theorem takeOverAll_servers_of_unlisted (now : Instant) {entries : List (ServerId × StoredServer)}
    {id : ServerId} (unlisted : ∀ entry ∈ entries, entry.1 ≠ id) (r : Registry σ) :
    (r.takeOverAll now entries).servers[id]? = r.servers[id]? := by
  induction entries generalizing r with
  | nil => rfl
  | cons first rest ih =>
    refine (ih ?_ (r.takeOver now first.1 first.2)).trans ?_
    · intro entry member
      exact unlisted entry (List.mem_cons_of_mem first member)
    · exact takeOver_servers_of_ne r now first.2 (unlisted first (by simp))

theorem takeOverAll_servers_of_listed (now : Instant) {entries : List (ServerId × StoredServer)}
    (distinct : entries.Pairwise fun a b => a.1 ≠ b.1 ∧ a.2.zone ≠ b.2.zone) {r : Registry σ}
    (free : ∀ entry ∈ entries, r.zones[entry.2.zone]? = none) {id : ServerId}
    {stored : StoredServer} (listed : (id, stored) ∈ entries) :
    (r.takeOverAll now entries).servers[id]? = some { stored with lastHeartbeat := now } := by
  induction entries generalizing r with
  | nil => cases listed
  | cons first rest ih =>
    obtain ⟨apart, distinct⟩ := List.pairwise_cons.mp distinct
    have taken := takeOver_of_free now first.1 (free first (by simp))
    rcases List.mem_cons.mp listed with rfl | listed
    · refine (takeOverAll_servers_of_unlisted now ?_ (r.takeOver now id stored)).trans ?_
      · intro entry member
        exact (apart entry member).1.symm
      · simp [taken]
    · apply ih distinct _ listed
      intro entry member
      show (r.takeOver now first.1 first.2).zones[entry.2.zone]? = none
      rw [taken]
      simp [Std.ExtTreeMap.getElem?_insert, (apart entry member).2,
        free entry (List.mem_cons_of_mem first member)]

theorem restore_servers [Store σ] (grid : Grid) {store : σ} (now : Instant)
    (sound : (Store.snapshot store).Sound) :
    (restore grid store now).servers =
      (Store.snapshot store).servers.map fun _ s => { s with lastHeartbeat := now } := by
  rw [restore_eq_takeOverAll]
  apply Std.ExtTreeMap.ext_getElem?
  intro id
  rw [Std.ExtTreeMap.getElem?_map]
  cases found : (Store.snapshot store).servers[id]? with
  | none =>
    refine (takeOverAll_servers_of_unlisted now ?_ _).trans ?_
    · rintro ⟨other, stored⟩ member same
      have listed := Std.ExtTreeMap.mem_toList_iff_getElem?_eq_some.mp member
      simp only at same
      rw [same, found] at listed
      cases listed
    · simp [unserved]
  | some stored =>
    -- No entry is passed over, because no two of them stand for one zone.
    apply takeOverAll_servers_of_listed now
    · apply (entries_distinct (Store.snapshot store).servers).imp_of_mem
      rintro ⟨first, a⟩ ⟨second, b⟩ listedFirst listedSecond different
      refine ⟨different, fun same => different ?_⟩
      exact sound.zones first second a b
        (Std.ExtTreeMap.mem_toList_iff_getElem?_eq_some.mp listedFirst)
        (Std.ExtTreeMap.mem_toList_iff_getElem?_eq_some.mp listedSecond) same
    · intro entry _
      simp [unserved]
    · exact Std.ExtTreeMap.mem_toList_iff_getElem?_eq_some.mpr found

theorem takeOverAll_keeps (now : Instant) (entries : List (ServerId × StoredServer))
    (r : Registry σ) :
    (r.takeOverAll now entries).grid = r.grid ∧ (r.takeOverAll now entries).store = r.store ∧
      (r.takeOverAll now entries).players = r.players ∧
      (r.takeOverAll now entries).zoneStats = r.zoneStats := by
  induction entries generalizing r with
  | nil => exact ⟨rfl, rfl, rfl, rfl⟩
  | cons first rest ih =>
    have same : (r.takeOver now first.1 first.2).grid = r.grid ∧
        (r.takeOver now first.1 first.2).store = r.store ∧
        (r.takeOver now first.1 first.2).players = r.players ∧
        (r.takeOver now first.1 first.2).zoneStats = r.zoneStats := by
      unfold takeOver
      split <;> exact ⟨rfl, rfl, rfl, rfl⟩
    obtain ⟨grid, store, players, stats⟩ := ih (r.takeOver now first.1 first.2)
    exact ⟨grid.trans same.1, store.trans same.2.1, players.trans same.2.2.1,
      stats.trans same.2.2.2⟩

theorem Coherent.zones_determined {r r' : Registry σ} (coherent : Coherent r)
    (coherent' : Coherent r')
    (same : ∀ id : ServerId, (r.servers[id]?).map (·.zone) = (r'.servers[id]?).map (·.zone)) :
    r.zones = r'.zones := by
  apply Std.ExtTreeMap.ext_getElem?
  intro zone
  apply Option.ext
  intro id
  have lookup (q : Registry σ) : (∃ s : Registration, q.servers[id]? = some s ∧ s.zone = zone) ↔
      (q.servers[id]?).map (·.zone) = some zone := by
    simp [Option.map_eq_some_iff]
  rw [coherent.paired, coherent'.paired, lookup, lookup, same]

theorem Mirrors.sound [Store σ] {r : Registry σ} (mirrors : Mirrors r) (coherent : Coherent r) :
    (Store.snapshot r.store).Sound := by
  have origin {id : ServerId} {server : StoredServer}
      (found : (Store.snapshot r.store).servers[id]? = some server) :
      ∃ s : Registration, r.servers[id]? = some s ∧ s.toStoredServer = server := by
    rw [mirrors.servers] at found
    exact Option.map_eq_some_iff.mp found
  refine ⟨?_, ?_, ?_⟩
  · intro id server found
    obtain ⟨s, registered, rfl⟩ := origin found
    exact coherent.named registered
  · rw [mirrors.players]
    exact mirrors.numbered
  · intro id id' a b first second same
    obtain ⟨s, registered, rfl⟩ := origin first
    obtain ⟨s', registered', rfl⟩ := origin second
    exact coherent.zone_injective registered registered' same

theorem restore_mirrors [Store σ] (grid : Grid) {store : σ} (now : Instant)
    (sound : (Store.snapshot store).Sound) : Mirrors (restore grid store now) := by
  have servers := restore_servers grid now sound
  rw [restore_eq_takeOverAll] at servers ⊢
  obtain ⟨-, kept, players, -⟩ := takeOverAll_keeps now (Store.snapshot store).servers.toList
    (unserved grid store (Store.snapshot store).players)
  refine ⟨?_, ?_, ?_⟩
  · intro id
    rw [servers, kept, Std.ExtTreeMap.getElem?_map, Option.map_map]
    exact Option.map_id'.symm
  · rw [kept, players]
    rfl
  · rw [players]
    exact sound.players

/-- Starting again from the store gives the same registry with fresh heartbeats and without
statistics. -/
theorem Mirrors.restore_eq [Store σ] {r : Registry σ} (mirrors : Mirrors r) (coherent : Coherent r)
    (grid : Grid) (now : Instant) :
    restore grid r.store now = { r with
      grid
      servers := r.servers.map fun _ s => { s with lastHeartbeat := now }
      zoneStats := ∅ } := by
  have sound := mirrors.sound coherent
  have servers : (restore grid r.store now).servers =
      r.servers.map fun _ s => { s with lastHeartbeat := now } := by
    rw [restore_servers grid now sound]
    apply Std.ExtTreeMap.ext_getElem?
    intro id
    simp only [Std.ExtTreeMap.getElem?_map, mirrors.servers, Option.map_map]
    rfl
  -- Both are coherent and have the same registrations, so they have the same zones.
  have zones : (restore grid r.store now).zones = r.zones := by
    apply (restore_coherent grid now sound.servers).zones_determined coherent
    intro id
    rw [servers, Std.ExtTreeMap.getElem?_map, Option.map_map]
    rfl
  have kept := takeOverAll_keeps now (Store.snapshot r.store).servers.toList
    (unserved grid r.store (Store.snapshot r.store).players)
  rw [← restore_eq_takeOverAll] at kept
  obtain ⟨grid', store, players, stats⟩ := kept
  generalize restore grid r.store now = restored at *
  cases restored
  cases r
  simp_all [unserved, mirrors.players]

/-! Refused writes. -/

theorem settle_error {α : Type} {r : Registry σ} {answer : α → Answer}
    {outcome : Except RegistryError (α × Registry σ)} {e : RegistryError}
    (failed : (r.settle answer outcome).1 = .error e) : (r.settle answer outcome).2 = r := by
  match outcome with
  | .ok (a, r') => cases failed
  | .error e => rfl

theorem settleDone_error {r : Registry σ} {outcome : Except RegistryError (Registry σ)}
    {e : RegistryError} (failed : (r.settleDone outcome).1 = .error e) :
    (r.settleDone outcome).2 = r := by
  cases outcome with
  | ok r' => cases failed
  | error e => rfl

theorem MemoryStore.commit_cases (store : MemoryStore) (next : Snapshot) :
    (store.failWrites = true ∧
        Store.commit store next = .error (.unavailable "writes disabled")) ∨
      (store.failWrites = false ∧
        Store.commit store next = .ok { store with snapshot := next }) := by
  cases refuses : store.failWrites <;> simp [Store.commit, refuses]

theorem unregisterServer_of_refusing {r r' : Registry MemoryStore} {id : ServerId}
    (refuses : r.store.failWrites = true) (done : r.unregisterServer id = .ok r') : r' = r := by
  unfold unregisterServer at done
  split at done
  · exact (Except.ok.inj done).symm
  next known found =>
    rcases MemoryStore.commit_cases r.store (r.store.snapshot.removeServer id) with
      ⟨-, outcome⟩ | ⟨takes, -⟩
    · have refused : Store.removeServer r.store id = .error (.unavailable "writes disabled") :=
        outcome
      rw [refused, written_error] at done
      cases done
    · rw [refuses] at takes
      cases takes

theorem unregisterAll_of_refusing {r : Registry MemoryStore} (refuses : r.store.failWrites = true)
    (ids : List ServerId) : (r.unregisterAll ids).2 = r := by
  induction ids with
  | nil => rfl
  | cons id rest ih =>
    unfold unregisterAll
    cases outcome : r.unregisterServer id with
    | error e => rfl
    | ok r' =>
      rw [unregisterServer_of_refusing refuses outcome]
      exact ih

theorem unregisterServer_of_taking {r : Registry MemoryStore} (takes : r.store.failWrites = false)
    (id : ServerId) :
    ∃ r', r.unregisterServer id = .ok r' ∧ r'.store.failWrites = false := by
  unfold unregisterServer
  split
  · exact ⟨r, rfl, takes⟩
  next known found =>
    rcases MemoryStore.commit_cases r.store (r.store.snapshot.removeServer id) with
      ⟨refuses, -⟩ | ⟨-, outcome⟩
    · rw [takes] at refuses
      cases refuses
    · have taken : Store.removeServer r.store id =
          .ok { r.store with snapshot := r.store.snapshot.removeServer id } := outcome
      rw [taken]
      exact ⟨_, rfl, takes⟩

theorem unregisterAll_of_taking {r : Registry MemoryStore} (takes : r.store.failWrites = false)
    (ids : List ServerId) : (r.unregisterAll ids).1 = .ok () := by
  induction ids generalizing r with
  | nil => rfl
  | cons id rest ih =>
    obtain ⟨r', outcome, takes'⟩ := unregisterServer_of_taking takes id
    unfold unregisterAll
    rw [outcome]
    exact ih takes'

/-- An operation that fails leaves everything as it was, the eviction of many servers included. -/
theorem execute_error {r : Registry MemoryStore} {now : Instant} {command : Command}
    {e : RegistryError} (failed : (r.execute now command).1 = .error e) :
    (r.execute now command).2 = r := by
  cases command with
  | registerServer id endpoint => exact settle_error failed
  | unregisterServer id => exact settleDone_error failed
  | heartbeat id => exact settleDone_error failed
  | evictStale timeout =>
    simp only [execute, evictStale] at failed ⊢
    -- A failure comes at the first server that is evicted, or not at all.
    cases refuses : r.store.failWrites with
    | true => exact unregisterAll_of_refusing refuses _
    | false =>
      rw [unregisterAll_of_taking refuses] at failed
      cases failed
  | initiateTransfer id position => exact settle_error failed
  | completeTransfer id server => exact settleDone_error failed
  | updatePlayer record => exact settleDone_error failed
  | resetPlayers => exact settleDone_error failed
  | locate position => cases failed
  | reportZoneStats zone stats => cases failed
  | aggregate generatedAt => rfl

/-! Every history. -/

/-- Memory and store agree; an operation that fails changes nothing; and whoever starts again from
the store finds the same servers, zones and players. -/
structure WrittenThrough (r : Registry MemoryStore) : Prop where
  servers : (r.servers.map fun _ s => s.toStoredServer) = r.store.snapshot.servers
  players : r.players = r.store.snapshot.players
  atomic : ∀ (now : Instant) (command : Command) (e : RegistryError),
    (r.execute now command).1 = .error e → (r.execute now command).2 = r
  restart : ∀ (grid : Grid) (now : Instant), restore grid r.store now = { r with
    grid
    servers := r.servers.map fun _ s => { s with lastHeartbeat := now }
    zoneStats := ∅ }

/-- The store keeps its snapshot, but may from now on refuse writes or take them. -/
def Switched (before after : MemoryStore) : Prop := after.snapshot = before.snapshot

theorem Reaches.mirrors {start r : Registry MemoryStore} (run : Reaches Switched start r)
    (initial : Mirrors start) : Mirrors r := by
  apply run.invariant initial Mirrors.change
  intro a store switched held
  have same : Store.snapshot store = Store.snapshot a.store := switched
  refine ⟨?_, ?_, held.numbered⟩
  · intro id
    rw [same]
    exact held.servers id
  · rw [same]
    exact held.players

/-- A registry that starts from a sound snapshot is written through at any time, whenever writes
are refused. -/
theorem histories_written_through (grid : Grid) {store : MemoryStore} (now : Instant)
    {r : Registry MemoryStore} (sound : store.snapshot.Sound)
    (run : Reaches Switched (restore grid store now) r) : WrittenThrough r := by
  have coherent := run.coherent (restore_coherent grid now sound.servers)
  have mirrors := run.mirrors (restore_mirrors grid now sound)
  refine ⟨?_, mirrors.players.symm, ?_, ?_⟩
  · apply Std.ExtTreeMap.ext_getElem?
    intro id
    rw [Std.ExtTreeMap.getElem?_map]
    exact (mirrors.servers id).symm
  · intro now command e failed
    exact execute_error failed
  · intro grid now
    exact mirrors.restore_eq coherent grid now

theorem sound_empty : Snapshot.empty.Sound := by
  refine ⟨?_, ?_, ?_⟩
  · intro id server found
    simp [Snapshot.empty] at found
  · intro id entry found
    simp [Snapshot.empty] at found
  · intro id id' a b found
    simp [Snapshot.empty] at found

/-- A store that took the registration of one server and then refuses writes. -/
def refusingRegistry : Registry MemoryStore :=
  let r := ((restore .standard MemoryStore.empty .start).execute .start
    (.registerServer ⟨"a"⟩ (.loopback 7001))).2
  { r with store := { r.store with failWrites := true } }

theorem refused_eviction_written_through :
    Snapshot.empty.Sound ∧
      WrittenThrough (refusingRegistry.execute (Instant.start.after (.ofSeconds 9))
        (.evictStale (.ofSeconds 1))).2 :=
  ⟨sound_empty, histories_written_through .standard .start sound_empty
    (.execute _ _ (.outside rfl (.execute .start _ .start)))⟩

end Registry

end ShardedWorld
