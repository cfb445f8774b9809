import ShardedWorld.Proofs.Registry.Changes

/-! Every zone has one owner.

The zones of a registry and its registrations are inverse to each other in every history, whatever
the store it started from assigned and whichever writes failed.
-/

set_option autoImplicit false

namespace ShardedWorld

def Snapshot.NamesServers (s : Snapshot) : Prop :=
  ∀ (id : ServerId) (server : StoredServer), s.servers[id]? = some server → server.serverId = id

theorem Snapshot.NamesServers.putServer {s : Snapshot} (names : s.NamesServers)
    (server : StoredServer) : (s.putServer server).NamesServers := by
  intro id kept found
  simp only [Snapshot.putServer, Std.ExtTreeMap.getElem?_insert] at found
  split at found
  next same =>
    rw [← Option.some.inj found]
    exact Std.LawfulEqOrd.eq_of_compare same
  · exact names id kept found

namespace Registry

variable {σ : Type}

/-- What every change keeps: registrations stand under their names, a zone is entered for a server
exactly if the server is registered for it, and statistics are kept of entered zones only. -/
structure Coherent (r : Registry σ) : Prop where
  named : ∀ {id : ServerId} {s : Registration}, r.servers[id]? = some s → s.serverId = id
  paired : ∀ {zone : Zone} {id : ServerId},
    r.zones[zone]? = some id ↔ ∃ s : Registration, r.servers[id]? = some s ∧ s.zone = zone
  reported : ∀ {zone : Zone}, zone ∈ r.zoneStats → zone ∈ r.zones

/-- Each zone has at most one owner, and each registration owns its zone. -/
structure SingleOwner (r : Registry σ) : Prop where
  inverse : ∀ (zone : Zone) (id : ServerId), r.zones[zone]? = some id ↔
    ∃ s : Registration, r.servers[id]? = some s ∧ s.serverId = id ∧ s.zone = zone
  distinct : ∀ (id id' : ServerId) (s s' : Registration), r.servers[id]? = some s →
    r.servers[id']? = some s' → s.zone = s'.zone → id = id' ∧ s = s'
  owner : ∀ (zone : Zone) (s : Registration), r.ownerOf? zone = some s ↔
    (∃ id : ServerId, r.servers[id]? = some s) ∧ s.zone = zone
  entered : ∀ (id : ServerId) (s : Registration), r.servers[id]? = some s →
    r.zones[s.zone]? = some id
  resolved : ∀ (zone : Zone) (id : ServerId), r.zones[zone]? = some id →
    ∃ s, r.server? id = some s
  reported : ∀ zone : Zone, zone ∈ r.zoneStats → ∃ s, r.ownerOf? zone = some s

namespace Coherent

theorem zone_injective {r : Registry σ} (coherent : Coherent r) {id id' : ServerId}
    {s s' : Registration} (first : r.servers[id]? = some s) (second : r.servers[id']? = some s')
    (same : s.zone = s'.zone) : id = id' := by
  have left := coherent.paired.mpr ⟨s, first, rfl⟩
  have right := coherent.paired.mpr ⟨s', second, rfl⟩
  rw [same, right] at left
  exact (Option.some.inj left).symm

theorem owner_iff {r : Registry σ} (coherent : Coherent r) {zone : Zone} {s : Registration} :
    r.ownerOf? zone = some s ↔ (∃ id : ServerId, r.servers[id]? = some s) ∧ s.zone = zone := by
  simp only [ownerOf?, server?, Option.bind_eq_some_iff]
  constructor
  · rintro ⟨id, entered, found⟩
    obtain ⟨other, registered, place⟩ := coherent.paired.mp entered
    rw [found] at registered
    exact ⟨⟨id, found⟩, Option.some.inj registered ▸ place⟩
  · rintro ⟨⟨id, found⟩, place⟩
    exact ⟨id, coherent.paired.mpr ⟨s, found, place⟩, found⟩

theorem singleOwner {r : Registry σ} (coherent : Coherent r) : SingleOwner r where
  inverse zone id := by
    rw [coherent.paired]
    constructor
    · rintro ⟨s, found, place⟩
      exact ⟨s, found, coherent.named found, place⟩
    · rintro ⟨s, found, _, place⟩
      exact ⟨s, found, place⟩
  distinct id id' s s' first second same := by
    have names := coherent.zone_injective first second same
    rw [names, second] at first
    exact ⟨names, (Option.some.inj first).symm⟩
  owner _ _ := coherent.owner_iff
  entered id s found := coherent.paired.mpr ⟨s, found, rfl⟩
  resolved zone id entered := by
    obtain ⟨s, found, _⟩ := coherent.paired.mp entered
    exact ⟨s, found⟩
  reported zone kept := by
    have entered := coherent.reported kept
    obtain ⟨id, found⟩ := Option.isSome_iff_exists.mp
      (Std.ExtTreeMap.isSome_getElem?_iff_mem.mpr entered)
    obtain ⟨s, registered, place⟩ := coherent.paired.mp found
    exact ⟨s, coherent.owner_iff.mpr ⟨⟨id, registered⟩, place⟩⟩

theorem enter {r : Registry σ} (coherent : Coherent r) {stored : StoredServer} (store : σ)
    (now : Instant) (unknown : r.servers[stored.serverId]? = none)
    (free : r.zones[stored.zone]? = none) :
    Coherent { r with
      store
      zones := r.zones.insert stored.zone stored.serverId
      servers := r.servers.insert stored.serverId { stored with lastHeartbeat := now } } where
  named {id s} found := by
    rw [Std.ExtTreeMap.getElem?_insert] at found
    split at found
    next same =>
      rw [← Option.some.inj found]
      exact Std.LawfulEqOrd.eq_of_compare same
    · exact coherent.named found
  paired {zone id} := by
    simp only [Std.ExtTreeMap.getElem?_insert, Std.compare_eq_iff_eq]
    by_cases ownZone : stored.zone = zone <;> by_cases ownName : stored.serverId = id
    · simp [ownZone, ownName]
    -- The zone was free before, so no other server stood for it.
    · have foreign : r.zones[zone]? ≠ some id := by simp [← ownZone, free]
      rw [ne_eq, coherent.paired] at foreign
      simpa [ownZone, ownName] using foreign
    -- The server was unknown before, so it stood for no other zone.
    · have foreign : ¬ r.zones[zone]? = some id := by
        rw [coherent.paired, ← ownName, unknown]
        simp
      simp [ownZone, ownName, foreign]
    · simpa [ownZone, ownName] using coherent.paired
  reported {zone} kept := by
    have entered := coherent.reported kept
    simp [entered]

theorem change [Store σ] {r r' : Registry σ} (change : Change r r') (coherent : Coherent r) :
    Coherent r' := by
  cases change with
  | claim now unknown free taken => exact coherent.enter _ now unknown free
  | @release id known store found taken =>
    have entered := coherent.paired.mpr ⟨known, found, rfl⟩
    refine ⟨?_, ?_, ?_⟩
    · intro other s kept
      rw [Std.ExtTreeMap.getElem?_erase] at kept
      split at kept
      · cases kept
      · exact coherent.named kept
    · intro zone other
      simp only [Std.ExtTreeMap.getElem?_erase, Std.compare_eq_iff_eq]
      -- The zone that is freed was this server's only one, and the server its only owner.
      by_cases ownZone : known.zone = zone <;> by_cases ownName : id = other
      · simp [ownZone, ownName]
      · have foreign : ¬ r.zones[zone]? = some other := by
          rw [← ownZone, entered]
          simpa using ownName
        rw [coherent.paired] at foreign
        simpa [ownZone, ownName] using foreign
      · have foreign : ¬ r.zones[zone]? = some other := by
          rw [coherent.paired, ← ownName, found]
          simpa using ownZone
        simp [ownZone, ownName, foreign]
      · simpa [ownZone, ownName] using coherent.paired
    · intro zone kept
      simp only [Std.ExtTreeMap.mem_erase] at kept ⊢
      exact ⟨kept.1, coherent.reported kept.2⟩
  | @beat id known now found =>
    refine ⟨?_, ?_, coherent.reported⟩
    · intro other s kept
      rw [Std.ExtTreeMap.getElem?_insert] at kept
      split at kept
      next same =>
        have name := coherent.named found
        rw [← Option.some.inj kept, ← Std.LawfulEqOrd.eq_of_compare same]
        exact name
      · exact coherent.named kept
    · intro zone other
      rw [coherent.paired, Std.ExtTreeMap.getElem?_insert]
      simp only [Std.compare_eq_iff_eq]
      by_cases ownName : id = other
      · subst other
        simp [found]
      · simp [ownName]
  | keep named taken => exact ⟨coherent.named, coherent.paired, coherent.reported⟩
  | reset taken => exact ⟨coherent.named, coherent.paired, coherent.reported⟩
  | @report zone stats owned =>
    refine ⟨coherent.named, coherent.paired, ?_⟩
    intro other kept
    rw [Std.ExtTreeMap.mem_insert] at kept
    rcases kept with same | kept
    · rw [← Std.LawfulEqOrd.eq_of_compare same]
      exact owned
    · exact coherent.reported kept

theorem takeOver {r : Registry σ} (coherent : Coherent r) (now : Instant) {id : ServerId}
    {stored : StoredServer} (name : stored.serverId = id) (unknown : r.servers[id]? = none) :
    Coherent (r.takeOver now id stored) := by
  subst id
  unfold Registry.takeOver
  split
  · exact coherent
  next free => exact coherent.enter r.store now unknown (Std.ExtTreeMap.getElem?_eq_none free)

end Coherent

/-! Starting from a store. -/

theorem takeOver_servers_of_ne (r : Registry σ) (now : Instant) {id other : ServerId}
    (stored : StoredServer) (different : id ≠ other) :
    (r.takeOver now id stored).servers[other]? = r.servers[other]? := by
  unfold takeOver
  split
  · rfl
  · simp [Std.ExtTreeMap.getElem?_insert, different]

def takeOverAll (now : Instant) (entries : List (ServerId × StoredServer)) (r : Registry σ) :
    Registry σ :=
  entries.foldl (fun r entry => r.takeOver now entry.1 entry.2) r

def unserved (grid : Grid) (store : σ) (players : Table PlayerId PlayerEntry) : Registry σ :=
  { grid, store, servers := ∅, zones := ∅, players, zoneStats := ∅ }

theorem restore_eq_takeOverAll [Store σ] (grid : Grid) (store : σ) (now : Instant) :
    restore grid store now = takeOverAll now (Store.snapshot store).servers.toList
      (unserved grid store (Store.snapshot store).players) := by
  unfold restore takeOverAll unserved
  rw [Std.ExtTreeMap.foldl_eq_foldl_toList]

theorem Coherent.takeOverAll (now : Instant) {entries : List (ServerId × StoredServer)}
    {r : Registry σ} (coherent : Coherent r)
    (distinct : entries.Pairwise fun a b => a.1 ≠ b.1)
    (named : ∀ entry ∈ entries, entry.2.serverId = entry.1)
    (unknown : ∀ entry ∈ entries, r.servers[entry.1]? = none) :
    Coherent (r.takeOverAll now entries) := by
  -- What is taken over first leaves the names of the others unknown.
  induction entries generalizing r with
  | nil => exact coherent
  | cons first rest ih =>
    obtain ⟨fresh, distinct⟩ := List.pairwise_cons.mp distinct
    apply ih (coherent.takeOver now (named first (by simp)) (unknown first (by simp))) distinct
    · intro entry member
      exact named entry (List.mem_cons_of_mem first member)
    · intro entry member
      rw [takeOver_servers_of_ne r now first.2 (fresh entry member)]
      exact unknown entry (List.mem_cons_of_mem first member)

theorem unserved_coherent (grid : Grid) (store : σ) (players : Table PlayerId PlayerEntry) :
    Coherent (unserved grid store players) where
  named found := by simp [unserved] at found
  paired := by simp [unserved]
  reported kept := by simp [unserved] at kept

theorem entries_distinct (t : Table ServerId StoredServer) :
    t.toList.Pairwise fun a b => a.1 ≠ b.1 :=
  t.distinct_keys_toList.imp fun different same => different (by simp [same])

theorem restore_coherent [Store σ] (grid : Grid) {store : σ} (now : Instant)
    (named : (Store.snapshot store).NamesServers) : Coherent (restore grid store now) := by
  rw [restore_eq_takeOverAll]
  apply (unserved_coherent grid store _).takeOverAll now (entries_distinct _)
  · rintro ⟨id, server⟩ member
    exact named id server (Std.ExtTreeMap.mem_toList_iff_getElem?_eq_some.mp member)
  · intro entry _
    simp [unserved]

/-! Every history. -/

theorem Reaches.coherent [Store σ] {outside : σ → σ → Prop} {start r : Registry σ}
    (run : Reaches outside start r) (initial : Coherent start) : Coherent r :=
  run.invariant initial Coherent.change fun _ held => ⟨held.named, held.paired, held.reported⟩

/-- Whatever zones the store assigned and whatever happens to it, every zone has one owner at any
time. -/
theorem zones_have_single_owners [Store σ] (outside : σ → σ → Prop) (grid : Grid) {store : σ}
    (now : Instant) {r : Registry σ} (named : (Store.snapshot store).NamesServers)
    (run : Reaches outside (restore grid store now) r) : SingleOwner r :=
  (run.coherent (restore_coherent grid now named)).singleOwner

/-- A store in which two servers stand for one zone. -/
def crowdedStore : MemoryStore :=
  ⟨(Snapshot.empty.putServer ⟨⟨"a"⟩, .loopback 7001, ⟨0, 0⟩⟩).putServer
    ⟨⟨"b"⟩, .loopback 7002, ⟨0, 0⟩⟩, true⟩

/-- A third server is refused by a store that takes no writes. -/
theorem crowded_zones_have_single_owners :
    crowdedStore.snapshot.NamesServers ∧
      SingleOwner ((restore .standard crowdedStore .start).execute .start
        (.registerServer ⟨"c"⟩ (.loopback 7003))).2 := by
  have names : crowdedStore.snapshot.NamesServers := by
    apply Snapshot.NamesServers.putServer
    apply Snapshot.NamesServers.putServer
    intro id server found
    simp [Snapshot.empty] at found
  exact ⟨names, zones_have_single_owners (fun _ _ => True) .standard .start names
    (.execute .start _ .start)⟩

end Registry

end ShardedWorld
