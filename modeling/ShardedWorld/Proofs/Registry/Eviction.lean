import Mathlib.Data.List.Chain
import ShardedWorld.Proofs.Registry.Availability
import ShardedWorld.Proofs.Registry.Chronicles

/-! Eviction removes the silent servers and nothing else.

The servers that an eviction lists are those that were not heard of for too long, and these leave
every table and the store, and no other. A server is heard of when it registers anew, with every
heartbeat, and when the registry starts; so one that keeps its intervals is never evicted.
-/

set_option autoImplicit false

namespace ShardedWorld.Registry

variable {σ : Type}

/-! The silent servers. -/

theorem Coherent.mem_staleServers {r : Registry σ} (coherent : Coherent r) {now : Instant}
    {timeout : Duration} {id : ServerId} :
    id ∈ r.staleServers now timeout ↔
      ∃ s, r.server? id = some s ∧ timeout < now.since s.lastHeartbeat := by
  simp only [staleServers, List.mem_mergeSort, List.mem_map, List.mem_filter, decide_eq_true_eq,
    Table.values_eq_toList_map, Prod.exists, Std.ExtTreeMap.mem_toList_iff_getElem?_eq_some,
    exists_eq_right, server?]
  constructor
  · rintro ⟨s, ⟨⟨key, found⟩, silent⟩, rfl⟩
    rw [coherent.named found]
    exact ⟨s, found, silent⟩
  · rintro ⟨s, found, silent⟩
    exact ⟨s, ⟨⟨id, found⟩, silent⟩, coherent.named found⟩

theorem Coherent.staleServers_nodup {r : Registry σ} (coherent : Coherent r) (now : Instant)
    (timeout : Duration) : (r.staleServers now timeout).Nodup := by
  -- Under their keys, the registrations carry the keys as their names.
  have keys : r.servers.values.map (·.serverId) = r.servers.keys := by
    rw [Table.values_eq_toList_map, List.map_map, ← Std.ExtTreeMap.map_fst_toList_eq_keys]
    apply List.map_congr_left
    rintro ⟨id, s⟩ listed
    exact coherent.named (Std.ExtTreeMap.mem_toList_iff_getElem?_eq_some.mp listed)
  have distinct : (r.servers.values.map (·.serverId)).Nodup := by
    rw [keys]
    exact Std.ExtTreeMap.nodup_keys
  exact (List.mergeSort_perm _ _).nodup_iff.mpr
    (distinct.sublist (List.filter_sublist.map _))

theorem reportZoneStats_servers (r : Registry σ) (zone : Zone) (stats : ZoneStats) :
    (r.reportZoneStats zone stats).servers = r.servers := by
  unfold reportZoneStats
  split <;> rfl

/-! Removing servers. -/

variable [Store σ]

/-- A registry and its store from which the servers `ids` were taken, with their zones and the
statistics of these. -/
structure Removed (r : Registry σ) (ids : List ServerId) (after : Registry σ) : Prop where
  servers : ∀ id : ServerId, after.servers[id]? = if id ∈ ids then none else r.servers[id]?
  zones : ∀ zone : Zone, after.zones[zone]? = (r.zones[zone]?).filter (· ∉ ids)
  zoneStats : ∀ zone : Zone, after.zoneStats[zone]? =
    if ∃ id ∈ ids, r.zones[zone]? = some id then none else r.zoneStats[zone]?
  stored : ∀ id : ServerId, (Store.snapshot after.store).servers[id]? =
    if id ∈ ids then none else (Store.snapshot r.store).servers[id]?
  players : after.players = r.players
  storedPlayers : (Store.snapshot after.store).players = (Store.snapshot r.store).players
  grid : after.grid = r.grid

theorem Removed.nil (r : Registry σ) : Removed r [] r where
  servers id := by simp
  zones zone := by cases r.zones[zone]? <;> simp [Option.filter]
  zoneStats zone := by simp
  stored id := by simp
  players := rfl
  storedPlayers := rfl
  grid := rfl

theorem Removed.cons {r between after : Registry σ} {id : ServerId} {ids : List ServerId}
    (first : Removed r [id] between) (rest : Removed between ids after) :
    Removed r (id :: ids) after where
  servers other := by
    rw [rest.servers, first.servers]
    by_cases other = id <;> by_cases other ∈ ids <;> simp [*]
  zones zone := by
    rw [rest.zones, first.zones, Option.filter_filter]
    congr 1
    funext other
    simp
  zoneStats zone := by
    rw [rest.zoneStats, first.zoneStats, first.zones]
    cases r.zones[zone]? with
    | none => simp
    | some owner => by_cases owner = id <;> by_cases owner ∈ ids <;> simp [*]
  stored other := by
    rw [rest.stored, first.stored]
    by_cases other = id <;> by_cases other ∈ ids <;> simp [*]
  players := rest.players.trans first.players
  storedPlayers := rest.storedPlayers.trans first.storedPlayers
  grid := rest.grid.trans first.grid

theorem Coherent.unregisterServer_removed [LawfulStore σ] {r after : Registry σ}
    (coherent : Coherent r) {id : ServerId} (registered : id ∈ r.servers)
    (done : r.unregisterServer id = .ok after) : Removed r [id] after := by
  rcases unregisterServer_cases done with ⟨unknown, -⟩ | ⟨known, store, found, taken, rfl⟩
  · obtain ⟨known, found⟩ := Table.mem_iff.mp registered
    cases unknown.symm.trans found
  · have snapshot := LawfulStore.snapshot_of_commit taken
    -- The zone of the server is the only one that is entered for it.
    have entered (zone : Zone) : r.zones[zone]? = some id ↔ known.zone = zone := by
      rw [coherent.paired]
      constructor
      · rintro ⟨s, registered, place⟩
        rw [server?, registered] at found
        exact Option.some.inj found ▸ place
      · exact fun place => ⟨known, found, place⟩
    refine ⟨fun other => ?_, fun zone => ?_, fun zone => ?_, fun other => ?_, rfl, ?_, rfl⟩
    · simp only [Std.ExtTreeMap.getElem?_erase, Std.compare_eq_iff_eq, List.mem_singleton,
        eq_comm (a := id)]
    · simp only [Std.ExtTreeMap.getElem?_erase, Std.compare_eq_iff_eq, ← entered]
      cases r.zones[zone]? <;> simp [Option.filter]
    · simp [Std.ExtTreeMap.getElem?_erase, ← entered]
    · simp only [snapshot, Snapshot.removeServer, Std.ExtTreeMap.getElem?_erase,
        Std.compare_eq_iff_eq, List.mem_singleton, eq_comm (a := id)]
    · rw [snapshot]
      rfl

theorem Coherent.unregisterAll_removed [LawfulStore σ] {r after : Registry σ}
    (coherent : Coherent r) {ids : List ServerId} (distinct : ids.Nodup)
    (registered : ∀ id ∈ ids, id ∈ r.servers) (done : r.unregisterAll ids = (.ok (), after)) :
    Removed r ids after := by
  induction ids generalizing r with
  | nil =>
    obtain ⟨-, rfl⟩ := Prod.mk.inj done
    exact .nil r
  | cons id rest ih =>
    obtain ⟨fresh, distinct⟩ := List.nodup_cons.mp distinct
    unfold unregisterAll at done
    cases outcome : r.unregisterServer id with
    | error e =>
      rw [outcome] at done
      cases done
    | ok freed =>
      rw [outcome] at done
      have first := coherent.unregisterServer_removed (registered id (by simp)) outcome
      refine first.cons (ih ?_ distinct ?_ done)
      · rcases unregisterServer_eq_ok outcome with rfl | change
        · exact coherent
        · exact coherent.change change
      -- The other servers are still there.
      · intro other member
        have kept := first.servers other
        rw [if_neg (by rintro same; exact fresh (List.mem_singleton.mp same ▸ member))] at kept
        rw [Table.mem_iff, kept, ← Table.mem_iff]
        exact registered other (List.mem_cons_of_mem id member)

theorem unregisterServer_of_ne {r after : Registry σ} {id other : ServerId} (different : other ≠ id)
    (done : r.unregisterServer id = .ok after) : after.servers[other]? = r.servers[other]? := by
  rcases unregisterServer_cases done with ⟨-, rfl⟩ | ⟨known, store, -, -, rfl⟩
  · rfl
  · simp [Std.ExtTreeMap.getElem?_erase, different.symm]

theorem unregisterAll_of_not_mem {r : Registry σ} {ids : List ServerId} {id : ServerId}
    (other : id ∉ ids) : (r.unregisterAll ids).2.servers[id]? = r.servers[id]? := by
  induction ids generalizing r with
  | nil => rfl
  | cons first rest ih =>
    obtain ⟨different, other⟩ := not_or.mp (List.mem_cons.not.mp other)
    unfold unregisterAll
    cases outcome : r.unregisterServer first with
    | error e => rfl
    | ok freed => exact (ih other).trans (unregisterServer_of_ne different outcome)

theorem unregisterServer_succeeds {r : Registry σ} (writes : Store.TakesWrites r.store)
    (id : ServerId) :
    ∃ after, r.unregisterServer id = .ok after ∧ Store.TakesWrites after.store := by
  unfold unregisterServer
  split
  · exact ⟨r, rfl, writes⟩
  next known found =>
    obtain ⟨good, holds, takes⟩ := writes
    obtain ⟨taken, committed, still⟩ :=
      takes r.store ((Store.snapshot r.store).removeServer id) holds
    exact ⟨_, bind_eq_ok.mpr ⟨taken, written_eq_ok.mpr committed, rfl⟩, good, still, takes⟩

theorem unregisterAll_succeeds {r : Registry σ} (writes : Store.TakesWrites r.store)
    (ids : List ServerId) : (r.unregisterAll ids).1 = .ok () := by
  induction ids generalizing r with
  | nil => rfl
  | cons id rest ih =>
    obtain ⟨after, done, writes⟩ := unregisterServer_succeeds writes id
    unfold unregisterAll
    rw [done]
    exact ih writes

theorem evictStale_succeeds {r : Registry σ} (writes : Store.TakesWrites r.store) (now : Instant)
    (timeout : Duration) : ∃ ids after, r.evictStale now timeout = (.ok ids, after) := by
  refine ⟨r.staleServers now timeout, (r.unregisterAll (r.staleServers now timeout)).2, ?_⟩
  refine Prod.ext ?_ rfl
  simp only [evictStale, unregisterAll_succeeds writes]
  rfl

/-- What an eviction that succeeds has done: the servers that it lists are the silent ones, and
these are gone with their zones. -/
structure Evicted (r : Registry σ) (now : Instant) (timeout : Duration) (ids : List ServerId)
    (after : Registry σ) : Prop where
  distinct : ids.Nodup
  silent : ∀ id, id ∈ ids ↔ ∃ s, r.server? id = some s ∧ timeout < now.since s.lastHeartbeat
  removed : Removed r ids after
  freed : ∀ id ∈ ids, ∀ s, r.server? id = some s → after.ownerOf? s.zone = none
  kept : ∀ id s, id ∉ ids → r.server? id = some s →
    after.server? id = some s ∧ after.ownerOf? s.zone = some s ∧
      after.zoneStats[s.zone]? = r.zoneStats[s.zone]?

theorem Coherent.evictStale_evicted [LawfulStore σ] {r after : Registry σ} (coherent : Coherent r)
    {now : Instant} {timeout : Duration} {ids : List ServerId}
    (done : r.evictStale now timeout = (.ok ids, after)) : Evicted r now timeout ids after := by
  -- The answer lists the stale servers only if all of them could be unregistered.
  obtain ⟨rfl, all⟩ : r.staleServers now timeout = ids ∧
      r.unregisterAll (r.staleServers now timeout) = (.ok (), after) := by
    simp only [evictStale] at done
    cases outcome : r.unregisterAll (r.staleServers now timeout) with
    | mk result left =>
      rw [outcome] at done
      cases result with
      | error e => cases done
      | ok =>
        obtain ⟨same, rfl⟩ := Prod.mk.inj done
        exact ⟨Except.ok.inj same, rfl⟩
  have silent (id : ServerId) : id ∈ r.staleServers now timeout ↔
      ∃ s, r.server? id = some s ∧ timeout < now.since s.lastHeartbeat :=
    coherent.mem_staleServers
  have registered : ∀ id ∈ r.staleServers now timeout, id ∈ r.servers := by
    intro id listed
    obtain ⟨s, found, -⟩ := (silent id).mp listed
    exact Table.mem_iff.mpr ⟨s, found⟩
  have removed :=
    coherent.unregisterAll_removed (coherent.staleServers_nodup now timeout) registered all
  have entered {id : ServerId} {s : Registration} (found : r.server? id = some s) :
      r.zones[s.zone]? = some id :=
    coherent.paired.mpr ⟨s, found, rfl⟩
  refine ⟨coherent.staleServers_nodup now timeout, silent, removed, ?_, ?_⟩
  · intro id listed s found
    rw [ownerOf?, removed.zones, entered found]
    simp [Option.filter, listed]
  · intro id s other found
    have registered : after.server? id = some s := by
      rw [server?, removed.servers, if_neg other]
      exact found
    refine ⟨registered, ?_, ?_⟩
    · rw [ownerOf?, removed.zones, entered found]
      simp [Option.filter, other, registered]
    · rw [removed.zoneStats, entered found, if_neg]
      rintro ⟨id', listed, same⟩
      exact other (Option.some.inj same ▸ listed)

/-! When a server was heard of. -/

namespace Execution

variable (e : Execution σ) (id : ServerId)

def heartbeat? : Option Instant :=
  match e.command, e.outcome with
  | .heartbeat other, .ok _ => if other = id then some e.now else none
  | _, _ => none

/-- A server that is known already is not registered again. -/
def registration? : Option Instant :=
  match e.command, e.outcome with
  | .registerServer other _, .ok _ =>
    if other = id ∧ e.before.server? id = none then some e.now else none
  | _, _ => none

/-- The command did not evict the server: where it was an eviction, it does not list the server,
and whether or not it succeeded, the server is registered as before. -/
structure Spares : Prop where
  unlisted : ∀ ids, e.outcome = .ok (.evicted ids) → id ∉ ids
  kept : e.after.server? id = e.before.server? id

end Execution

namespace Event

def heartbeat? (id : ServerId) (event : Event σ) : Option Instant :=
  event.execution?.bind (·.heartbeat? id)

/-- Servers count as heard of when their registry starts. -/
def heard? (id : ServerId) : Event σ → Option Instant
  | started now => some now
  | executed e => (e.heartbeat? id).or (e.registration? id)

theorem heard?_time {id : ServerId} {event : Event σ} {t : Instant}
    (heard : event.heard? id = some t) : event.time = t := by
  cases event with
  | started now => exact Option.some.inj heard
  | executed e =>
    simp only [heard?, Execution.heartbeat?, Execution.registration?] at heard
    split at heard <;> split at heard <;> simp_all [Event.time]

theorem heard?_of_heartbeat? {id : ServerId} {event : Event σ} {t : Instant}
    (beat : event.heartbeat? id = some t) : event.heard? id = some t := by
  obtain ⟨e, executed, beat⟩ := Option.bind_eq_some_iff.mp beat
  cases event with
  | started now => cases executed
  | executed e =>
    obtain rfl := Option.some.inj executed
    rw [heard?, beat, Option.some_or]

end Event

theorem restore_lastHeartbeat {grid : Grid} {store : σ} {now : Instant} {id : ServerId}
    {s : Registration} (found : (restore grid store now).servers[id]? = some s) :
    s.lastHeartbeat = now := by
  revert id s found
  apply restore_invariant
    (P := fun r => ∀ {id : ServerId} {s : Registration}, r.servers[id]? = some s →
      s.lastHeartbeat = now)
  · simp [unserved]
  · intro r id stored _ _ held other s found
    unfold takeOver at found
    split at found
    · exact held found
    · rw [Std.ExtTreeMap.getElem?_insert] at found
      split at found
      · rw [← Option.some.inj found]
      · exact held found

theorem execute_heard {r : Registry σ} {now : Instant} {command : Command} {id : ServerId}
    {s : Registration} (found : (r.execute now command).2.servers[id]? = some s) :
    (Event.executed ⟨r, now, command⟩).heard? id = some s.lastHeartbeat ∨
      (Event.executed ⟨r, now, command⟩).heard? id = none ∧ r.servers[id]? = some s := by
  simp only [Event.heard?, Execution.heartbeat?, Execution.registration?, Execution.outcome]
  have kept (keeps : command.keepsServers) : r.servers[id]? = some s := by
    obtain ⟨store, players, same⟩ := execute_keepsServers r now keeps
    rwa [same] at found
  -- Only the first two commands enter registrations.
  cases command with
  | registerServer other endpoint =>
    simp only [execute] at found ⊢
    cases outcome : r.registerServer other endpoint now with
    | error failure =>
      rw [outcome] at found
      exact .inr ⟨rfl, found⟩
    | ok done =>
      obtain ⟨zone, after⟩ := done
      rw [outcome] at found
      change after.servers[id]? = some s at found
      simp only [settle, Option.none_or]
      rcases registerServer_cases outcome with ⟨known, registered, rfl⟩ | ⟨unknown, store, -, rfl⟩
      · refine .inr ⟨if_neg ?_, found⟩
        rintro ⟨rfl, unknown⟩
        cases unknown.symm.trans registered
      · by_cases same : other = id
        · subst other
          rw [Std.ExtTreeMap.getElem?_insert_self] at found
          rw [if_pos ⟨rfl, unknown⟩, ← Option.some.inj found]
          exact .inl rfl
        · refine .inr ⟨if_neg fun new => same new.1, ?_⟩
          simpa [Std.ExtTreeMap.getElem?_insert, same] using found
  | heartbeat other =>
    simp only [execute] at found ⊢
    cases outcome : r.heartbeat other now with
    | error failure =>
      rw [outcome] at found
      exact .inr ⟨rfl, found⟩
    | ok after =>
      rw [outcome] at found
      change after.servers[id]? = some s at found
      obtain ⟨known, -, rfl⟩ := heartbeat_cases outcome
      simp only [settleDone, Option.or_none]
      by_cases same : other = id
      · subst other
        rw [Std.ExtTreeMap.getElem?_insert_self] at found
        rw [if_pos rfl, ← Option.some.inj found]
        exact .inl rfl
      · refine .inr ⟨if_neg same, ?_⟩
        simpa [Std.ExtTreeMap.getElem?_insert, same] using found
  | unregisterServer other =>
    refine .inr ⟨rfl, ?_⟩
    revert found
    exact settleDone_after (fun found => found) fun after done => (unregisterServer_left done).2
  | evictStale timeout =>
    exact .inr ⟨rfl, (r.unregisterAll_left (r.staleServers now timeout)).2 found⟩
  | reportZoneStats zone stats => exact .inr ⟨rfl, reportZoneStats_servers r zone stats ▸ found⟩
  | initiateTransfer _ _ | completeTransfer _ _ | updatePlayer _ | resetPlayers | locate _
  | aggregate _ => exact .inr ⟨rfl, kept rfl⟩

namespace Chronicle

variable {origin : Snapshot → Prop} {log : List (Event σ)} {r : Registry σ} {id : ServerId}

/-- The last heartbeat of a server is when it was heard of last. -/
theorem lastHeartbeat (chronicle : Chronicle origin log r) {s : Registration}
    (found : r.server? id = some s) :
    (log.filterMap (Event.heard? id)).getLast? = some s.lastHeartbeat := by
  induction chronicle generalizing s with
  | start grid now begun =>
    rw [restore_lastHeartbeat found]
    rfl
  | @execute log r now command _ ih =>
    rw [List.filterMap_append]
    rcases execute_heard found with heard | ⟨unheard, before⟩
    · simp [heard]
    · rw [List.filterMap_cons_none unheard, List.filterMap_nil, List.append_nil]
      exact ih before
  | outside _ _ ih => exact ih found
  | restart grid now _ _ =>
    rw [List.filterMap_append, restore_lastHeartbeat found]
    simp [Event.heard?]

variable {earlier later : List (Event σ)} {x : Event σ} {t now : Instant}

theorem le_lastHeartbeat (chronicle : Chronicle origin log r) (given : log = earlier ++ x :: later)
    (ordered : (log.map Event.time).Pairwise (· ≤ ·)) (heard : x.heard? id = some t)
    {s : Registration} (found : r.server? id = some s) {beat : Instant}
    (member : beat ∈ t :: later.filterMap (Event.heartbeat? id)) : beat ≤ s.lastHeartbeat := by
  have rising : (log.filterMap (Event.heard? id)).Pairwise (· ≤ ·) := by
    refine List.Pairwise.filterMap _ ?_ (List.pairwise_map.mp ordered)
    intro a b before t told t' told'
    rwa [← Event.heard?_time told, ← Event.heard?_time told']
  have listed : beat ∈ log.filterMap (Event.heard? id) := by
    rw [given, List.filterMap_append, List.filterMap_cons_some heard]
    apply List.mem_append_right
    rcases List.mem_cons.mp member with rfl | member
    · exact List.mem_cons_self
    · obtain ⟨event, known, told⟩ := List.mem_filterMap.mp member
      exact List.mem_cons_of_mem t
        (List.mem_filterMap.mpr ⟨event, known, Event.heard?_of_heartbeat? told⟩)
  obtain ⟨before, last⟩ := List.getLast?_eq_some_iff.mp (chronicle.lastHeartbeat found)
  rw [last] at rising listed
  rcases List.mem_append.mp listed with listed | listed
  · exact (List.pairwise_append.mp rising).2.2 beat listed _ (by simp)
  · rw [List.mem_singleton.mp listed]
    exact Nat.le_refl _

theorem not_mem_staleServers [LawfulStore σ] (chronicle : Chronicle Snapshot.NamesServers log r)
    (given : log = earlier ++ x :: later) (ordered : (log.map Event.time).Pairwise (· ≤ ·))
    (heard : x.heard? id = some t) {beat : Instant} {timeout : Duration}
    (member : beat ∈ t :: later.filterMap (Event.heartbeat? id))
    (recent : now.since beat ≤ timeout) : id ∉ r.staleServers now timeout := by
  intro listed
  obtain ⟨s, found, silent⟩ := chronicle.coherent.1.mem_staleServers.mp listed
  have kept := chronicle.le_lastHeartbeat given ordered heard found member
  simp only [Duration.le_iff, Duration.lt_iff, Instant.le_iff, Instant.since_nanos] at *
  omega

end Chronicle

theorem Execution.spares_of_not_mem {r : Registry σ} {now : Instant} {timeout : Duration}
    {id : ServerId} (other : id ∉ r.staleServers now timeout) :
    Execution.Spares ⟨r, now, .evictStale timeout⟩ id where
  unlisted ids done := by
    simp only [Execution.outcome, execute, evictStale] at done
    cases outcome : (r.unregisterAll (r.staleServers now timeout)).1 with
    | error e =>
      rw [outcome] at done
      cases done
    | ok =>
      rw [outcome] at done
      cases done
      exact other
  kept := unregisterAll_of_not_mem other

def Steady (limit : Duration) (times : List Instant) : Prop :=
  times.IsChain fun a b => b.since a ≤ limit

/-- Up to the next of steady times, the last one before is not far. -/
theorem Steady.recent {limit : Duration} {front rest : List Instant}
    (steady : Steady limit (front ++ rest)) (begun : front ≠ []) (goes : rest ≠ [])
    {now : Instant} (before : ∀ next ∈ rest, now ≤ next) :
    ∃ last ∈ front, now.since last ≤ limit := by
  refine ⟨front.getLast begun, List.getLast_mem begun, ?_⟩
  have close := List.IsChain.rel_getLast_head_of_append steady begun goes
  have early := before _ (List.head_mem goes)
  simp only [Duration.le_iff, Instant.le_iff, Instant.since_nanos] at *
  omega

namespace Chronicle

variable {log : List (Event σ)} {r : Registry σ} {earlier later : List (Event σ)} {x : Event σ}
  {id : ServerId} {t now : Instant} {timeout : Duration}

theorem spares [LawfulStore σ] (chronicle : Chronicle Snapshot.NamesServers log r)
    (given : log = earlier ++ x :: later) (heard : x.heard? id = some t)
    (ordered : (log.map Event.time ++ [now]).Pairwise (· ≤ ·))
    (steady : Steady timeout (t :: later.filterMap (Event.heartbeat? id) ++ [now])) :
    Execution.Spares ⟨r, now, .evictStale timeout⟩ id := by
  have ahead : ∀ next ∈ [now], now ≤ next := by simp [Instant.le_iff]
  obtain ⟨last, member, recent⟩ := steady.recent (by simp) (by simp) ahead
  exact Execution.spares_of_not_mem (chronicle.not_mem_staleServers given
    (List.pairwise_append.mp ordered).1 heard member recent)

theorem spared [LawfulStore σ] (chronicle : Chronicle Snapshot.NamesServers log r)
    (given : log = earlier ++ x :: later) (heard : x.heard? id = some t)
    (ordered : (log.map Event.time ++ [now]).Pairwise (· ≤ ·))
    (steady : Steady timeout (t :: later.filterMap (Event.heartbeat? id) ++ [now]))
    {e : Execution σ} {limit : Duration} (member : .executed e ∈ later)
    (evicts : e.command = .evictStale limit) (longer : timeout ≤ limit) : e.Spares id := by
  obtain ⟨before, now', command⟩ := e
  obtain rfl : command = .evictStale limit := evicts
  obtain ⟨between, rest, rfl⟩ := List.append_of_mem member
  have split : log = (earlier ++ x :: between) ++
      .executed ⟨before, now', .evictStale limit⟩ :: rest := by
    rw [given, List.append_assoc, List.cons_append]
  obtain ⟨past, -, present⟩ := List.pairwise_append.mp ordered
  rw [split, List.map_append, List.pairwise_append, List.map_cons, List.pairwise_cons] at past
  obtain ⟨past, ⟨upcoming, -⟩, -⟩ := past
  rw [List.filterMap_append, List.filterMap_cons_none rfl, ← List.cons_append,
    List.append_assoc] at steady
  -- What comes after the eviction, comes no earlier.
  have ahead : ∀ next ∈ rest.filterMap (Event.heartbeat? id) ++ [now], now' ≤ next := by
    intro next member
    rcases List.mem_append.mp member with beat | last
    · obtain ⟨event, known, told⟩ := List.mem_filterMap.mp beat
      rw [← Event.heard?_time (Event.heard?_of_heartbeat? told)]
      exact upcoming _ (List.mem_map_of_mem known)
    · rw [List.mem_singleton.mp last]
      exact present now' (by simp [split, Event.time]) now (by simp)
  obtain ⟨last, member, recent⟩ := steady.recent (by simp) (by simp) ahead
  exact Execution.spares_of_not_mem ((chronicle.before split).not_mem_staleServers rfl past heard
    member (Nat.le_trans recent longer))

end Chronicle

/-- An eviction removes exactly the servers that were silent for too long, and fails only with the
store. So a server whose heartbeats since it was registered follow each other in time, up to the
last moment, is spared by all evictions. -/
theorem evictions_exact [LawfulStore σ] {log : List (Event σ)} {r : Registry σ}
    (chronicle : Chronicle Snapshot.NamesServers log r) :
    (Store.TakesWrites r.store → ∀ now timeout, ∃ ids after,
      r.evictStale now timeout = (.ok ids, after)) ∧
    (∀ now timeout ids after, r.evictStale now timeout = (.ok ids, after) →
      Evicted r now timeout ids after) ∧
    ∀ earlier x later id t now timeout, log = earlier ++ x :: later → x.heard? id = some t →
      (log.map Event.time ++ [now]).Pairwise (· ≤ ·) →
      Steady timeout (t :: later.filterMap (Event.heartbeat? id) ++ [now]) →
      (∀ e limit, .executed e ∈ later → e.command = .evictStale limit → timeout ≤ limit →
        e.Spares id) ∧
      Execution.Spares ⟨r, now, .evictStale timeout⟩ id := by
  refine ⟨evictStale_succeeds, ?_, ?_⟩
  · intro now timeout ids after done
    exact chronicle.coherent.1.evictStale_evicted done
  · intro earlier x later id t now timeout given heard ordered steady
    refine ⟨?_, chronicle.spares given heard ordered steady⟩
    intro e limit member evicts longer
    exact chronicle.spared given heard ordered steady member evicts longer

/-- The first of two servers is heard of again after eight seconds. -/
def heardAgain : Registry MemoryStore :=
  (shared.execute (Instant.start.after (.ofSeconds 8)) (.heartbeat ⟨"a"⟩)).2

/-- Four seconds after that, servers are evicted that were silent for more than ten. -/
def sweeping : Execution MemoryStore :=
  ⟨heardAgain, Instant.start.after (.ofSeconds 12), .evictStale (.ofSeconds 10)⟩

theorem silent_server_evicted :
    let log := sharing ++
      [.executed ⟨shared, Instant.start.after (.ofSeconds 8), .heartbeat ⟨"a"⟩⟩]
    (Chronicle Snapshot.NamesServers log heardAgain ∧ Store.TakesWrites heardAgain.store ∧
      heardAgain.evictStale sweeping.now (.ofSeconds 10) = (.ok [⟨"b"⟩], sweeping.after) ∧
      Evicted heardAgain sweeping.now (.ofSeconds 10) [⟨"b"⟩] sweeping.after) ∧
    Chronicle Snapshot.NamesServers (log ++ [.executed sweeping]) sweeping.after ∧
      sweeping.Spares ⟨"a"⟩ ∧
      Execution.Spares ⟨sweeping.after, Instant.start.after (.ofSeconds 18),
        .evictStale (.ofSeconds 10)⟩ ⟨"a"⟩ := by
  intro log
  have first : Chronicle Snapshot.NamesServers log heardAgain :=
    .execute _ _ (shared_chronicle.mono fun s empty => empty ▸ Snapshot.namesServers_empty)
  have swept : heardAgain.evictStale sweeping.now (.ofSeconds 10) = (.ok [⟨"b"⟩], sweeping.after) :=
    Prod.ext (by decide +kernel) rfl
  have second : Chronicle Snapshot.NamesServers (log ++ [.executed sweeping]) sweeping.after :=
    first.execute sweeping.now sweeping.command
  -- The server was registered by the second event, and all after that is listed here.
  obtain ⟨spared, still⟩ := (evictions_exact second).2.2
    [.started .start]
    (.executed ⟨restore .standard MemoryStore.empty .start, .start,
      .registerServer ⟨"a"⟩ (.loopback 7001)⟩)
    [.executed ⟨served, .start, .registerServer ⟨"b"⟩ (.loopback 7002)⟩,
      .executed ⟨shared, Instant.start.after (.ofSeconds 8), .heartbeat ⟨"a"⟩⟩,
      .executed sweeping]
    ⟨"a"⟩ .start (Instant.start.after (.ofSeconds 18)) (.ofSeconds 10) rfl (by decide +kernel)
    (by decide +kernel) (by
      unfold Steady
      decide +kernel)
  have writes : Store.TakesWrites heardAgain.store := MemoryStore.takesWrites rfl
  exact ⟨⟨first, writes, swept, (evictions_exact first).2.1 _ _ _ _ swept⟩, second,
    spared sweeping _ (by simp) rfl (Nat.le_refl _), still⟩

end ShardedWorld.Registry
