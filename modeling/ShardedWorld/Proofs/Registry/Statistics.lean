import Mathlib.Algebra.Ring.Nat
import Mathlib.Data.List.DropRight
import ShardedWorld.Proofs.Registry.Chronicles

/-! Statistics of the zones that are owned.

The registry lists for every zone the last report that reached it since the zone was claimed. The
totals are counted in 32 bits: they are the sums of the listed counts as long as these fit, and
otherwise the registry breaks down.
-/

set_option autoImplicit false

namespace ShardedWorld.Registry

variable {σ : Type}

/-! Sums that are counted in 32 bits. -/

/-- A sum that is counted on from a total. It has to fit at the end only, as it does not become less
on the way. -/
theorem foldlM_total (counts : List UInt32) (total : UInt32) :
    (counts.foldlM (fun total count =>
        if total.toNat + count.toNat < UInt32.size then some (total + count) else none) total) =
      if total.toNat + (counts.map UInt32.toNat).sum < UInt32.size then
        some (total + .ofNat (counts.map UInt32.toNat).sum)
      else none := by
  induction counts generalizing total with
  | nil => simp [total.toNat_lt]
  | cons first rest ih =>
    rw [List.foldlM_cons, List.map_cons, List.sum_cons, ← Nat.add_assoc]
    by_cases room : total.toNat + first.toNat < UInt32.size
    · have sum : (total + first).toNat = total.toNat + first.toNat := by
        rw [UInt32.toNat_add]
        exact Nat.mod_eq_of_lt room
      rw [if_pos room]
      simp only [Option.bind_eq_bind, Option.bind_some, ih, sum, UInt32.ofNat_add,
        UInt32.ofNat_toNat, UInt32.add_assoc]
    · rw [if_neg room, if_neg (fun fits => room (Nat.lt_of_le_of_lt (Nat.le_add_right _ _) fits))]
      rfl

theorem total?_eq (counts : List UInt32) :
    total? counts =
      if (counts.map UInt32.toNat).sum < UInt32.size then
        some (.ofNat (counts.map UInt32.toNat).sum)
      else none := by
  simp [total?, foldlM_total]

def sumOf (count : ZoneStats → UInt32) (zones : List (Zone × ZoneStats)) : Nat :=
  (zones.map fun entry => (count entry.2).toNat).sum

/-- Statistics that list some reports, with the sums of their counts. -/
structure Exact (zones : List (Zone × ZoneStats)) (stats : AggregatedStats) : Prop where
  reports : stats.zones = zones
  entities : stats.totalEntities.toNat = sumOf (·.entityCount) zones
  players : stats.totalPlayers.toNat = sumOf (·.playerCount) zones

theorem total?_sumOf (count : ZoneStats → UInt32) (zones : List (Zone × ZoneStats)) :
    total? (zones.map fun entry => count entry.2) =
      if sumOf count zones < UInt32.size then some (.ofNat (sumOf count zones)) else none := by
  rw [total?_eq, List.map_map]
  rfl

/-- Totals that can be counted in 32 bits. -/
def Countable (zones : List (Zone × ZoneStats)) : Prop :=
  sumOf (·.entityCount) zones < UInt32.size ∧ sumOf (·.playerCount) zones < UInt32.size

instance (zones : List (Zone × ZoneStats)) : Decidable (Countable zones) :=
  inferInstanceAs (Decidable (_ ∧ _))

theorem aggregate_of_countable {r : Registry σ} (countable : Countable r.zoneStats.toList)
    (generatedAt : UInt64) :
    ∃ stats, r.aggregate generatedAt = .ok stats ∧ Exact r.zoneStats.toList stats := by
  simp only [aggregate, total?_sumOf, if_pos countable.1, if_pos countable.2]
  exact ⟨_, rfl, rfl, UInt32.toNat_ofNat_of_lt' countable.1,
    UInt32.toNat_ofNat_of_lt' countable.2⟩

theorem aggregate_of_not_countable {r : Registry σ} (large : ¬Countable r.zoneStats.toList)
    (generatedAt : UInt64) : r.aggregate generatedAt = .error .stopped := by
  simp only [aggregate, total?_sumOf]
  split
  next entities players =>
    simp only [Option.ite_none_right_eq_some] at entities players
    exact absurd ⟨entities.1, players.1⟩ large
  · rfl

/-! Entered zones have owners. -/

/-- Entered zones belong to registered servers, under whatever names the store kept these, and
statistics are kept of entered zones only. -/
structure Resolved (r : Registry σ) : Prop where
  owner : ∀ {zone : Zone} {id : ServerId}, r.zones[zone]? = some id →
    ∃ s : Registration, r.servers[id]? = some s ∧ s.zone = zone
  reported : ∀ {zone : Zone}, zone ∈ r.zoneStats → zone ∈ r.zones

namespace Resolved

variable {r : Registry σ}

theorem isSome_ownerOf? (resolved : Resolved r) (zone : Zone) :
    (r.ownerOf? zone).isSome ↔ zone ∈ r.zones := by
  rw [← Std.ExtTreeMap.isSome_getElem?_iff_mem, ownerOf?]
  cases entered : r.zones[zone]? with
  | none => rfl
  | some id =>
    obtain ⟨s, found, -⟩ := resolved.owner entered
    simp [server?, found]

theorem enter (resolved : Resolved r) {id : ServerId} (s : Registration)
    (unknown : r.servers[id]? = none) (store : σ) :
    Resolved { r with
      store
      zones := r.zones.insert s.zone id
      servers := r.servers.insert id s } where
  owner {zone other} entered := by
    simp only [Std.ExtTreeMap.getElem?_insert, Std.compare_eq_iff_eq] at entered ⊢
    split at entered
    next place =>
      rw [if_pos (Option.some.inj entered)]
      exact ⟨s, rfl, place⟩
    · obtain ⟨known, found, place⟩ := resolved.owner entered
      rw [if_neg (by rintro rfl; rw [unknown] at found; cases found)]
      exact ⟨known, found, place⟩
  reported {zone} kept := by
    have entered := resolved.reported kept
    simp [entered]

theorem takeOver (resolved : Resolved r) {now : Instant} {id : ServerId} {stored : StoredServer}
    (unknown : r.servers[id]? = none) : Resolved (r.takeOver now id stored) := by
  unfold Registry.takeOver
  split
  · exact resolved
  · exact resolved.enter { stored with lastHeartbeat := now } unknown r.store

variable [Store σ]

theorem restore (grid : Grid) (store : σ) (now : Instant) :
    Resolved (Registry.restore grid store now) :=
  restore_invariant ⟨by simp [unserved], by simp [unserved]⟩
    fun _ unknown resolved => resolved.takeOver unknown

theorem change {r' : Registry σ} (change : Change r r') (resolved : Resolved r) : Resolved r' := by
  cases change with
  | claim now unknown free taken => exact resolved.enter _ unknown _
  | @release id known store found taken =>
    refine ⟨?_, ?_⟩
    · intro zone other entered
      rw [Std.ExtTreeMap.getElem?_erase] at entered
      split at entered
      · cases entered
      next foreign =>
        obtain ⟨s, registered, place⟩ := resolved.owner entered
        -- The server that left owned another zone.
        have different : id ≠ other := by
          rintro rfl
          rw [found] at registered
          obtain rfl := Option.some.inj registered
          exact foreign (Std.compare_eq_iff_eq.mpr place)
        refine ⟨s, ?_, place⟩
        simpa [Std.ExtTreeMap.getElem?_erase, different] using registered
    · intro zone kept
      simp only [Std.ExtTreeMap.mem_erase] at kept ⊢
      exact ⟨kept.1, resolved.reported kept.2⟩
  | @beat id known now found =>
    refine ⟨?_, resolved.reported⟩
    intro zone other entered
    obtain ⟨s, registered, place⟩ := resolved.owner entered
    simp only [Std.ExtTreeMap.getElem?_insert, Std.compare_eq_iff_eq]
    split
    next same =>
      rw [same, registered] at found
      exact ⟨_, rfl, Option.some.inj found ▸ place⟩
    · exact ⟨s, registered, place⟩
  | keep named taken => exact ⟨resolved.owner, resolved.reported⟩
  | reset taken => exact ⟨resolved.owner, resolved.reported⟩
  | @report zone stats owned =>
    refine ⟨resolved.owner, ?_⟩
    intro other kept
    rw [Std.ExtTreeMap.mem_insert] at kept
    rcases kept with same | kept
    · rw [← Std.LawfulEqOrd.eq_of_compare same]
      exact owned
    · exact resolved.reported kept

end Resolved

theorem Chronicle.resolved [Store σ] {origin : Snapshot → Prop} {log : List (Event σ)}
    {r : Registry σ} (chronicle : Chronicle origin log r) : Resolved r :=
  chronicle.invariant (fun grid store now _ => .restore grid store now) Resolved.change
    (fun _ resolved => ⟨resolved.owner, resolved.reported⟩)
    fun a grid now _ => .restore grid a.store now

/-! The last report of a zone. -/

namespace Event

def owned (zone : Zone) : Event σ → Bool
  | started _ => false
  | executed e => (e.before.ownerOf? zone).isSome

def report? (zone : Zone) : Event σ → Option ZoneStats
  | executed ⟨_, _, .reportZoneStats other stats⟩ => if other = zone then some stats else none
  | _ => none

end Event

/-- What happened since a zone was claimed last, or the registry was started. -/
def sinceClaimed (zone : Zone) (log : List (Event σ)) : List (Event σ) :=
  log.rtakeWhile (·.owned zone)

theorem sinceClaimed_started (zone : Zone) (log : List (Event σ)) (now : Instant) :
    sinceClaimed zone (log ++ [.started now]) = [] := by
  rw [sinceClaimed, List.rtakeWhile_concat, if_neg (by simp [Event.owned])]

theorem sinceClaimed_executed (zone : Zone) (log : List (Event σ)) (e : Execution σ) :
    sinceClaimed zone (log ++ [.executed e]) =
      if (e.before.ownerOf? zone).isSome then sinceClaimed zone log ++ [.executed e] else [] := by
  rw [sinceClaimed, List.rtakeWhile_concat]
  rfl

/-- The last report of a zone, if it is owned, since it was claimed. -/
def lastReport? (zone : Zone) (log : List (Event σ)) (r : Registry σ) : Option ZoneStats :=
  if (r.ownerOf? zone).isSome then ((sinceClaimed zone log).filterMap (Event.report? zone)).getLast?
  else none

variable [Store σ]

theorem unregisterServer_zoneStats {r after : Registry σ} {id : ServerId} {zone : Zone}
    (done : r.unregisterServer id = .ok after) (owned : zone ∈ after.zones) :
    zone ∈ r.zones ∧ after.zoneStats[zone]? = r.zoneStats[zone]? := by
  rcases unregisterServer_cases done with ⟨-, rfl⟩ | ⟨known, store, -, -, rfl⟩
  · exact ⟨owned, rfl⟩
  · obtain ⟨foreign, owned⟩ := Std.ExtTreeMap.mem_erase.mp owned
    exact ⟨owned, by rw [Std.ExtTreeMap.getElem?_erase, if_neg foreign]⟩

theorem unregisterAll_zoneStats {r : Registry σ} {ids : List ServerId} {zone : Zone}
    (owned : zone ∈ (r.unregisterAll ids).2.zones) :
    zone ∈ r.zones ∧ (r.unregisterAll ids).2.zoneStats[zone]? = r.zoneStats[zone]? := by
  induction ids generalizing r with
  | nil => exact ⟨owned, rfl⟩
  | cons id rest ih =>
    unfold unregisterAll at owned ⊢
    cases outcome : r.unregisterServer id with
    | error e =>
      rw [outcome] at owned
      exact ⟨owned, rfl⟩
    | ok freed =>
      rw [outcome] at owned
      obtain ⟨between, same⟩ := ih owned
      obtain ⟨before, kept⟩ := unregisterServer_zoneStats outcome between
      exact ⟨before, same.trans kept⟩

theorem execute_zoneStats {r : Registry σ} {now : Instant} {command : Command} {zone : Zone}
    (owned : zone ∈ (r.execute now command).2.zones) :
    (r.execute now command).2.zoneStats[zone]? =
      (Event.report? zone (.executed ⟨r, now, command⟩)).or (r.zoneStats[zone]?) := by
  have kept (keeps : command.keepsServers) :
      (r.execute now command).2.zoneStats[zone]? = r.zoneStats[zone]? := by
    obtain ⟨store, players, same⟩ := execute_keepsServers r now keeps
    rw [same]
  cases command with
  -- A zone that is owned afterwards keeps its report: only a server that leaves takes one away.
  | registerServer id endpoint =>
    refine settle_after (P := fun after => after.zoneStats[zone]? = r.zoneStats[zone]?) rfl ?_
    intro _ after done
    rcases registerServer_cases done with ⟨known, -, rfl⟩ | ⟨-, store, -, rfl⟩ <;> rfl
  | unregisterServer id =>
    revert owned
    exact settleDone_after (fun _ => rfl) fun after done owned =>
      (unregisterServer_zoneStats done owned).2
  | heartbeat id =>
    refine settleDone_after (P := fun after => after.zoneStats[zone]? = r.zoneStats[zone]?) rfl ?_
    intro after done
    obtain ⟨known, -, rfl⟩ := heartbeat_cases done
    rfl
  | evictStale timeout => exact (unregisterAll_zoneStats owned).2
  | reportZoneStats other stats =>
    simp only [execute, reportZoneStats, Event.report?] at owned ⊢
    by_cases same : other = zone
    · subst other
      split at owned
      next entered => simp [if_pos entered]
      next free => exact absurd owned free
    · split <;> simp [Std.ExtTreeMap.getElem?_insert, same]
  | initiateTransfer _ _ | completeTransfer _ _ | updatePlayer _ | resetPlayers | locate _
  | aggregate _ => exact kept rfl

/-- No command claims a zone and reports for it. -/
theorem report?_eq_none {r : Registry σ} {now : Instant} {command : Command} {zone : Zone}
    (free : zone ∉ r.zones) (owned : zone ∈ (r.execute now command).2.zones) :
    Event.report? zone (.executed ⟨r, now, command⟩) = none := by
  cases command with
  | reportZoneStats other stats =>
    simp only [execute, reportZoneStats] at owned
    split at owned <;> exact absurd owned free
  | _ => rfl

theorem restore_zoneStats (grid : Grid) (store : σ) (now : Instant) :
    (restore grid store now).zoneStats = ∅ := by
  apply restore_invariant (P := fun r => r.zoneStats = ∅) rfl
  intro r id stored _ _ held
  unfold takeOver
  split <;> exact held

/-- The statistics that are kept are the last reports. -/
theorem Chronicle.zoneStats {origin : Snapshot → Prop} {log : List (Event σ)} {r : Registry σ}
    (chronicle : Chronicle origin log r) (zone : Zone) :
    r.zoneStats[zone]? = lastReport? zone log r := by
  induction chronicle with
  | start grid now begun =>
    have nothing : sinceClaimed zone ([.started now] : List (Event σ)) = [] :=
      sinceClaimed_started zone [] now
    rw [restore_zoneStats]
    simp [lastReport?, nothing]
  | @execute log r now command before ih =>
    have resolved := (before.execute now command).resolved
    simp only [lastReport?, resolved.isSome_ownerOf?, before.resolved.isSome_ownerOf?,
      sinceClaimed_executed] at ih ⊢
    by_cases owned : zone ∈ (r.execute now command).2.zones
    · rw [if_pos owned, execute_zoneStats owned, ih]
      -- The reports count from when the zone was claimed, so they start over if that is now.
      by_cases entered : zone ∈ r.zones
      · rw [if_pos entered, if_pos entered, List.filterMap_append, List.getLast?_append]
        cases reported : Event.report? zone (.executed ⟨r, now, command⟩) <;> simp [reported]
      · rw [if_neg entered, if_neg entered, report?_eq_none entered owned]
        rfl
    · rw [if_neg owned]
      exact Std.ExtTreeMap.getElem?_eq_none fun kept => owned (resolved.reported kept)
  | outside _ _ ih => exact ih
  | restart grid now _ _ =>
    rw [restore_zoneStats]
    simp [lastReport?, sinceClaimed_started]

/-- The last reports of the zones that are owned, in the order of the zones. -/
structure LastReports (log : List (Event σ)) (r : Registry σ) (zones : List (Zone × ZoneStats)) :
    Prop where
  listed : ∀ zone s, (zone, s) ∈ zones ↔ lastReport? zone log r = some s
  ordered : zones.Pairwise fun a b => compare a.1 b.1 = .lt

theorem Chronicle.lastReports {origin : Snapshot → Prop} {log : List (Event σ)} {r : Registry σ}
    (chronicle : Chronicle origin log r) : LastReports log r r.zoneStats.toList where
  listed zone s := by
    rw [← chronicle.zoneStats zone]
    exact Std.ExtTreeMap.mem_toList_iff_getElem?_eq_some
  ordered := Std.ExtTreeMap.ordered_keys_toList

/-- Statistics are gathered if and only if the total of the entities and that of the players can be
counted in 32 bits. They list the last reports of the zones that are owned in the order of the
zones, and their totals are the sums of the listed counts. Otherwise the registry breaks down. -/
theorem totals_exact_iff {origin : Snapshot → Prop} {log : List (Event σ)} {r : Registry σ}
    (chronicle : Chronicle origin log r) (generatedAt : UInt64) :
    let zones := r.zoneStats.toList
    LastReports log r zones ∧
      ((∃ stats, r.aggregate generatedAt = .ok stats ∧ Exact zones stats) ↔ Countable zones) ∧
      (¬Countable zones → r.aggregate generatedAt = .error .stopped) := by
  intro zones
  refine ⟨chronicle.lastReports, ⟨?_, fun countable => aggregate_of_countable countable _⟩,
    fun large => aggregate_of_not_countable large _⟩
  rintro ⟨stats, given, -⟩
  by_contra large
  rw [aggregate_of_not_countable large] at given
  cases given

/-- Two servers report for their zones, and the second one leaves its zone to another. -/
def firstReport (entities : UInt32) : Execution MemoryStore :=
  ⟨shared, .start, .reportZoneStats ⟨0, 0⟩ ⟨entities, 2, .ofInt 1⟩⟩

def secondReport (entities : UInt32) : Execution MemoryStore :=
  ⟨(firstReport entities).after, .start, .reportZoneStats ⟨1, 0⟩ ⟨1, 3, .ofInt 1⟩⟩

def leaving : Execution MemoryStore :=
  ⟨(secondReport 40).after, .start, .unregisterServer ⟨"b"⟩⟩

def reclaiming : Execution MemoryStore :=
  ⟨leaving.after, .start, .registerServer ⟨"c"⟩ (.loopback 7003)⟩

def reporting (entities : UInt32) : List (Event MemoryStore) :=
  sharing ++ [.executed (firstReport entities)] ++ [.executed (secondReport entities)]

theorem reporting_chronicle (entities : UInt32) :
    Chronicle (· = .empty) (reporting entities) (secondReport entities).after :=
  (shared_chronicle.execute .start _).execute .start _

theorem reclaimed_zone_not_counted :
    let log := reporting 40 ++ [.executed leaving] ++ [.executed reclaiming]
    let r := reclaiming.after
    (Chronicle (· = .empty) log r ∧ (r.ownerOf? ⟨1, 0⟩).isSome ∧
      lastReport? ⟨1, 0⟩ log r = none) ∧
    ∃ stats, r.aggregate 5 = .ok stats ∧ stats.zones = [(⟨0, 0⟩, ⟨40, 2, .ofInt 1⟩)] ∧
      Exact stats.zones stats := by
  intro log r
  have chronicle : Chronicle (· = .empty) log r :=
    ((reporting_chronicle 40).execute .start _).execute .start _
  obtain ⟨-, gathered, -⟩ := totals_exact_iff chronicle 5
  obtain ⟨stats, given, exact⟩ := gathered.mpr (by decide +kernel)
  have zones : stats.zones = [(⟨0, 0⟩, ⟨40, 2, .ofInt 1⟩)] :=
    exact.reports.trans (by decide +kernel)
  exact ⟨⟨chronicle, by decide +kernel, by decide +kernel⟩, stats, given, zones,
    exact.reports ▸ exact⟩

/-- One entity more than can be counted, and the registry is gone. -/
theorem one_too_many_breaks_down :
    let r := (secondReport 4294967295).after
    Chronicle (· = .empty) (reporting 4294967295) r ∧
      LastReports (reporting 4294967295) r r.zoneStats.toList ∧
      sumOf (·.entityCount) r.zoneStats.toList = 4294967296 ∧
      r.aggregate 5 = .error .stopped ∧
      ((Mailbox.start r).request .start (.aggregate 5)).2.running = false :=
  ⟨reporting_chronicle 4294967295, (reporting_chronicle 4294967295).lastReports,
    by decide +kernel, by decide +kernel, by decide +kernel⟩

end ShardedWorld.Registry
