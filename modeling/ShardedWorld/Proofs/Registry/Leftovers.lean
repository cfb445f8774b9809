import Mathlib.Data.List.DropRight
import ShardedWorld.Proofs.Registry.Chronicles

/-! Stored servers that are not registered.

Where a store assigns a zone to several servers, a registry that starts from it admits the first of
them and leaves the others in the store. They surface with the next start, unless each of them still
comes after a registered owner of its zone.
-/

set_option autoImplicit false

namespace ShardedWorld.Registry

variable {σ : Type}

/-! Zones that are taken over. -/

theorem takeOver_zones (now : Instant) (r : Registry σ) (id : ServerId) (stored : StoredServer)
    (zone : Zone) :
    (r.takeOver now id stored).zones[zone]? =
      (r.zones[zone]?).or (if stored.zone = zone then some id else none) := by
  unfold takeOver
  by_cases same : stored.zone = zone
  · subst same
    split
    next owned =>
      obtain ⟨owner, entered⟩ := Table.mem_iff.mp owned
      rw [entered, Option.some_or]
    next free => simp [Std.ExtTreeMap.getElem?_eq_none free]
  · split <;> simp [Std.ExtTreeMap.getElem?_insert, same]

theorem takeOverAll_zones (now : Instant) (entries : List (ServerId × StoredServer))
    (r : Registry σ) (zone : Zone) :
    (r.takeOverAll now entries).zones[zone]? =
      (r.zones[zone]?).or ((entries.find? fun entry => entry.2.zone = zone).map (·.1)) := by
  induction entries generalizing r with
  | nil => simp [takeOverAll]
  | cons first rest ih =>
    refine (ih (r.takeOver now first.1 first.2)).trans ?_
    rw [takeOver_zones, Option.or_assoc, List.find?_cons]
    by_cases same : first.2.zone = zone <;> simp [same]

theorem find?_zone_eq_some_iff {entries : List (ServerId × StoredServer)}
    (ordered : entries.Pairwise fun a b => compare a.1 b.1 = .lt) {zone : Zone} {id : ServerId} :
    (entries.find? fun entry => entry.2.zone = zone).map (·.1) = some id ↔
      (∃ stored, (id, stored) ∈ entries ∧ stored.zone = zone) ∧
        ∀ other stored, (other, stored) ∈ entries → stored.zone = zone →
          other = id ∨ compare id other = .lt := by
  induction entries with
  | nil => simp
  | cons first rest ih =>
    -- The first entry has the least key, so it wins if it is for the zone at all.
    obtain ⟨before, ordered⟩ := List.pairwise_cons.mp ordered
    by_cases same : first.2.zone = zone
    · rw [List.find?_cons_of_pos (by simpa using same), Option.map_some, Option.some_inj]
      constructor
      · rintro rfl
        refine ⟨⟨first.2, List.mem_cons_self, same⟩, ?_⟩
        intro other stored member _
        rcases List.mem_cons.mp member with rfl | member
        · exact .inl rfl
        · exact .inr (before _ member)
      · rintro ⟨⟨stored, member, -⟩, least⟩
        rcases least first.1 first.2 List.mem_cons_self same with rfl | less
        · rfl
        · rcases List.mem_cons.mp member with rfl | member
          · rfl
          · exact absurd less (Std.OrientedCmp.not_lt_of_lt (before _ member))
    · rw [List.find?_cons_of_neg (by simpa using same), ih ordered]
      have skipped (other : ServerId) (stored : StoredServer) :
          (other, stored) ∈ first :: rest ∧ stored.zone = zone ↔
            (other, stored) ∈ rest ∧ stored.zone = zone := by
        rw [List.mem_cons, and_congr_left_iff, or_iff_right_iff_imp]
        rintro place rfl
        exact absurd place same
      simp only [← and_imp, skipped]

/-! The last start. -/

def sinceStarted (log : List (Event σ)) : List (Event σ) :=
  log.rtakeWhile (·.execution?.isSome)

theorem sinceStarted_started (log : List (Event σ)) (now : Instant) :
    sinceStarted (log ++ [.started now]) = [] := by
  rw [sinceStarted, List.rtakeWhile_concat]
  exact if_neg Bool.false_ne_true

theorem sinceStarted_executed (log : List (Event σ)) (e : Execution σ) :
    sinceStarted (log ++ [.executed e]) = sinceStarted log ++ [.executed e] := by
  rw [sinceStarted, List.rtakeWhile_concat]
  exact if_pos rfl

variable [Store σ]

/-! Registered servers are stored. -/

def Backed (r : Registry σ) : Prop :=
  ∀ (id : ServerId) (s : Registration), r.servers[id]? = some s →
    (Store.snapshot r.store).servers[id]? = some s.toStoredServer

theorem restore_backed (grid : Grid) (store : σ) (now : Instant) :
    Backed (restore grid store now) := by
  unfold Backed
  rw [(restore_players grid store now).1]
  apply restore_invariant (P := fun r => ∀ (id : ServerId) (s : Registration),
    r.servers[id]? = some s → (Store.snapshot store).servers[id]? = some s.toStoredServer)
  · simp [unserved]
  · intro r id stored listed _ held other s found
    unfold takeOver at found
    split at found
    · exact held other s found
    · simp only [Std.ExtTreeMap.getElem?_insert, Std.compare_eq_iff_eq] at found
      split at found
      next same => rw [← same, listed, ← Option.some.inj found]
      · exact held other s found

theorem Backed.change [LawfulStore σ] {r r' : Registry σ} (change : Change r r')
    (backed : Backed r) : Backed r' := by
  intro other s found
  cases change with
  | claim now unknown free taken =>
    simp only [LawfulStore.snapshot_of_commit taken, Snapshot.putServer,
      Std.ExtTreeMap.getElem?_insert] at found ⊢
    split at found
    next same => rw [if_pos same, ← Option.some.inj found]
    next different =>
      rw [if_neg different]
      exact backed other s found
  | release known taken =>
    simp only [LawfulStore.snapshot_of_commit taken, Snapshot.removeServer,
      Std.ExtTreeMap.getElem?_erase] at found ⊢
    split at found
    · cases found
    next different =>
      rw [if_neg different]
      exact backed other s found
  | beat now known =>
    simp only [Std.ExtTreeMap.getElem?_insert, Std.compare_eq_iff_eq] at found
    split at found
    next same =>
      rw [same] at known
      rw [backed other _ known, ← Option.some.inj found]
    · exact backed other s found
  | keep named taken =>
    rw [LawfulStore.snapshot_of_commit taken]
    exact backed other s found
  | reset taken =>
    rw [LawfulStore.snapshot_of_commit taken]
    exact backed other s found
  | report stats owned => exact backed other s found

theorem Chronicle.backed [LawfulStore σ] {origin : Snapshot → Prop} {log : List (Event σ)}
    {r : Registry σ} (chronicle : Chronicle origin log r) : Backed r :=
  chronicle.invariant (fun grid store now _ => restore_backed grid store now) Backed.change
    (fun same backed id s found => same ▸ backed id s found)
    fun a grid now _ => restore_backed grid a.store now

/-! Who gets a zone at a start. -/

/-- A zone goes to the first server, in the order of the keys, that the store assigns it to. -/
theorem restore_zones_eq_some_iff {grid : Grid} {store : σ} {now : Instant} {zone : Zone}
    {id : ServerId} :
    (restore grid store now).zones[zone]? = some id ↔
      (∃ stored, (Store.snapshot store).servers[id]? = some stored ∧ stored.zone = zone) ∧
        ∀ other stored, (Store.snapshot store).servers[other]? = some stored →
          stored.zone = zone → other = id ∨ compare id other = .lt := by
  rw [restore_eq_takeOverAll, takeOverAll_zones]
  simp only [unserved, Std.ExtTreeMap.getElem?_empty, Option.none_or,
    ← Std.ExtTreeMap.mem_toList_iff_getElem?_eq_some]
  exact find?_zone_eq_some_iff Std.ExtTreeMap.ordered_keys_toList

theorem restore_owner (grid : Grid) {store : σ} (now : Instant)
    (names : (Store.snapshot store).NamesServers) {id : ServerId} {stored : StoredServer}
    (listed : (Store.snapshot store).servers[id]? = some stored) :
    ∃ owner, (restore grid store now).ownerOf? stored.zone = some owner ∧
      (id = owner.serverId ∨ compare owner.serverId id = .lt) := by
  have coherent := restore_coherent grid now names
  cases entered : (restore grid store now).zones[stored.zone]? with
  | none =>
    rw [restore_eq_takeOverAll, takeOverAll_zones] at entered
    simp only [unserved, Std.ExtTreeMap.getElem?_empty, Option.none_or, Option.map_eq_none_iff,
      List.find?_eq_none] at entered
    have member := Std.ExtTreeMap.mem_toList_iff_getElem?_eq_some.mpr listed
    exact absurd (decide_eq_true rfl) (entered _ member)
  | some first =>
    obtain ⟨owner, found, place⟩ := coherent.paired.mp entered
    obtain ⟨-, least⟩ := restore_zones_eq_some_iff.mp entered
    refine ⟨owner, coherent.owner_iff.mpr ⟨⟨first, found⟩, place⟩, ?_⟩
    rw [coherent.named found]
    exact least id stored listed rfl

/-! Leftovers. -/

def Leftover (r : Registry σ) (id : ServerId) (stored : StoredServer) : Prop :=
  (Store.snapshot r.store).servers[id]? = some stored ∧ r.server? id = none

/-- Every leftover comes after an owner of its zone. -/
def LeftoversYield (r : Registry σ) : Prop :=
  ∀ id stored, Leftover r id stored →
    ∃ owner, r.ownerOf? stored.zone = some owner ∧ compare owner.serverId id = .lt

/-- A new start leaves every zone to its owner, and registers no server anew. -/
structure KeepsOwners (r restarted : Registry σ) : Prop where
  owners : ∀ zone s, r.ownerOf? zone = some s →
    (restarted.ownerOf? zone).map (·.toStoredServer) = some s.toStoredServer
  servers : ∀ id, id ∈ restarted.servers → id ∈ r.servers

theorem restart_keeps_owners [LawfulStore σ] {log : List (Event σ)} {r : Registry σ}
    (chronicle : Chronicle Snapshot.NamesServers log r) (yields : LeftoversYield r) (grid : Grid)
    (now : Instant) : KeepsOwners r (restore grid r.store now) := by
  obtain ⟨coherent, names⟩ := chronicle.coherent
  have backed := chronicle.backed
  have coherent' := restore_coherent grid now names
  have backed' := restore_backed grid r.store now
  rw [Backed, (restore_players grid r.store now).1] at backed'
  refine ⟨?_, ?_⟩
  · intro zone s owned
    obtain ⟨⟨id, found⟩, rfl⟩ := coherent.owner_iff.mp owned
    have entered : (restore grid r.store now).zones[s.zone]? = some id := by
      refine restore_zones_eq_some_iff.mpr ⟨⟨_, backed id s found, rfl⟩, ?_⟩
      intro other stored listed place
      cases known : r.servers[other]? with
      | some s' =>
        left
        obtain rfl := Option.some.inj (listed.symm.trans (backed other s' known))
        exact coherent.zone_injective known found place
      | none =>
        right
        obtain ⟨owner, owned', less⟩ := yields other stored ⟨listed, known⟩
        rw [place, owned] at owned'
        obtain rfl := Option.some.inj owned'
        rwa [coherent.named found] at less
    obtain ⟨s', found', place⟩ := coherent'.paired.mp entered
    have same := Option.some.inj ((backed' id s' found').symm.trans (backed id s found))
    rw [coherent'.owner_iff.mpr ⟨⟨id, found'⟩, place⟩, Option.map_some, same]
  · intro id member
    obtain ⟨s, found⟩ := Table.mem_iff.mp member
    obtain ⟨-, least⟩ := restore_zones_eq_some_iff.mp (coherent'.paired.mpr ⟨s, found, rfl⟩)
    by_contra unknown
    obtain ⟨owner, owned, less⟩ :=
      yields id _ ⟨backed' id s found, Std.ExtTreeMap.getElem?_eq_none unknown⟩
    obtain ⟨⟨key, registered⟩, place⟩ := coherent.owner_iff.mp owned
    rw [coherent.named registered] at less
    -- The owner of the zone comes first, so it would have got the zone again.
    rcases least key _ (backed key owner registered) place with rfl | greater
    · exact unknown (Table.mem_iff.mpr ⟨owner, registered⟩)
    · exact absurd less (Std.OrientedCmp.not_lt_of_lt greater)

/-- Where a new start registers no server anew, the leftovers yield. -/
theorem leftoversYield_of_restart [LawfulStore σ] {log : List (Event σ)} {r : Registry σ}
    (chronicle : Chronicle Snapshot.NamesServers log r) {grid : Grid} {now : Instant}
    (kept : ∀ id, id ∈ (restore grid r.store now).servers → id ∈ r.servers) :
    LeftoversYield r := by
  obtain ⟨coherent, names⟩ := chronicle.coherent
  have backed' := restore_backed grid r.store now
  rw [Backed, (restore_players grid r.store now).1] at backed'
  rintro id stored ⟨listed, unknown⟩
  obtain ⟨owner, owned, first⟩ := restore_owner grid now names listed
  obtain ⟨⟨key, found⟩, place⟩ := (restore_coherent grid now names).owner_iff.mp owned
  -- The server that gets the zone was registered before, and for this zone.
  obtain ⟨s, registered⟩ := Table.mem_iff.mp (kept key (Table.mem_iff.mpr ⟨owner, found⟩))
  have same := Option.some.inj
    ((backed' key owner found).symm.trans (chronicle.backed key s registered))
  refine ⟨s, coherent.owner_iff.mpr ⟨⟨key, registered⟩, ?_⟩, ?_⟩
  · rw [← same]
    exact place
  · rw [← same]
    rcases first with rfl | less
    · rw [(restore_coherent grid now names).named found, server?, registered] at unknown
      cases unknown
    · exact less

/-! What strands a leftover. -/

theorem restore_leftoversYield {grid : Grid} {store : σ} {now : Instant}
    (names : (Store.snapshot store).NamesServers) :
    LeftoversYield (restore grid store now) := by
  have coherent := restore_coherent grid now names
  rintro id stored ⟨listed, unknown⟩
  rw [(restore_players grid store now).1] at listed
  obtain ⟨owner, owned, first⟩ := restore_owner grid now names listed
  refine ⟨owner, owned, first.resolve_left ?_⟩
  rintro rfl
  obtain ⟨⟨key, found⟩, -⟩ := coherent.owner_iff.mp owned
  rw [coherent.named found, server?, found] at unknown
  cases unknown

theorem Change.leftover [LawfulStore σ] {r r' : Registry σ} (change : Change r r') {id : ServerId}
    {stored : StoredServer} (leftover : Leftover r' id stored) : Leftover r id stored := by
  obtain ⟨listed, unknown⟩ := leftover
  cases change with
  -- What is stored and what is known change together, but for heartbeats, which are not stored.
  | claim now fresh free taken =>
    simp only [LawfulStore.snapshot_of_commit taken, Snapshot.putServer, server?,
      Std.ExtTreeMap.getElem?_insert] at listed unknown
    split at unknown
    · cases unknown
    next different =>
      rw [if_neg different] at listed
      exact ⟨listed, unknown⟩
  | release known taken =>
    simp only [LawfulStore.snapshot_of_commit taken, Snapshot.removeServer, server?,
      Std.ExtTreeMap.getElem?_erase] at listed unknown
    split at listed
    · cases listed
    next different =>
      rw [if_neg different] at unknown
      exact ⟨listed, unknown⟩
  | beat now known =>
    simp only [server?, Std.ExtTreeMap.getElem?_insert] at unknown
    split at unknown
    · cases unknown
    · exact ⟨listed, unknown⟩
  | keep named taken =>
    rw [LawfulStore.snapshot_of_commit taken] at listed
    exact ⟨listed, unknown⟩
  | reset taken =>
    rw [LawfulStore.snapshot_of_commit taken] at listed
    exact ⟨listed, unknown⟩
  | report stats owned => exact ⟨listed, unknown⟩

/-- A command after which a server is gone, and another one is left over for its zone. -/
def Execution.Strands (e : Execution σ) : Prop :=
  ∃ id known other stored, e.before.server? id = some known ∧ e.after.server? id = none ∧
    Leftover e.after other stored ∧ stored.zone = known.zone

theorem execute_leftoversYield [LawfulStore σ] {r : Registry σ} (coherent : Coherent r)
    (yields : LeftoversYield r) {now : Instant} {command : Command}
    (spares : ¬ Execution.Strands ⟨r, now, command⟩) :
    LeftoversYield (r.execute now command).2 := by
  intro id stored leftover
  have already : Leftover r id stored :=
    execute_invariant (P := fun a => ∀ id stored, Leftover a id stored → Leftover r id stored)
      (fun change held _ _ leftover => held _ _ (change.leftover leftover))
      (fun _ _ leftover => leftover) now command id stored leftover
  obtain ⟨owner, owned, less⟩ := yields id stored already
  obtain ⟨⟨key, found⟩, place⟩ := coherent.owner_iff.mp owned
  cases still : (r.execute now command).2.servers[key]? with
  | none => exact absurd ⟨key, owner, id, stored, found, still, leftover, place.symm⟩ spares
  | some s =>
    have same := execute_stored found still
    have coherent' := execute_invariant Coherent.change coherent now command
    refine ⟨s, coherent'.owner_iff.mpr ⟨⟨key, still⟩, ?_⟩, ?_⟩
    · rw [same]
      exact place
    · rw [same]
      exact less

/-- What was left over when a registry started stays away at the next start, as long as no server
goes for whose zone another one is left over. -/
theorem Chronicle.leftoversYield [LawfulStore σ] {log : List (Event σ)} {r : Registry σ}
    (chronicle : Chronicle Snapshot.NamesServers log r)
    (spared : ∀ e, .executed e ∈ sinceStarted log → ¬ e.Strands) : LeftoversYield r := by
  induction chronicle with
  | start grid now begun => exact restore_leftoversYield begun
  | @execute log r now command before ih =>
    rw [sinceStarted_executed] at spared
    refine execute_leftoversYield before.coherent.1 (ih fun e member => ?_) ?_
    · exact spared e (List.mem_append_left _ member)
    · exact spared _ (List.mem_append_right _ List.mem_cons_self)
  | outside same _ ih =>
    rintro id stored ⟨listed, unknown⟩
    exact ih spared id stored ⟨same ▸ listed, unknown⟩
  | restart grid now before _ => exact restore_leftoversYield before.coherent.2

/-- A new start keeps all owners, and registers no server anew, if and only if every server that is
left over in the store comes after an owner of its zone. That is so unless, since the last start, a
server went for whose zone another one was left over. -/
theorem restart_keeps_owners_iff [LawfulStore σ] {log : List (Event σ)} {r : Registry σ}
    (chronicle : Chronicle Snapshot.NamesServers log r) :
    (∀ grid now, KeepsOwners r (restore grid r.store now) ↔ LeftoversYield r) ∧
      ((∀ e, .executed e ∈ sinceStarted log → ¬ e.Strands) → LeftoversYield r) := by
  refine ⟨fun grid now => ⟨?_, ?_⟩, chronicle.leftoversYield⟩
  · intro keeps
    exact leftoversYield_of_restart chronicle keeps.servers
  · intro yields
    exact restart_keeps_owners chronicle yields grid now

/-- A registry that starts from a store with two servers for one zone. -/
def crowded : Registry MemoryStore :=
  restore .standard { crowdedStore with failWrites := false } .start

theorem crowded_chronicle :
    Chronicle Snapshot.NamesServers [.started .start] crowded := by
  refine .start .standard .start ?_
  apply Snapshot.NamesServers.putServer
  apply Snapshot.NamesServers.putServer
  exact Snapshot.namesServers_empty

/-- A third server registers, and later starts leave the zone to the first one. -/
def joining : Execution MemoryStore :=
  ⟨crowded, .start, .registerServer ⟨"c"⟩ (.loopback 7003)⟩

theorem leftover_stays_away :
    Chronicle Snapshot.NamesServers ([.started .start] ++ [.executed joining]) joining.after ∧
      Leftover joining.after ⟨"b"⟩ ⟨⟨"b"⟩, .loopback 7002, ⟨0, 0⟩⟩ ∧
      KeepsOwners joining.after (restore .standard joining.after.store .start) := by
  have chronicle : Chronicle Snapshot.NamesServers ([.started .start] ++ [.executed joining])
      joining.after :=
    crowded_chronicle.execute .start _
  obtain ⟨keeps, yields⟩ := restart_keeps_owners_iff chronicle
  refine ⟨chronicle, ⟨by decide +kernel, by decide +kernel⟩,
    (keeps .standard .start).mpr (yields ?_)⟩
  intro e member
  have fresh : sinceStarted ([.started .start] : List (Event MemoryStore)) = [] :=
    sinceStarted_started [] .start
  rw [sinceStarted_executed, fresh] at member
  obtain rfl : e = joining := by simpa using member
  rintro ⟨id, known, -, -, found, gone, -⟩
  have stays : ∀ id ∈ joining.before.servers.keys, (joining.after.server? id).isSome := by
    decide +kernel
  have still := stays id (Std.ExtTreeMap.mem_keys.mpr (Table.mem_iff.mpr ⟨known, found⟩))
  rw [gone] at still
  cases still

/-- The first server leaves before the third one registers. -/
def parting : Execution MemoryStore := ⟨crowded, .start, .unregisterServer ⟨"a"⟩⟩

def succeeding : Execution MemoryStore :=
  ⟨parting.after, .start, .registerServer ⟨"c"⟩ (.loopback 7003)⟩

/-- The third server has the zone until the next start, which gives it to the second one. -/
theorem leftover_takes_zone :
    let restarted := restore .standard succeeding.after.store .start
    Chronicle Snapshot.NamesServers
        ([.started .start] ++ [.executed parting] ++ [.executed succeeding]) succeeding.after ∧
      (succeeding.after.ownerOf? ⟨0, 0⟩).map (·.serverId) = some ⟨"c"⟩ ∧
      (restarted.ownerOf? ⟨0, 0⟩).map (·.serverId) = some ⟨"b"⟩ ∧
      succeeding.after.server? ⟨"b"⟩ = none ∧ restarted.server? ⟨"c"⟩ = none := by
  exact ⟨(crowded_chronicle.execute .start _).execute .start _, by decide +kernel,
    by decide +kernel, by decide +kernel, by decide +kernel⟩

end ShardedWorld.Registry
