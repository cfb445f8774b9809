import ShardedWorld.Proofs.Registry.Observations

/-! Registries with all that happened to them.

A chronicle tells when a registry was started and which commands it was given, each with the
registry that was there before. What holds at a first start, and is kept by changes, by the store
being changed from outside and by a new start, holds of every registry with a chronicle.
-/

set_option autoImplicit false

namespace ShardedWorld

theorem Snapshot.NamesServers.removeServer {s : Snapshot} (names : s.NamesServers) (id : ServerId) :
    (s.removeServer id).NamesServers := by
  intro other kept found
  simp only [Snapshot.removeServer, Std.ExtTreeMap.getElem?_erase] at found
  split at found
  · cases found
  · exact names other kept found

theorem Snapshot.namesServers_empty : Snapshot.empty.NamesServers := by
  intro id server found
  simp [Snapshot.empty] at found

private theorem concat_eq_append_cons {α : Type} {l earlier later : List α} {x y : α}
    (same : l ++ [x] = earlier ++ y :: later) :
    (later = [] ∧ l = earlier ∧ x = y) ∨
      ∃ rest, later = rest ++ [x] ∧ l = earlier ++ y :: rest := by
  rcases List.eq_nil_or_concat later with rfl | ⟨rest, last, rfl⟩
  · obtain ⟨rfl, tail⟩ := List.append_inj' same rfl
    exact .inl ⟨rfl, rfl, List.head_eq_of_cons_eq tail⟩
  · rw [List.concat_eq_append, ← List.cons_append, ← List.append_assoc] at same
    obtain ⟨rfl, tail⟩ := List.append_inj' same rfl
    obtain rfl := List.head_eq_of_cons_eq tail
    exact .inr ⟨rest, List.concat_eq_append, rfl⟩

namespace Registry

variable {σ : Type}

/-! What an operation leaves, whether it succeeds or fails. -/

theorem settle_after {α : Type} {P : Registry σ → Prop} {r : Registry σ} {answer : α → Answer}
    {outcome : Except RegistryError (α × Registry σ)} (failed : P r)
    (done : ∀ a r', outcome = .ok (a, r') → P r') : P (r.settle answer outcome).2 := by
  match outcome with
  | .ok (a, r') => exact done a r' rfl
  | .error e => exact failed

theorem settleDone_after {P : Registry σ → Prop} {r : Registry σ}
    {outcome : Except RegistryError (Registry σ)} (failed : P r)
    (done : ∀ r', outcome = .ok r' → P r') : P (r.settleDone outcome).2 := by
  cases outcome with
  | ok r' => exact done r' rfl
  | error e => exact failed

/-! What an operation on a server that succeeds has found and done. -/

theorem heartbeat_cases {r after : Registry σ} {id : ServerId} {now : Instant}
    (done : r.heartbeat id now = .ok after) :
    ∃ known, r.server? id = some known ∧
      after = { r with servers := r.servers.insert id { known with lastHeartbeat := now } } := by
  unfold heartbeat at done
  split at done
  · cases done
  next known found => exact ⟨known, found, (Except.ok.inj done).symm⟩

section

variable [Store σ] {r after : Registry σ} {id : ServerId}

theorem registerServer_cases {endpoint : Address} {now : Instant} {zone : Zone}
    (done : r.registerServer id endpoint now = .ok (zone, after)) :
    (∃ known, r.server? id = some known ∧ after = r) ∨
      r.server? id = none ∧ ∃ store, Store.putServer r.store ⟨id, endpoint, zone⟩ = .ok store ∧
        after = { r with
          store
          zones := r.zones.insert zone id
          servers := r.servers.insert id ⟨⟨id, endpoint, zone⟩, now⟩ } := by
  unfold registerServer at done
  split at done
  next known found =>
    left
    exact ⟨known, found, (Prod.mk.inj (Except.ok.inj done)).2.symm⟩
  next unknown =>
    split at done
    · cases done
    · obtain ⟨claimed, outcome, done⟩ := bind_eq_ok.mp done
      obtain ⟨store, taken, rfl⟩ := claim_eq_ok outcome
      obtain ⟨rfl, rfl⟩ := Prod.mk.inj (Except.ok.inj done)
      exact .inr ⟨unknown, store, taken, rfl⟩

theorem unregisterServer_cases (done : r.unregisterServer id = .ok after) :
    (r.server? id = none ∧ after = r) ∨
      ∃ known store, r.server? id = some known ∧ Store.removeServer r.store id = .ok store ∧
        after = { r with
          store
          servers := r.servers.erase id
          zones := r.zones.erase known.zone
          zoneStats := r.zoneStats.erase known.zone } := by
  unfold unregisterServer at done
  split at done
  next unknown => exact .inl ⟨unknown, (Except.ok.inj done).symm⟩
  next known found =>
    obtain ⟨store, outcome, done⟩ := bind_eq_ok.mp done
    exact .inr ⟨known, store, found, written_eq_ok.mp outcome, (Except.ok.inj done).symm⟩

end

/-! Commands that are not about servers. -/

/-- Nothing has changed but the players and the store. -/
def KeepsServers (r after : Registry σ) : Prop :=
  ∃ store players, after = { r with store, players }

theorem KeepsServers.refl (r : Registry σ) : KeepsServers r r := ⟨r.store, r.players, rfl⟩

section

variable [Store σ] {r after : Registry σ}

theorem keepPlayer_keepsServers {id : PlayerId} {entry : PlayerEntry}
    (done : r.keepPlayer id entry = .ok after) : KeepsServers r after := by
  obtain ⟨store, -, rfl⟩ := keepPlayer_eq_ok done
  exact ⟨store, _, rfl⟩

theorem initiateTransfer_keepsServers {id : PlayerId} {position : Vec2}
    {order : Option TransferDirective}
    (done : r.initiateTransfer id position = .ok (order, after)) : KeepsServers r after := by
  unfold initiateTransfer at done
  split at done
  all_goals
    obtain ⟨kept, outcome, done⟩ := bind_eq_ok.mp done
    obtain ⟨-, rfl⟩ := Prod.mk.inj (Except.ok.inj done)
    exact keepPlayer_keepsServers outcome

theorem completeTransfer_keepsServers {id : PlayerId} {server : ServerId}
    (done : r.completeTransfer id server = .ok after) : KeepsServers r after := by
  unfold completeTransfer at done
  split at done
  · rw [← Except.ok.inj done]
    exact .refl r
  · split at done
    · rw [← Except.ok.inj done]
      exact .refl r
    · exact keepPlayer_keepsServers done

theorem updatePlayer_keepsServers {record : PlayerRecord}
    (done : r.updatePlayer record = .ok after) : KeepsServers r after := by
  unfold updatePlayer at done
  split at done
  all_goals exact keepPlayer_keepsServers done

theorem resetPlayers_keepsServers (done : r.resetPlayers = .ok after) : KeepsServers r after := by
  obtain ⟨store, -, done⟩ := bind_eq_ok.mp done
  rw [← Except.ok.inj done]
  exact ⟨store, ∅, rfl⟩

end

def Command.keepsServers : Command → Bool
  | .initiateTransfer .. | .completeTransfer .. | .updatePlayer _ | .resetPlayers => true
  | .locate _ | .aggregate _ => true
  | .registerServer .. | .unregisterServer _ | .heartbeat _ | .evictStale _ => false
  | .reportZoneStats .. => false

theorem execute_keepsServers [Store σ] (r : Registry σ) (now : Instant) {command : Command}
    (keeps : command.keepsServers) : KeepsServers r (r.execute now command).2 := by
  cases command with
  | initiateTransfer id position =>
    exact settle_after (.refl r) fun _ _ => initiateTransfer_keepsServers
  | completeTransfer id server =>
    exact settleDone_after (.refl r) fun _ => completeTransfer_keepsServers
  | updatePlayer record => exact settleDone_after (.refl r) fun _ => updatePlayer_keepsServers
  | resetPlayers => exact settleDone_after (.refl r) fun _ => resetPlayers_keepsServers
  | locate position => exact .refl r
  | aggregate generatedAt => exact .refl r
  | registerServer _ _ | unregisterServer _ | heartbeat _ | evictStale _ => cases keeps
  | reportZoneStats _ _ => cases keeps

/-! Events. -/

inductive Event (σ : Type) where
  | started (now : Instant)
  | executed (e : Execution σ)

namespace Event

def time : Event σ → Instant
  | started now => now
  | executed e => e.now

def execution? : Event σ → Option (Execution σ)
  | started _ => none
  | executed e => some e

end Event

variable [Store σ]

namespace Execution

def outcome (e : Execution σ) : Except RegistryError Answer := (e.before.execute e.now e.command).1

def after (e : Execution σ) : Registry σ := (e.before.execute e.now e.command).2

end Execution

/-! Chronicles. -/

/-- What holds of a registry without servers, and is kept when a stored server that is not known
yet is taken over, holds of every registry that starts from a store. -/
theorem restore_invariant {P : Registry σ → Prop} {grid : Grid} {store : σ} {now : Instant}
    (initial : P (unserved grid store (Store.snapshot store).players))
    (taken : ∀ {r : Registry σ} {id : ServerId} {stored : StoredServer},
      (Store.snapshot store).servers[id]? = some stored → r.servers[id]? = none → P r →
        P (r.takeOver now id stored)) :
    P (restore grid store now) := by
  rw [restore_eq_takeOverAll]
  have distinct := entries_distinct (Store.snapshot store).servers
  have listed : ∀ entry ∈ (Store.snapshot store).servers.toList,
      (Store.snapshot store).servers[entry.1]? = some entry.2 :=
    fun entry member => Std.ExtTreeMap.mem_toList_iff_getElem?_eq_some.mp member
  have unknown : ∀ entry ∈ (Store.snapshot store).servers.toList,
      (unserved grid store (Store.snapshot store).players).servers[entry.1]? = none := by
    simp [unserved]
  generalize (Store.snapshot store).servers.toList = entries at distinct listed unknown
  generalize unserved grid store (Store.snapshot store).players = r at initial unknown
  induction entries generalizing r with
  | nil => exact initial
  | cons first rest ih =>
    obtain ⟨fresh, distinct⟩ := List.pairwise_cons.mp distinct
    refine ih distinct (fun entry member => listed entry (List.mem_cons_of_mem first member))
      (r.takeOver now first.1 first.2)
      (taken (listed first (by simp)) (unknown first (by simp)) initial) ?_
    intro entry member
    rw [takeOver_servers_of_ne r now first.2 (fresh entry member)]
    exact unknown entry (List.mem_cons_of_mem first member)

/-- A registry that first started from a snapshot as `origin` says, and its events since. Between
them its store may be changed from outside, but for what it holds. -/
inductive Chronicle (origin : Snapshot → Prop) : List (Event σ) → Registry σ → Prop where
  | start {store : σ} (grid : Grid) (now : Instant) : origin (Store.snapshot store) →
      Chronicle origin [.started now] (restore grid store now)
  | execute {log : List (Event σ)} {r : Registry σ} (now : Instant) (command : Command) :
      Chronicle origin log r →
      Chronicle origin (log ++ [.executed ⟨r, now, command⟩]) (r.execute now command).2
  | outside {log : List (Event σ)} {r : Registry σ} {store : σ} :
      Store.snapshot store = Store.snapshot r.store → Chronicle origin log r →
      Chronicle origin log { r with store }
  | restart {log : List (Event σ)} {r : Registry σ} (grid : Grid) (now : Instant) :
      Chronicle origin log r →
      Chronicle origin (log ++ [.started now]) (restore grid r.store now)

theorem Change.namesServers [LawfulStore σ] {r r' : Registry σ} (change : Change r r')
    (names : (Store.snapshot r.store).NamesServers) :
    (Store.snapshot r'.store).NamesServers := by
  cases change with
  | claim now unknown free taken =>
    rw [LawfulStore.snapshot_of_commit taken]
    exact names.putServer _
  | release found taken =>
    rw [LawfulStore.snapshot_of_commit taken]
    exact names.removeServer _
  | beat now found => exact names
  | keep named taken =>
    rw [LawfulStore.snapshot_of_commit taken]
    exact names
  | reset taken =>
    rw [LawfulStore.snapshot_of_commit taken]
    exact names
  | report stats owned => exact names

namespace Chronicle

variable {origin : Snapshot → Prop} {log : List (Event σ)} {r : Registry σ}

theorem invariant {P : Registry σ → Prop} (chronicle : Chronicle origin log r)
    (first : ∀ (grid : Grid) (store : σ) (now : Instant), origin (Store.snapshot store) →
      P (restore grid store now))
    (change : ∀ {a b}, Change a b → P a → P b)
    (stores : ∀ {a : Registry σ} {store}, Store.snapshot store = Store.snapshot a.store → P a →
      P { a with store })
    (again : ∀ (a : Registry σ) (grid : Grid) (now : Instant), P a →
      P (restore grid a.store now)) : P r := by
  induction chronicle with
  | start grid now begun => exact first grid _ now begun
  | execute now command _ ih => exact execute_invariant change ih now command
  | outside same _ ih => exact stores same ih
  | restart grid now _ ih => exact again _ grid now ih

theorem mono {origin' : Snapshot → Prop} (chronicle : Chronicle origin log r)
    (weaker : ∀ s, origin s → origin' s) : Chronicle origin' log r := by
  induction chronicle with
  | start grid now begun => exact .start grid now (weaker _ begun)
  | execute now command _ ih => exact .execute now command ih
  | outside same _ ih => exact .outside same ih
  | restart grid now _ ih => exact .restart grid now ih

theorem coherent [LawfulStore σ] (chronicle : Chronicle Snapshot.NamesServers log r) :
    Coherent r ∧ (Store.snapshot r.store).NamesServers := by
  have started (grid : Grid) (store : σ) (now : Instant)
      (names : (Store.snapshot store).NamesServers) :
      Coherent (restore grid store now) ∧
        (Store.snapshot (restore grid store now).store).NamesServers := by
    rw [(restore_players grid store now).1]
    exact ⟨restore_coherent grid now names, names⟩
  apply chronicle.invariant started
  · intro a b change held
    exact ⟨Coherent.change change held.1, change.namesServers held.2⟩
  · intro a store same held
    exact ⟨⟨held.1.named, held.1.paired, held.1.reported⟩, same ▸ held.2⟩
  · intro a grid now held
    exact started grid a.store now held.2

/-- The log of a registry that started without players, for what was observed of them. -/
theorem logged (chronicle : Chronicle origin log r)
    (unpeopled : ∀ s, origin s → s.players = ∅) : Logged (log.filterMap Event.execution?) r := by
  induction chronicle with
  | start grid now begun => exact .start grid now (unpeopled _ begun)
  | execute now command _ ih =>
    rw [List.filterMap_append]
    exact .execute now command ih
  | outside same _ ih => exact .outside (congrArg Snapshot.players same) ih
  | restart grid now _ ih =>
    rw [List.filterMap_append, List.filterMap_cons_none rfl, List.filterMap_nil, List.append_nil]
    exact .restart grid now ih

theorem before (chronicle : Chronicle origin log r) {earlier later : List (Event σ)}
    {e : Execution σ} (given : log = earlier ++ .executed e :: later) :
    Chronicle origin earlier e.before := by
  -- On the chronicle: the command is the last event, or it was given before that.
  induction chronicle generalizing later with
  | start grid now begun =>
    rcases concat_eq_append_cons (l := []) given with ⟨-, -, same⟩ | ⟨rest, -, same⟩
    · cases same
    · simp at same
  | execute now command before ih =>
    rcases concat_eq_append_cons given with ⟨-, rfl, same⟩ | ⟨rest, -, same⟩
    · obtain rfl := Event.executed.inj same
      exact before
    · exact ih same
  | outside same _ ih => exact ih given
  | restart grid now _ ih =>
    rcases concat_eq_append_cons given with ⟨-, -, same⟩ | ⟨rest, -, same⟩
    · cases same
    · exact ih same

end Chronicle

/-- A registry with two servers, and how it came to them. -/
def shared : Registry MemoryStore :=
  (served.execute .start (.registerServer ⟨"b"⟩ (.loopback 7002))).2

def sharing : List (Event MemoryStore) :=
  [.started .start,
    .executed ⟨restore .standard MemoryStore.empty .start, .start,
      .registerServer ⟨"a"⟩ (.loopback 7001)⟩,
    .executed ⟨served, .start, .registerServer ⟨"b"⟩ (.loopback 7002)⟩]

theorem shared_chronicle : Chronicle (· = .empty) sharing shared := by
  have begun : Chronicle (· = .empty) [.started .start]
      (restore .standard MemoryStore.empty .start) :=
    .start .standard .start rfl
  exact (begun.execute .start _).execute .start _

end Registry

end ShardedWorld
