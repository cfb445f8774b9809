import Mathlib.Logic.Relation
import ShardedWorld.Registry.Command

/-! What can happen to a registry.

Every command is a chain of changes of six kinds, and a change of something that lasts has gone
through the store first. What each kind of change preserves, every history preserves.
-/

set_option autoImplicit false

namespace ShardedWorld.Registry

open Relation (ReflTransGen)

variable {σ : Type} [Store σ]

/-- One change of a registry, with what it found and what the store took over. -/
inductive Change : Registry σ → Registry σ → Prop where
  | claim {r : Registry σ} {stored : StoredServer} {store : σ} (now : Instant) :
      r.servers[stored.serverId]? = none → r.zones[stored.zone]? = none →
      Store.putServer r.store stored = .ok store →
      Change r { r with
        store
        zones := r.zones.insert stored.zone stored.serverId
        servers := r.servers.insert stored.serverId { stored with lastHeartbeat := now } }
  | release {r : Registry σ} {id : ServerId} {known : Registration} {store : σ} :
      r.servers[id]? = some known → Store.removeServer r.store id = .ok store →
      Change r { r with
        store
        servers := r.servers.erase id
        zones := r.zones.erase known.zone
        zoneStats := r.zoneStats.erase known.zone }
  | beat {r : Registry σ} {id : ServerId} {known : Registration} (now : Instant) :
      r.servers[id]? = some known →
      Change r { r with servers := r.servers.insert id { known with lastHeartbeat := now } }
  | keep {r : Registry σ} {id : PlayerId} {entry : PlayerEntry} {store : σ} :
      (entry.record.playerId = id ∨
        ∃ old, r.players[id]? = some old ∧ entry.record.playerId = old.record.playerId) →
      Store.putPlayer r.store entry = .ok store →
      Change r { r with store, players := r.players.insert id entry }
  | reset {r : Registry σ} {store : σ} : Store.clearPlayers r.store = .ok store →
      Change r { r with store, players := ∅ }
  | report {r : Registry σ} {zone : Zone} (stats : ZoneStats) : zone ∈ r.zones →
      Change r { r with zoneStats := r.zoneStats.insert zone stats }

/-! What an operation that succeeds has done. -/

theorem bind_eq_ok {ε α β : Type} {first : Except ε α} {next : α → Except ε β} {b : β} :
    first >>= next = .ok b ↔ ∃ a, first = .ok a ∧ next a = .ok b := by
  cases first <;> simp [bind, Except.bind]

@[simp] theorem written_ok {α : Type} (a : α) : written (.ok a) = .ok a := rfl

@[simp] theorem written_error {α : Type} (e : StoreError) :
    (written (.error e) : Except RegistryError α) = .error (.persistence e) := rfl

theorem written_eq_ok {α : Type} {outcome : Except StoreError α} {a : α} :
    written outcome = .ok a ↔ outcome = .ok a := by
  cases outcome <;> simp

theorem claim_eq_ok {r r' : Registry σ} {stored : StoredServer} {now : Instant}
    (done : r.claim stored now = .ok r') :
    ∃ store, Store.putServer r.store stored = .ok store ∧
      r' = { r with
        store
        zones := r.zones.insert stored.zone stored.serverId
        servers := r.servers.insert stored.serverId { stored with lastHeartbeat := now } } := by
  obtain ⟨store, outcome, done⟩ := bind_eq_ok.mp done
  exact ⟨store, written_eq_ok.mp outcome, (Except.ok.inj done).symm⟩

theorem registerServer_eq_ok {r r' : Registry σ} {id : ServerId} {endpoint : Address}
    {now : Instant} {zone : Zone} (done : r.registerServer id endpoint now = .ok (zone, r')) :
    r' = r ∨ Change r r' := by
  unfold registerServer at done
  split at done
  next known found =>
    left
    exact (Prod.mk.inj (Except.ok.inj done)).2.symm
  next unknown =>
    split at done
    · cases done
    next free found =>
      obtain ⟨claimed, outcome, done⟩ := bind_eq_ok.mp done
      obtain ⟨store, taken, rfl⟩ := claim_eq_ok outcome
      right
      rw [← (Prod.mk.inj (Except.ok.inj done)).2]
      have free := Assignment.not_mem_of_firstFreeZone? found
      exact .claim now unknown (Std.ExtTreeMap.getElem?_eq_none free) taken

theorem unregisterServer_eq_ok {r r' : Registry σ} {id : ServerId}
    (done : r.unregisterServer id = .ok r') : r' = r ∨ Change r r' := by
  unfold unregisterServer at done
  split at done
  · left
    exact (Except.ok.inj done).symm
  next known found =>
    obtain ⟨store, outcome, done⟩ := bind_eq_ok.mp done
    right
    rw [← Except.ok.inj done]
    exact .release found (written_eq_ok.mp outcome)

theorem heartbeat_eq_ok {r r' : Registry σ} {id : ServerId} {now : Instant}
    (done : r.heartbeat id now = .ok r') : Change r r' := by
  unfold heartbeat at done
  split at done
  · cases done
  next known found =>
    rw [← Except.ok.inj done]
    exact .beat now found

theorem keepPlayer_eq_ok {r r' : Registry σ} {id : PlayerId} {entry : PlayerEntry}
    (done : r.keepPlayer id entry = .ok r') :
    ∃ store, Store.putPlayer r.store entry = .ok store ∧
      r' = { r with store, players := r.players.insert id entry } := by
  obtain ⟨store, outcome, done⟩ := bind_eq_ok.mp done
  exact ⟨store, written_eq_ok.mp outcome, (Except.ok.inj done).symm⟩

theorem direct_keeps_number (entry : PlayerEntry) (target : Option ServerInfo) :
    (direct entry target).1.record = entry.record := by
  unfold direct
  split
  · rfl
  · split <;> rfl

theorem initiateTransfer_eq_ok {r r' : Registry σ} {id : PlayerId} {position : Vec2}
    {directive : Option TransferDirective}
    (done : r.initiateTransfer id position = .ok (directive, r')) : Change r r' := by
  unfold initiateTransfer at done
  split at done
  next unknown =>
    obtain ⟨kept, outcome, done⟩ := bind_eq_ok.mp done
    obtain ⟨store, taken, rfl⟩ := keepPlayer_eq_ok outcome
    rw [← (Prod.mk.inj (Except.ok.inj done)).2]
    exact .keep (.inl rfl) taken
  next entry found =>
    dsimp only at done
    obtain ⟨kept, outcome, done⟩ := bind_eq_ok.mp done
    obtain ⟨store, taken, rfl⟩ := keepPlayer_eq_ok outcome
    rw [← (Prod.mk.inj (Except.ok.inj done)).2]
    exact .keep (.inr ⟨entry, found, by rw [direct_keeps_number]⟩) taken

theorem completeTransfer_eq_ok {r r' : Registry σ} {id : PlayerId} {server : ServerId}
    (done : r.completeTransfer id server = .ok r') : r' = r ∨ Change r r' := by
  unfold completeTransfer at done
  split at done
  · left
    exact (Except.ok.inj done).symm
  next entry found =>
    split at done
    · left
      exact (Except.ok.inj done).symm
    · obtain ⟨store, taken, rfl⟩ := keepPlayer_eq_ok done
      right
      exact .keep (.inr ⟨entry, found, rfl⟩) taken

theorem updatePlayer_eq_ok {r r' : Registry σ} {record : PlayerRecord}
    (done : r.updatePlayer record = .ok r') : Change r r' := by
  unfold updatePlayer at done
  split at done
  all_goals
    obtain ⟨store, taken, rfl⟩ := keepPlayer_eq_ok done
    exact .keep (.inl rfl) taken

theorem resetPlayers_eq_ok {r r' : Registry σ} (done : r.resetPlayers = .ok r') : Change r r' := by
  obtain ⟨store, outcome, done⟩ := bind_eq_ok.mp done
  rw [← Except.ok.inj done]
  exact .reset (written_eq_ok.mp outcome)

/-! Commands. -/

private theorem chain_of_step {r r' : Registry σ} (step : r' = r ∨ Change r r') :
    ReflTransGen Change r r' := by
  rcases step with rfl | change
  · exact .refl
  · exact .single change

theorem unregisterAll_changes (r : Registry σ) (ids : List ServerId) :
    ReflTransGen Change r (r.unregisterAll ids).2 := by
  induction ids generalizing r with
  | nil => exact .refl
  | cons id rest ih =>
    unfold unregisterAll
    cases outcome : r.unregisterServer id with
    | error e => exact .refl
    | ok freed => exact (chain_of_step (unregisterServer_eq_ok outcome)).trans (ih freed)

theorem settle_step {α : Type} {r : Registry σ} {answer : α → Answer}
    {outcome : Except RegistryError (α × Registry σ)}
    (done : ∀ a r', outcome = .ok (a, r') → r' = r ∨ Change r r') :
    (r.settle answer outcome).2 = r ∨ Change r (r.settle answer outcome).2 := by
  match outcome with
  | .ok (a, r') => exact done a r' rfl
  | .error e => exact .inl rfl

theorem settleDone_step {r : Registry σ} {outcome : Except RegistryError (Registry σ)}
    (done : ∀ r', outcome = .ok r' → r' = r ∨ Change r r') :
    (r.settleDone outcome).2 = r ∨ Change r (r.settleDone outcome).2 := by
  cases outcome with
  | ok r' => exact done r' rfl
  | error e => exact .inl rfl

theorem execute_changes (r : Registry σ) (now : Instant) (command : Command) :
    ReflTransGen Change r (r.execute now command).2 := by
  cases command with
  | registerServer id endpoint => exact chain_of_step (settle_step fun _ _ => registerServer_eq_ok)
  | unregisterServer id => exact chain_of_step (settleDone_step fun _ => unregisterServer_eq_ok)
  | heartbeat id => exact chain_of_step (settleDone_step fun _ done => .inr (heartbeat_eq_ok done))
  | evictStale timeout => exact unregisterAll_changes r _
  | initiateTransfer id position =>
    exact chain_of_step (settle_step fun _ _ done => .inr (initiateTransfer_eq_ok done))
  | completeTransfer id server =>
    exact chain_of_step (settleDone_step fun _ => completeTransfer_eq_ok)
  | updatePlayer record =>
    exact chain_of_step (settleDone_step fun _ done => .inr (updatePlayer_eq_ok done))
  | resetPlayers =>
    exact chain_of_step (settleDone_step fun _ done => .inr (resetPlayers_eq_ok done))
  | locate position => exact .refl
  | reportZoneStats zone stats =>
    simp only [execute, reportZoneStats]
    split
    next owned => exact .single (.report stats owned)
    · exact .refl
  | aggregate generatedAt => exact .refl

/-- What every change keeps, every command keeps, also one that fails half way. -/
theorem execute_invariant {P : Registry σ → Prop} (change : ∀ {a b}, Change a b → P a → P b)
    {r : Registry σ} (held : P r) (now : Instant) (command : Command) :
    P (r.execute now command).2 := by
  have chain := execute_changes r now command
  generalize (r.execute now command).2 = after at chain
  induction chain with
  | refl => exact held
  | tail _ step ih => exact change step ih

/-! Histories. -/

/-- What a registry can become by commands, at any times and with any outcomes, when between them
its store may be changed from outside as `outside` says. -/
inductive Reaches (outside : σ → σ → Prop) (start : Registry σ) : Registry σ → Prop where
  | start : Reaches outside start start
  | execute {r : Registry σ} (now : Instant) (command : Command) : Reaches outside start r →
      Reaches outside start (r.execute now command).2
  | outside {r : Registry σ} {store : σ} : outside r.store store → Reaches outside start r →
      Reaches outside start { r with store }

theorem Reaches.invariant {outside : σ → σ → Prop} {start r : Registry σ}
    {P : Registry σ → Prop} (run : Reaches outside start r) (initial : P start)
    (change : ∀ {a b}, Change a b → P a → P b)
    (stores : ∀ {a : Registry σ} {store}, outside a.store store → P a → P { a with store }) :
    P r := by
  induction run with
  | start => exact initial
  | execute now command _ ih => exact execute_invariant change ih now command
  | outside allowed _ ih => exact stores allowed ih

end ShardedWorld.Registry
