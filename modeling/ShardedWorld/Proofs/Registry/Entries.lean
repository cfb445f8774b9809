import ShardedWorld.Proofs.Registry.Direction
import ShardedWorld.Proofs.Registry.WriteThrough

/-! What becomes of one player and of one server.

A command that the registry takes over revises a player's entry in a way that depends on that entry
and on the owner of a zone only, and a command that fails revises none. A server that stays
registered keeps its endpoint and its zone.
-/

set_option autoImplicit false

namespace ShardedWorld.Registry

variable {σ : Type}

def entryAfter (r : Registry σ) (player : PlayerId) : Command → Option PlayerEntry
  | .initiateTransfer id position =>
    if id = player then
      let target := r.locate position
      some <| match r.player? player with
        | none =>
          ⟨.appearing player (PlayerRecord.defaultName player) position,
            target.map (·.serverId), none⟩
        | some entry => (direct { entry with record := { entry.record with position } } target).1
    else r.player? player
  | .completeTransfer id server =>
    if id = player then
      (r.player? player).map fun entry => { entry with owner := some server, pending := none }
    else r.player? player
  | .updatePlayer record =>
    if record.playerId = player then
      some <| match r.player? player with
        | none => ⟨record, (r.locate record.position).map (·.serverId), none⟩
        | some entry => { entry with record }
    else r.player? player
  | .resetPlayers => none
  | _ => r.player? player

theorem player?_of_players {r r' : Registry σ} (same : r'.players = r.players) (player : PlayerId) :
    r'.player? player = r.player? player := by
  rw [player?, player?, same]

private theorem settle_player? {α : Type} {r : Registry σ} {answer : α → Answer}
    {outcome : Except RegistryError (α × Registry σ)} {player : PlayerId}
    {after : Option PlayerEntry}
    (done : ∀ a r', outcome = .ok (a, r') → r'.player? player = after) :
    (r.settle answer outcome).2.player? player =
      match (r.settle answer outcome).1 with
      | .ok _ => after
      | .error _ => r.player? player := by
  match outcome with
  | .ok (a, r') => exact done a r' rfl
  | .error e => rfl

private theorem settleDone_player? {r : Registry σ}
    {outcome : Except RegistryError (Registry σ)} {player : PlayerId} {after : Option PlayerEntry}
    (done : ∀ r', outcome = .ok r' → r'.player? player = after) :
    (r.settleDone outcome).2.player? player =
      match (r.settleDone outcome).1 with
      | .ok _ => after
      | .error _ => r.player? player := by
  cases outcome with
  | ok r' => exact done r' rfl
  | error e => rfl

variable [Store σ]

/-! Operations on servers leave the players alone. -/

theorem registerServer_players {r r' : Registry σ} {id : ServerId} {endpoint : Address}
    {now : Instant} {zone : Zone} (done : r.registerServer id endpoint now = .ok (zone, r')) :
    r'.players = r.players := by
  unfold registerServer at done
  split at done
  · rw [← (Prod.mk.inj (Except.ok.inj done)).2]
  · split at done
    · cases done
    · obtain ⟨claimed, outcome, done⟩ := bind_eq_ok.mp done
      obtain ⟨store, -, rfl⟩ := claim_eq_ok outcome
      rw [← (Prod.mk.inj (Except.ok.inj done)).2]

theorem unregisterServer_left {r r' : Registry σ} {id : ServerId}
    (done : r.unregisterServer id = .ok r') :
    r'.players = r.players ∧ ∀ {other : ServerId} {s : Registration},
      r'.servers[other]? = some s → r.servers[other]? = some s := by
  unfold unregisterServer at done
  split at done
  · rw [← Except.ok.inj done]
    exact ⟨rfl, fun found => found⟩
  · obtain ⟨store, -, done⟩ := bind_eq_ok.mp done
    rw [← Except.ok.inj done]
    refine ⟨rfl, ?_⟩
    intro other s found
    rw [Std.ExtTreeMap.getElem?_erase] at found
    split at found
    · cases found
    · exact found

theorem unregisterAll_left (r : Registry σ) (ids : List ServerId) :
    (r.unregisterAll ids).2.players = r.players ∧ ∀ {other : ServerId} {s : Registration},
      (r.unregisterAll ids).2.servers[other]? = some s → r.servers[other]? = some s := by
  induction ids generalizing r with
  | nil => exact ⟨rfl, fun found => found⟩
  | cons id rest ih =>
    unfold unregisterAll
    cases outcome : r.unregisterServer id with
    | error e => exact ⟨rfl, fun found => found⟩
    | ok freed =>
      obtain ⟨players, servers⟩ := unregisterServer_left outcome
      exact ⟨(ih freed).1.trans players, fun found => servers ((ih freed).2 found)⟩

/-! One player. -/

theorem keepPlayer_player? {r r' : Registry σ} {id : PlayerId} {entry : PlayerEntry}
    (done : r.keepPlayer id entry = .ok r') (player : PlayerId) :
    r'.player? player = if id = player then some entry else r.player? player := by
  obtain ⟨store, -, rfl⟩ := keepPlayer_eq_ok done
  simp only [player?, Std.ExtTreeMap.getElem?_insert, Std.compare_eq_iff_eq]

theorem initiateTransfer_player? {r r' : Registry σ} {id : PlayerId} {position : Vec2}
    {order : Option TransferDirective} (done : r.initiateTransfer id position = .ok (order, r'))
    (player : PlayerId) :
    r'.player? player = r.entryAfter player (.initiateTransfer id position) := by
  unfold initiateTransfer at done
  split at done
  next unknown =>
    obtain ⟨kept, outcome, done⟩ := bind_eq_ok.mp done
    obtain ⟨-, rfl⟩ := Prod.mk.inj (Except.ok.inj done)
    rw [keepPlayer_player? outcome, entryAfter]
    split
    next same => rw [← same, unknown]
    · rfl
  next entry found =>
    obtain ⟨kept, outcome, done⟩ := bind_eq_ok.mp done
    obtain ⟨-, rfl⟩ := Prod.mk.inj (Except.ok.inj done)
    rw [keepPlayer_player? outcome, entryAfter]
    split
    next same =>
      rw [← same, found]
      rfl
    · rfl

theorem completeTransfer_player? {r r' : Registry σ} {id : PlayerId} {server : ServerId}
    (done : r.completeTransfer id server = .ok r') (player : PlayerId) :
    r'.player? player = r.entryAfter player (.completeTransfer id server) := by
  unfold completeTransfer at done
  split at done
  next unknown =>
    rw [← Except.ok.inj done, entryAfter]
    split
    next same => rw [← same, unknown, Option.map_none]
    · rfl
  next entry found =>
    split at done
    -- Nothing is written where the confirmation says nothing new.
    next confirmed =>
      rw [← Except.ok.inj done, entryAfter]
      split
      next same =>
        rw [← same, found, Option.map_some, ← confirmed.1, ← confirmed.2]
      · rfl
    · rw [keepPlayer_player? done, entryAfter]
      split
      next same => rw [← same, found, Option.map_some]
      · rfl

theorem updatePlayer_player? {r r' : Registry σ} {record : PlayerRecord}
    (done : r.updatePlayer record = .ok r') (player : PlayerId) :
    r'.player? player = r.entryAfter player (.updatePlayer record) := by
  unfold updatePlayer at done
  split at done
  all_goals
    rw [keepPlayer_player? done, entryAfter]
    split
    next same =>
      subst same
      simp only [*]
    · rfl

theorem execute_player? (r : Registry σ) (now : Instant) (command : Command) (player : PlayerId) :
    (r.execute now command).2.player? player =
      match (r.execute now command).1 with
      | .ok _ => r.entryAfter player command
      | .error _ => r.player? player := by
  cases command with
  | registerServer id endpoint =>
    exact settle_player? fun _ _ done => player?_of_players (registerServer_players done) player
  | unregisterServer id =>
    exact settleDone_player? fun _ done =>
      player?_of_players (unregisterServer_left done).1 player
  | heartbeat id =>
    apply settleDone_player?
    intro r' done
    unfold Registry.heartbeat at done
    split at done
    · cases done
    · rw [← Except.ok.inj done]
      rfl
  | evictStale timeout =>
    -- Some servers may be gone before an eviction fails, but the players are left in any case.
    have kept := player?_of_players (r.unregisterAll_left (r.staleServers now timeout)).1 player
    simp only [execute, evictStale, entryAfter, kept]
    split <;> rfl
  | initiateTransfer id position =>
    exact settle_player? fun _ _ done => initiateTransfer_player? done player
  | completeTransfer id server =>
    exact settleDone_player? fun _ done => completeTransfer_player? done player
  | updatePlayer record => exact settleDone_player? fun _ done => updatePlayer_player? done player
  | resetPlayers =>
    apply settleDone_player?
    intro r' done
    obtain ⟨store, -, done⟩ := bind_eq_ok.mp done
    rw [← Except.ok.inj done]
    simp [player?, entryAfter]
  | locate position => rfl
  | reportZoneStats zone stats =>
    simp only [execute, reportZoneStats, entryAfter]
    split <;> rfl
  | aggregate generatedAt =>
    simp only [execute, entryAfter]
    split <;> rfl

/-! One server. -/

theorem Change.stored {r r' : Registry σ} (change : Change r r') {id : ServerId}
    {s s' : Registration} (before : r.servers[id]? = some s) (after : r'.servers[id]? = some s') :
    s'.toStoredServer = s.toStoredServer := by
  cases change with
  | claim now unknown free taken =>
    -- Only a server that is unknown claims a zone, so this is another one.
    rw [Std.ExtTreeMap.getElem?_insert] at after
    split at after
    next same =>
      rw [Std.LawfulEqOrd.eq_of_compare same, before] at unknown
      cases unknown
    · rw [before] at after
      rw [Option.some.inj after]
  | release found taken =>
    rw [Std.ExtTreeMap.getElem?_erase] at after
    split at after
    · cases after
    · rw [before] at after
      rw [Option.some.inj after]
  | beat now found =>
    rw [Std.ExtTreeMap.getElem?_insert] at after
    split at after
    next same =>
      rw [Std.LawfulEqOrd.eq_of_compare same, before] at found
      rw [← Option.some.inj after, Option.some.inj found]
    · rw [before] at after
      rw [Option.some.inj after]
  | keep named taken => rw [Option.some.inj (before.symm.trans after)]
  | reset taken => rw [Option.some.inj (before.symm.trans after)]
  | report stats owned => rw [Option.some.inj (before.symm.trans after)]

theorem execute_stored {r : Registry σ} {now : Instant} {command : Command} {id : ServerId}
    {s s' : Registration} (before : r.servers[id]? = some s)
    (after : (r.execute now command).2.servers[id]? = some s') :
    s'.toStoredServer = s.toStoredServer := by
  have kept {r' : Registry σ} (step : r' = r ∨ Change r r') (after : r'.servers[id]? = some s') :
      s'.toStoredServer = s.toStoredServer := by
    rcases step with same | change
    · rw [same, before] at after
      rw [Option.some.inj after]
    · exact change.stored before after
  cases command with
  | registerServer id endpoint => exact kept (settle_step fun _ _ => registerServer_eq_ok) after
  | unregisterServer id => exact kept (settleDone_step fun _ => unregisterServer_eq_ok) after
  | heartbeat id => exact kept (settleDone_step fun _ done => .inr (heartbeat_eq_ok done)) after
  | evictStale timeout =>
    -- More than one change may have been made, and each leaves a part of what was there.
    have found := (r.unregisterAll_left (r.staleServers now timeout)).2 after
    rw [Option.some.inj (before.symm.trans found)]
  | initiateTransfer id position =>
    exact kept (settle_step fun _ _ done => .inr (initiateTransfer_eq_ok done)) after
  | completeTransfer id server =>
    exact kept (settleDone_step fun _ => completeTransfer_eq_ok) after
  | updatePlayer record =>
    exact kept (settleDone_step fun _ done => .inr (updatePlayer_eq_ok done)) after
  | resetPlayers =>
    exact kept (settleDone_step fun _ done => .inr (resetPlayers_eq_ok done)) after
  | locate position => exact kept (.inl rfl) after
  | reportZoneStats zone stats =>
    refine kept ?_ after
    simp only [execute, reportZoneStats]
    split
    next owned => exact .inr (.report stats owned)
    · exact .inl rfl
  | aggregate generatedAt => exact kept (.inl rfl) after

end ShardedWorld.Registry
