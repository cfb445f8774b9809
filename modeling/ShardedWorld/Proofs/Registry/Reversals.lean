import ShardedWorld.Proofs.Registry.Chronicles
import ShardedWorld.Proofs.Registry.Repetition

/-! Orders and the servers that they name.

An order sends a player to the owner of a zone, and names as the previous server the one that
confirmed the player last. While an order is open that need not be the server that holds the player;
where the open order is taken back it is the very server that the player is sent to.
-/

set_option autoImplicit false

namespace ShardedWorld

def TransferDirective.handoff (order : TransferDirective) : PendingHandoff :=
  ⟨order.target.serverId, order.previous⟩

namespace Registry

variable {σ : Type}

theorem direct_pending_eq (entry : PlayerEntry) (target : Option ServerInfo) :
    (direct entry target).1.pending =
      ((direct entry target).2.map TransferDirective.handoff).or entry.pending := by
  cases given : (direct entry target).2 with
  | some order => exact (direct_pending given).1
  | none =>
    rw [Option.map_none, Option.none_or]
    unfold direct at given ⊢
    split
    · rfl
    next info =>
      dsimp only at given ⊢
      split at given
      next held => rw [if_pos held]
      · cases given

theorem direct_previous {entry : PlayerEntry} {target : Option ServerInfo}
    {order : TransferDirective} (given : (direct entry target).2 = some order)
    (noted : ∀ handoff, entry.pending = some handoff → handoff.previous = entry.owner) :
    order.previous = entry.owner := by
  unfold direct at given
  split at given
  · cases given
  · split at given
    · obtain ⟨handoff, pending, rfl⟩ := Option.map_eq_some_iff.mp given
      exact noted handoff pending
    · rw [← Option.some.inj given]

/-- With nothing pending, nobody is sent to the owner. -/
theorem direct_target_ne_owner {entry : PlayerEntry} {target : Option ServerInfo}
    {order : TransferDirective} (given : (direct entry target).2 = some order)
    (settled : entry.pending = none) : entry.owner ≠ some order.target.serverId := by
  have holder : entry.holder = entry.owner := by rw [PlayerEntry.holder, settled]
  unfold direct at given
  split at given
  · cases given
  · split at given
    · rw [settled] at given
      cases given
    next foreign =>
      rw [holder] at foreign
      rw [← Option.some.inj given]
      exact foreign

variable [Store σ]

/-! The open order. -/

namespace Execution

def order? (e : Execution σ) (player : PlayerId) : Option TransferDirective :=
  match e.command, e.outcome with
  | .initiateTransfer id _, .ok (.directive order) => if id = player then order else none
  | _, _ => none

/-- After a confirmation, and when all players were forgotten, no order is open. -/
def settles (e : Execution σ) (player : PlayerId) : Bool :=
  match e.observation? player with
  | some (.confirmed _) | some .forgotten => true
  | _ => false

end Execution

/-- The last order for a player that is not settled. -/
def openOrder? (player : PlayerId) (log : List (Execution σ)) : Option TransferDirective :=
  ((log.rtakeWhile fun e => !e.settles player).filterMap (·.order? player)).getLast?

theorem openOrder?_concat (player : PlayerId) (log : List (Execution σ)) (e : Execution σ) :
    openOrder? player (log ++ [e]) =
      if e.settles player then none else (e.order? player).or (openOrder? player log) := by
  unfold openOrder?
  rw [List.rtakeWhile_concat]
  cases e.settles player with
  | true => rfl
  | false =>
    rw [if_pos Bool.not_false, if_neg Bool.false_ne_true, List.filterMap_append,
      List.getLast?_append]
    cases given : e.order? player <;> simp [given]

/-- A command that succeeds closes the order for a player, gives one, or leaves what is open. -/
theorem pending_entryAfter (r : Registry σ) (now : Instant) (command : Command) (player : PlayerId)
    {answer : Answer} (done : (r.execute now command).1 = .ok answer) :
    (r.entryAfter player command).bind (·.pending) =
      if Execution.settles ⟨r, now, command⟩ player then none
      else ((Execution.order? ⟨r, now, command⟩ player).map TransferDirective.handoff).or
        ((r.player? player).bind (·.pending)) := by
  simp only [Execution.settles, Execution.observation?, Execution.order?, Execution.outcome, done]
  cases command with
  | initiateTransfer id position =>
    by_cases same : id = player
    · subst same
      simp only [execute] at done
      cases outcome : r.initiateTransfer id position with
      | error e =>
        rw [outcome] at done
        cases done
      | ok given =>
        -- What is answered is what the entry tells afterwards, whether an order was open or not.
        obtain ⟨order, after⟩ := given
        rw [outcome] at done
        cases done
        have told := initiateTransfer_order outcome
        simp only [observation?, entryAfter, if_true, Option.bind_some, Bool.false_eq_true,
          if_false]
        cases known : r.player? id with
        | none =>
          rw [known] at told
          rw [told]
          rfl
        | some entry =>
          rw [known] at told
          rw [told]
          exact direct_pending_eq _ _
    · cases answer <;> simp [entryAfter, observation?, same]
  | completeTransfer id server =>
    by_cases same : id = player
    · cases known : r.player? player <;> simp [entryAfter, observation?, same, known]
    · simp [entryAfter, observation?, same]
  | updatePlayer record =>
    by_cases same : record.playerId = player
    · cases known : r.player? player <;> simp [entryAfter, observation?, same, known]
    · simp [entryAfter, observation?, same]
  | resetPlayers => simp [entryAfter, observation?]
  | registerServer id endpoint => rfl
  | unregisterServer id => rfl
  | heartbeat id => rfl
  | evictStale timeout => rfl
  | locate position => rfl
  | reportZoneStats zone stats => rfl
  | aggregate generatedAt => rfl

theorem Logged.pending [LawfulStore σ] {log : List (Execution σ)} {r : Registry σ}
    (logged : Logged log r) (player : PlayerId) :
    (r.player? player).bind (·.pending) =
      (openOrder? player log).map TransferDirective.handoff := by
  induction logged with
  | start grid now empty =>
    rw [player?, (restore_players grid _ now).2, empty, Std.ExtTreeMap.getElem?_empty]
    rfl
  | @execute log r now command _ ih =>
    rw [openOrder?_concat, execute_player?]
    cases done : (r.execute now command).1 with
    | error e =>
      -- A command that fails neither gives an order nor closes one, and leaves the entry.
      have quiet : Execution.settles ⟨r, now, command⟩ player = false := by
        simp [Execution.settles, Execution.observation?, done]
      have silent : Execution.order? ⟨r, now, command⟩ player = none := by
        simp only [Execution.order?, Execution.outcome, done]
      rw [quiet, silent, if_neg Bool.false_ne_true, Option.none_or]
      exact ih
    | ok answer =>
      simp only [pending_entryAfter r now command player done]
      split
      · rfl
      · rw [ih, ← Option.map_or]
  | outside _ _ ih => exact ih
  | restart grid now before ih =>
    rw [player?, (restore_players grid _ now).2, before.mirrorsPlayers.players]
    exact ih

/-! The servers that an order names. -/

/-- The server that confirmed a player last, or else the owner of the zone where the player was
known first. -/
def confirmedOwner? (player : PlayerId) (log : List (Execution σ)) : Option ServerId :=
  let known := Observation.sinceKnown (observations player log)
  (Observation.latest? Observation.server? known).or (known.head?.bind Observation.owner?)

/-- The server that holds a player, as far as is known: the target of the open order. -/
def presumedHolder? (player : PlayerId) (log : List (Execution σ)) : Option ServerId :=
  ((openOrder? player log).map (·.target.serverId)).or (confirmedOwner? player log)

theorem Logged.owner [LawfulStore σ] {log : List (Execution σ)} {r : Registry σ}
    (logged : Logged log r) {player : PlayerId} {entry : PlayerEntry}
    (known : r.player? player = some entry) :
    entry.owner = confirmedOwner? player log ∧
      ∀ handoff, entry.pending = some handoff → handoff.previous = entry.owner := by
  have follows := logged.recorded player
  rw [known] at follows
  exact ⟨PlayerEntry.Follows.owner follows, PlayerEntry.Follows.previous follows⟩

/-- Every order leads to the owner of the zone and names the last confirmed owner as the previous
server. These are two servers unless an open order is taken back. -/
theorem order_names_two_servers_iff [LawfulStore σ] {log : List (Event σ)} {r r' : Registry σ}
    {player : PlayerId} {position : Vec2} {order : TransferDirective}
    (chronicle : Chronicle (· = .empty) log r)
    (done : r.initiateTransfer player position = .ok (some order, r')) :
    let told := log.filterMap Event.execution?
    (∃ owner, r.ownerOf? (r.grid.zoneOf position) = some owner ∧
        owner.zone = r.grid.zoneOf position ∧ order.target = owner.info) ∧
      order.previous = confirmedOwner? player told ∧
      (order.previous ≠ some order.target.serverId ↔
        ¬ (confirmedOwner? player told = some order.target.serverId ∧
          (openOrder? player told).isSome)) ∧
      (order.previous = presumedHolder? player told ↔
        ∀ first, openOrder? player told = some first →
          confirmedOwner? player told = some first.target.serverId) := by
  intro told
  have coherent : Coherent r :=
    (chronicle.mono fun s empty => empty ▸ Snapshot.namesServers_empty).coherent.1
  have logged : Logged told r := chronicle.logged fun s empty => by rw [empty]; rfl
  obtain ⟨entry, known, given⟩ := Option.bind_eq_some_iff.mp (initiateTransfer_order done).symm
  obtain ⟨owner, owned, info⟩ := Option.map_eq_some_iff.mp (direct_target given)
  obtain ⟨confirmed, noted⟩ := logged.owner known
  have pending := logged.pending player
  rw [known, Option.bind_some] at pending
  have previous : order.previous = confirmedOwner? player told :=
    (direct_previous given noted).trans confirmed
  refine ⟨⟨owner, owned, (coherent.owner_iff.mp owned).2, info.symm⟩, previous, ?_, ?_⟩
  · rw [previous, not_and]
    refine ⟨fun differs same => absurd same differs, fun closed same => ?_⟩
    -- Without an open order the player would not be sent to its owner.
    have settled : entry.pending = none := by
      rw [pending, Option.not_isSome_iff_eq_none.mp (closed same), Option.map_none]
    exact direct_target_ne_owner given settled (confirmed.trans same)
  · rw [previous, presumedHolder?]
    cases openOrder? player told with
    | none => simp
    | some first => simp

/-- A player is seen with the first of two servers, then with the second one, and, before that is
confirmed, with the first one again. -/
def sighting : Execution MemoryStore :=
  ⟨shared, .start, .initiateTransfer 7 ⟨.ofInt 499, .ofInt 10⟩⟩

def crossing : Execution MemoryStore :=
  ⟨sighting.after, .start, .initiateTransfer 7 ⟨.ofInt 501, .ofInt 10⟩⟩

def returning : Execution MemoryStore :=
  ⟨crossing.after, .start, .initiateTransfer 7 ⟨.ofInt 490, .ofInt 10⟩⟩

def orderAcross : TransferDirective :=
  ⟨⟨⟨"b"⟩, .loopback 7002, ⟨1, 0⟩⟩, some ⟨"a"⟩,
    .appearing 7 "player-7" ⟨.ofInt 501, .ofInt 10⟩⟩

def orderBack : TransferDirective :=
  ⟨⟨⟨"a"⟩, .loopback 7001, ⟨0, 0⟩⟩, some ⟨"a"⟩,
    .appearing 7 "player-7" ⟨.ofInt 490, .ofInt 10⟩⟩

theorem crossing_names_two_servers :
    let log := sharing ++ [.executed sighting]
    let told := log.filterMap Event.execution?
    (Chronicle (· = .empty) log sighting.after ∧
      sighting.after.initiateTransfer 7 ⟨.ofInt 501, .ofInt 10⟩ =
        .ok (some orderAcross, crossing.after)) ∧
    (∃ owner, sighting.after.ownerOf? ⟨1, 0⟩ = some owner ∧ owner.zone = ⟨1, 0⟩ ∧
        orderAcross.target = owner.info) ∧
      orderAcross.previous = confirmedOwner? 7 told ∧
      orderAcross.previous ≠ some orderAcross.target.serverId ∧
      orderAcross.previous = presumedHolder? 7 told := by
  intro log told
  have chronicle : Chronicle (· = .empty) log sighting.after := shared_chronicle.execute .start _
  have done : sighting.after.initiateTransfer 7 ⟨.ofInt 501, .ofInt 10⟩ =
      .ok (some orderAcross, crossing.after) :=
    initiateTransfer_of_told (by decide +kernel) .start
  obtain ⟨owned, previous, differs, holder⟩ := order_names_two_servers_iff chronicle done
  have closed : openOrder? 7 told = none := by decide +kernel
  refine ⟨⟨chronicle, done⟩, owned, previous, differs.mpr ?_, holder.mpr ?_⟩
  · rintro ⟨-, opened⟩
    rw [closed] at opened
    cases opened
  · intro first opened
    rw [closed] at opened
    cases opened

/-- The player, who is with the second server by then, is sent from the first server to the first
server. -/
theorem returning_names_one_server :
    let log := sharing ++ [.executed sighting] ++ [.executed crossing]
    (Chronicle (· = .empty) log crossing.after ∧
      crossing.after.initiateTransfer 7 ⟨.ofInt 490, .ofInt 10⟩ =
        .ok (some orderBack, returning.after)) ∧
      orderBack.previous = some orderBack.target.serverId ∧
      presumedHolder? 7 (log.filterMap Event.execution?) = some ⟨"b"⟩ := by
  intro log
  have chronicle : Chronicle (· = .empty) log crossing.after :=
    (shared_chronicle.execute .start _).execute .start _
  have done : crossing.after.initiateTransfer 7 ⟨.ofInt 490, .ofInt 10⟩ =
      .ok (some orderBack, returning.after) :=
    initiateTransfer_of_told (by decide +kernel) .start
  exact ⟨⟨chronicle, done⟩, rfl, by decide +kernel⟩

end Registry

end ShardedWorld
