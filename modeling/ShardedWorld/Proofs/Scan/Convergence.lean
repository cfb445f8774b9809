import ShardedWorld.Proofs.Scan.Company
import ShardedWorld.Proofs.Scan.Conservation

/-! Two scans are enough.

A server that holds a player in another server's zone is directed there, or the coordinator takes
the player to be there already. In the second case the server claims the player back, and its next
scan is directed. Whatever the coordinator knows of the player at first, it is right in the end.
-/

set_option autoImplicit false

namespace ShardedWorld.Scan

open Dialogue (Leads)

variable {σ : Type} [Store σ]

def Welcomes (player : PlayerId) (endpoint : Address) : Exchange → Prop
  | ⟨.connect peer, opened⟩ => peer = endpoint → ∃ link, opened = .ok link
  | ⟨.push _ peer entity _, taken⟩ => peer = endpoint → entity.id = player → taken = .ok true
  | _ => True

theorem Offered.welcomed {peer : Address} {entity : EntitySnapshot} {left : Option UInt64}
    {said : List Exchange} {outcome : Except HandoffError Bool}
    (offered : Offered peer entity left said outcome)
    (welcomes : ∀ x ∈ said, Welcomes entity.id peer x) : outcome = .ok true := by
  cases offered with
  | unreachable e =>
    obtain ⟨link, opened⟩ := welcomes _ List.mem_cons_self rfl
    cases opened
  | answered pushed =>
    have taken := welcomes _ (List.mem_cons_of_mem _ pushed.last) rfl rfl
    rw [Except.ok.inj taken]
  | failed stale pushed =>
    have taken := welcomes _ (List.mem_cons_of_mem _ (List.mem_append_left _ pushed.last)) rfl rfl
    cases taken

section PlayerTried

variable {c c' : Coordinator σ} {grid : Grid} {here there : StoredServer} {e : Entity}

/-- The coordinator directs a player in the target's zone there, or takes it to be there. It does
the former if it knew that the player is here. -/
theorem Attends.directed {answer : Except TransportError (Option TransferDirective)}
    {said : List Exchange}
    (attends : Attends e.id here.serverId there.serverId c
      (⟨.initiateTransfer e.id e.position, answer⟩ :: said) c')
    (steady : c.Steady grid here there) (different : here.serverId ≠ there.serverId)
    (inside : there.zone = grid.zoneOf e.position) :
    ∃ c₁ order owner pending, Attends e.id here.serverId there.serverId c₁ said c' ∧
      c₁.Steady grid here there ∧ c₁.mailbox.registry.Places e.id owner pending ∧
      answer = .ok order ∧ (∀ directive, order = some directive → directive.target = there.info) ∧
      (c.mailbox.registry.Places e.id (some here.serverId) none → order ≠ none) := by
  obtain ⟨c₀, c₁, before, hears, after⟩ := attends.of_cons
  have steady₀ := before.steady steady
  obtain ⟨order, told, done⟩ := hears.initiateTransfer steady₀
  have located := steady₀.locate inside
  obtain ⟨entry, known⟩ : ∃ entry, c₁.mailbox.registry.player? e.id = some entry := by
    rw [Registry.initiateTransfer_player? done, Registry.entryAfter, if_pos rfl]
    exact ⟨_, rfl⟩
  refine ⟨c₁, order, entry.owner, entry.pending, after, hears.steady steady₀,
    ⟨entry.record, known⟩, told, ?_, ?_⟩
  · rintro directive rfl
    have given := Registry.initiateTransfer_order done
    obtain ⟨entry, -, directed⟩ := Option.bind_eq_some_iff.mp given.symm
    have target := Registry.direct_target directed
    rw [located] at target
    exact (Option.some.inj target).symm
  · intro placed nothing
    obtain ⟨record, known⟩ := before.places steady (by simp) placed
    have given := Registry.initiateTransfer_order done
    rw [nothing, known, located] at given
    -- The holder of the entry is `here`, so there is an order.
    have foreign : ¬ (some here.serverId : Option ServerId) = some there.info.serverId :=
      fun same => different (Option.some.inj same)
    simp [Registry.direct, PlayerEntry.holder, foreign] at given

theorem Reclaimed.settles {said : List Exchange} {outcome : Except HandoffError Outcome}
    (reclaimed : Reclaimed here.serverId e said outcome)
    (attends : Attends e.id here.serverId there.serverId c said c')
    (steady : c.Steady grid here there) (different : here.serverId ≠ there.serverId)
    (inside : there.zone = grid.zoneOf e.position) {owner : Option ServerId}
    {pending : Option PendingHandoff} (placed : c.mailbox.registry.Places e.id owner pending) :
    outcome = .ok .retained ∧
      c'.mailbox.registry.Places e.id (some here.serverId) none := by
  cases reclaimed with
  | unanswered cause =>
    obtain ⟨c₁, c₂, before, hears, after⟩ := attends.of_cons
    obtain ⟨answered, -⟩ := hears.locate (before.steady steady).running
    cases answered
  | foreignToNobody own =>
    -- The coordinator would have to take this server for the owner of the other's zone.
    obtain ⟨c₁, c₂, before, hears, after⟩ := attends.of_cons
    have steady₁ := before.steady steady
    obtain ⟨answered, -⟩ := hears.locate steady₁.running
    rw [steady₁.locate inside] at answered
    exact absurd (own _ (Except.ok.inj answered)).symm different
  | claimed confirmed foreign =>
    -- Between any two questions the others are heard, who say nothing of this entry.
    obtain ⟨c₁, c₂, before, hears, attends⟩ := attends.of_cons
    have steady₁ := before.steady steady
    have steady₂ := hears.steady steady₁
    have placed₂ := hears.places steady₁.running id (before.places steady (by simp) placed)
    obtain ⟨c₃, c₄, middle, confirms, after⟩ := attends.of_cons
    have steady₃ := middle.steady steady₂
    have placed₃ := middle.places steady₂ (by simp) placed₂
    obtain ⟨rfl, done⟩ := confirms.completeTransfer steady₃
    have claimed := placed₃.completeTransfer done
    exact ⟨rfl, after.places (confirms.steady steady₃) (by simp) claimed⟩

/-- A player in the target's zone is handed off, or claimed back by a server that the coordinator
did not take to hold it. -/
theorem PlayerTried.settles {said : List Exchange} {outcome : Except HandoffError Outcome}
    (tried : PlayerTried here.serverId e said outcome)
    (attends : Attends e.id here.serverId there.serverId c said c')
    (steady : c.Steady grid here there) (different : here.serverId ≠ there.serverId)
    (inside : there.zone = grid.zoneOf e.position)
    (welcomes : ∀ x ∈ said, Welcomes e.id there.endpoint x) :
    (outcome = .ok .handedOff ∧
        c'.mailbox.registry.Places e.id (some there.serverId) none ∧
        ∃ link, ⟨.push link there.endpoint e.snapshot none, .ok true⟩ ∈ said) ∨
      outcome = .ok .retained ∧
        c'.mailbox.registry.Places e.id (some here.serverId) none ∧
        ¬ c.mailbox.registry.Places e.id (some here.serverId) none := by
  obtain ⟨answer, rest, rfl⟩ := tried.asks_first
  obtain ⟨c₁, order, owner, pending, after, steady₁, placed, rfl, target, directed⟩ :=
    attends.directed steady different inside
  -- The order names the other server, and that one welcomes the player.
  have taken {order : TransferDirective} {said : List Exchange}
      {outcome : Except HandoffError Bool} (target : order.target = there.info)
      (offered : Offered order.target.endpoint e.snapshot none said outcome)
      (welcomes : ∀ x ∈ said, Welcomes e.id there.endpoint x) : outcome = .ok true := by
    rw [target] at offered
    exact offered.welcomed welcomes
  have welcomed := (List.forall_mem_cons.mp welcomes).2
  cases tried with
  | undirected reclaimed =>
    obtain ⟨kept, claimed⟩ := reclaimed.settles after steady₁ different inside placed
    exact .inr ⟨kept, claimed, fun known => directed known rfl⟩
  | directedHere own =>
    rw [target _ rfl] at own
    exact absurd own.symm different
  | failed foreign offered => cases taken (target _ rfl) offered welcomed
  | declined foreign offered => cases taken (target _ rfl) offered welcomed
  | accepted confirmed foreign offered =>
    obtain ⟨c₂, pushes, after⟩ := after.of_append
    obtain ⟨c₃, c₄, before, confirms, after⟩ := after.of_cons
    have steady₂ := pushes.steady steady₁
    have placed₂ := pushes.places steady₁
      (fun x member => (offered.asks x member).not_moves e.id) placed
    have steady₃ := before.steady steady₂
    obtain ⟨-, done⟩ := confirms.completeTransfer steady₃
    have settled := (before.places steady₂ (by simp) placed₂).completeTransfer done
    obtain ⟨link, granted⟩ := offered.granted
    rw [target _ rfl] at settled granted
    exact .inl ⟨rfl, after.places (confirms.steady steady₃) (by simp) settled,
      link, List.mem_cons_of_mem _ (List.mem_append_left _ granted)⟩

end PlayerTried

/-! One scan of the server `here`. -/

/-- A scan of a population in which the player, if it is there, is in the zone of `there`. The
coordinator answers the scan and `there` welcomes the player. -/
inductive Round (grid : Grid) (w : ProjectileWindow) (player : PlayerId)
    (here there : StoredServer) :
    Coordinator σ → Population → List Exchange → Coordinator σ → Population → Prop where
  | scan {c c' : Coordinator σ} {p : Population} {said : List Exchange} {report : ScanReport}
      (now : Instant) (order : List (Entity × Crossing)) :
      (∀ b, p.bodies[player]? = some b →
        b.kind = .player ∧ there.zone = grid.zoneOf b.position) →
      order.Perm (collect grid here.zone w now p).2 →
      Leads (talk here.serverId grid now p order) said report →
      Attends player here.serverId there.serverId c said c' →
      (∀ x ∈ said, Welcomes player there.endpoint x) →
      Round grid w player here there c p said c'
        (afterwards (collect grid here.zone w now p).1 said)

theorem Trial.closing_not_moves (t : Trial) (player : PlayerId) :
    ∀ x ∈ t.closing, ¬ Moves player x.question := by
  unfold closing
  split <;> simp [Moves]

section Round

variable {grid : Grid} {w : ProjectileWindow} {player : PlayerId} {here there : StoredServer}
  {c c' : Coordinator σ} {p p' : Population} {said : List Exchange}

theorem Attends.trial {now : Instant} {trials : List Trial} {t : Trial}
    (attends : Attends t.entity.id here.serverId there.serverId c (trials.flatMap Trial.all) c')
    (steady : c.Steady grid here there)
    (all : Trials here.serverId grid w here.zone now p trials) (listed : t ∈ trials) :
    ∃ c₁ c₂ : Coordinator σ, c₁.Steady grid here there ∧
      Attends t.entity.id here.serverId there.serverId c₁ t.said c₂ ∧
      ∀ owner pending,
        (c.mailbox.registry.Places t.entity.id owner pending →
          c₁.mailbox.registry.Places t.entity.id owner pending) ∧
        (c₂.mailbox.registry.Places t.entity.id owner pending →
          c'.mailbox.registry.Places t.entity.id owner pending) := by
  -- All that is said before and after the trial is on behalf of others.
  obtain ⟨before, later, rfl, others⟩ := among_others all.once listed
  have quiet (t' : Trial) (other : t' ∈ before ∨ t' ∈ later) :
      ∀ x ∈ t'.all, ¬ Moves t.entity.id x.question := by
    intro x member moves
    have among : t' ∈ before ++ t :: later := by
      rcases other with earlier | after
      · exact List.mem_append_left _ earlier
      · exact List.mem_append_right _ (List.mem_cons_of_mem _ after)
    exact others t' other (all.names among member moves.names)
  rw [List.flatMap_append, List.flatMap_cons, Trial.all, List.append_assoc] at attends
  obtain ⟨c₁, first, attends⟩ := attends.of_append
  obtain ⟨c₂, attempt, rest⟩ := attends.of_append
  have steady₁ := first.steady steady
  refine ⟨c₁, c₂, steady₁, attempt, ?_⟩
  intro owner pending
  constructor
  · apply first.places steady
    intro x member
    obtain ⟨t', earlier, member⟩ := List.mem_flatMap.mp member
    exact quiet t' (.inl earlier) x member
  · apply rest.places (attempt.steady steady₁)
    intro x member
    rcases List.mem_append.mp member with closing | member
    · exact t.closing_not_moves _ x closing
    · obtain ⟨t', after, member⟩ := List.mem_flatMap.mp member
      exact quiet t' (.inr after) x member

theorem Round.steady (round : Round grid w player here there c p said c' p')
    (steady : c.Steady grid here there) : c'.Steady grid here there := by
  cases round with
  | scan now order located any leads attends welcomes => exact attends.steady steady

theorem Round.absent (round : Round grid w player here there c p said c' p')
    (steady : c.Steady grid here there) (absent : player ∉ p.bodies) {owner : Option ServerId}
    {pending : Option PendingHandoff}
    (placed : c.mailbox.registry.Places player owner pending) :
    player ∉ p'.bodies ∧ c'.mailbox.registry.Places player owner pending := by
  cases round with
  | scan now order located any leads attends welcomes =>
    obtain ⟨trials, taken, attempted, rfl, -⟩ := transferAll_leads leads
    have all : Trials here.serverId grid w here.zone now p trials := .of_order any taken attempted
    have untried : ∀ t ∈ trials, t.entity.id ≠ player := by
      rintro t listed rfl
      obtain ⟨b, held, -⟩ := all.held t listed
      exact absent (Std.ExtTreeMap.mem_iff_isSome_getElem?.mpr (held ▸ rfl))
    constructor
    · rw [Std.ExtTreeMap.mem_iff_isSome_getElem?, all.stays, Option.isSome_map,
        ← Std.ExtTreeMap.mem_iff_isSome_getElem?]
      · exact absent
      · rintro ⟨t, listed, same, -⟩
        exact untried t listed same
    · apply attends.places steady ?_ placed
      intro x member moves
      obtain ⟨t, listed, member⟩ := List.mem_flatMap.mp member
      exact untried t listed (all.names listed member moves.names)

theorem Round.settles (round : Round grid w player here there c p said c' p')
    (steady : c.Steady grid here there) (different : here.serverId ≠ there.serverId)
    (present : player ∈ p.bodies) :
    (player ∉ p'.bodies ∧ c'.mailbox.registry.Places player (some there.serverId) none ∧
        ∃ link entity left, entity.id = player ∧
          ⟨.push link there.endpoint entity left, .ok true⟩ ∈ said) ∨
      player ∈ p'.bodies ∧ c'.mailbox.registry.Places player (some here.serverId) none ∧
        ¬ c.mailbox.registry.Places player (some here.serverId) none := by
  cases round with
  | scan now order located any leads attends welcomes =>
    obtain ⟨trials, taken, attempted, rfl, -⟩ := transferAll_leads leads
    have all : Trials here.serverId grid w here.zone now p trials := .of_order any taken attempted
    obtain ⟨b, held⟩ := Option.isSome_iff_exists.mp
      (Std.ExtTreeMap.mem_iff_isSome_getElem?.mp present)
    obtain ⟨isPlayer, inside⟩ := located b held
    -- The zones of the two servers differ, so the player is outside and gets its trial.
    have out : Crossing.classify grid here.zone w b ≠ .inside := by
      have foreign : grid.zoneOf b.position ≠ here.zone :=
        fun same => steady.serves.zones_differ different (same.symm.trans inside.symm)
      simp [Crossing.classify, isPlayer, EntityKind.isProjectile, foreign]
    obtain ⟨t, listed, rfl⟩ := all.tried player b held out
    obtain ⟨b', held', marked, -⟩ := all.held t listed
    obtain rfl : b = b' := Option.some.inj (held.symm.trans held')
    have kind : t.entity.kind = .player := by
      rw [marked]
      exact isPlayer
    have place : there.zone = grid.zoneOf t.entity.position := by
      rw [marked]
      exact inside
    obtain ⟨c₁, c₂, steady₁, attempt, stays⟩ := attends.trial steady all listed
    have tried := (transfer_leads (all.attempted t listed)).of_player kind
    have spoken {x : Exchange} (member : x ∈ t.said) : x ∈ trials.flatMap Trial.all :=
      List.mem_flatMap.mpr ⟨t, listed, List.mem_append_left _ member⟩
    rcases tried.settles attempt steady₁ different place fun x member => welcomes x (spoken member)
      with ⟨gone, settled, link, granted⟩ | ⟨retained, settled, unknown⟩
    · refine .inl ⟨?_, (stays _ _).2 settled, link, t.entity.snapshot, none, rfl, spoken granted⟩
      rw [Std.ExtTreeMap.mem_iff_isSome_getElem?, all.gone listed (.inl gone)]
      exact Bool.false_ne_true
    · refine .inr ⟨?_, (stays _ _).2 settled, fun known => unknown ((stays _ _).1 known)⟩
      rw [Std.ExtTreeMap.mem_iff_isSome_getElem?, all.stays, held]
      · rfl
      · rintro ⟨t', listed', same, removed⟩
        obtain rfl : t' = t := all.eq_of_id listed' listed same
        rw [retained] at removed
        simp at removed

end Round

/-! Every scan can be a round. -/

/-- The coordinator answers at once, and all servers take in what they are offered. -/
def oblige (now : Instant) (sender : Address) :
    (question : Question) → Coordinator σ → Answer question × Coordinator σ
  | .initiateTransfer player position, c =>
    let (response, c) := c.handle now sender (.initiateTransfer player position)
    ((Call.initiateTransfer player position).conclude (Connection.outcome response), c)
  | .completeTransfer player server, c =>
    let (response, c) := c.handle now sender (.completeTransfer player server)
    ((Call.completeTransfer player server).conclude (Connection.outcome response), c)
  | .locate position, c =>
    let (response, c) := c.handle now sender (.serverForPosition position)
    ((Call.serverForPosition position).conclude (Connection.outcome response), c)
  | .connect _, c => (.ok 0, c)
  | .push .., c => (.ok true, c)
  | .isStale _, c => (false, c)
  | .invalidate _, c => ((), c)
  | .discard _, c => ((), c)

theorem oblige_heard (now : Instant) (sender : Address) (question : Question) (c : Coordinator σ) :
    Hears c ⟨question, (oblige now sender question c).1⟩ (oblige now sender question c).2 := by
  cases question with
  | initiateTransfer player position =>
    have known : errand? (.initiateTransfer player position) =
        some (.ofCall .coordinator (.initiateTransfer player position)) := rfl
    exact .asked now sender known rfl
  | completeTransfer player server =>
    have known : errand? (.completeTransfer player server) =
        some (.ofCall .coordinator (.completeTransfer player server)) := rfl
    exact .asked now sender known rfl
  | locate position =>
    have known : errand? (.locate position) =
        some (.ofCall .coordinator (.serverForPosition position)) := rfl
    exact .asked now sender known rfl
  | push link peer entity left =>
    apply Hears.aside
    intro errand known
    obtain rfl := Option.some.inj known
    exact Recipient.noConfusion
  | connect peer => exact .of_no_errand rfl
  | isStale link => exact .of_no_errand rfl
  | invalidate peer => exact .of_no_errand rfl
  | discard id => exact .of_no_errand rfl

theorem oblige_welcomes (now : Instant) (sender : Address) (question : Question)
    (c : Coordinator σ) (player : PlayerId) (endpoint : Address) :
    Welcomes player endpoint ⟨question, (oblige now sender question c).1⟩ := by
  cases question with
  | connect peer => exact fun _ => ⟨0, rfl⟩
  | push link peer entity left => exact fun _ _ => rfl
  | _ => trivial

theorem converse_oblige {α : Type} (now : Instant) (sender : Address) (player : PlayerId)
    (here there : StoredServer) (d : Talk α) (c : Coordinator σ) :
    let (_, said, c') := d.converse (oblige now sender) c
    Attends player here.serverId there.serverId c said c' ∧
      ∀ x ∈ said, Welcomes player there.endpoint x := by
  induction d generalizing c with
  | finished a => exact ⟨.silent c, fun x member => nomatch member⟩
  | ask question resume ih =>
    obtain ⟨attends, welcomes⟩ := ih (oblige now sender question c).1
      (oblige now sender question c).2
    refine ⟨.heard (oblige_heard now sender question c) attends, ?_⟩
    exact List.forall_mem_cons.mpr ⟨oblige_welcomes now sender question c _ _, welcomes⟩

/-- Whatever a scan asks, it can be answered so that it ends as a round. -/
theorem Round.of_oblige {grid : Grid} {w : ProjectileWindow} {player : PlayerId}
    {here there : StoredServer} (c : Coordinator σ) {p : Population} (now : Instant)
    (sender : Address)
    (located : ∀ b, p.bodies[player]? = some b →
      b.kind = .player ∧ there.zone = grid.zoneOf b.position) {order : List (Entity × Crossing)}
    (any : order.Perm (collect grid here.zone w now p).2) :
    let (_, said, c') := (talk here.serverId grid now p order).converse (oblige now sender) c
    Round grid w player here there c p said c'
      (afterwards (collect grid here.zone w now p).1 said) := by
  obtain ⟨attends, welcomes⟩ :=
    converse_oblige now sender player here there (talk here.serverId grid now p order) c
  exact .scan now order located any (Dialogue.converse_leads _ _ c) attends welcomes

/-- Whatever the coordinator knew of the player, and whatever it is asked about others, after two
scans of the server that holds the player it is where its position is. -/
theorem players_not_stranded {grid : Grid} {w : ProjectileWindow} {player : PlayerId}
    {here there : StoredServer} (different : here.serverId ≠ there.serverId)
    {c c₁ c₂ c₃ : Coordinator σ} (steady : c.Steady grid here there) {p p₁ p₂ p₃ : Population}
    {said₁ said₂ : List Exchange} (present : player ∈ p.bodies)
    (first : Round grid w player here there c p said₁ c₁ p₁)
    (meanwhile : Attends player here.serverId there.serverId c₁ [] c₂)
    (kept : player ∈ p₂.bodies ↔ player ∈ p₁.bodies)
    (second : Round grid w player here there c₂ p₂ said₂ c₃ p₃) :
    player ∉ p₃.bodies ∧ c₃.mailbox.registry.Places player (some there.serverId) none ∧
      ∃ link entity left, entity.id = player ∧
        ⟨.push link there.endpoint entity left, .ok true⟩ ∈ said₁ ++ said₂ := by
  have steady₁ := first.steady steady
  have steady₂ := meanwhile.steady steady₁
  -- Either the first scan hands the player off and the second finds nothing to do, or the
  -- coordinator knows better after the first and directs the second.
  rcases first.settles steady different present with
    ⟨gone, settled, link, entity, left, own, pushed⟩ | ⟨stays, claimed, -⟩
  · have absent : player ∉ p₂.bodies := fun back => gone (kept.mp back)
    obtain ⟨absent, settled⟩ := second.absent steady₂ absent
      (meanwhile.places steady₁ (by simp) settled)
    exact ⟨absent, settled, link, entity, left, own, List.mem_append_left _ pushed⟩
  · have known := meanwhile.places steady₁ (by simp) claimed
    rcases second.settles steady₂ different (kept.mpr stays) with
      ⟨gone, settled, link, entity, left, own, pushed⟩ | ⟨-, -, unknown⟩
    · exact ⟨gone, settled, link, entity, left, own, List.mem_append_right _ pushed⟩
    · exact absurd known unknown

/-- The first server holds the player, who walks to the right; the coordinator takes the player to
have arrived. -/
def astray : Coordinator MemoryStore :=
  ⟨.start (Registry.neighbours.execute .start (.completeTransfer 7 ⟨"b"⟩)).2, ∅⟩

def firstServer : StoredServer := ⟨⟨"a"⟩, .loopback 7001, ⟨0, 0⟩⟩

def secondServer : StoredServer := ⟨⟨"b"⟩, .loopback 7002, ⟨1, 0⟩⟩

def scanOf (c : Coordinator MemoryStore) (p : Population) :
    List Exchange × Coordinator MemoryStore × Population :=
  let (_, said, c) := (talk firstServer.serverId .standard .start p
    (collect .standard firstServer.zone .standard .start p).2).converse
      (oblige .start (.loopback 7001)) c
  (said, c, afterwards (collect .standard firstServer.zone .standard .start p).1 said)

theorem stray_player_handed_off :
    let (said₁, c₁, p₁) := scanOf astray crowd
    let (said₂, c₂, p₂) := scanOf c₁ p₁
    astray.Steady .standard firstServer secondServer ∧
      Round .standard .standard 7 firstServer secondServer astray crowd said₁ c₁ p₁ ∧
      Round .standard .standard 7 firstServer secondServer c₁ p₁ said₂ c₂ p₂ ∧
      7 ∈ p₁.bodies ∧ 7 ∉ p₂.bodies ∧ c₂.mailbox.registry.Places 7 (some ⟨"b"⟩) none := by
  have steady : astray.Steady .standard firstServer secondServer := by
    have lived : Registry.Lived astray.mailbox.registry :=
      .execute _ _ (.execute _ _ (.execute _ _ (.execute _ _ (.start .standard .start rfl))))
    have writes : Store.TakesWrites astray.mailbox.registry.store :=
      MemoryStore.takesWrites (by decide +kernel)
    exact ⟨rfl, lived.sound.1.consistent, writes, by decide +kernel, by decide +kernel,
      by decide +kernel⟩
  have first : Round .standard .standard 7 firstServer secondServer astray crowd _ _ _ :=
    Round.of_oblige astray .start (.loopback 7001) (by decide +kernel) (.refl _)
  have second : Round .standard .standard 7 firstServer secondServer (scanOf astray crowd).2.1
      (scanOf astray crowd).2.2 _ _ _ :=
    Round.of_oblige _ .start (.loopback 7001) (by decide +kernel) (.refl _)
  have settled := players_not_stranded (by decide) steady (by decide +kernel) first (.silent _) .rfl
    second
  exact ⟨steady, first, second, by decide +kernel, settled.1, settled.2.1⟩

end ShardedWorld.Scan
