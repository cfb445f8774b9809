import ShardedWorld.Proofs.Handover.Soundness

/-! Every run keeps track of a player.

At all times the acts of both servers tell which of them hold the player, and neither took the
player out before the other one had accepted it.
-/

set_option autoImplicit false

namespace ShardedWorld.Handover

open Scan (Message Recipient Errand Question errand?)

structure Tracked (site : Side → ServerConfig) (player : PlayerId) (initially : Side → Bool)
    {σ : Type} (w : World σ) : Prop where
  parties : ∀ side, Sound site player initially w.acts w.requests side (w.party side)
  registered : ∀ info, w.coordinator.mailbox.registry.Lists info → Known site info
  posted : ∀ message ∈ w.requests, Posted player message
  answered : ∀ number response, (number, response) ∈ w.responses →
    ∃ message, w.requests[number]? = some message ∧
      Truthful site player w.acts message response
  backed : ∀ side first last, w.acts = first ++ .removed side player :: last →
    .accepted side.other player ∈ first

theorem side_eq_of_endpoint {site : Side → ServerConfig}
    (apart : endpointOf (site .left) ≠ endpointOf (site .right)) {a b : Side}
    (same : endpointOf (site a) = endpointOf (site b)) : a = b := by
  cases a <;> cases b <;> simp_all

theorem World.listener?_endpoint {σ : Type} {w : World σ} {endpoint : Address} {side : Side}
    (listens : w.listener? endpoint = some side) :
    (w.party side).server.endpoint = endpoint := by
  unfold World.listener? at listens
  split at listens
  next left => rwa [← Option.some.inj listens]
  next =>
    split at listens
    next right => rwa [← Option.some.inj listens]
    · cases listens

namespace Tracked

variable {site : Side → ServerConfig} {player : PlayerId} {initially : Side → Bool} {σ : Type}
  {w : World σ}

/-! One part of the world at a time. -/

theorem replace (tracked : Tracked site player initially w) {side : Side} {change : Party → Party}
    (sound : Sound site player initially w.acts w.requests side (change (w.party side))) :
    Tracked site player initially (w.update side change) := by
  refine ⟨?_, tracked.registered, tracked.posted, tracked.answered, tracked.backed⟩
  exact (Function.forall_update_iff w.party _).mpr ⟨sound, fun s _ => tracked.parties s⟩

theorem post (tracked : Tracked site player initially w) {message : Message}
    (posted : Posted player message) :
    Tracked site player initially { w with requests := w.requests ++ [message] } := by
  refine ⟨fun side => (tracked.parties side).post message, tracked.registered, ?_, ?_,
    tracked.backed⟩
  · intro sent member
    rcases List.mem_append.mp member with old | new
    · exact tracked.posted sent old
    · rw [List.mem_singleton.mp new]
      exact posted
  · intro number response member
    obtain ⟨sent, asked, truthful⟩ := tracked.answered number response member
    exact ⟨sent, getElem?_of_append asked _, truthful⟩

theorem reply (tracked : Tracked site player initially w) {number : Nat} {message : Message}
    (asked : w.requests[number]? = some message) {response : Response}
    (truthful : Truthful site player w.acts message response) :
    Tracked site player initially
      { w with responses := w.responses ++ [(number, response)] } := by
  refine ⟨tracked.parties, tracked.registered, tracked.posted, ?_, tracked.backed⟩
  intro other told member
  rcases List.mem_append.mp member with old | new
  · exact tracked.answered other told old
  · obtain ⟨rfl, rfl⟩ := Prod.mk.inj (List.mem_singleton.mp new)
    exact ⟨message, asked, truthful⟩

theorem coordinate (tracked : Tracked site player initially w) {coordinator : Coordinator σ}
    (servers : coordinator.mailbox.registry.servers = w.coordinator.mailbox.registry.servers) :
    Tracked site player initially { w with coordinator } := by
  refine ⟨tracked.parties, ?_, tracked.posted, tracked.answered, tracked.backed⟩
  intro info listed
  apply tracked.registered
  unfold Registry.Lists at listed ⊢
  rw [← servers]
  exact listed

theorem act (tracked : Tracked site player initially w) {side : Side} {change : Party → Party}
    {act : Act}
    (sound : Sound site player initially (w.acts ++ [act]) w.requests side
      (change (w.party side)))
    (elsewhere : ∀ other, other ≠ side → ∀ held, act.settle other player held = held)
    (backed : ∀ at_, act = .removed at_ player → .accepted at_.other player ∈ w.acts) :
    Tracked site player initially
      { w.update side change with acts := w.acts ++ [act] } := by
  refine ⟨?_, tracked.registered, tracked.posted, ?_, ?_⟩
  · exact (Function.forall_update_iff w.party _).mpr
      ⟨sound, fun s other => (tracked.parties s).elsewhere (elsewhere s other)⟩
  · intro number response member
    obtain ⟨message, asked, truthful⟩ := tracked.answered number response member
    exact ⟨message, asked, truthful.mono _⟩
  · intro at_ first last split
    -- The removal is the new act, or it stands among the old ones.
    rcases List.eq_nil_or_concat last with rfl | ⟨front, final, rfl⟩
    · obtain ⟨rfl, same⟩ := List.append_inj' split rfl
      exact backed at_ (List.cons.inj same).1
    · rw [List.concat_eq_append, ← List.cons_append, ← List.append_assoc] at split
      obtain ⟨same, -⟩ := List.append_inj' split rfl
      exact tracked.backed at_ first front same

theorem take (tracked : Tracked site player initially w) {side : Side} {server : ZoneServer}
    {entity : EntitySnapshot} (kind : entity.id = player → entity.kind = .player)
    (taken : (w.party side).server.TookIn entity server) :
    Tracked site player initially
      { w.update side (fun p => { p with server }) with
        acts := w.acts ++ [.accepted side entity.id] } := by
  apply tracked.act ((tracked.parties side).take kind taken)
  · intro other different held
    simp [Act.settle, Ne.symm different]
  · intro at_ impossible
    cases impossible

/-! Events. -/

theorem send (tracked : Tracked site player initially w) (side : Side) :
    Tracked site player initially (w.send side) := by
  unfold World.send
  split
  next question resume stands idle =>
    split
    · exact tracked
    next errand known =>
      have sound := tracked.parties side
      have posted : Posted player errand.message := by
        obtain ⟨granted, -, cautious⟩ := sound.cautious
        rw [stands] at cautious
        refine ⟨question, errand, known, rfl, ?_⟩
        rintro link peer entity left rfl same
        exact (cautious.1 same).1
      show Tracked site player initially
        (World.update { w with requests := w.requests ++ [errand.message] } side
          fun p => { p with awaited := some w.requests.length })
      apply (tracked.post posted).replace
      -- The number that the scan waits for is that of the request sent last.
      have kept := sound.post errand.message
      refine ⟨kept.config, kept.present, kept.cautious, ?_⟩
      intro number waits
      obtain rfl := Option.some.inj waits
      exact ⟨question, resume, errand, stands, known, List.getElem?_concat_length⟩
  · exact tracked

theorem receive (tracked : Tracked site player initially w) (side : Side) (place : Nat) :
    Tracked site player initially (w.receive side place) := by
  unfold World.receive
  split
  · exact tracked
  next number response found =>
    split
    next waits =>
      have sound := tracked.parties side
      apply tracked.replace
      apply sound.conclude
      intro question resume errand stands known
      obtain ⟨question', resume', errand', stands', known', sent⟩ := sound.awaited number waits
      rw [stands] at stands'
      obtain ⟨rfl, same⟩ := Dialogue.ask.inj stands'
      obtain rfl := Option.some.inj (known.symm.trans known')
      obtain ⟨message, asked, truthful⟩ :=
        tracked.answered number response (List.mem_of_getElem? found)
      -- The scan waits for the answer to the very request that it stands at.
      obtain rfl := Option.some.inj (sent.symm.trans asked)
      obtain ⟨granted, -, cautious⟩ := sound.cautious
      rw [stands] at cautious
      exact .of_response known cautious.1 truthful
    · exact tracked

theorem fail (tracked : Tracked site player initially w) (side : Side) (e : TransportError) :
    Tracked site player initially (w.update side fun p => p.conclude (.error e)) := by
  apply tracked.replace
  apply (tracked.parties side).conclude
  intro question resume errand _ known
  exact .of_error known e

theorem proceed (tracked : Tracked site player initially w) (side : Side)
    (opened : Except TransportError LinkId) (stale : Bool) :
    Tracked site player initially (w.proceed side opened stale) := by
  have sound := tracked.parties side
  unfold World.proceed
  split
  next peer _ stands =>
    exact tracked.replace (sound.goOn stands (.of_no_errand (.connect peer) rfl opened))
  next link _ stands =>
    exact tracked.replace (sound.goOn stands (.of_no_errand (.isStale link) rfl stale))
  next peer _ stands =>
    exact tracked.replace (sound.goOn stands (.of_no_errand (.invalidate peer) rfl ()))
  next id _ stands =>
    have kept := (sound.goOn stands (.of_no_errand (.discard id) rfl ())).discard id
    -- The player is taken out only after it was granted, and only an acceptance grants it.
    obtain ⟨granted, backed, cautious⟩ := sound.cautious
    rw [stands] at cautious
    apply tracked.act kept
    · intro other different held
      simp [Act.settle, Ne.symm different]
    · intro at_ same
      obtain ⟨rfl, rfl⟩ := Act.removed.inj same
      exact backed (cautious.1 rfl)
  · exact tracked

theorem serve [Store σ] (tracked : Tracked site player initially w)
    (apart : endpointOf (site .left) ≠ endpointOf (site .right)) (number : Nat) (now : Instant)
    (sender : Address) : Tracked site player initially (w.serve number now sender) := by
  unfold World.serve
  split
  · exact tracked
  next request asked =>
    have posted := tracked.posted _ (List.mem_of_getElem? asked)
    obtain ⟨servers, listed⟩ := posted.directs w.coordinator now sender
    apply (tracked.coordinate servers).reply asked
    refine ⟨?_, ?_⟩
    · intro directive told
      exact tracked.registered _ (listed directive told)
    · intro _ side entity left same
      cases (Message.mk.inj same).1
  next endpoint request asked =>
    split
    · exact tracked
    next side listens =>
      obtain ⟨entity, left, rfl, kind⟩ :=
        (tracked.posted _ (List.mem_of_getElem? asked)).offer
      have sound := tracked.parties side
      have outcome := (w.party side).server.handle_considered now sender entity left
      generalize (w.party side).server.handle now sender (.transferEntity entity left) = answered
        at outcome ⊢
      cases outcome with
      | @accepted server taken =>
        apply (tracked.take kind taken).reply asked
        refine ⟨?_, ?_⟩
        · intro directive told
          cases told
        · intro _ owner offered left' same isPlayer
          obtain ⟨reached, offer⟩ := Message.mk.inj same
          -- Only this server listens there, so the acceptance is its own.
          have here : endpointOf (site owner) = endpointOf (site side) := by
            rw [← Recipient.server.inj reached, ← World.listener?_endpoint listens, endpoint_eq,
              sound.config]
          rw [side_eq_of_endpoint apart here, (Request.transferEntity.inj offer).1, isPlayer]
          simp
      | @refused response server refusal config same =>
        have replaced : Tracked site player initially
            (w.update side fun p => { p with server }) := by
          apply tracked.replace
          exact sound.serve config (by rw [same])
        have silent : Act.ofResponse side (.transferEntity entity left) response = [] := by
          cases refusal <;> rfl
        simp only [silent, List.append_nil]
        exact replaced.reply asked (.of_refusal refusal)

theorem step [Store σ] (tracked : Tracked site player initially w)
    (apart : endpointOf (site .left) ≠ endpointOf (site .right)) (event : Event) :
    Tracked site player initially (w.step event) := by
  cases event with
  | tick side seconds timestamp =>
    simp only [World.step]
    apply tracked.replace
    exact (tracked.parties side).serve (ZoneServer.tick_config _ seconds timestamp)
      (ZoneServer.tick_kindOf? _ seconds timestamp player)
  | hear side now sender datagram =>
    simp only [World.step]
    apply tracked.replace
    exact (tracked.parties side).serve (ZoneServer.hear_config _ now sender datagram)
      (ZoneServer.hear_kindOf? _ now sender datagram player)
  | scan side now =>
    simp only [World.step]
    apply tracked.replace
    exact (tracked.parties side).beginScan now
  | send side => exact tracked.send side
  | serve number now sender => exact tracked.serve apart number now sender
  | receive side place => exact tracked.receive side place
  | fail side e => exact tracked.fail side e
  | proceed side opened stale => exact tracked.proceed side opened stale

theorem run [Store σ] (tracked : Tracked site player initially w)
    (apart : endpointOf (site .left) ≠ endpointOf (site .right)) (events : List Event) :
    Tracked site player initially (w.run events) := by
  induction events generalizing w with
  | nil => exact tracked
  | cons event rest ih => exact ih (tracked.step apart event)

end Tracked

end ShardedWorld.Handover
