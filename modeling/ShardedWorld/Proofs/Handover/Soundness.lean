import ShardedWorld.Proofs.Handover.Presence
import ShardedWorld.Proofs.Registry.Direction

/-! The acts of two servers tell whether one of them holds a player.

A server holds the player exactly if the last of its acts that concern the player says so, and its
scan counts the player as granted only if the other server has accepted it.
-/

set_option autoImplicit false

namespace ShardedWorld.Handover

open Scan (Message Recipient Errand Question errand?)

def Act.settle (side : Side) (player : PlayerId) (held : Bool) : Act → Bool
  | .accepted at_ id => if at_ = side ∧ id = player then true else held
  | .removed at_ id => if at_ = side ∧ id = player then false else held

def standing (side : Side) (player : PlayerId) (initially : Bool) (acts : List Act) : Bool :=
  acts.foldl (Act.settle side player) initially

@[simp]
theorem standing_concat (side : Side) (player : PlayerId) (initially : Bool) (acts : List Act)
    (act : Act) : standing side player initially (acts ++ [act]) =
      act.settle side player (standing side player initially acts) := by
  simp [standing]

variable (site : Side → ServerConfig) (player : PlayerId) (initially : Side → Bool)

/-- A request of a scan, in which the player is offered as a player. -/
def Posted (message : Message) : Prop :=
  ∃ (question : Question) (errand : Errand (Scan.Answer question)),
    errand? question = some errand ∧ errand.message = message ∧
      ∀ link peer entity left, question = .push link peer entity left → entity.id = player →
        entity.kind = .player

/-- A response that directs players to the two servers only, and tells that the player is accepted
only if the server that was asked has accepted it. -/
structure Truthful (acts : List Act) (message : Message) (response : Response) : Prop where
  directed : ∀ directive, response = .directive (some directive) → Known site directive.target
  accepted : response = .accepted true → ∀ side entity left,
    message = ⟨.server (endpointOf (site side)), .transferEntity entity left⟩ →
      entity.id = player → .accepted side player ∈ acts

structure Reliable (acts : List Act) (side : Side) (question : Question)
    (answer : Scan.Answer question) : Prop where
  credible : Credible site question answer
  granted : grants player question answer = true → .accepted side.other player ∈ acts

/-- One server with its scan, after some acts and with some requests sent. -/
structure Sound (acts : List Act) (requests : List Message) (side : Side) (p : Party) : Prop where
  config : p.server.config = site side
  present : p.server.population.kindOf? player =
    if standing side player (initially side) acts then some .player else none
  cautious : ∃ granted, (granted = true → .accepted side.other player ∈ acts) ∧
    Cautious site side player (fun _ _ => True) p.scan granted
  awaited : ∀ number, p.awaited = some number → ∃ (question : Question)
    (resume : Scan.Answer question → Scan.Talk ScanReport) (errand : Errand (Scan.Answer question)),
      p.scan = .ask question resume ∧ errand? question = some errand ∧
        requests[number]? = some errand.message

variable {site player initially}

/-! Requests. -/

theorem Posted.directs {σ : Type} [Store σ] {request : Request}
    (posted : Posted player ⟨.coordinator, request⟩) (c : Coordinator σ) (now : Instant)
    (sender : Address) : c.Directs (c.handle now sender request) := by
  obtain ⟨question, errand, known, same, -⟩ := posted
  cases known using Scan.errand?_cases with
  | initiateTransfer id position =>
    obtain rfl := (Message.mk.inj same).2
    exact c.initiateTransfer_directs now id position
  | completeTransfer id server =>
    obtain rfl := (Message.mk.inj same).2
    exact c.completeTransfer_directs now id server
  | locate position =>
    obtain rfl := (Message.mk.inj same).2
    exact c.locate_directs now position
  | push link peer entity left => cases (Message.mk.inj same).1

theorem Posted.offer {endpoint : Address} {request : Request}
    (posted : Posted player ⟨.server endpoint, request⟩) :
    ∃ entity left, request = .transferEntity entity left ∧
      (entity.id = player → entity.kind = .player) := by
  obtain ⟨question, errand, known, same, kinds⟩ := posted
  cases known using Scan.errand?_cases with
  | push link peer entity left =>
    exact ⟨entity, left, (Message.mk.inj same).2.symm, kinds link peer entity left rfl⟩
  | _ => cases (Message.mk.inj same).1

theorem getElem?_of_append {α : Type} {l : List α} {n : Nat} {a : α} (found : l[n]? = some a)
    (more : List α) : (l ++ more)[n]? = some a := by
  obtain ⟨inside, _⟩ := List.getElem?_eq_some_iff.mp found
  rw [List.getElem?_append_left inside, found]

/-! Responses. -/

theorem Truthful.mono {acts : List Act} {message : Message} {response : Response}
    (truthful : Truthful site player acts message response) (more : List Act) :
    Truthful site player (acts ++ more) message response := by
  refine ⟨truthful.directed, ?_⟩
  intro told side entity left asked same
  exact List.mem_append_left more (truthful.accepted told side entity left asked same)

theorem Truthful.of_refusal {acts : List Act} {message : Message} {response : Response}
    (refusal : ZoneServer.Refusal response) : Truthful site player acts message response := by
  refine ⟨?_, ?_⟩
  · rintro directive rfl
    cases refusal
  · rintro rfl
    cases refusal

namespace Reliable

variable {acts : List Act} {side : Side}

theorem of_no_errand (question : Question) (settled : errand? question = none)
    (answer : Scan.Answer question) : Reliable site player acts side question answer := by
  cases question with
  | connect peer => exact ⟨trivial, fun given => by cases given⟩
  | isStale link => exact ⟨trivial, fun given => by cases given⟩
  | invalidate peer => exact ⟨trivial, fun given => by cases given⟩
  | discard id => exact ⟨trivial, fun given => by cases given⟩
  | _ => cases settled

variable {question : Question}

theorem of_error {errand : Errand (Scan.Answer question)} (known : errand? question = some errand)
    (e : TransportError) :
    Reliable site player acts side question (errand.conclude (.error e)) := by
  cases known using Scan.errand?_cases with
  | initiateTransfer id position =>
    refine ⟨?_, fun given => by cases given⟩
    intro directive impossible
    cases impossible
  | completeTransfer id server => exact ⟨trivial, fun given => by cases given⟩
  | locate position => exact ⟨trivial, fun given => by cases given⟩
  | push link peer entity left => exact ⟨trivial, fun given => by cases given⟩

theorem of_response {granted : Bool} {errand : Errand (Scan.Answer question)}
    (known : errand? question = some errand) (allowed : Allowed site side player granted question)
    {response : Response} (truthful : Truthful site player acts errand.message response) :
    Reliable site player acts side question
      (errand.conclude (Connection.outcome response)) := by
  cases known using Scan.errand?_cases with
  | initiateTransfer id position =>
    refine ⟨?_, fun given => by cases given⟩
    intro directive told
    apply truthful.directed directive
    cases response <;>
      simp_all [Errand.ofCall, Call.conclude, Call.initiateTransfer, Connection.outcome]
  | completeTransfer id server => exact ⟨trivial, fun given => by cases given⟩
  | locate position => exact ⟨trivial, fun given => by cases given⟩
  | push link peer entity left =>
    refine ⟨trivial, ?_⟩
    intro given
    have told : response = .accepted true ∧ entity.id = player := by
      cases response <;>
        simp_all [Errand.ofCall, Call.conclude, Call.transferEntity, Connection.outcome, grants]
      next verdict =>
        cases verdict <;> simp_all
    -- The offer went to the other server, so it is the other server that has accepted.
    obtain ⟨-, peer⟩ := allowed told.2
    exact truthful.accepted told.1 side.other entity left (by rw [← peer]; rfl) told.2

end Reliable

/-! What a server does and what it hears of. -/

namespace Sound

variable {acts : List Act} {requests : List Message} {side : Side} {p : Party}

theorem kind (sound : Sound site player initially acts requests side p) :
    ∀ kind, p.server.population.kindOf? player = some kind → kind = .player := by
  intro kind held
  rw [sound.present] at held
  split at held
  · exact (Option.some.inj held).symm
  · cases held

theorem post (sound : Sound site player initially acts requests side p) (message : Message) :
    Sound site player initially acts (requests ++ [message]) side p := by
  refine ⟨sound.config, sound.present, sound.cautious, ?_⟩
  intro number waits
  obtain ⟨question, resume, errand, stands, known, sent⟩ := sound.awaited number waits
  exact ⟨question, resume, errand, stands, known, getElem?_of_append sent _⟩

theorem serve (sound : Sound site player initially acts requests side p) {server : ZoneServer}
    (config : server.config = p.server.config)
    (kinds : server.population.kindOf? player = p.server.population.kindOf? player) :
    Sound site player initially acts requests side { p with server } :=
  ⟨config.trans sound.config, kinds.trans sound.present, sound.cautious, sound.awaited⟩

theorem elsewhere (sound : Sound site player initially acts requests side p) {act : Act}
    (keeps : ∀ held, act.settle side player held = held) :
    Sound site player initially (acts ++ [act]) requests side p := by
  obtain ⟨granted, backed, cautious⟩ := sound.cautious
  refine ⟨sound.config, ?_, ⟨granted, ?_, cautious⟩, sound.awaited⟩
  · rw [standing_concat, keeps]
    exact sound.present
  · intro given
    exact List.mem_append_left _ (backed given)

theorem beginScan (sound : Sound site player initially acts requests side p) (now : Instant) :
    Sound site player initially acts requests side (p.beginScan now) := by
  unfold Party.beginScan
  split
  next report stands =>
    -- A new scan starts with nothing granted, whatever the last one was told.
    refine ⟨?_, ?_, ⟨false, by simp, ?_⟩, ?_⟩
    · exact (p.server.scan_config now).trans sound.config
    · exact (p.server.scan_kindOf? now player).trans sound.present
    · exact ZoneServer.scan_cautious sound.config sound.kind now
    · intro number waits
      obtain ⟨question, resume, errand, other, -⟩ := sound.awaited number waits
      rw [stands] at other
      cases other
  · exact sound

theorem actHere (sound : Sound site player initially acts requests side p) {act : Act}
    {server : ZoneServer} (config : server.config = p.server.config)
    (present : server.population.kindOf? player =
      if act.settle side player (standing side player (initially side) acts)
        then some .player else none) :
    Sound site player initially (acts ++ [act]) requests side { p with server } := by
  obtain ⟨granted, backed, cautious⟩ := sound.cautious
  refine ⟨config.trans sound.config, ?_, ⟨granted, ?_, cautious⟩, sound.awaited⟩
  · rw [standing_concat]
    exact present
  · intro given
    exact List.mem_append_left _ (backed given)

theorem take (sound : Sound site player initially acts requests side p) {server : ZoneServer}
    {entity : EntitySnapshot} (kind : entity.id = player → entity.kind = .player)
    (taken : p.server.TookIn entity server) :
    Sound site player initially (acts ++ [.accepted side entity.id]) requests side
      { p with server } := by
  apply sound.actHere taken.config
  rw [taken.kinds]
  by_cases same : entity.id = player
  · rw [same, sound.present, kind same]
    simp only [Act.settle, and_self, if_true]
    split <;> rfl
  · rw [if_neg (Ne.symm same), sound.present]
    simp [Act.settle, same]

theorem discard (sound : Sound site player initially acts requests side p) (id : EntityId) :
    Sound site player initially (acts ++ [.removed side id]) requests side
      { p with server := p.server.discard id } := by
  have config : (p.server.discard id).config = p.server.config := rfl
  apply sound.actHere config
  rw [ZoneServer.discard_kindOf?]
  by_cases same : id = player
  · simp [Act.settle, same]
  · rw [if_neg (Ne.symm same), sound.present]
    simp [Act.settle, same]

theorem goOn (sound : Sound site player initially acts requests side p) {question : Question}
    {resume : Scan.Answer question → Scan.Talk ScanReport}
    (stands : p.scan = .ask question resume) {answer : Scan.Answer question}
    (reliable : Reliable site player acts side question answer) :
    Sound site player initially acts requests side (p.goOn (resume answer)) := by
  obtain ⟨granted, backed, cautious⟩ := sound.cautious
  rw [stands] at cautious
  refine ⟨sound.config, sound.present, ⟨_, ?_, cautious.2 answer reliable.credible⟩, ?_⟩
  · intro either
    rcases Bool.or_eq_true_iff.mp either with before | now
    · exact backed before
    · exact reliable.granted now
  · intro number waits
    cases waits

/-- An outcome that is reliable wherever the scan may stand is one that it can go on with. -/
theorem conclude (sound : Sound site player initially acts requests side p)
    {outcome : Except TransportError Response}
    (reliable : ∀ (question : Question) (resume : Scan.Answer question → Scan.Talk ScanReport)
      (errand : Errand (Scan.Answer question)), p.scan = .ask question resume →
        errand? question = some errand →
          Reliable site player acts side question (errand.conclude outcome)) :
    Sound site player initially acts requests side (p.conclude outcome) := by
  unfold Party.conclude
  split
  · exact sound
  next question resume stands =>
    split
    · exact sound
    next errand known => exact sound.goOn stands (reliable question resume errand stands known)

end Sound

end ShardedWorld.Handover
