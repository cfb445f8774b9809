import ShardedWorld.Proofs.Scan.Conservation
import ShardedWorld.Proofs.Scan.Stays

/-! The mark of an entity over many scans.

The entities of a server come without a mark, move about and go, and scans of one zone run one
after the other, each while the rest goes on. Scans never forget that an entity was outside until
they see it inside: one that is about to leave keeps the mark of an earlier stay.
-/

set_option autoImplicit false

namespace ShardedWorld

namespace Population

theorem insert?_bodies {p p' : Population} {e : Entity} (inserted : p.insert? e = some p')
    (id : EntityId) : p'.bodies[id]? = if id = e.id then some e.toBody else p.bodies[id]? := by
  unfold insert? at inserted
  split at inserted
  · cases inserted
  · rw [← Option.some.inj inserted]
    by_cases same : e.id = id
    · simp [same]
    · simp [Std.ExtTreeMap.getElem?_insert, same, Ne.symm same]

end Population

namespace Scan

open Dialogue (Leads)

/-! What happens to the entities of a server. -/

/-- A scan comes with the population as it found it. -/
inductive Event where
  | entered (id : EntityId)
  | scanned (now : Instant) (p : Population)

namespace Event

def enters (id : EntityId) : Event → Bool
  | entered other => other == id
  | scanned .. => false

def time? : Event → Option Instant
  | entered _ => none
  | scanned now _ => some now

def sight? (grid : Grid) (zone : Zone) (w : ProjectileWindow) (id : EntityId) : Event → Option Sight
  | entered _ => none
  | scanned now p => (p.bodies[id]?).map fun b => ⟨now, Crossing.classify grid zone w b⟩

def InOrder (log : List Event) : Prop := (log.filterMap time?).Pairwise (· ≤ ·)

instance (log : List Event) : Decidable (InOrder log) :=
  inferInstanceAs (Decidable (List.Pairwise _ _))

end Event

/-- An entity enters without a mark. Whatever else changes about entities, their marks stay. -/
inductive Changed (p : Population) : List Event → Population → Prop where
  | entered {e : Entity} {p' : Population} :
      e.leftOriginAt = none → p.insert? e = some p' → Changed p [.entered e.id] p'
  | altered {p' : Population} :
      (∀ id : EntityId,
        (p'.bodies[id]?).map Body.leftOriginAt = (p.bodies[id]?).map Body.leftOriginAt) →
      Changed p [] p'
  | removed (id : EntityId) : Changed p [] (p.erase id)

/-- A dialogue of a scan, with what happens to the entities meanwhile. The scan takes out what it
discards. -/
inductive Proceeds {α : Type} : Population → Talk α → List Exchange → List Event → Population →
    Prop where
  | finished (p : Population) (a : α) : Proceeds p (.finished a) [] [] p
  | answered {p p' : Population} {question : Question} {resume : Answer question → Talk α}
      {said : List Exchange} {events : List Event} (answer : Answer question) :
      Proceeds (afterwards p [⟨question, answer⟩]) (resume answer) said events p' →
      Proceeds p (.ask question resume) (⟨question, answer⟩ :: said) events p'
  | meanwhile {p p₁ p' : Population} {talk : Talk α} {said : List Exchange}
      {first later : List Event} :
      Changed p first p₁ → Proceeds p₁ talk said later p' →
      Proceeds p talk said (first ++ later) p'

/-- All that can become of the entities of a server that keeps its zone. -/
inductive Course (here : ServerId) (grid : Grid) (w : ProjectileWindow) (zone : Zone) :
    List Event → Population → Prop where
  | empty (capacity : Nat) : Course here grid w zone [] (.empty capacity)
  | changed {log events : List Event} {p p' : Population} :
      Course here grid w zone log p → Changed p events p' →
      Course here grid w zone (log ++ events) p'
  | scanned {log events : List Event} {p p' : Population} {order : List (Entity × Crossing)}
      {said : List Exchange} (now : Instant) :
      Course here grid w zone log p → order.Perm (collect grid zone w now p).2 →
      Proceeds (collect grid zone w now p).1 (talk here grid now p order) said events p' →
      Course here grid w zone (log ++ .scanned now p :: events) p'

theorem Proceeds.of_leads {α : Type} {talk : Talk α} {said : List Exchange} {a : α}
    (leads : Leads talk said a) (p : Population) :
    Proceeds p talk said [] (afterwards p said) := by
  induction leads generalizing p with
  | finished a => exact .finished p a
  | @ask question resume said a answer _ ih =>
    have whole : afterwards p (⟨question, answer⟩ :: said) =
        afterwards (afterwards p [⟨question, answer⟩]) said := by
      rw [← List.singleton_append]
      simp only [afterwards, Population.without, List.filterMap_append, List.foldl_append]
    rw [whole]
    exact .answered answer (ih _)

/-- What happens meanwhile does not change what is said. -/
theorem Proceeds.leads {α : Type} {p p' : Population} {talk : Talk α} {said : List Exchange}
    {events : List Event} (proceeds : Proceeds p talk said events p') :
    ∃ a, Leads talk said a := by
  induction proceeds with
  | finished p a => exact ⟨a, .finished a⟩
  | answered answer _ ih =>
    obtain ⟨a, leads⟩ := ih
    exact ⟨a, .ask answer leads⟩
  | meanwhile _ _ ih => exact ih

/-! What the scans saw of an entity. -/

section Sights

variable (grid : Grid) (zone : Zone) (w : ProjectileWindow) (id : EntityId)

/-- What the scans saw of an entity since it entered last. -/
def sights (log : List Event) : List Sight :=
  (log.rtakeWhile fun event => !event.enters id).filterMap (Event.sight? grid zone w id)

theorem sights_entered (log : List Event) (other : EntityId) :
    sights grid zone w id (log ++ [.entered other]) =
      if id = other then [] else sights grid zone w id log := by
  by_cases same : id = other
  · simp [sights, Event.enters, same]
  · simp [sights, Event.enters, Event.sight?, same, Ne.symm same]

theorem sights_scanned (log : List Event) (now : Instant) (p : Population) :
    sights grid zone w id (log ++ [.scanned now p]) = sights grid zone w id log ++
      ((p.bodies[id]?).map fun b => ⟨now, Crossing.classify grid zone w b⟩).toList := by
  simp only [sights, List.rtakeWhile_concat, Event.enters, Bool.not_false, if_pos,
    List.filterMap_append, List.filterMap_cons, List.filterMap_nil, Event.sight?]
  cases p.bodies[id]? <;> rfl

theorem sights_ordered {log : List Event} (ordered : Event.InOrder log) :
    Sight.InOrder (sights grid zone w id log) := by
  have times : log.Pairwise fun a b =>
      ∀ t ∈ a.time?, ∀ t' ∈ b.time?, t ≤ t' := List.pairwise_filterMap.mp ordered
  have latest := times.sublist
    (List.rtakeWhile_suffix (fun event : Event => !event.enters id) log).sublist
  refine List.pairwise_filterMap.mpr (latest.imp ?_)
  -- Only scans have a time, and a sight has that of its scan.
  rintro (_ | ⟨now, p⟩) (_ | ⟨now', p'⟩) before s seen s' seen'
  · cases seen
  · cases seen
  · cases seen'
  · obtain ⟨b, -, rfl⟩ := Option.map_eq_some_iff.mp seen
    obtain ⟨b', -, rfl⟩ := Option.map_eq_some_iff.mp seen'
    exact before now rfl now' rfl

end Sights

/-! Marks. -/

section Marked

variable {here : ServerId} {grid : Grid} {w : ProjectileWindow} {zone : Zone} {log : List Event}
  {p p' : Population}

/-- Each mark tells when its entity was first outside since it was last inside. -/
def Marked (grid : Grid) (w : ProjectileWindow) (zone : Zone) (log : List Event) (p : Population) :
    Prop :=
  ∀ (id : EntityId) (b : Body), p.bodies[id]? = some b →
    b.leftOriginAt = firstOutside (sights grid zone w id log)

theorem Marked.without (marked : Marked grid w zone log p) (ids : List EntityId) :
    Marked grid w zone log (p.without ids) := by
  intro id b held
  rw [Population.without_bodies] at held
  split at held
  · cases held
  · exact marked id b held

theorem Marked.changed (marked : Marked grid w zone log p) {events : List Event}
    (changed : Changed p events p') : Marked grid w zone (log ++ events) p' := by
  cases changed with
  | entered unmarked inserted =>
    intro id b held
    rw [Population.insert?_bodies inserted] at held
    rw [sights_entered]
    split at held
    -- One that enters begins anew, also under a number that was in use.
    next own =>
      cases held
      rw [if_pos own, unmarked]
      rfl
    next other =>
      rw [if_neg other]
      exact marked id b held
  | altered keeps =>
    intro id b held
    have kept := keeps id
    rw [held] at kept
    obtain ⟨before, before_held, same⟩ := Option.map_eq_some_iff.mp kept.symm
    rw [List.append_nil, ← same]
    exact marked id before before_held
  | removed id =>
    rw [List.append_nil]
    exact marked.without [id]

theorem Marked.scan (marked : Marked grid w zone log p) (now : Instant) :
    Marked grid w zone (log ++ [.scanned now p]) (collect grid zone w now p).1 := by
  intro id b held
  rw [collect_bodies] at held
  obtain ⟨before, found, rfl⟩ := Option.map_eq_some_iff.mp held
  rw [sights_scanned, found, Option.map_some, Option.toList_some, firstOutside_concat,
    ← marked id before found]
  rfl

theorem Marked.proceeds {α : Type} {talk : Talk α} {said : List Exchange} {events : List Event}
    (marked : Marked grid w zone log p) (proceeds : Proceeds p talk said events p') :
    Marked grid w zone (log ++ events) p' := by
  induction proceeds generalizing log with
  | finished p a =>
    rw [List.append_nil]
    exact marked
  -- The marks were set before anything was said; answers only take entities out.
  | answered answer _ ih => exact ih (marked.without _)
  | meanwhile changed _ ih =>
    rw [← List.append_assoc]
    exact ih (marked.changed changed)

theorem Course.marked (course : Course here grid w zone log p) : Marked grid w zone log p := by
  induction course with
  | empty capacity =>
    intro id b held
    simp [Population.empty] at held
  | changed _ changed marked => exact marked.changed changed
  | @scanned log events p p' order said now _ any proceeds marked =>
    rw [← List.singleton_append, ← List.append_assoc]
    exact (marked.scan now).proceeds proceeds

end Marked

/-! What peers are told. -/

def Tells (left : Option UInt64) : Question → Prop
  | .push _ _ _ told => told = left
  | _ => True

section Tried

variable {self : ServerId} {grid : Grid} {now : Instant} {e : Entity} {crossing : Crossing}
  {said : List Exchange} {outcome : Except HandoffError Outcome}

theorem Offered.tells {peer : Address} {entity : EntitySnapshot} {left : Option UInt64}
    {answer : Except HandoffError Bool} (offered : Offered peer entity left said answer) :
    ∀ x ∈ said, Tells left x.question := by
  intro x mem
  have asked := offered.asks x mem
  generalize x.question = question at asked ⊢
  cases asked with
  | connect => trivial
  | push link => rfl
  | isStale link => trivial

theorem PlayerTried.tells (tried : PlayerTried self e said outcome) :
    ∀ x ∈ said, Tells none x.question := by
  cases tried with
  | unanswered cause => simp [Tells]
  | undirected reclaimed => cases reclaimed <;> simp [Tells]
  | directedHere own => simp [Tells]
  | failed foreign offered => simpa [Tells] using offered.tells
  | declined foreign offered => simpa [Tells] using offered.tells
  | accepted confirmed foreign offered =>
    rw [List.forall_mem_cons, List.forall_mem_append]
    exact ⟨trivial, offered.tells, by simp [Tells]⟩

theorem PositionTried.tells {zone : Zone} {outside : Bool}
    (tried : PositionTried self grid now e zone outside said outcome) :
    ∀ x ∈ said, Tells (outsideMillis now e) x.question := by
  cases tried with
  | unanswered cause => simp [Tells]
  | foreignToNobody own => simp [Tells]
  | offered foreign offered =>
    rw [List.forall_mem_cons]
    exact ⟨trivial, offered.tells⟩

theorem Tried.tells (tried : Tried self grid now e crossing said outcome) :
    ∀ x ∈ said, Tells (if e.kind = .player then none else outsideMillis now e) x.question := by
  cases tried with
  | player isPlayer tried =>
    rw [if_pos isPlayer]
    exact tried.tells
  | inside other => simp
  | outside other tried =>
    rw [if_neg other]
    exact tried.tells
  | leaving other tried =>
    rw [if_neg other]
    exact tried.tells

end Tried

section

variable {here : ServerId} {grid : Grid} {w : ProjectileWindow} {zone : Zone} {log : List Event}
  {p : Population}

/-- An entity is said to have been outside since the time that its mark tells. -/
theorem Marked.pushed (marked : Marked grid w zone log p) {now : Instant}
    {order : List (Entity × Crossing)} (any : order.Perm (collect grid zone w now p).2)
    {said : List Exchange} {report : ScanReport}
    (leads : Leads (talk here grid now p order) said report) {link : LinkId} {peer : Address}
    {entity : EntitySnapshot} {left : Option UInt64} {outcome : Except TransportError Bool}
    (mem : ⟨.push link peer entity left, outcome⟩ ∈ said) :
    ∃ b, p.bodies[entity.id]? = some b ∧ left = if b.kind = .player then none else
      (firstOutside (sights grid zone w entity.id (log ++ [.scanned now p]))).map fun since =>
        .ofNat (now.since since).millis := by
  obtain ⟨trials, conserved⟩ := Conserved.of_leads any leads
  rw [conserved.told] at mem
  obtain ⟨t, listed, mem⟩ := List.mem_flatMap.mp mem
  -- Once its outcome is known, an entity is not pushed any more.
  have spoken : ⟨.push link peer entity left, outcome⟩ ∈ t.said := by
    refine (List.mem_append.mp mem).resolve_right fun closing => ?_
    have pushed : (entity, outcome) ∈ t.closing.filterMap push? :=
      List.mem_filterMap.mpr ⟨_, closing, rfl⟩
    rw [t.closing_pushes] at pushed
    cases pushed
  obtain rfl : entity = t.entity.snapshot := conserved.own t listed _ spoken
  have told : left = if t.entity.kind = .player then none else outsideMillis now t.entity :=
    (transfer_leads (conserved.attempted t listed)).tells _ spoken
  obtain ⟨b, held, noted, -⟩ := conserved.held t listed
  have since := marked.scan now t.entity.id t.entity.toBody (by
    rw [collect_bodies, held, noted, Option.map_some])
  refine ⟨b, held, ?_⟩
  rw [told, outsideMillis, since, noted]
  rfl

/-- Whatever happens, a mark tells when its entity was first outside since it was last inside, and a
peer is told the same. So a mark tells when the stay outside began exactly if the entity was in no
stay before, since it was inside. -/
theorem mark_begins_stay_iff (course : Course here grid w zone log p)
    (ordered : Event.InOrder log) :
    (∀ (id : EntityId) (b : Body), p.bodies[id]? = some b →
      let seen := sights grid zone w id log
      b.leftOriginAt = firstOutside seen ∧ (b.leftOriginAt = stayBegin? seen ↔ OnlyStay seen)) ∧
    ∀ now order said events p', order.Perm (collect grid zone w now p).2 →
      Proceeds (collect grid zone w now p).1 (talk here grid now p order) said events p' →
      ∀ link peer entity left outcome, ⟨.push link peer entity left, outcome⟩ ∈ said →
        ∃ b, p.bodies[entity.id]? = some b ∧
          let seen := sights grid zone w entity.id (log ++ [.scanned now p])
          left = (if b.kind = .player then none else
            (firstOutside seen).map fun since => .ofNat (now.since since).millis) ∧
          (left = none ↔ b.kind = .player ∨ ∀ s ∈ sinceInside seen, s.isOutside = false) := by
  constructor
  · intro id b held seen
    have since := course.marked id b held
    refine ⟨since, ?_⟩
    rw [since]
    exact firstOutside_eq_stayBegin?_iff (sights_ordered grid zone w id ordered)
  · intro now order said events p' any proceeds link peer entity left outcome mem
    obtain ⟨report, leads⟩ := proceeds.leads
    obtain ⟨b, held, told⟩ := course.marked.pushed any leads mem
    refine ⟨b, held, told, ?_⟩
    rw [told, ← firstOutside_eq_none_iff]
    split
    next player => simp [player]
    next other => simp [other]

end

def age? : Exchange → Option (Option UInt64)
  | ⟨.push _ _ _ left, _⟩ => some left
  | _ => none

theorem mem_of_mem_ages {said : List Exchange} {left : Option UInt64}
    (told : left ∈ said.filterMap age?) :
    ∃ link peer entity outcome, ⟨.push link peer entity left, outcome⟩ ∈ said := by
  obtain ⟨x, mem, same⟩ := List.mem_filterMap.mp told
  unfold age? at same
  split at same
  next link peer entity left outcome =>
    cases same
    exact ⟨link, peer, entity, outcome, mem⟩
  next => cases same

/-- A bullet that flies in, from outside. -/
def stray : Entity :=
  { Entity.appearing 1 .bullet ⟨.ofInt 560, .ofInt 10⟩ with velocity := ⟨.ofInt (-100), .ofInt 0⟩ }

def arrived : Population :=
  { Population.empty 8 with bodies := (Population.empty 8).bodies.insert 1 stray.toBody }

def declining : (question : Question) → Unit → Answer question × Unit
  | .locate _, s => (.ok (some ⟨⟨"b"⟩, .loopback 7002, ⟨1, 0⟩⟩), s)
  | .connect _, s => (.ok 1, s)
  | .push .., s => (.ok false, s)
  | .initiateTransfer .., s => (.ok none, s)
  | .completeTransfer .., s => (.ok (), s)
  | .isStale _, s => (false, s)
  | .invalidate _, s => ((), s)
  | .discard _, s => ((), s)

def declined (now : Instant) (p : Population) : List Exchange × Population :=
  let (marked, candidates) := collect .standard ⟨0, 0⟩ .standard now p
  let said := ((talk ⟨"a"⟩ .standard now p candidates).converse declining ()).2.1
  (said, afterwards marked said)

def flying (d : Duration) : Population := (declined ⟨1000000000⟩ arrived).2.advance d.toSeconds

theorem declined_proceeds (now : Instant) (p : Population) :
    Proceeds (collect .standard ⟨0, 0⟩ .standard now p).1
      (talk ⟨"a"⟩ .standard now p (collect .standard ⟨0, 0⟩ .standard now p).2)
      (declined now p).1 [] (declined now p).2 :=
  .of_leads (Dialogue.converse_leads declining _ ()) _

theorem Course.declined {log : List Event} {p : Population}
    (course : Course ⟨"a"⟩ .standard .standard ⟨0, 0⟩ log p) (now : Instant) :
    Course ⟨"a"⟩ .standard .standard ⟨0, 0⟩ (log ++ [.scanned now p]) (Scan.declined now p).2 :=
  .scanned now course (.refl _) (declined_proceeds now p)

theorem flying_course (d : Duration) : Course ⟨"a"⟩ .standard .standard ⟨0, 0⟩
    [.entered 1, .scanned ⟨1000000000⟩ arrived] (flying d) := by
  have entered : Course ⟨"a"⟩ .standard .standard ⟨0, 0⟩ [.entered 1] arrived :=
    .changed (.empty 8) (.entered (e := stray) rfl rfl)
  refine .changed (entered.declined ⟨1000000000⟩) (.altered fun id => ?_)
  simp [flying, Population.advance, Population.map, Body.advance, Function.comp_def]

theorem passing_bullet_marked_and_pushed :
    let log : List Event := [.entered 1, .scanned ⟨1000000000⟩ arrived]
    let p := flying (.ofMillis 50)
    let now : Instant := ⟨1050000000⟩
    Course ⟨"a"⟩ .standard .standard ⟨0, 0⟩ log p ∧ Event.InOrder log ∧
      (∃ b, p.bodies[(1 : EntityId)]? = some b ∧
        b.leftOriginAt = stayBegin? (sights .standard ⟨0, 0⟩ .standard 1 log)) ∧
      ∃ link peer entity outcome,
        ⟨.push link peer entity (some 50), outcome⟩ ∈ (declined now p).1 ∧
        ∃ since, firstOutside (sights .standard ⟨0, 0⟩ .standard entity.id
            (log ++ [.scanned now p])) = some since ∧
          UInt64.ofNat (now.since since).millis = 50 := by
  intro log p now
  have ordered : Event.InOrder log := by decide
  obtain ⟨marks, pushes⟩ := mark_begins_stay_iff (flying_course (.ofMillis 50)) ordered
  obtain ⟨b, held⟩ : ∃ b, p.bodies[(1 : EntityId)]? = some b :=
    Option.isSome_iff_exists.mp (by decide +kernel)
  have only : OnlyStay (sights .standard ⟨0, 0⟩ .standard 1 log) := by decide +kernel
  obtain ⟨link, peer, entity, outcome, pushed⟩ :
      ∃ link peer entity outcome,
        ⟨.push link peer entity (some 50), outcome⟩ ∈ (declined now p).1 :=
    mem_of_mem_ages (by decide +kernel)
  obtain ⟨b', -, told, -⟩ := pushes now _ _ _ _ (.refl _) (declined_proceeds now p) link peer entity
    (some 50) outcome pushed
  refine ⟨flying_course _, ordered, ⟨b, held, (marks 1 b held).2.mpr only⟩, link, peer, entity,
    outcome, pushed, ?_⟩
  split at told
  · cases told
  · exact Option.map_eq_some_iff.mp told.symm

/-- The bullet that flew through the zone is about to leave on the other side. -/
theorem leaving_bullet_keeps_mark :
    let now : Instant := ⟨6500000000⟩
    let p := flying (.ofMillis 5500)
    let log : List Event := [.entered 1, .scanned ⟨1000000000⟩ arrived, .scanned now p]
    let seen := sights .standard ⟨0, 0⟩ .standard 1 log
    Course ⟨"a"⟩ .standard .standard ⟨0, 0⟩ log (declined now p).2 ∧ Event.InOrder log ∧
      seen.map (·.crossing) = [.outside ⟨1, 0⟩, .leaving ⟨-1, 0⟩] ∧ stayBegin? seen = none ∧
      ((declined now p).2.bodies[(1 : EntityId)]?).map (·.leftOriginAt) =
        some (some ⟨1000000000⟩) ∧
      (declined now p).1.filterMap age? = [some 5500] :=
  ⟨(flying_course _).declined _, by decide, by decide +kernel, by decide +kernel,
    by decide +kernel, by decide +kernel⟩

end Scan

end ShardedWorld
