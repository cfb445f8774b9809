import ShardedWorld.Proofs.Scan.Candidates
import ShardedWorld.Proofs.Scan.Trials

/-! A scan loses nothing.

However the registry and the peers answer, every entity stays or is counted: what is gone was
accepted by a peer or destroyed, and what stays is what it was but for the mark of when it left.
-/

set_option autoImplicit false

namespace ShardedWorld.Scan

open Dialogue (Leads)

def discarded? : Exchange → Option EntityId
  | ⟨.discard id, _⟩ => some id
  | _ => none

def afterwards (p : Population) (said : List Exchange) : Population :=
  p.without (said.filterMap discarded?)

namespace Trial

theorem closing_pushes (t : Trial) : t.closing.filterMap push? = [] := by
  unfold closing
  split <;> rfl

theorem closing_discards (t : Trial) :
    t.closing.filterMap discarded? = if t.removes then [t.entity.id] else [] := by
  obtain ⟨e, crossing, said, outcome⟩ := t
  match outcome with
  | .ok .handedOff | .ok .destroyed | .ok .retained | .ok .kept => rfl
  | .error (.staleConnection peer) | .error (.transientNetwork reason)
  | .error .authorityConflict | .error .capacityExceeded | .error (.misuse reason) => rfl

theorem closing_names (t : Trial) {x : Exchange} (member : x ∈ t.closing) {id : EntityId}
    (named : Names id x.question) : t.entity.id = id := by
  unfold closing at member
  split at member
  all_goals
    simp only [List.mem_singleton, List.not_mem_nil] at member
  · rw [member] at named
    exact named
  · rw [member] at named
    exact named
  · rw [member] at named
    exact named.elim

theorem endsWith_iff {t : Trial} {end_ : Outcome} :
    t.endsWith end_ = true ↔ t.outcome = .ok end_ := by
  unfold endsWith
  split
  next outcome same => simp [same]
  next e same => simp [same]

theorem removes_iff {t : Trial} :
    t.removes = true ↔ t.outcome = .ok .handedOff ∨ t.outcome = .ok .destroyed := by
  rw [removes, Bool.or_eq_true, endsWith_iff, endsWith_iff]

end Trial

/-- Trials of all that a scan of the population `p` takes up, in some order. -/
structure Trials (here : ServerId) (grid : Grid) (w : ProjectileWindow) (zone : Zone)
    (now : Instant) (p : Population) (trials : List Trial) : Prop where
  /-- Every entity that is not inside is tried, and only once. -/
  tried : ∀ (id : EntityId) (b : Body), p.bodies[id]? = some b →
    Crossing.classify grid zone w b ≠ .inside → ∃ t ∈ trials, t.entity.id = id
  once : (trials.map (·.entity.id)).Nodup
  held : ∀ t ∈ trials, ∃ b, p.bodies[t.entity.id]? = some b ∧
    t.entity.toBody = mark grid zone w now b ∧ t.crossing = Crossing.classify grid zone w b ∧
    t.crossing ≠ .inside
  attempted : ∀ t ∈ trials, Leads (transfer here grid now t.entity t.crossing) t.said t.outcome

/-- What a scan of the population `p` has done, with what it said and what it left behind. -/
structure Conserved (here : ServerId) (grid : Grid) (w : ProjectileWindow) (zone : Zone)
    (now : Instant) (p : Population) (report : ScanReport) (said : List Exchange)
    (after : Population) (trials : List Trial) : Prop
    extends Trials here grid w zone now p trials where
  /-- The trials are all that is said and all that is counted. -/
  told : said = trials.flatMap Trial.all
  counted : report =
    { scanned := p.size
      handedOff := trials.countP (·.endsWith .handedOff)
      retained := trials.countP (·.endsWith .retained)
      destroyed := trials.countP (·.endsWith .destroyed)
      failed := trials.countP (·.failed) }
  /-- In a trial the entity is all that is asked about. -/
  own : ∀ t ∈ trials, ∀ x ∈ t.said, Asks grid t.entity t.crossing x.question
  /-- Nothing is said about an entity that is inside, and it stays. -/
  inside : ∀ (id : EntityId) (b : Body), p.bodies[id]? = some b →
    Crossing.classify grid zone w b = .inside →
    (∀ x ∈ said, ¬ Names id x.question) ∧
      after.bodies[id]? = some { b with leftOriginAt := none }
  /-- What is missing was handed off or destroyed; what is left was changed by its mark only. -/
  missing : ∀ id ∈ p.bodies, id ∉ after.bodies ↔ ∃ t ∈ trials, t.entity.id = id ∧
    (t.outcome = .ok .handedOff ∨ t.outcome = .ok .destroyed)
  size : after.size + report.handedOff + report.destroyed = p.size
  kept : ∀ (id : EntityId) (b' : Body), after.bodies[id]? = some b' →
    ∃ b since, p.bodies[id]? = some b ∧ b' = { b with leftOriginAt := since }
  /-- What is handed off was accepted, and what is destroyed is no player. -/
  granted : ∀ t ∈ trials, t.outcome = .ok .handedOff →
    ∃ link peer left, ⟨.push link peer t.entity.snapshot left, .ok true⟩ ∈ t.said
  destroyed : ∀ t ∈ trials, t.outcome = .ok .destroyed → t.entity.kind ≠ .player
  sparing : ∀ id : EntityId, Sparing ((said.filterMap push?).filter fun push => push.1.id == id)
  confirms : ∀ t ∈ trials, ConfirmsAcceptance here t.entity t.said

section

variable {trials : List Trial}

theorem discards_of_trials
    (quiet : ∀ t ∈ trials, ∀ x ∈ t.said, discarded? x = none) :
    (trials.flatMap Trial.all).filterMap discarded? =
      (trials.filter Trial.removes).map (·.entity.id) := by
  induction trials with
  | nil => rfl
  | cons t rest ih =>
    obtain ⟨first, others⟩ := List.forall_mem_cons.mp quiet
    have silent : t.said.filterMap discarded? = [] := List.filterMap_eq_nil_iff.mpr first
    rw [List.flatMap_cons, List.filterMap_append, ih others, Trial.all, List.filterMap_append,
      silent, t.closing_discards, List.filter_cons]
    split <;> simp

theorem sparing_of_trials (distinct : (trials.map (·.entity.id)).Nodup)
    (own : ∀ t ∈ trials, ∀ push ∈ t.said.filterMap push?, push.1.id = t.entity.id)
    (sparing : ∀ t ∈ trials, Sparing (t.said.filterMap push?)) (id : EntityId) :
    Sparing (((trials.flatMap Trial.all).filterMap push?).filter fun push => push.1.id == id) := by
  have pushes (t : Trial) : t.all.filterMap push? = t.said.filterMap push? := by
    rw [Trial.all, List.filterMap_append, t.closing_pushes, List.append_nil]
  induction trials with
  | nil => exact .none
  | cons t rest ih =>
    obtain ⟨fresh, distinct⟩ := List.nodup_cons.mp distinct
    obtain ⟨ownFirst, ownRest⟩ := List.forall_mem_cons.mp own
    obtain ⟨first, others⟩ := List.forall_mem_cons.mp sparing
    rw [List.flatMap_cons, List.filterMap_append, List.filter_append, pushes]
    by_cases same : t.entity.id = id
    -- This is the entity's own trial, so no later one pushes it.
    · have whole : (t.said.filterMap push?).filter (fun push => push.1.id == id) =
          t.said.filterMap push? := by
        rw [List.filter_eq_self]
        intro push member
        simp [ownFirst push member, same]
      have nothing : ((rest.flatMap Trial.all).filterMap push?).filter
          (fun push => push.1.id == id) = [] := by
        rw [List.filter_eq_nil_iff]
        intro push member pushed
        rw [List.filterMap_flatMap, List.mem_flatMap] at member
        obtain ⟨t', listed, member⟩ := member
        rw [pushes] at member
        have again : t'.entity.id = t.entity.id := by
          rw [← ownRest t' listed push member, beq_iff_eq.mp pushed, same]
        exact fresh (List.mem_map.mpr ⟨t', listed, again⟩)
      rw [whole, nothing, List.append_nil]
      exact first
    · have nothing : (t.said.filterMap push?).filter (fun push => push.1.id == id) = [] := by
        rw [List.filter_eq_nil_iff]
        intro push member pushed
        exact same ((ownFirst push member).symm.trans (beq_iff_eq.mp pushed))
      rw [nothing, List.nil_append]
      exact ih distinct ownRest others

/-- A trial among others, which are of other entities. -/
theorem among_others {trials : List Trial} (once : (trials.map (·.entity.id)).Nodup) {t : Trial}
    (listed : t ∈ trials) : ∃ before later, trials = before ++ t :: later ∧
      ∀ t', t' ∈ before ∨ t' ∈ later → t'.entity.id ≠ t.entity.id := by
  obtain ⟨before, later, rfl⟩ := List.append_of_mem listed
  refine ⟨before, later, rfl, ?_⟩
  simp only [List.map_append, List.map_cons, List.nodup_append, List.nodup_cons, List.mem_map,
    List.mem_cons] at once
  obtain ⟨-, ⟨fresh, -⟩, apart⟩ := once
  rintro t' (earlier | later) same
  · exact apart _ ⟨t', earlier, rfl⟩ _ (.inl rfl) same
  · exact fresh ⟨t', later, same⟩

theorem length_removed (trials : List Trial) : (trials.filter Trial.removes).length =
    trials.countP (·.endsWith .handedOff) + trials.countP (·.endsWith .destroyed) := by
  induction trials with
  | nil => rfl
  | cons t rest ih =>
    obtain ⟨e, crossing, said, outcome⟩ := t
    rw [List.filter_cons, List.countP_cons, List.countP_cons]
    rcases outcome with e | (_ | _ | _ | _) <;>
      simp [Trial.removes, Trial.endsWith, ih, Nat.add_assoc, Nat.add_comm, Nat.add_left_comm]

end

namespace Trials

variable {here : ServerId} {grid : Grid} {w : ProjectileWindow} {zone : Zone} {now : Instant}
  {p : Population} {trials : List Trial}

theorem of_order {order : List (Entity × Crossing)}
    (any : order.Perm (collect grid zone w now p).2)
    (taken : trials.map (fun t => (t.entity, t.crossing)) = order)
    (attempted : ∀ t ∈ trials,
      Leads (transfer here grid now t.entity t.crossing) t.said t.outcome) :
    Trials here grid w zone now p trials where
  tried id b held out := by
    have candidate : (({ mark grid zone w now b with id } : Entity),
        Crossing.classify grid zone w b) ∈ (collect grid zone w now p).2 :=
      (mem_candidates grid zone w now p).mpr ⟨b, held, rfl, rfl, out⟩
    rw [← any.mem_iff, ← taken] at candidate
    obtain ⟨t, listed, same⟩ := List.mem_map.mp candidate
    exact ⟨t, listed, congrArg (·.1.id) same⟩
  once := by
    have distinct := (any.map (·.1.id)).nodup_iff.mpr (candidates_distinct grid zone w now p)
    rw [← taken, List.map_map] at distinct
    exact distinct
  held t listed := by
    have candidate : (t.entity, t.crossing) ∈ (collect grid zone w now p).2 := by
      rw [← any.mem_iff, ← taken]
      exact List.mem_map_of_mem listed
    exact (mem_candidates grid zone w now p).mp candidate
  attempted := attempted

variable (all : Trials here grid w zone now p trials)
include all

theorem asks {t : Trial} (listed : t ∈ trials) :
    ∀ x ∈ t.said, Asks grid t.entity t.crossing x.question :=
  (transfer_leads (all.attempted t listed)).asks

theorem discards : (trials.flatMap Trial.all).filterMap discarded? =
    (trials.filter Trial.removes).map (·.entity.id) := by
  apply discards_of_trials
  intro t listed x member
  have asked := all.asks listed x member
  obtain ⟨question, answer⟩ := x
  cases question with
  | discard id => exact asked.elim
  | _ => rfl

theorem discarded_iff {id : EntityId} :
    id ∈ (trials.flatMap Trial.all).filterMap discarded? ↔
      ∃ t ∈ trials, t.entity.id = id ∧
        (t.outcome = .ok .handedOff ∨ t.outcome = .ok .destroyed) := by
  rw [all.discards]
  simp only [List.mem_map, List.mem_filter, Trial.removes_iff]
  constructor
  · rintro ⟨t, ⟨listed, gone⟩, same⟩
    exact ⟨t, listed, same, gone⟩
  · rintro ⟨t, listed, same, gone⟩
    exact ⟨t, ⟨listed, gone⟩, same⟩

theorem gone {t : Trial} (listed : t ∈ trials)
    (removed : t.outcome = .ok .handedOff ∨ t.outcome = .ok .destroyed) :
    (afterwards (collect grid zone w now p).1 (trials.flatMap Trial.all)).bodies[t.entity.id]? =
      none := by
  rw [afterwards, Population.without_bodies, if_pos]
  exact all.discarded_iff.mpr ⟨t, listed, rfl, removed⟩

theorem stays {id : EntityId} (kept : ¬ ∃ t ∈ trials, t.entity.id = id ∧
      (t.outcome = .ok .handedOff ∨ t.outcome = .ok .destroyed)) :
    (afterwards (collect grid zone w now p).1 (trials.flatMap Trial.all)).bodies[id]? =
      (p.bodies[id]?).map (mark grid zone w now) := by
  rw [afterwards, Population.without_bodies, if_neg, collect_bodies]
  exact fun discarded => kept (all.discarded_iff.mp discarded)

theorem size : (afterwards (collect grid zone w now p).1 (trials.flatMap Trial.all)).size +
    trials.countP (·.endsWith .handedOff) + trials.countP (·.endsWith .destroyed) = p.size := by
  have distinct : ((trials.flatMap Trial.all).filterMap discarded?).Nodup := by
    rw [all.discards]
    exact all.once.sublist (List.filter_sublist.map _)
  have present : ∀ id ∈ (trials.flatMap Trial.all).filterMap discarded?,
      id ∈ (collect grid zone w now p).1.bodies := by
    intro id member
    obtain ⟨t, listed, rfl, -⟩ := all.discarded_iff.mp member
    obtain ⟨b, held, -⟩ := all.held t listed
    rw [Std.ExtTreeMap.mem_iff_isSome_getElem?, collect_bodies, held]
    rfl
  have marked : (collect grid zone w now p).1.size = p.size := Std.ExtTreeMap.size_map
  have sizes := Population.size_without distinct present
  rw [marked] at sizes
  rw [Nat.add_assoc, ← length_removed, ← List.length_map (·.entity.id), ← all.discards]
  exact sizes

theorem eq_of_id {t t' : Trial} (listed : t ∈ trials) (listed' : t' ∈ trials)
    (same : t.entity.id = t'.entity.id) : t = t' := by
  obtain ⟨before, later, rfl, others⟩ := among_others all.once listed'
  rcases List.mem_append.mp listed with earlier | rest
  · exact absurd same (others t (.inl earlier))
  · rcases List.mem_cons.mp rest with rfl | after
    · rfl
    · exact absurd same (others t (.inr after))

theorem not_tried {id : EntityId} {b : Body} (held : p.bodies[id]? = some b)
    (inside : Crossing.classify grid zone w b = .inside) : ∀ t ∈ trials, t.entity.id ≠ id := by
  rintro t listed rfl
  obtain ⟨b', same, -, crossing, out⟩ := all.held t listed
  rw [held, Option.some.injEq] at same
  exact out (by rw [crossing, ← same, inside])

theorem names {t : Trial} (listed : t ∈ trials) {x : Exchange} (member : x ∈ t.all) {id : EntityId}
    (named : Names id x.question) : t.entity.id = id := by
  rcases List.mem_append.mp member with member | member
  · exact (all.asks listed x member).names named
  · exact t.closing_names member named

theorem sparing (id : EntityId) : Sparing
    (((trials.flatMap Trial.all).filterMap push?).filter fun push => push.1.id == id) := by
  refine sparing_of_trials all.once ?_
    (fun t listed => (transfer_leads (all.attempted t listed)).sparing) id
  intro t listed push member
  obtain ⟨x, spoken, pushed⟩ := List.mem_filterMap.mp member
  have asked := all.asks listed x spoken
  unfold push? at pushed
  split at pushed
  next link peer entity left outcome =>
    cases pushed
    exact congrArg EntitySnapshot.id asked
  next => cases pushed

theorem conserved : Conserved here grid w zone now p
    { scanned := p.size
      handedOff := trials.countP (·.endsWith .handedOff)
      retained := trials.countP (·.endsWith .retained)
      destroyed := trials.countP (·.endsWith .destroyed)
      failed := trials.countP (·.failed) }
    (trials.flatMap Trial.all)
    (afterwards (collect grid zone w now p).1 (trials.flatMap Trial.all)) trials where
  toTrials := all
  told := rfl
  counted := rfl
  own t listed := all.asks listed
  inside id b held inside := by
    have untried := all.not_tried held inside
    refine ⟨?_, ?_⟩
    · intro x member named
      obtain ⟨t, listed, member⟩ := List.mem_flatMap.mp member
      exact untried t listed (all.names listed member named)
    have kept : ¬ ∃ t ∈ trials, t.entity.id = id ∧
        (t.outcome = .ok .handedOff ∨ t.outcome = .ok .destroyed) := by
      rintro ⟨t, listed, same, -⟩
      exact untried t listed same
    rw [all.stays kept, held]
    simp only [Option.map_some, mark, inside]
  missing id held := by
    rw [Std.ExtTreeMap.mem_iff_isSome_getElem?] at held ⊢
    constructor
    -- What no trial removes is there as before, but for its mark.
    · intro missing
      refine Classical.byContradiction fun kept => ?_
      rw [all.stays kept, Option.isSome_map] at missing
      exact missing held
    · rintro ⟨t, listed, rfl, removed⟩
      rw [all.gone listed removed]
      exact Bool.false_ne_true
  size := all.size
  kept id b' found := by
    by_cases removed : ∃ t ∈ trials, t.entity.id = id ∧
        (t.outcome = .ok .handedOff ∨ t.outcome = .ok .destroyed)
    · obtain ⟨t, listed, rfl, removed⟩ := removed
      rw [all.gone listed removed] at found
      cases found
    · rw [all.stays removed] at found
      obtain ⟨b, held, rfl⟩ := Option.map_eq_some_iff.mp found
      exact ⟨b, _, held, rfl⟩
  granted t listed handed := by
    have tried := transfer_leads (all.attempted t listed)
    rw [handed] at tried
    exact tried.granted
  destroyed t listed lost := by
    have tried := transfer_leads (all.attempted t listed)
    rw [lost] at tried
    exact tried.not_player
  sparing := all.sparing
  confirms t listed := (transfer_leads (all.attempted t listed)).confirms

end Trials

/-- Any way through a scan is one trial after the other. -/
theorem Conserved.of_leads {here : ServerId} {grid : Grid} {w : ProjectileWindow} {zone : Zone}
    {now : Instant} {p : Population} {order : List (Entity × Crossing)}
    (any : order.Perm (collect grid zone w now p).2) {said : List Exchange} {report : ScanReport}
    (leads : Leads (talk here grid now p order) said report) :
    ∃ trials, Conserved here grid w zone now p report said
      (afterwards (collect grid zone w now p).1 said) trials := by
  obtain ⟨trials, taken, attempted, rfl, rfl⟩ := transferAll_leads leads
  have all : Trials here grid w zone now p trials := .of_order any taken attempted
  have nothing : (default : ScanReport) = ⟨0, 0, 0, 0, 0⟩ := rfl
  refine ⟨trials, ?_⟩
  simp only [foldl_count, nothing, Nat.zero_add]
  exact all.conserved

/-- Whatever the answers are, and in whatever order the candidates come. -/
theorem scans_conserve_entities (here : ServerId) (grid : Grid) (w : ProjectileWindow) (zone : Zone)
    (now : Instant) (p : Population) (order : List (Entity × Crossing))
    (any : order.Perm (collect grid zone w now p).2) {σ : Type}
    (handle : (question : Question) → σ → Answer question × σ) (s : σ) :
    let (report, said, _) := (talk here grid now p order).converse handle s
    ∃ trials, Conserved here grid w zone now p report said
      (afterwards (collect grid zone w now p).1 said) trials := by
  obtain ⟨trials, taken, attempted, said, counted⟩ :=
    transferAll_leads ((talk here grid now p order).converse_leads handle s)
  have all : Trials here grid w zone now p trials := .of_order any taken attempted
  have nothing : (default : ScanReport) = ⟨0, 0, 0, 0, 0⟩ := rfl
  simp only [foldl_count, nothing, Nat.zero_add] at counted
  refine ⟨trials, ?_⟩
  rw [said, counted]
  exact all.conserved

/-- A bullet that stays, a player on its way to the right and an enemy on its way to nowhere. -/
def crowd : Population :=
  let among (p : Population) (e : Entity) : Population := (p.insert? e).getD p
  among (among (among (.empty 8) (.appearing 1 .bullet ⟨.ofInt 100, .ofInt 100⟩))
    (.appearing 7 .player ⟨.ofInt 510, .ofInt 10⟩)) (.appearing 8 .enemy ⟨.ofInt (-5), .ofInt 10⟩)

/-- Sends all players to one server, which answers the second push only; nobody owns any zone, and
confirmations get lost. The state tells whether a push has timed out. -/
def unsteady : (question : Question) → Bool → Answer question × Bool
  | .initiateTransfer player position, late =>
    (.ok (some
      ⟨⟨⟨"b"⟩, .loopback 7002, ⟨1, 0⟩⟩, some ⟨"a"⟩, .appearing player "ann" position⟩), late)
  | .completeTransfer .., late => (.error .closed, late)
  | .locate _, late => (.ok none, late)
  | .connect _, late => (.ok 1, late)
  | .push .., late => (if late then .ok true else .error (.timeout 1 (.ofSeconds 2)), true)
  | .isStale _, late => (false, late)
  | .invalidate _, late => ((), late)
  | .discard _, late => ((), late)

theorem crowd_conserved :
    let candidates := (collect .standard ⟨0, 0⟩ .standard .start crowd).2
    candidates.reverse.Perm candidates ∧ ∃ said after trials,
      Conserved ⟨"a"⟩ .standard .standard ⟨0, 0⟩ .start crowd
        { scanned := 3, handedOff := 1, retained := 0, destroyed := 1, failed := 0 }
        said after trials := by
  intro candidates
  have any : candidates.reverse.Perm candidates := candidates.reverse_perm
  obtain ⟨trials, conserved⟩ := scans_conserve_entities ⟨"a"⟩ .standard .standard ⟨0, 0⟩ .start
    crowd candidates.reverse any unsteady false
  have report : ((talk ⟨"a"⟩ .standard .start crowd candidates.reverse).converse unsteady false).1 =
      ⟨3, 1, 0, 1, 0⟩ := by
    decide +kernel
  rw [← report]
  exact ⟨any, _, _, trials, conserved⟩

end ShardedWorld.Scan
