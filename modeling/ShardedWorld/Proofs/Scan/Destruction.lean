import ShardedWorld.Proofs.Scan.Conservation

/-! What a scan destroys.

An entity is destroyed if it is no player, was outside, and its destination was looked up and
belongs to nobody else. A server that owns the destination itself destroys the entity as well, so
that only destinations without an owner count exactly if the scanning server is never named.
-/

set_option autoImplicit false

namespace ShardedWorld.Scan

section Tried

variable {self : ServerId} {grid : Grid} {now : Instant} {e : Entity} {crossing : Crossing}
  {said : List Exchange} {outcome : Except HandoffError Outcome}

theorem PositionTried.destroyed_iff {zone : Zone} {outside : Bool}
    (tried : PositionTried self grid now e zone outside said outcome) :
    outcome = .ok .destroyed ↔ outside = true ∧ ∃ owner,
      said = [⟨.locate (grid.bounds zone).center, .ok owner⟩] ∧
        ∀ info, owner = some info → info.serverId = self := by
  cases tried with
  | unanswered cause => simp
  | @foreignToNobody owner own =>
    constructor
    · intro destroyed
      refine ⟨?_, owner, rfl, own⟩
      cases outside
      · cases destroyed
      · rfl
    · rintro ⟨rfl, -⟩
      rfl
  | @offered owner said answer foreign offered =>
    constructor
    · intro destroyed
      match answer with
      | .error cause => cases destroyed
      | .ok false => cases destroyed
      | .ok true => cases destroyed
    · rintro ⟨-, owner', same, own⟩
      cases same
      exact absurd (own owner rfl) foreign

/-- What is destroyed was outside, and nobody else owns its destination. -/
theorem Tried.destroyed_iff (tried : Tried self grid now e crossing said outcome) :
    outcome = .ok .destroyed ↔ e.kind ≠ .player ∧ ∃ zone owner, crossing = .outside zone ∧
      said = [⟨.locate (grid.bounds zone).center, .ok owner⟩] ∧
        ∀ info, owner = some info → info.serverId = self := by
  cases tried with
  | player isPlayer tried => simp [isPlayer, tried.not_destroyed]
  | inside other => simp
  | outside other tried =>
    rw [tried.destroyed_iff]
    simp [other]
  | leaving other tried =>
    rw [tried.destroyed_iff]
    simp

end Tried

/-- An entity outside whose destination was looked up, and that was all. -/
def Trial.LookedUp (grid : Grid) (t : Trial) (owner : Option ServerInfo) : Prop :=
  t.entity.kind ≠ .player ∧ ∃ zone, t.crossing = .outside zone ∧
    t.said = [⟨.locate (grid.bounds zone).center, .ok owner⟩]

theorem Trials.destroyed_iff {here : ServerId} {grid : Grid} {w : ProjectileWindow} {zone : Zone}
    {now : Instant} {p : Population} {trials : List Trial}
    (all : Trials here grid w zone now p trials) {t : Trial} (listed : t ∈ trials) :
    t.outcome = .ok .destroyed ↔
      ∃ owner, t.LookedUp grid owner ∧ ∀ info, owner = some info → info.serverId = here := by
  rw [(transfer_leads (all.attempted t listed)).destroyed_iff]
  constructor
  · rintro ⟨other, bound, owner, outside, said, own⟩
    exact ⟨owner, ⟨other, bound, outside, said⟩, own⟩
  · rintro ⟨owner, ⟨other, bound, outside, said⟩, own⟩
    exact ⟨other, bound, owner, outside, said, own⟩

theorem Trial.LookedUp.unique {grid : Grid} {t : Trial} {owner owner' : Option ServerInfo}
    (first : t.LookedUp grid owner) (second : t.LookedUp grid owner') : owner = owner' := by
  obtain ⟨-, bound, outside, said⟩ := first
  obtain ⟨-, bound', outside', said'⟩ := second
  obtain rfl : bound = bound' := Crossing.outside.inj (outside.symm.trans outside')
  simpa using said.symm.trans said'

/-- Whatever the answers are: an entity is destroyed exactly if it is no player, was outside, and
its destination was found to belong to nobody or to the scanning server. So nothing is destroyed
whose destination has an owner exactly if the scanning server is never named. -/
theorem destroyed_without_owner_iff (here : ServerId) (grid : Grid) (w : ProjectileWindow)
    (zone : Zone) (now : Instant) (p : Population) (order : List (Entity × Crossing))
    (any : order.Perm (collect grid zone w now p).2) {σ : Type}
    (handle : (question : Question) → σ → Answer question × σ) (s : σ) :
    let scan := (talk here grid now p order).converse handle s
    ∃ trials, Conserved here grid w zone now p scan.1 scan.2.1
        (afterwards (collect grid zone w now p).1 scan.2.1) trials ∧
      (∀ t ∈ trials, t.outcome = .ok .destroyed ↔
        ∃ owner, t.LookedUp grid owner ∧ ∀ info, owner = some info → info.serverId = here) ∧
      ((∀ t ∈ trials, t.outcome = .ok .destroyed → t.LookedUp grid none) ↔
        ∀ t ∈ trials, ∀ info, t.LookedUp grid (some info) → info.serverId ≠ here) := by
  obtain ⟨trials, conserved⟩ :=
    Conserved.of_leads any ((talk here grid now p order).converse_leads handle s)
  refine ⟨trials, conserved, fun t listed => conserved.toTrials.destroyed_iff listed, ?_⟩
  refine forall₂_congr fun t listed => ?_
  rw [conserved.toTrials.destroyed_iff listed]
  constructor
  · rintro unowned info named rfl
    have destroyed := unowned ⟨some info, named, fun _ same => by cases same; rfl⟩
    cases destroyed.unique named
  · rintro foreign ⟨owner, looked, own⟩
    cases owner with
    | none => exact looked
    | some info => exact absurd (own info rfl) (foreign info looked)

theorem stray_enemy_destroyed_without_owner :
    let candidates := (collect .standard ⟨0, 0⟩ .standard .start crowd).2
    candidates.Perm candidates ∧ ∃ said after trials,
      Conserved ⟨"a"⟩ .standard .standard ⟨0, 0⟩ .start crowd
          { scanned := 3, handedOff := 1, retained := 0, destroyed := 1, failed := 0 }
          said after trials ∧
        (∃ t ∈ trials, t.outcome = .ok .destroyed) ∧
          ∀ t ∈ trials, t.outcome = .ok .destroyed → t.LookedUp .standard none := by
  intro candidates
  obtain ⟨trials, conserved, -, unowned⟩ := destroyed_without_owner_iff ⟨"a"⟩ .standard .standard
    ⟨0, 0⟩ .start crowd candidates (.refl _) unsteady false
  have report : ((talk ⟨"a"⟩ .standard .start crowd candidates).converse unsteady false).1 =
      ⟨3, 1, 0, 1, 0⟩ := by
    decide +kernel
  have nameless : ∀ t ∈ trials, ∀ info, t.LookedUp .standard (some info) →
      info.serverId ≠ ⟨"a"⟩ := by
    rintro t listed info ⟨-, bound, -, said⟩
    have asked : ⟨.locate (Grid.standard.bounds bound).center, .ok (some info)⟩ ∈
        ((talk ⟨"a"⟩ .standard .start crowd candidates).converse unsteady false).2.1 := by
      rw [conserved.told]
      exact List.mem_flatMap.mpr ⟨t, listed, List.mem_append_left _ (by simp [said])⟩
    obtain ⟨late, answered⟩ := Dialogue.answer_of_mem_converse asked
    cases answered
  rw [report] at conserved
  refine ⟨.refl _, _, _, trials, conserved, ?_, unowned.mpr nameless⟩
  have one : 1 = trials.countP (·.endsWith .destroyed) :=
    congrArg ScanReport.destroyed conserved.counted
  obtain ⟨t, listed, destroyed⟩ := List.countP_pos_iff.mp (Nat.lt_of_lt_of_eq Nat.one_pos one)
  exact ⟨t, listed, Trial.endsWith_iff.mp destroyed⟩

/-- A scan of the zone that the server had, while it has been given the zone of the enemy: whoever
is looked up, the server is named itself. -/
def reassigned : (question : Question) → Bool → Answer question × Bool
  | .locate _, late => (.ok (some ⟨⟨"a"⟩, .loopback 7001, ⟨-1, 0⟩⟩), late)
  | question, late => unsteady question late

def owner? : Exchange → Option (Option ServerId)
  | ⟨.locate _, .ok owner⟩ => some (owner.map (·.serverId))
  | _ => none

/-- The enemy is destroyed in the zone of the server that simulates it. -/
theorem reassigned_server_destroys_its_own :
    let collected := collect .standard ⟨0, 0⟩ .standard .start crowd
    let scan := (talk ⟨"a"⟩ .standard .start crowd collected.2).converse reassigned false
    scan.2.1.filterMap owner? = [some ⟨"a"⟩] ∧ scan.1.destroyed = 1 ∧ scan.1.failed = 0 ∧
      collected.1.contains 8 = true ∧ (afterwards collected.1 scan.2.1).contains 8 = false := by
  decide +kernel

end ShardedWorld.Scan
