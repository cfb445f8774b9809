import Mathlib.Algebra.Group.Nat.Defs
import ShardedWorld.Proofs.Server.Attending
import ShardedWorld.Proofs.Session.Moves

/-! Which moves of a session are applied.

A session numbers its moves from one on, and a server applies a move that is newer than the last.
The number of the last move is kept when a player who is attached already is attached again, so the
moves of a new session are held for old ones until they pass it. Numbers that start over are never
newer.
-/

set_option autoImplicit false

namespace ShardedWorld.Attendance

def Event.ownMove? (player : PlayerId) (address : Address) : Event → Option UInt32
  | .move other number source _ => if other = player ∧ source = address then some number else none
  | _ => none

/-- Whether an event is a move that a player sends from an address, and is to be applied. -/
def verdict? (a : Attendance) (player : PlayerId) (address : Address) : Event → Option Bool
  | .move other number source now =>
    if other = player ∧ source = address then some (a.acceptMove other number source now).1
    else none
  | _ => none

def verdicts (player : PlayerId) (address : Address) (a : Attendance) : List Event → List Bool
  | [] => []
  | event :: rest =>
    (a.verdict? player address event).toList ++ (a.step event).verdicts player address rest

def Stays (player : PlayerId) (address : Address) (a : Attendance) : List Event → Prop
  | [] => True
  | event :: rest =>
    ((a.step event).seat? player).map (·.1) = some address ∧
      (a.step event).Stays player address rest

variable {a : Attendance} {player : PlayerId} {address : Address} {last : UInt32}

theorem ownMove?_eq_some {event : Event} {number : UInt32}
    (own : event.ownMove? player address = some number) :
    ∃ now, event = .move player number address now := by
  cases event with
  | move other sent source now =>
    simp only [Event.ownMove?] at own
    split at own
    next same =>
      obtain ⟨rfl, rfl⟩ := same
      obtain rfl := Option.some.inj own
      exact ⟨now, rfl⟩
    · cases own
  | _ => cases own

theorem verdict?_eq_none {event : Event} (other : event.ownMove? player address = none) :
    a.verdict? player address event = none := by
  cases event with
  | move other number source now =>
    simp only [Event.ownMove?] at other
    split at other
    · cases other
    next different => exact if_neg different
  | _ => rfl

theorem ownMove?_of_applied {event : Event} {number : UInt32}
    (seated : a.seat? player = some (address, last))
    (applied : a.notice? player event = some (.applied number)) :
    event.ownMove? player address = some number := by
  cases event with
  | move other sent source now =>
    simp only [notice?] at applied
    split at applied
    next accepted =>
      obtain ⟨rfl, accepted⟩ := accepted
      cases applied
      obtain ⟨_, seat, -⟩ := acceptMove_iff.mp accepted
      rw [seated] at seat
      cases seat
      simp [Event.ownMove?]
    · cases applied
  | touch source now => cases applied
  | _ =>
    simp only [notice?] at applied
    split at applied <;> cases applied

theorem step_seat? {event : Event} (seated : a.seat? player = some (address, last))
    (stays : ((a.step event).seat? player).map (·.1) = some address)
    (other : event.ownMove? player address = none) :
    (a.step event).seat? player = some (address, last) := by
  have changed := a.step_changed player event
  generalize noticed : a.notice? player event = notice at changed
  cases changed with
  | unchanged same => exact same.trans seated
  | reseated before moved =>
    rw [seated] at before
    cases before
    rw [moved] at stays ⊢
    cases stays
    rfl
  | joined absent => simp [seated] at absent
  | left absent => simp [absent] at stays
  | applied =>
    have own := ownMove?_of_applied seated noticed
    rw [other] at own
    cases own

theorem move_seat? (number : UInt32) (now : Instant)
    (seated : a.seat? player = some (address, last)) :
    (a.acceptMove player number address now).1 = decide (last < number) ∧
      (a.step (.move player number address now)).seat? player =
        some (address, if last < number then number else last) := by
  have accepted : (a.acceptMove player number address now).1 = true ↔ last < number := by
    rw [acceptMove_iff, seated]
    simp
  refine ⟨by rw [Bool.eq_iff_iff, accepted, decide_eq_true_eq], ?_⟩
  rw [step, acceptMove_seat?, seated]
  simp only [accepted, and_true]
  split <;> rfl

/-- A move is newer than the last if its number is above the one kept and did not start over. The
last number is then as high as the numbers sent, or still the one kept. -/
theorem next_last {number : UInt32} {kept sent : Nat} (fits : kept < 2 ^ 32)
    (known : last.toNat = max kept (min sent (2 ^ 32 - 1)))
    (numbered : number = .ofNat (sent + 1)) :
    (last < number ↔ kept < sent + 1 ∧ sent + 1 < 2 ^ 32) ∧
      (if last < number then number else last).toNat =
        max kept (min (sent + 1) (2 ^ 32 - 1)) := by
  have value : number.toNat = (sent + 1) % 2 ^ 32 := by rw [numbered, UInt32.toNat_ofNat']
  have newer : last < number ↔ kept < sent + 1 ∧ sent + 1 < 2 ^ 32 := by
    rw [UInt32.lt_iff_toNat_lt]
    omega
  refine ⟨newer, ?_⟩
  split
  next later =>
    rw [newer] at later
    omega
  next earlier =>
    rw [newer] at earlier
    omega

/-- What becomes of the moves of a session from some number on, while its player stays. -/
theorem verdicts_eq {stay : List Event} {kept sent count : Nat}
    (seated : a.seat? player = some (address, last)) (stays : a.Stays player address stay)
    (fits : kept < 2 ^ 32) (known : last.toNat = max kept (min sent (2 ^ 32 - 1)))
    (delivered : stay.filterMap (Event.ownMove? player address) =
      (List.range' (sent + 1) count).map .ofNat) :
    a.verdicts player address stay =
      (List.range' (sent + 1) count).map fun number =>
        decide (kept < number ∧ number < 2 ^ 32) := by
  -- On what happens meanwhile: each move of the session's own adds one to those that were sent, and
  -- nothing else changes the number of the last move.
  induction stay generalizing a last sent count with
  | nil =>
    obtain rfl : count = 0 := by simpa using delivered.symm
    rfl
  | cons event rest ih =>
    obtain ⟨here, stays⟩ := stays
    rw [List.filterMap_cons] at delivered
    cases own : event.ownMove? player address with
    | none =>
      rw [own] at delivered
      rw [verdicts, verdict?_eq_none own]
      exact ih (step_seat? seated here own) stays known delivered
    | some number =>
      rw [own] at delivered
      obtain ⟨now, rfl⟩ := ownMove?_eq_some own
      cases count with
      | zero => cases delivered
      | succ count =>
        obtain ⟨numbered, delivered⟩ := List.cons.inj delivered
        obtain ⟨answer, next⟩ := move_seat? number now seated
        obtain ⟨newer, last_then⟩ := next_last fits known numbered
        have later := ih next stays last_then delivered
        rw [verdicts, later, List.range'_succ, List.map_cons]
        simp [verdict?, answer, newer]

theorem attached_seat? {capacity : Nat} {timeout : Duration} {events : List Event} {now : Instant}
    (attached : ((empty capacity timeout).run events).attach? player address now = some a) :
    a.seat? player = some (address,
      (appliedSince ((empty capacity timeout).history player events)).getLast?.getD 0) := by
  rw [attach?_seat? player attached, if_pos rfl,
    (run_remembers capacity timeout player events).last]

theorem kept_eq_zero_iff {notices : List Notice} (remembers : Remembers player a notices) :
    ((appliedSince notices).getLast?.getD 0).toNat = 0 ↔ appliedSince notices = [] := by
  constructor
  · intro zero
    by_contra nonempty
    have last := remembers.positive _ (List.getLast_mem nonempty)
    rw [List.getLast?_eq_some_getLast nonempty, Option.getD_some] at zero
    exact absurd zero (Nat.ne_of_gt (UInt32.lt_iff_toNat_lt.mp last))
  · intro empty
    rw [empty]
    rfl

theorem all_applied_iff {kept sent : Nat} :
    (∀ verdict ∈ (List.range' 1 sent).map fun number => decide (kept < number ∧ number < 2 ^ 32),
      verdict = true) ↔ sent = 0 ∨ kept = 0 ∧ sent < 2 ^ 32 := by
  simp only [List.forall_mem_map, List.mem_range'_1, decide_eq_true_eq]
  constructor
  · intro applied
    by_cases none_sent : sent = 0
    · exact .inl none_sent
    · -- The first number shows that none is kept, the last one that all of them fit.
      have first := applied 1 (by omega)
      have last := applied sent (by omega)
      exact .inr ⟨by omega, last.2⟩
  · rintro (rfl | ⟨rfl, fits⟩) number between
    · omega
    · omega

/-- A new session joins from an address, and its moves arrive in order while its player stays there.
Those are applied whose numbers fit 32 bits and are above all that were applied since the player was
attached anew. So all of them are applied if and only if none was applied before and there are not
too many to number. -/
theorem joined_moves_applied (capacity : Nat) (timeout : Duration) {events : List Event}
    {now : Instant} {setup : SessionConfig} {arrival : Session.Arrival}
    {effects : List Session.Effect} {session : Session} {stay : List Event}
    (attached : ((empty capacity timeout).run events).attach? setup.playerId address now = some a)
    (lives : Session.Lives (Session.joined setup arrival) effects session)
    (stays : a.Stays setup.playerId address stay)
    (delivered : stay.filterMap (Event.ownMove? setup.playerId address) =
      (Session.moves effects).map (·.2)) :
    let sent := (Session.moves effects).length
    let applied := appliedSince ((empty capacity timeout).history setup.playerId events)
    let kept := (applied.getLast?.getD 0).toNat
    a.verdicts setup.playerId address stay =
        ((List.range' 1 sent).map fun number => decide (kept < number ∧ number < 2 ^ 32)) ∧
      ((∀ verdict ∈ a.verdicts setup.playerId address stay, verdict = true) ↔
        sent = 0 ∨ applied = [] ∧ sent < 2 ^ 32) := by
  intro sent applied kept
  -- A session numbers its moves from one on, whatever else it does.
  obtain ⟨count, numbered⟩ := Session.moves_numbered lives
  have counted : sent = count := by simp [sent, numbered.moves, Session.numbered]
  rw [numbered.moves, Session.numbered, List.map_map, ← counted] at delivered
  have verdicts : a.verdicts setup.playerId address stay =
      (List.range' (0 + 1) sent).map fun number => decide (kept < number ∧ number < 2 ^ 32) :=
    verdicts_eq (attached_seat? attached) stays (UInt32.toNat_lt _) (by simp [kept, applied])
      delivered
  refine ⟨verdicts, ?_⟩
  rw [verdicts, all_applied_iff,
    kept_eq_zero_iff (run_remembers capacity timeout setup.playerId events)]

theorem stays_of_move {number : UInt32} {now : Instant}
    (seated : a.seat? player = some (address, last)) :
    a.Stays player address [.move player number address now] := by
  refine ⟨?_, trivial⟩
  rw [(move_seat? number now seated).2]
  rfl

theorem newcomer_moves_on_attaching : ∃ a session,
    ((empty 64 (.ofSeconds 5)).run []).attach? 1 (.loopback 9001) .start = some a ∧
      Session.newcomer.Lives [.move 0 (.move 1 1 .zero)] session ∧
      ∀ verdict ∈ a.verdicts 1 (.loopback 9001) [.move 1 1 (.loopback 9001) .start],
        verdict = true := by
  obtain ⟨a, attached⟩ := Option.isSome_iff_exists.mp
    (show (((empty 64 (.ofSeconds 5)).run []).attach? 1 (.loopback 9001) .start).isSome = true by
      decide +kernel)
  obtain ⟨session, lives⟩ := Session.newcomer_moves
  have stays : a.Stays 1 (.loopback 9001) [.move 1 1 (.loopback 9001) .start] :=
    stays_of_move (attached_seat? attached)
  have applied := joined_moves_applied 64 (.ofSeconds 5) attached lives stays rfl
  exact ⟨a, session, attached, lives, applied.2.mpr (.inr ⟨rfl, by decide⟩)⟩

/-- A player whose first move was applied before a restart. -/
def restarted : List Event :=
  [.attach 1 (.loopback 9001) .start, .move 1 1 (.loopback 9001) .start]

/-- The player is attached again, but the first move of the new session is held for an old one. -/
theorem restarted_player_cannot_move : ∃ a session,
    ((empty 64 (.ofSeconds 5)).run restarted).attach? 1 (.loopback 9002) .start = some a ∧
      Session.newcomer.Lives [.move 0 (.move 1 1 .zero)] session ∧
      a.Stays 1 (.loopback 9002) [.move 1 1 (.loopback 9002) .start] ∧
      a.verdicts 1 (.loopback 9002) [.move 1 1 (.loopback 9002) .start] = [false] := by
  obtain ⟨a, attached⟩ := Option.isSome_iff_exists.mp
    (show (((empty 64 (.ofSeconds 5)).run restarted).attach? 1 (.loopback 9002) .start).isSome =
      true by decide +kernel)
  obtain ⟨session, lives⟩ := Session.newcomer_moves
  have seated := attached_seat? attached
  have kept : (appliedSince ((empty 64 (.ofSeconds 5)).history 1 restarted)).getLast?.getD 0 = 1 :=
    by decide +kernel
  rw [kept] at seated
  refine ⟨a, session, attached, lives, stays_of_move seated, ?_⟩
  simp [verdicts, verdict?, (move_seat? 1 .start seated).1]

end ShardedWorld.Attendance
