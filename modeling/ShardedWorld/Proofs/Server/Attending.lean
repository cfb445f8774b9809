import Mathlib.Data.List.DropRight
import Mathlib.Data.List.Induction
import ShardedWorld.Server.Attendance

/-! Histories of the players who are attached to a server.

A player has a seat: the address where the player is attached, and the number of the last move that
was applied. The number begins with zero when the player is attached anew, and stays when a player
who is attached already moves to another address.
-/

set_option autoImplicit false

namespace ShardedWorld.Attendance

/-- Where a player is attached, and the number of the last move that was applied. -/
def seat? (a : Attendance) (player : PlayerId) : Option (Address × UInt32) :=
  (a.get? player).map fun attendee => (attendee.address, attendee.lastSequence)

inductive Event where
  | attach (player : PlayerId) (address : Address) (now : Instant)
  | detach (player : PlayerId)
  | move (player : PlayerId) (number : UInt32) (address : Address) (now : Instant)
  | touch (address : Address) (now : Instant)
  | dropSilent (now : Instant)

def step (a : Attendance) : Event → Attendance
  | .attach player address now => (a.attach? player address now).getD a
  | .detach player => (a.detach player).2
  | .move player number address now => (a.acceptMove player number address now).2
  | .touch address now => a.touch address now
  | .dropSilent now => (a.dropSilent now).2

def run (a : Attendance) (events : List Event) : Attendance := events.foldl step a

section Seats

variable (a : Attendance) (player other : PlayerId) (address : Address) (now : Instant)

theorem put_get? (attendee : Attendee) :
    (a.put player attendee).get? other =
      if other = player then some attendee else a.get? other := by
  by_cases same : player = other
  · simp [get?, put, same]
  · simp [get?, put, Std.ExtTreeMap.getElem?_insert, same, Ne.symm same]

theorem detach_get? :
    (a.detach player).2.get? other = if other = player then none else a.get? other := by
  by_cases same : player = other
  · simp [get?, detach, same]
  · simp [get?, detach, Std.ExtTreeMap.getElem?_erase, same, Ne.symm same]

theorem touch_get? : (a.touch address now).get? player = (a.get? player).map fun attendee =>
    if a.find? address = some player then { attendee with lastSeen := now } else attendee := by
  unfold touch
  split
  next unheard => simp [unheard]
  next heard found =>
    simp only [get?, Std.ExtTreeMap.getElem?_modify, Std.compare_eq_iff_eq, found]
    by_cases same : heard = player
    · simp [same]
    · simp [same]

theorem foldl_detach_get? (silent : List PlayerId) :
    (silent.foldl (fun a player => (a.detach player).2) a).get? player =
      if player ∈ silent then none else a.get? player := by
  induction silent generalizing a with
  | nil => rfl
  | cons first rest ih =>
    rw [List.foldl_cons, ih, detach_get?]
    by_cases listed : player ∈ rest <;> simp [listed]

theorem dropSilent_get? : (a.dropSilent now).2.get? player =
    if player ∈ (a.dropSilent now).1 then none else a.get? player :=
  foldl_detach_get? a player _

theorem put_seat? (attendee : Attendee) :
    (a.put player attendee).seat? other =
      if other = player then some (attendee.address, attendee.lastSequence) else a.seat? other := by
  rw [seat?, put_get?]
  split <;> rfl

theorem detach_seat? :
    (a.detach player).2.seat? other = if other = player then none else a.seat? other := by
  rw [seat?, detach_get?]
  split <;> rfl

theorem detach_attached : (a.detach player).1 = (a.seat? player).isSome := by
  rw [Bool.eq_iff_iff]
  simp [detach, seat?, get?]

theorem touch_seat? : (a.touch address now).seat? player = a.seat? player := by
  rw [seat?, touch_get?, Option.map_map, seat?]
  congr 1
  funext attendee
  dsimp only [Function.comp]
  split <;> rfl

theorem dropSilent_seat? : (a.dropSilent now).2.seat? player =
    if player ∈ (a.dropSilent now).1 then none else a.seat? player := by
  rw [seat?, dropSilent_get?]
  split <;> rfl

variable {a player address now}

theorem attach?_seat? {a' : Attendance} (attached : a.attach? player address now = some a') :
    a'.seat? other =
      if other = player then some (address, ((a.seat? player).map (·.2)).getD 0)
      else a.seat? other := by
  have seat : a.seat? player =
      (a.get? player).map fun attendee => (attendee.address, attendee.lastSequence) := rfl
  unfold attach? at attached
  split at attached
  next attendee known =>
    obtain rfl := Option.some.inj attached
    rw [put_seat?, seat, known]
    rfl
  next unknown =>
    split at attached
    · cases attached
    · obtain rfl := Option.some.inj attached
      rw [put_seat?, seat, unknown]
      rfl

/-- A move is applied if it comes from where its player is attached and is newer than the last. -/
theorem acceptMove_iff {number : UInt32} :
    (a.acceptMove player number address now).1 = true ↔
      ∃ last, a.seat? player = some (address, last) ∧ last < number := by
  unfold acceptMove seat?
  cases a.get? player with
  | none => simp
  | some attendee =>
    by_cases same : attendee.address = address
    · simp [same]
    · simp [same]

theorem acceptMove_seat? {number : UInt32} :
    (a.acceptMove player number address now).2.seat? other =
      if (a.acceptMove player number address now).1 = true ∧ other = player
      then some (address, number) else a.seat? other := by
  have seat : a.seat? player =
      (a.get? player).map fun attendee => (attendee.address, attendee.lastSequence) := rfl
  unfold acceptMove
  cases known : a.get? player with
  | none => simp
  | some attendee =>
    rw [known, Option.map_some] at seat
    by_cases same : attendee.address = address
    · by_cases newer : attendee.lastSequence < number
      · simp [same, newer, put_seat?]
      · simp [same, newer, put_seat?]
        rintro rfl
        rw [seat, same]
    · simp [same]

end Seats

/-- What there is to tell about a player: attached anew, detached, or moved under a number. -/
inductive Notice where
  | joined
  | left
  | applied (number : UInt32)
  deriving DecidableEq

namespace Notice

def number? : Notice → Option UInt32
  | applied number => some number
  | joined | left => none

end Notice

def notice? (a : Attendance) (player : PlayerId) : Event → Option Notice
  | .attach other address now =>
    if other = player ∧ a.seat? player = none ∧ (a.attach? other address now).isSome = true
    then some .joined else none
  | .detach other => if other = player ∧ (a.detach other).1 = true then some .left else none
  | .move other number address now =>
    if other = player ∧ (a.acceptMove other number address now).1 = true
    then some (.applied number) else none
  | .touch _ _ => none
  | .dropSilent now => if player ∈ (a.dropSilent now).1 then some .left else none

def history (player : PlayerId) (a : Attendance) : List Event → List Notice
  | [] => []
  | event :: rest => (a.notice? player event).toList ++ (a.step event).history player rest

/-- The numbers of the moves applied since the player was attached anew. -/
def appliedSince (notices : List Notice) : List UInt32 :=
  (notices.rtakeWhile fun notice => notice.number?.isSome).filterMap Notice.number?

theorem history_concat (player : PlayerId) (a : Attendance) (events : List Event) (event : Event) :
    a.history player (events ++ [event]) =
      a.history player events ++ ((a.run events).notice? player event).toList := by
  induction events generalizing a with
  | nil => simp [history, run]
  | cons first rest ih =>
    rw [List.cons_append, history, ih, history, List.append_assoc]
    rfl

theorem appliedSince_applied (notices : List Notice) (number : UInt32) :
    appliedSince (notices ++ [.applied number]) = appliedSince notices ++ [number] := by
  simp [appliedSince, Notice.number?]

theorem appliedSince_of_none {notice : Notice} (notices : List Notice)
    (parts : notice.number? = none) : appliedSince (notices ++ [notice]) = [] := by
  simp [appliedSince, parts]

inductive Changed (player : PlayerId) (a : Attendance) : Option Notice → Attendance → Prop where
  | unchanged {a' : Attendance} (same : a'.seat? player = a.seat? player) :
      Changed player a none a'
  | reseated {a' : Attendance} {before after : Address} {last : UInt32}
      (seated : a.seat? player = some (before, last))
      (moved : a'.seat? player = some (after, last)) : Changed player a none a'
  | joined {a' : Attendance} {address : Address} (absent : a.seat? player = none)
      (seated : a'.seat? player = some (address, 0)) : Changed player a (some .joined) a'
  | left {a' : Attendance} (absent : a'.seat? player = none) : Changed player a (some .left) a'
  | applied {a' : Attendance} {address : Address} {last number : UInt32}
      (seated : a.seat? player = some (address, last)) (newer : last < number)
      (counted : a'.seat? player = some (address, number)) :
      Changed player a (some (.applied number)) a'

theorem attach_changed (a : Attendance) (player other : PlayerId) (address : Address)
    (now : Instant) : a.Changed player (a.notice? player (.attach other address now))
      (a.step (.attach other address now)) := by
  simp only [step, notice?]
  cases attached : a.attach? other address now with
  | none =>
    rw [if_neg (by simp)]
    exact .unchanged rfl
  | some a' =>
    have seats := attach?_seat? player attached
    by_cases own : player = other
    · subst own
      rw [if_pos rfl] at seats
      cases seated : a.seat? player with
      | none =>
        rw [if_pos (by simp)]
        rw [seated] at seats
        exact .joined seated seats
      | some seat =>
        rw [if_neg (by simp)]
        rw [seated] at seats
        exact .reseated seated seats
    · rw [if_neg own] at seats
      rw [if_neg fun named => own named.1.symm]
      exact .unchanged seats

theorem detach_changed (a : Attendance) (player other : PlayerId) :
    a.Changed player (a.notice? player (.detach other)) (a.step (.detach other)) := by
  simp only [step, notice?]
  have seats := a.detach_seat? other player
  by_cases own : player = other
  · subst own
    rw [if_pos rfl] at seats
    rw [detach_attached]
    cases seated : a.seat? player with
    | none =>
      rw [if_neg (by simp)]
      exact .unchanged (seats.trans seated.symm)
    | some seat =>
      rw [if_pos (by simp)]
      exact .left seats
  · rw [if_neg own] at seats
    rw [if_neg fun named => own named.1.symm]
    exact .unchanged seats

theorem move_changed (a : Attendance) (player other : PlayerId) (number : UInt32)
    (address : Address) (now : Instant) :
    a.Changed player (a.notice? player (.move other number address now))
      (a.step (.move other number address now)) := by
  simp only [step, notice?]
  split
  next named =>
    obtain ⟨rfl, accepted⟩ := named
    obtain ⟨last, seated, newer⟩ := acceptMove_iff.mp accepted
    exact .applied seated newer ((acceptMove_seat? other).trans (if_pos ⟨accepted, rfl⟩))
  next unnamed =>
    refine .unchanged ((acceptMove_seat? player).trans (if_neg ?_))
    rintro ⟨accepted, rfl⟩
    exact unnamed ⟨rfl, accepted⟩

theorem step_changed (a : Attendance) (player : PlayerId) (event : Event) :
    a.Changed player (a.notice? player event) (a.step event) := by
  cases event with
  | attach other address now => exact attach_changed a player other address now
  | detach other => exact detach_changed a player other
  | move other number address now => exact move_changed a player other number address now
  | touch address now => exact .unchanged (touch_seat? a player address now)
  | dropSilent now =>
    simp only [step, notice?]
    have seats := a.dropSilent_seat? player now
    split
    next silent => exact .left (by rw [seats, if_pos silent])
    next heard => exact .unchanged (by rw [seats, if_neg heard])

/-- The number that a seat has is that of the last move applied since its player was attached anew,
and zero if there is none. -/
structure Remembers (player : PlayerId) (a : Attendance) (notices : List Notice) : Prop where
  last : ((a.seat? player).map (·.2)).getD 0 = (appliedSince notices).getLast?.getD 0
  positive : ∀ number ∈ appliedSince notices, 0 < number

theorem Remembers.changed {player : PlayerId} {a a' : Attendance} {notices : List Notice}
    {notice : Option Notice} (remembers : Remembers player a notices)
    (changed : Changed player a notice a') : Remembers player a' (notices ++ notice.toList) := by
  cases changed with
  | unchanged same =>
    rw [Option.toList_none, List.append_nil]
    exact ⟨same ▸ remembers.last, remembers.positive⟩
  | reseated seated moved =>
    have last := remembers.last
    rw [seated] at last
    rw [Option.toList_none, List.append_nil]
    exact ⟨by rw [moved]; exact last, remembers.positive⟩
  | joined absent seated =>
    rw [Option.toList_some]
    have none_since : appliedSince (notices ++ [.joined]) = [] := appliedSince_of_none notices rfl
    exact ⟨by rw [none_since, seated]; rfl, by simp [none_since]⟩
  | left absent =>
    rw [Option.toList_some]
    have none_since : appliedSince (notices ++ [.left]) = [] := appliedSince_of_none notices rfl
    exact ⟨by rw [none_since, absent]; rfl, by simp [none_since]⟩
  | applied seated newer counted =>
    rw [Option.toList_some]
    refine ⟨by simp [appliedSince_applied, counted], ?_⟩
    rw [appliedSince_applied]
    intro number applied
    rcases List.mem_append.mp applied with before | new
    · exact remembers.positive number before
    · obtain rfl := List.mem_singleton.mp new
      exact UInt32.lt_iff_toNat_lt.mpr (Nat.zero_lt_of_lt (UInt32.lt_iff_toNat_lt.mp newer))

theorem run_remembers (capacity : Nat) (timeout : Duration) (player : PlayerId)
    (events : List Event) : Remembers player ((empty capacity timeout).run events)
      ((empty capacity timeout).history player events) := by
  induction events using List.reverseRecOn with
  | nil =>
    refine ⟨?_, ?_⟩
    · simp [seat?, get?, empty, run, history, appliedSince]
    · simp [history, appliedSince]
  | append_singleton events event ih =>
    rw [history_concat, run, List.foldl_append]
    exact ih.changed (step_changed _ player event)

end ShardedWorld.Attendance
