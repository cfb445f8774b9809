import ShardedWorld.Proofs.Server.Silence

/-! The moves of attached players come in order, and from where the players are attached.

Between being attached anew and being detached a player's moves are applied in the order of their
numbers. All of them come from the address of the latest request to be attached. What comes from
elsewhere has no effect at all.
-/

set_option autoImplicit false

namespace ShardedWorld.Attendance

def Event.attaches? (player : PlayerId) : Event → Option Address
  | .attach other address _ => if other = player then some address else none
  | .detach _ | .move .. | .touch .. | .dropSilent _ => none

def latestAddress? (player : PlayerId) (events : List Event) : Option Address :=
  (events.filterMap (Event.attaches? player)).getLast?

section Numbers

variable {player : PlayerId}

theorem history_append {a : Attendance} {events : List Event} {before rest : List Notice}
    (told : a.history player events = before ++ rest) :
    ∃ (a' : Attendance) (later : List Event), a'.history player later = rest := by
  induction events generalizing a before with
  | nil => exact ⟨a, [], (List.append_eq_nil_iff.mp told.symm).2.symm⟩
  | cons event later ih =>
    cases noticed : a.notice? player event with
    | none =>
      rw [history, noticed, Option.toList_none, List.nil_append] at told
      exact ih told
    | some notice =>
      cases before with
      | nil => exact ⟨a, event :: later, told⟩
      | cons first others =>
        rw [history, noticed, Option.toList_some, List.singleton_append] at told
        exact ih (List.cons.inj told).2

/-- As long as a player stays, the numbers of the moves that are applied rise, from above the number
of the last move applied before. -/
theorem history_rises {a : Attendance} {events : List Event} {stay rest : List Notice}
    (told : a.history player events = stay ++ rest) (stays : .left ∉ stay) :
    (stay.filterMap Notice.number?).Pairwise (· < ·) ∧
      ∀ address last, a.seat? player = some (address, last) →
        ∀ number ∈ stay.filterMap Notice.number?, last < number := by
  -- On the events: what is told of the first one comes first, and the number of the seat that it
  -- leaves is below all later ones.
  induction events generalizing a stay with
  | nil =>
    obtain rfl : stay = [] := (List.append_eq_nil_iff.mp told.symm).1
    simp
  | cons event later ih =>
    rw [history] at told
    have changed := a.step_changed player event
    generalize a.notice? player event = notice at told changed
    cases stay with
    | nil => simp
    | cons first others =>
      have stays_on : .left ∉ others := fun left => stays (List.mem_cons_of_mem first left)
      cases changed with
      | unchanged same =>
        obtain ⟨rises, above⟩ := ih told stays
        exact ⟨rises, fun address last seated => above address last (same.trans seated)⟩
      | reseated seated moved =>
        obtain ⟨rises, above⟩ := ih told stays
        refine ⟨rises, fun address last found => ?_⟩
        rw [seated] at found
        cases found
        exact above _ _ moved
      | joined absent seated =>
        obtain ⟨rfl, following⟩ := List.cons.inj told
        refine ⟨(ih following stays_on).1, fun address last found => ?_⟩
        rw [absent] at found
        cases found
      | left absent =>
        obtain ⟨rfl, -⟩ := List.cons.inj told
        exact absurd List.mem_cons_self stays
      | applied seated newer counted =>
        obtain ⟨rfl, following⟩ := List.cons.inj told
        obtain ⟨rises, above⟩ := ih following stays_on
        have above := above _ _ counted
        simp only [List.filterMap_cons, Notice.number?, List.pairwise_cons, List.forall_mem_cons]
        refine ⟨⟨above, rises⟩, fun address last found => ?_⟩
        rw [seated] at found
        cases found
        exact ⟨newer, fun number member => UInt32.lt_trans newer (above number member)⟩

end Numbers

section Origin

variable {a : Attendance} {player : PlayerId} {address : Address} {last : UInt32}

theorem address_of_attach {source : Address} {now : Instant}
    (seated : (a.step (.attach player source now)).seat? player = some (address, last)) :
    address = source := by
  simp only [step] at seated
  cases outcome : a.attach? player source now with
  | none =>
    -- A player who is attached already is never refused.
    rw [outcome, Option.getD_none] at seated
    refine absurd ?_ (attach?_eq_none_iff.mp outcome)
    intro absent
    rw [seated] at absent
    cases absent
  | some a' =>
    rw [outcome, Option.getD_some, attach?_seat? player outcome, if_pos rfl] at seated
    exact (Prod.mk.inj (Option.some.inj seated)).1.symm

theorem seat?_of_step {event : Event} (elsewhere : event.attaches? player = none)
    (seated : (a.step event).seat? player = some (address, last)) :
    ∃ before, a.seat? player = some (address, before) := by
  cases event with
  | attach other source now =>
    -- Another player may be refused; this one's seat is the same either way.
    have different : player ≠ other := by
      rintro rfl
      simp [Event.attaches?] at elsewhere
    simp only [step] at seated
    cases outcome : a.attach? other source now with
    | none => exact ⟨last, by rwa [outcome] at seated⟩
    | some a' =>
      rw [outcome, Option.getD_some, attach?_seat? player outcome, if_neg different] at seated
      exact ⟨last, seated⟩
  | detach other =>
    simp only [step, detach_seat?] at seated
    split at seated
    · cases seated
    · exact ⟨last, seated⟩
  | move other number source now =>
    simp only [step, acceptMove_seat?] at seated
    split at seated
    next applied =>
      obtain ⟨accepted, rfl⟩ := applied
      obtain ⟨before, known, -⟩ := acceptMove_iff.mp accepted
      cases seated
      exact ⟨before, known⟩
    · exact ⟨last, seated⟩
  | touch source now =>
    rw [step, touch_seat?] at seated
    exact ⟨last, seated⟩
  | dropSilent now =>
    simp only [step, dropSilent_seat?] at seated
    split at seated
    · cases seated
    · exact ⟨last, seated⟩

theorem attaches?_eq_some {event : Event} (asks : event.attaches? player = some address) :
    ∃ now, event = .attach player address now := by
  cases event with
  | attach other source now =>
    simp only [Event.attaches?] at asks
    split at asks
    next own => exact ⟨now, by rw [own, Option.some.inj asks]⟩
    · cases asks
  | _ => cases asks

theorem run_latestAddress? (capacity : Nat) (timeout : Duration) {events : List Event}
    (seated : ((empty capacity timeout).run events).seat? player = some (address, last)) :
    latestAddress? player events = some address := by
  induction events using List.reverseRecOn generalizing last with
  | nil => simp [run, empty, seat?, get?] at seated
  | append_singleton events event ih =>
    rw [run, List.foldl_append] at seated
    rw [latestAddress?, List.filterMap_append]
    cases asks : event.attaches? player with
    | some source =>
      obtain ⟨now, rfl⟩ := attaches?_eq_some asks
      obtain rfl := address_of_attach seated
      simp [asks]
    | none =>
      obtain ⟨before, known⟩ := seat?_of_step asks seated
      simp only [List.filterMap_cons_none asks, List.filterMap_nil, List.append_nil]
      exact ih known

theorem acceptMove_elsewhere (number : UInt32) (now : Instant)
    (elsewhere : (a.seat? player).map (·.1) ≠ some address) :
    a.acceptMove player number address now = (false, a) := by
  unfold acceptMove
  split
  · rfl
  next attendee known =>
    rw [if_pos]
    rintro rfl
    simp [seat?, known] at elsewhere

end Origin

/-- What attendance guarantees after some events: how many clients there are; which moves are
applied, in which order and from where; and who is detached for silence. -/
structure Orderly (capacity : Nat) (timeout : Duration) (events : List Event) (a : Attendance) :
    Prop where
  bounded : a.size ≤ capacity
  rising : ∀ player before stay after,
    (empty capacity timeout).history player events = before ++ stay ++ after →
    Notice.left ∉ stay → (stay.filterMap Notice.number?).Pairwise (· < ·)
  sources : ∀ player number address now,
    (a.acceptMove player number address now).1 = true →
      latestAddress? player events = some address
  elsewhere : ∀ player number address now, (a.seat? player).map (·.1) ≠ some address →
    a.acceptMove player number address now = (false, a)
  silent : ∀ now player, player ∈ (a.dropSilent now).1 ↔
    ∃ attendee, a.get? player = some attendee ∧ attendee.lastSeen.after timeout < now
  once : ∀ now, (a.dropSilent now).1.Nodup
  others : ∀ now player, (a.dropSilent now).2.get? player =
    if player ∈ (a.dropSilent now).1 then none else a.get? player
  heard : ∀ before event after, events = before ++ event :: after →
    ∀ player time now, ((empty capacity timeout).run before).heard? player event = some time →
      now ≤ time.after timeout → player ∉ (a.dropSilent now).1

/-- Whatever happens at a server while its clock does not step back. -/
theorem attendance_orderly (capacity : Nat) (timeout : Duration) {events : List Event}
    (ordered : InOrder events) :
    Orderly capacity timeout events ((empty capacity timeout).run events) where
  bounded := (run_within (empty_within capacity timeout) events).size
  rising player before stay after told stays := by
    rw [List.append_assoc] at told
    obtain ⟨a, later, told⟩ := history_append told
    exact (history_rises told stays).1
  sources player number address now accepted := by
    obtain ⟨last, seated, -⟩ := acceptMove_iff.mp accepted
    exact run_latestAddress? capacity timeout seated
  elsewhere player number address now := acceptMove_elsewhere number now
  silent now player := by
    rw [mem_dropSilent, run_timeout]
    rfl
  once _ := dropSilent_nodup
  others now player := dropSilent_get? _ player now
  heard before event after told player time now heard recent := by
    subst told
    exact not_silent_of_heard ordered heard recent

/-- A player attaches again from elsewhere, and then repeats a move that was applied already. -/
def repeating : List Event :=
  [.attach 7 (.loopback 9001) .start, .attach 8 (.loopback 9001) .start,
    .move 7 1 (.loopback 9001) .start,
    .attach 7 (.loopback 9002) (Instant.start.after (.ofSeconds 1)),
    .move 7 1 (.loopback 9002) (Instant.start.after (.ofSeconds 4))]

/-- The repeated move is not applied, but it is why only the other player is held for silent. -/
theorem repeating_player_not_silent :
    let a := (empty 2 (.ofSeconds 5)).run repeating
    let now := Instant.start.after (.ofSeconds 9)
    InOrder repeating ∧ Orderly 2 (.ofSeconds 5) repeating a ∧
      (a.get? 7).isSome = true ∧ 7 ∉ (a.dropSilent now).1 ∧ 8 ∈ (a.dropSilent now).1 := by
  intro a now
  have ordered : InOrder repeating := by decide
  have orderly : Orderly 2 (.ofSeconds 5) repeating a :=
    attendance_orderly 2 (.ofSeconds 5) ordered
  have attached : (a.get? 7).isSome = true := by decide +kernel
  have heard : ((empty 2 (.ofSeconds 5)).run (repeating.take 4)).heard? 7
      (.move 7 1 (.loopback 9002) (Instant.start.after (.ofSeconds 4))) =
        some (Instant.start.after (.ofSeconds 4)) := by
    decide +kernel
  refine ⟨ordered, orderly, attached, ?_, ?_⟩
  · exact orderly.heard (repeating.take 4) _ [] rfl 7 _ now heard (by decide)
  · exact (orderly.silent now 8).mpr ⟨⟨.loopback 9001, .start, 0⟩, by decide +kernel, by decide⟩

end ShardedWorld.Attendance
