import ShardedWorld.Proofs.Server.Joins

/-! Clients that fall silent.

A client is heard when its player attaches, and with every move from where the player is attached,
also one that is too old to be applied. Clients that were not heard for longer than the timeout are
detached, and no others.
-/

set_option autoImplicit false

namespace ShardedWorld.Attendance

def Event.time? : Event → Option Instant
  | .attach _ _ now | .move _ _ _ now | .touch _ now | .dropSilent now => some now
  | .detach _ => none

def InOrder (events : List Event) : Prop := (events.filterMap Event.time?).Pairwise (· ≤ ·)

instance (events : List Event) : Decidable (InOrder events) :=
  inferInstanceAs (Decidable (List.Pairwise _ _))

/-- When an event shows that a player's client is alive. -/
def heard? (a : Attendance) (player : PlayerId) : Event → Option Instant
  | .attach other _ now => if other = player then some now else none
  | .move other _ address now =>
    if other = player ∧ (a.seat? player).map (·.1) = some address then some now else none
  | .detach _ | .touch _ _ | .dropSilent _ => none

def SeenSince (player : PlayerId) (time : Instant) (a : Attendance) : Prop :=
  ∀ attendee, a.get? player = some attendee → time ≤ attendee.lastSeen

section Timeouts

variable {a : Attendance} {player : PlayerId} {now : Instant}

theorem silent_iff {attendee : Attendee} :
    a.timeout < now.since attendee.lastSeen ↔ attendee.lastSeen.after a.timeout < now := by
  simp only [Duration.lt_iff, Instant.lt_iff, Instant.since_nanos, Instant.after_nanos]
  omega

theorem mem_dropSilent : player ∈ (a.dropSilent now).1 ↔
    ∃ attendee, a.get? player = some attendee ∧ attendee.lastSeen.after a.timeout < now := by
  simp only [dropSilent, toList, List.mem_map, List.mem_filter, decide_eq_true_eq, silent_iff]
  constructor
  · rintro ⟨⟨other, attendee⟩, ⟨listed, silent⟩, rfl⟩
    exact ⟨attendee, Std.ExtTreeMap.mem_toList_iff_getElem?_eq_some.mp listed, silent⟩
  · rintro ⟨attendee, attached, silent⟩
    exact ⟨(player, attendee),
      ⟨Std.ExtTreeMap.mem_toList_iff_getElem?_eq_some.mpr attached, silent⟩, rfl⟩

theorem dropSilent_nodup : (a.dropSilent now).1.Nodup := by
  have distinct : (a.toList.map (·.1)).Nodup :=
    List.pairwise_map.mpr (a.attendees.distinct_keys_toList.imp fun different same =>
      different (by simp [same]))
  exact (List.filter_sublist.map _).nodup distinct

end Timeouts

section Kept

variable (a : Attendance)

theorem dropSilent_timeout (now : Instant) : (a.dropSilent now).2.timeout = a.timeout := by
  unfold dropSilent
  dsimp only
  generalize List.map _ _ = silent
  induction silent generalizing a with
  | nil => rfl
  | cons player rest ih => exact ih (a.detach player).2

theorem step_timeout (event : Event) : (a.step event).timeout = a.timeout := by
  cases event with
  | attach player address now =>
    simp only [step]
    unfold attach?
    split
    · rfl
    · split <;> rfl
  | detach player => rfl
  | move player number address now =>
    simp only [step]
    unfold acceptMove
    split
    · rfl
    · split <;> rfl
  | touch address now =>
    simp only [step]
    unfold touch
    split <;> rfl
  | dropSilent now => exact a.dropSilent_timeout now

theorem run_timeout (events : List Event) : (a.run events).timeout = a.timeout := by
  induction events generalizing a with
  | nil => rfl
  | cons event rest ih => exact (ih (a.step event)).trans (a.step_timeout event)

theorem step_within {limit : Nat} {a : Attendance} (within : a.Within limit) (event : Event) :
    (a.step event).Within limit := by
  cases event with
  | attach player address now =>
    simp only [step]
    cases attached : a.attach? player address now with
    | none => exact within
    | some a' => exact within.attach? attached
  | detach player => exact within.detach player
  | move player number address now => exact within.acceptMove player number address now
  | touch address now => exact within.touch address now
  | dropSilent now => exact within.dropSilent now

theorem run_within {limit : Nat} {a : Attendance} (within : a.Within limit) (events : List Event) :
    (a.run events).Within limit := by
  induction events generalizing a with
  | nil => exact within
  | cons event rest ih => exact ih (step_within within event)

end Kept

section Seen

variable {a : Attendance} {player : PlayerId} {time : Instant}

theorem SeenSince.put (seen : SeenSince player time a) (other : PlayerId) {attendee : Attendee}
    (recent : time ≤ attendee.lastSeen) : SeenSince player time (a.put other attendee) := by
  intro found attached
  rw [put_get?] at attached
  split at attached
  · obtain rfl := Option.some.inj attached
    exact recent
  · exact seen found attached

theorem SeenSince.attach? (seen : SeenSince player time a) {a' : Attendance} {other : PlayerId}
    {address : Address} {now : Instant} (recent : time ≤ now)
    (attached : a.attach? other address now = some a') : SeenSince player time a' := by
  unfold Attendance.attach? at attached
  split at attached
  · obtain rfl := Option.some.inj attached
    exact seen.put other recent
  · split at attached
    · cases attached
    · obtain rfl := Option.some.inj attached
      exact seen.put other recent

theorem SeenSince.acceptMove (seen : SeenSince player time a) (other : PlayerId) (number : UInt32)
    (address : Address) {now : Instant} (recent : time ≤ now) :
    SeenSince player time (a.acceptMove other number address now).2 := by
  unfold Attendance.acceptMove
  split
  · exact seen
  · split
    · exact seen
    · exact seen.put other recent

/-- Whatever happens later, a player who stays was seen at that time or after it. -/
theorem SeenSince.step (seen : SeenSince player time a) {event : Event}
    (later : ∀ now, event.time? = some now → time ≤ now) :
    SeenSince player time (a.step event) := by
  cases event with
  | attach other address now =>
    simp only [Attendance.step]
    cases attached : a.attach? other address now with
    | none => exact seen
    | some a' => exact seen.attach? (later now rfl) attached
  | detach other =>
    intro found attached
    simp only [Attendance.step, detach_get?] at attached
    split at attached
    · cases attached
    · exact seen found attached
  | move other number address now => exact seen.acceptMove other number address (later now rfl)
  | touch address now =>
    intro found attached
    simp only [Attendance.step, touch_get?] at attached
    obtain ⟨before, known, rfl⟩ := Option.map_eq_some_iff.mp attached
    split
    · exact later now rfl
    · exact seen before known
  | dropSilent now =>
    intro found attached
    simp only [Attendance.step, dropSilent_get?] at attached
    split at attached
    · cases attached
    · exact seen found attached

theorem SeenSince.run (seen : SeenSince player time a) {events : List Event}
    (later : ∀ now ∈ events.filterMap Event.time?, time ≤ now) :
    SeenSince player time (a.run events) := by
  induction events generalizing a with
  | nil => exact seen
  | cons event rest ih =>
    refine ih (seen.step fun now timed => later now ?_) fun now timed => later now ?_
    · exact List.mem_filterMap.mpr ⟨event, List.mem_cons_self, timed⟩
    · obtain ⟨other, member, timed⟩ := List.mem_filterMap.mp timed
      exact List.mem_filterMap.mpr ⟨other, List.mem_cons_of_mem event member, timed⟩

/-- An attempt to attach leaves a player who was seen then, or who is not attached. -/
theorem attach_seenSince (a : Attendance) (player : PlayerId) (address : Address) (now : Instant) :
    SeenSince player now (a.step (.attach player address now)) := by
  intro found attached
  simp only [step] at attached
  unfold attach? at attached
  split at attached
  · rw [Option.getD_some, put_get?, if_pos rfl] at attached
    rw [← Option.some.inj attached]
    exact Nat.le_refl _
  next unknown =>
    split at attached
    · rw [Option.getD_none, unknown] at attached
      cases attached
    · rw [Option.getD_some, put_get?, if_pos rfl] at attached
      rw [← Option.some.inj attached]
      exact Nat.le_refl _

/-- A move counts as a sign of life even if it is not applied. -/
theorem move_seenSince {address : Address}
    (seated : (a.seat? player).map (·.1) = some address) (number : UInt32) (now : Instant) :
    SeenSince player now (a.step (.move player number address now)) := by
  intro found attached
  simp only [step] at attached
  unfold acceptMove at attached
  split at attached
  next unknown =>
    rw [unknown] at attached
    cases attached
  next attendee known =>
    have here : attendee.address = address := by
      rw [seat?, known] at seated
      exact Option.some.inj seated
    rw [if_neg (not_not.mpr here), put_get?, if_pos rfl] at attached
    rw [← Option.some.inj attached]
    exact Nat.le_refl _

theorem seenSince_of_heard {event : Event} (heard : a.heard? player event = some time) :
    event.time? = some time ∧ SeenSince player time (a.step event) := by
  cases event with
  | attach other address now =>
    simp only [heard?] at heard
    split at heard
    next own =>
      obtain rfl := Option.some.inj heard
      exact ⟨rfl, own ▸ attach_seenSince a other address now⟩
    · cases heard
  | move other number address now =>
    simp only [heard?] at heard
    split at heard
    next own =>
      obtain ⟨rfl, seated⟩ := own
      obtain rfl := Option.some.inj heard
      exact ⟨rfl, move_seenSince seated number now⟩
    · cases heard
  | detach other => cases heard
  | touch address now => cases heard
  | dropSilent now => cases heard

theorem not_silent_of_heard {before rest : List Event} {event : Event} {now : Instant}
    (ordered : InOrder (before ++ event :: rest))
    (heard : (a.run before).heard? player event = some time) (recent : now ≤ time.after a.timeout) :
    player ∉ ((a.run (before ++ event :: rest)).dropSilent now).1 := by
  obtain ⟨timed, seen⟩ := seenSince_of_heard heard
  have later : ∀ now ∈ rest.filterMap Event.time?, time ≤ now := by
    rw [InOrder, List.filterMap_append, List.filterMap_cons_some timed] at ordered
    exact (List.pairwise_cons.mp (List.pairwise_append.mp ordered).2.1).1
  have still : SeenSince player time (a.run (before ++ event :: rest)) := by
    rw [run, List.foldl_append, List.foldl_cons]
    exact seen.run later
  intro silent
  obtain ⟨attendee, attached, silent⟩ := mem_dropSilent.mp silent
  have seen := still attendee attached
  rw [run_timeout] at silent
  simp only [Instant.le_iff, Instant.lt_iff, Instant.after_nanos] at recent silent seen
  omega

end Seen

end ShardedWorld.Attendance
