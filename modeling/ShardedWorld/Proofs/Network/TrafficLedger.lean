import ShardedWorld.Proofs.Network.Traffic

/-! A connection keeps account of the calls over it.

The connection holds exactly the calls that wait by the log, and every call has ended, waits or is
being sent. This holds through each small change: a call is made, sent, answered, forgotten, ended.
-/

set_option autoImplicit false

namespace ShardedWorld.Traffic

abbrev Ending := CallerId × Except TransportError Response

def cutOff (c : Connection) : List Ending :=
  c.waiting.values.map fun waiting => (waiting.caller, .error .closed)

/-- A call whose request is being sent waits, or it is settled what it ends with. -/
structure Outstanding (log : List Notice) (endings : List Ending) (call : CallerId)
    (requestId : UInt64) (settled : Option (Except TransportError Response)) : Prop where
  made : (call, requestId) ∈ called log
  going : call ∉ Traffic.endings log
  waits : settled = none → call ∈ waiters log ∨ call ∈ endings.map (·.1)
  settled : ∀ outcome, settled = some outcome → call ∉ waiters log ∧ Due call log outcome

/-- The connection holds the calls that wait, and every call has ended, waits or is being sent,
but for those that are about to end. -/
structure Orderly (t : Traffic) (endings : List Ending) : Prop where
  lawful : Lawful t.log t.calls
  nextId : t.connection.nextId = .ofNat ((numbers t.log).length + 1)
  waiting : ∀ (requestId : UInt64) (w : Connection.Waiting),
    t.connection.waiting[requestId]? = some w ↔ (requestId, w) ∈ waits t.log
  sending : ∀ (call : CallerId) (requestId : UInt64)
    (settled : Option (Except TransportError Response)),
    t.sending[call]? = some (requestId, settled) →
      Outstanding t.log endings call requestId settled
  due : ∀ x ∈ endings, x.1 < t.calls ∧ x.1 ∉ Traffic.endings t.log ∧ x.1 ∉ waiters t.log ∧
    Due x.1 t.log x.2
  apart : (endings.map (·.1)).Nodup
  known : ∀ call < t.calls, call ∈ Traffic.endings t.log ∨ call ∈ waiters t.log ∨
    call ∈ t.sending ∨ call ∈ endings.map (·.1)

theorem mem_waiters {log : List Notice} {requestId : UInt64} {w : Connection.Waiting}
    (waiting : (requestId, w) ∈ waits log) : w.caller ∈ waiters log :=
  List.mem_map.mpr ⟨_, waiting, rfl⟩

theorem waiters_ended {log : List Notice} {call : CallerId} (gone : call ∉ waiters log)
    (outcome : Except TransportError Response) :
    waits (.ended call outcome :: log) = waits log := by
  refine List.filter_eq_self.mpr ?_
  rintro ⟨requestId, w⟩ waiting
  refine decide_eq_true ?_
  rintro rfl
  exact gone (mem_waiters waiting)

theorem mem_waiters_ended {log : List Notice} {call other : CallerId}
    {outcome : Except TransportError Response} :
    other ∈ waiters (.ended call outcome :: log) ↔ other ∈ waiters log ∧ other ≠ call := by
  show other ∈ ((waits log).filter (·.2.caller ≠ call)).map (·.2.caller) ↔ _
  simp only [waiters, List.mem_map, List.mem_filter, decide_eq_true_eq]
  constructor
  · rintro ⟨x, ⟨waiting, different⟩, rfl⟩
    exact ⟨⟨x, waiting, rfl⟩, different⟩
  · rintro ⟨⟨x, waiting, rfl⟩, different⟩
    exact ⟨x, ⟨waiting, different⟩, rfl⟩

namespace Outstanding

variable {log : List Notice} {endings more : List Ending} {call other : CallerId}
  {requestId : UInt64} {settled : Option (Except TransportError Response)}

theorem ended (outstanding : Outstanding log endings other requestId settled)
    (different : other ≠ call) (outcome : Except TransportError Response) :
    Outstanding (.ended call outcome :: log) endings other requestId settled where
  made := outstanding.made
  going := fun member => (List.mem_cons.mp member).elim different outstanding.going
  waits open_ := (outstanding.waits open_).imp_left fun waiting =>
    mem_waiters_ended.mpr ⟨waiting, different⟩
  settled outcome known :=
    ⟨fun waiting => (outstanding.settled outcome known).1 (mem_waiters_ended.mp waiting).1,
      .later _ (outstanding.settled outcome known).2⟩

theorem imp (outstanding : Outstanding log endings other requestId settled)
    (fewer : other ∈ endings.map (·.1) → other ∈ more.map (·.1)) :
    Outstanding log more other requestId settled :=
  { outstanding with waits := fun open_ => (outstanding.waits open_).imp_right fewer }

end Outstanding

namespace Orderly

variable {t : Traffic} {endings : List Ending}

theorem inFlight (orderly : t.Orderly endings) :
    t.connection.inFlight = (waits t.log).length := by
  have listed := Table.toList_perm orderly.lawful.distinct_waits orderly.waiting
  rw [← listed.length_eq]
  exact Std.ExtTreeMap.length_toList.symm

/-- A call that does not wait and whose request is not being sent ends. -/
theorem finish {x : Ending} (orderly : t.Orderly (x :: endings)) (missing : t.sending[x.1]? = none)
    {outcome : Except TransportError Response} (ends : Ends x.1 t.log outcome) :
    { t with log := .ended x.1 outcome :: t.log }.Orderly endings := by
  obtain ⟨call, settled⟩ := x
  -- The call is due once only, so it takes no other ending with it.
  obtain ⟨known, going, gone, -⟩ := orderly.due _ List.mem_cons_self
  have apart := List.nodup_cons.mp orderly.apart
  refine ⟨orderly.lawful.ended known going ends, orderly.nextId, ?_, ?_, ?_, apart.2, ?_⟩
  · intro requestId w
    rw [waiters_ended gone]
    exact orderly.waiting requestId w
  · intro other requestId held found
    have different : other ≠ call := by
      rintro rfl
      rw [missing] at found
      cases found
    exact ((orderly.sending other requestId held found).ended different outcome).imp
      (List.mem_of_ne_of_mem different)
  · intro x member
    obtain ⟨known, going, gone, due⟩ := orderly.due x (List.mem_cons_of_mem _ member)
    have different : x.1 ≠ call := by
      rintro rfl
      exact apart.1 (List.mem_map.mpr ⟨x, member, rfl⟩)
    exact ⟨known, fun member => (List.mem_cons.mp member).elim different going,
      fun waiting => gone (mem_waiters_ended.mp waiting).1, .later _ due⟩
  · intro other known
    by_cases same : other = call
    · exact .inl (List.mem_cons.mpr (.inl same))
    · rcases orderly.known other known with ended | waiting | sending | ending
      · exact .inl (List.mem_cons_of_mem _ ended)
      · exact .inr (.inl (mem_waiters_ended.mpr ⟨waiting, same⟩))
      · exact .inr (.inr (.inl sending))
      · exact .inr (.inr (.inr (List.mem_of_ne_of_mem same ending)))

/-- A call whose request is still being sent keeps its end until then. -/
theorem hold {x : Ending} (orderly : t.Orderly (x :: endings)) {requestId : UInt64}
    {settled : Option (Except TransportError Response)}
    (found : t.sending[x.1]? = some (requestId, settled)) :
    { t with sending := t.sending.insert x.1 (requestId, some x.2) }.Orderly endings := by
  obtain ⟨call, outcome⟩ := x
  obtain ⟨known, going, gone, due⟩ := orderly.due _ List.mem_cons_self
  have apart := List.nodup_cons.mp orderly.apart
  refine ⟨orderly.lawful, orderly.nextId, orderly.waiting, ?_,
    fun x member => orderly.due x (List.mem_cons_of_mem _ member), apart.2, ?_⟩
  · intro other number held present
    simp only [Std.ExtTreeMap.getElem?_insert, Std.compare_eq_iff_eq] at present
    split at present
    next same =>
      -- The outcome is kept with the request, and is due when that has been sent.
      obtain rfl := same
      cases present
      exact ⟨(orderly.sending _ requestId settled found).made, going, nofun,
        fun _ known => Option.some.inj known ▸ ⟨gone, due⟩⟩
    next different =>
      exact (orderly.sending other number held present).imp
        (List.mem_of_ne_of_mem (Ne.symm different))
  · intro other known
    by_cases same : other = call
    · exact .inr (.inr (.inl (by simp [same])))
    · rcases orderly.known other known with ended | waiting | sending | ending
      · exact .inl ended
      · exact .inr (.inl waiting)
      · exact .inr (.inr (.inl (Std.ExtTreeMap.mem_insert.mpr (.inr sending))))
      · exact .inr (.inr (.inr (List.mem_of_ne_of_mem same ending)))

theorem settle {x : Ending} (orderly : t.Orderly (x :: endings)) :
    (t.settle x.1 x.2).Orderly endings := by
  unfold Traffic.settle
  split
  next requestId settled found => exact orderly.hold found
  next missing =>
    exact orderly.finish missing (.due (orderly.due _ List.mem_cons_self).2.2.2)

theorem carryOut (orderly : t.Orderly endings) :
    ((endings.map fun x => Connection.Effect.conclude x.1 x.2).foldl perform t).Orderly [] := by
  induction endings generalizing t with
  | nil => exact orderly
  | cons x rest ih => exact ih orderly.settle

theorem connection (orderly : t.Orderly endings) {c : Connection}
    (nextId : c.nextId = t.connection.nextId) (waiting : c.waiting = t.connection.waiting) :
    { t with connection := c }.Orderly endings :=
  { orderly with
    nextId := nextId.trans orderly.nextId
    waiting := by
      intro requestId w
      show c.waiting[requestId]? = some w ↔ _
      rw [waiting]
      exact orderly.waiting requestId w }

variable (orderly : t.Orderly [])

include orderly

theorem answered {requestId : UInt64} {w : Connection.Waiting} {c : Connection}
    (found : t.connection.waiting[requestId]? = some w) (nextId : c.nextId = t.connection.nextId)
    (waiting : c.waiting = t.connection.waiting.erase requestId) (response : Response) :
    { t with connection := c, log := .heard requestId response :: t.log }.Orderly
      [(w.caller, Connection.outcome response)] := by
  have waits := (orderly.waiting requestId w).mp found
  -- Of those who wait, only the call with this number goes.
  have own {call : CallerId} (member : call ∈ waiters t.log) :
      call ∈ waiters (.heard requestId response :: t.log) ∨ call = w.caller := by
    obtain ⟨⟨number, other⟩, open_, rfl⟩ := List.mem_map.mp member
    by_cases same : number = requestId
    · subst same
      exact .inr (congrArg _ (orderly.lawful.waits_unique open_ waits))
    · exact .inl (List.mem_map.mpr ⟨_, List.mem_filter.mpr ⟨open_, decide_eq_true same⟩, rfl⟩)
  have fewer {call : CallerId} (member : call ∈ waiters (.heard requestId response :: t.log)) :
      call ∈ waiters t.log := (List.filter_sublist.map _).subset member
  have gone : w.caller ∉ waiters (.heard requestId response :: t.log) := by
    intro member
    obtain ⟨⟨number, other⟩, kept, same⟩ := List.mem_map.mp member
    obtain ⟨open_, different⟩ := List.mem_filter.mp kept
    have equal := List.inj_on_of_nodup_map orderly.lawful.distinct_waiters open_ waits same
    exact of_decide_eq_true different (congrArg Prod.fst equal)
  refine ⟨orderly.lawful.heard requestId response, nextId.trans orderly.nextId, ?_, ?_, ?_,
    List.nodup_singleton _, ?_⟩
  · intro number other
    show c.waiting[number]? = some other ↔
      (number, other) ∈ (Traffic.waits t.log).filter (·.1 ≠ requestId)
    simp only [waiting, Std.ExtTreeMap.getElem?_erase, Std.compare_eq_iff_eq, List.mem_filter,
      decide_eq_true_eq, ← orderly.waiting]
    by_cases same : requestId = number
    · simp [same]
    · simp [same, Ne.symm same]
  · intro call number settled held
    have outstanding := orderly.sending call number settled held
    refine ⟨outstanding.made, outstanding.going, ?_, ?_⟩
    · intro open_
      rcases outstanding.waits open_ with member | none
      · exact (own member).imp_right fun same => List.mem_singleton.mpr same
      · cases none
    · intro outcome known
      obtain ⟨quiet, due⟩ := outstanding.settled outcome known
      exact ⟨fun member => quiet (fewer member), .later _ due⟩
  · intro x member
    obtain rfl := List.mem_singleton.mp member
    exact ⟨orderly.lawful.waiter_lt (mem_waiters waits),
      fun ended => (orderly.lawful.past _ ended).2 (mem_waiters waits), gone,
      .answered response waits⟩
  · intro call known
    rcases orderly.known call known with ended | member | sending | none
    · exact .inl ended
    · rcases own member with still | same
      · exact .inr (.inl still)
      · exact .inr (.inr (.inr (List.mem_singleton.mpr same)))
    · exact .inr (.inr (.inl sending))
    · cases none

theorem unanswered {requestId : UInt64} (missing : t.connection.waiting[requestId]? = none)
    (response : Response) : { t with log := .heard requestId response :: t.log }.Orderly [] := by
  have same : waits (.heard requestId response :: t.log) = waits t.log := by
    refine List.filter_eq_self.mpr ?_
    rintro ⟨number, w⟩ waiting
    refine decide_eq_true ?_
    rintro rfl
    rw [(orderly.waiting _ w).mpr waiting] at missing
    cases missing
  have sameWaiters : waiters (.heard requestId response :: t.log) = waiters t.log := by
    unfold waiters
    rw [same]
  refine ⟨orderly.lawful.heard requestId response, orderly.nextId, ?_, ?_, nofun, .nil, ?_⟩
  · intro number w
    rw [same]
    exact orderly.waiting number w
  · intro call number settled held
    have outstanding := orderly.sending call number settled held
    refine ⟨outstanding.made, outstanding.going, ?_, ?_⟩
    · rw [sameWaiters]
      exact outstanding.waits
    · intro outcome known
      rw [sameWaiters]
      exact (outstanding.settled outcome known).imp_right (.later _)
  · rw [sameWaiters]
    exact orderly.known

theorem shut {c : Connection} (nextId : c.nextId = t.connection.nextId) (none : c.waiting = ∅) :
    { t with connection := c, log := .shut :: t.log }.Orderly
      (cutOff t.connection) := by
  have listed := Table.toList_perm orderly.lawful.distinct_waits orderly.waiting
  have callers : (cutOff t.connection).map (·.1) =
      t.connection.waiting.toList.map (·.2.caller) := by
    rw [cutOff, Table.values_eq_toList_map, List.map_map, List.map_map]
    rfl
  have members (call : CallerId) :
      call ∈ t.connection.waiting.toList.map (·.2.caller) ↔ call ∈ waiters t.log :=
    (listed.map _).mem_iff
  -- Those who waited move from the connection to the endings that are due.
  refine ⟨orderly.lawful.shut, nextId.trans orderly.nextId, ?_, ?_, ?_, ?_, ?_⟩
  · intro requestId w
    show c.waiting[requestId]? = some w ↔ _
    simp [none, waits]
  · intro call number settled held
    have outstanding := orderly.sending call number settled held
    refine ⟨outstanding.made, outstanding.going, ?_, ?_⟩
    · intro open_
      rw [callers, members]
      exact .inr ((outstanding.waits open_).resolve_right List.not_mem_nil)
    · exact fun outcome known =>
        ⟨List.not_mem_nil, .later _ (outstanding.settled outcome known).2⟩
  · intro x member
    rw [cutOff, Table.values_eq_toList_map, List.map_map] at member
    obtain ⟨⟨requestId, w⟩, entry, rfl⟩ := List.mem_map.mp member
    have waiting := listed.mem_iff.mp entry
    exact ⟨orderly.lawful.waiter_lt (mem_waiters waiting),
      fun ended => (orderly.lawful.past _ ended).2 (mem_waiters waiting), List.not_mem_nil,
      .shut waiting⟩
  · rw [callers]
    exact (listed.map _).nodup_iff.mpr orderly.lawful.distinct_waiters
  · intro call known
    rw [callers, members]
    rcases orderly.known call known with ended | waiting | sending | none
    · exact .inl ended
    · exact .inr (.inr (.inr waiting))
    · exact .inr (.inr (.inl sending))
    · cases none

theorem stop {requestId : UInt64} {w : Connection.Waiting} {c : Connection}
    (waiting : (requestId, w) ∈ waits t.log) (missing : w.caller ∉ t.sending)
    (nextId : c.nextId = t.connection.nextId)
    (erased : c.waiting = t.connection.waiting.erase requestId)
    {outcome : Except TransportError Response} (ends : Ends w.caller t.log outcome) :
    { t with connection := c, log := .ended w.caller outcome :: t.log }.Orderly [] := by
  have going (ended : w.caller ∈ Traffic.endings t.log) : False :=
    (orderly.lawful.past _ ended).2 (mem_waiters waiting)
  refine ⟨orderly.lawful.ended (orderly.lawful.waiter_lt (mem_waiters waiting)) going ends,
    nextId.trans orderly.nextId, ?_, ?_, nofun, .nil, ?_⟩
  · intro number other
    show c.waiting[number]? = some other ↔
      (number, other) ∈ (waits t.log).filter (·.2.caller ≠ w.caller)
    simp only [erased, Std.ExtTreeMap.getElem?_erase, Std.compare_eq_iff_eq, List.mem_filter,
      decide_eq_true_eq]
    constructor
    · intro found
      split at found
      · cases found
      next different =>
        have open_ := (orderly.waiting number other).mp found
        refine ⟨open_, fun same => different ?_⟩
        -- No caller waits under two numbers.
        have equal := List.inj_on_of_nodup_map orderly.lawful.distinct_waiters open_ waiting same
        exact (congrArg Prod.fst equal).symm
    · rintro ⟨open_, different⟩
      rw [if_neg, (orderly.waiting number other).mpr open_]
      rintro rfl
      exact different (congrArg _ (orderly.lawful.waits_unique open_ waiting))
  · intro call number settled held
    have different : call ≠ w.caller := by
      rintro rfl
      exact missing (Table.mem_iff.mpr ⟨_, held⟩)
    exact (orderly.sending call number settled held).ended different outcome
  · intro call known
    by_cases same : call = w.caller
    · exact .inl (List.mem_cons.mpr (.inl same))
    · rcases orderly.known call known with ended | member | sending | none
      · exact .inl (List.mem_cons_of_mem _ ended)
      · exact .inr (.inl (mem_waiters_ended.mpr ⟨member, same⟩))
      · exact .inr (.inr (.inl sending))
      · cases none

theorem withdraw {call : CallerId} {requestId : UInt64}
    {settled : Option (Except TransportError Response)}
    (found : t.sending[call]? = some (requestId, settled)) :
    { t with sending := t.sending.erase call }.Orderly (settled.toList.map fun o => (call, o)) := by
  have outstanding := orderly.sending call requestId settled found
  have known : call < t.calls :=
    orderly.lawful.called call (List.mem_map.mpr ⟨_, outstanding.made, rfl⟩)
  -- An outcome that was held back while the request was being sent is due now.
  refine ⟨orderly.lawful, orderly.nextId, orderly.waiting, ?_, ?_, ?_, ?_⟩
  · intro other number held present
    simp only [Std.ExtTreeMap.getElem?_erase] at present
    split at present
    · cases present
    · exact (orderly.sending other number held present).imp nofun
  · intro x member
    obtain ⟨outcome, due, rfl⟩ := List.mem_map.mp member
    obtain ⟨gone, due⟩ := outstanding.settled outcome (Option.mem_toList.mp due)
    exact ⟨known, outstanding.going, gone, due⟩
  · cases settled <;> simp
  · intro other known
    by_cases same : other = call
    · subst same
      cases settled with
      | none => exact .inr (.inl ((outstanding.waits rfl).resolve_right List.not_mem_nil))
      | some outcome => exact .inr (.inr (.inr List.mem_cons_self))
    · rcases orderly.known other known with ended | waiting | sending | none
      · exact .inl ended
      · exact .inr (.inl waiting)
      · refine .inr (.inr (.inl (Std.ExtTreeMap.mem_erase.mpr ⟨?_, sending⟩)))
        exact fun equal => same (Std.compare_eq_iff_eq.mp equal).symm
      · cases none

theorem sent (call : CallerId) (sending : Except IoError Unit) :
    (t.sent call sending).Orderly [] := by
  unfold Traffic.sent
  split
  · exact orderly
  next requestId settled found =>
    have withdrawn := orderly.withdraw found
    have outstanding := orderly.sending call requestId settled found
    have missing : (t.sending.erase call)[call]? = none := Std.ExtTreeMap.getElem?_erase_self
    have made : call ∈ callers t.log := List.mem_map.mpr ⟨_, outstanding.made, rfl⟩
    dsimp only
    rcases sending with cause | _
    · cases settled with
      | none =>
        have member := (outstanding.waits rfl).resolve_right List.not_mem_nil
        obtain ⟨⟨number, w⟩, waiting, rfl⟩ := List.mem_map.mp member
        obtain ⟨request, called⟩ := called_of_mem_waits waiting
        obtain rfl := orderly.lawful.number_unique (mem_called called) outstanding.made
        refine withdrawn.stop waiting ?_ ?_ ?_ (.unsent made cause)
        · simp
        · rfl
        · rfl
      | some outcome =>
        -- The call has left the connection when it was settled.
        have absent : t.connection.waiting[requestId]? = none := by
          rw [Option.eq_none_iff_forall_ne_some]
          intro w found
          have waiting := (orderly.waiting requestId w).mp found
          obtain ⟨request, called⟩ := called_of_mem_waits waiting
          obtain rfl := orderly.lawful.caller_unique (mem_called called) outstanding.made
          exact (outstanding.settled outcome rfl).1 (mem_waiters waiting)
        rw [Table.erase_of_absent absent]
        exact withdrawn.finish missing (.unsent made cause)
    · cases settled with
      | none => exact withdrawn
      | some outcome =>
        exact withdrawn.finish missing (.due (withdrawn.due _ List.mem_cons_self).2.2.2)

theorem calls_not_sending : t.sending[t.calls]? = none := by
  rw [Option.eq_none_iff_forall_ne_some]
  rintro ⟨requestId, settled⟩ found
  have made := (orderly.sending t.calls requestId settled found).made
  exact Nat.lt_irrefl _ (orderly.lawful.called _ (List.mem_map.mpr ⟨_, made, rfl⟩))

theorem nextId_not_waiting (room : t.calls + 1 < 2 ^ 64) :
    t.connection.waiting[t.connection.nextId]? = none := by
  rw [Option.eq_none_iff_forall_ne_some]
  intro w found
  have waiting := (orderly.waiting _ w).mp found
  -- If another call could be made, this number would be given twice.
  have later := orderly.lawful.call room (.ping 0) .zero
  rw [← orderly.nextId] at later
  refine (List.nodup_cons.mp later.distinct).1 ?_
  exact (waits_numbers_sublist t.log).subset (List.mem_map.mpr ⟨_, waiting, rfl⟩)

theorem made (room : t.calls + 1 < 2 ^ 64) (request : Request) (deadline : Duration)
    {c : Connection} (nextId : c.nextId = t.connection.nextId + 1)
    (waiting : c.waiting = t.connection.waiting.insert t.connection.nextId ⟨t.calls, deadline⟩) :
    { t with
      connection := c
      calls := t.calls + 1
      log := .called t.calls t.connection.nextId request deadline :: t.log }.Orderly [] := by
  have lawful := orderly.lawful.call room request deadline
  rw [← orderly.nextId] at lawful
  refine ⟨lawful, ?_, ?_, ?_, nofun, .nil, ?_⟩
  · show c.nextId = .ofNat ((numbers t.log).length + 1 + 1)
    rw [nextId, orderly.nextId]
    exact (UInt64.ofNat_add _ 1).symm
  · intro number w
    show c.waiting[number]? = some w ↔
      (number, w) ∈ (t.connection.nextId, ⟨t.calls, deadline⟩) :: waits t.log
    simp only [waiting, Std.ExtTreeMap.getElem?_insert, Std.compare_eq_iff_eq, List.mem_cons,
      ← orderly.waiting]
    by_cases same : t.connection.nextId = number
    · subst same
      simp [orderly.nextId_not_waiting room, eq_comm]
    · simp [same, Ne.symm same]
  · intro call number settled held
    have outstanding := orderly.sending call number settled held
    refine ⟨List.mem_cons_of_mem _ outstanding.made, outstanding.going, ?_, ?_⟩
    · exact fun open_ => (outstanding.waits open_).imp_left (List.mem_cons_of_mem _)
    · intro outcome known
      obtain ⟨gone, due⟩ := outstanding.settled outcome known
      refine ⟨fun member => (List.mem_cons.mp member).elim ?_ gone, .later _ due⟩
      rintro rfl
      rw [orderly.calls_not_sending] at held
      cases held
  · intro call known
    rcases Nat.lt_or_eq_of_le (Nat.le_of_lt_succ known) with old | rfl
    · rcases orderly.known call old with ended | waiting | sending | none
      · exact .inl ended
      · exact .inr (.inl (List.mem_cons_of_mem _ waiting))
      · exact .inr (.inr (.inl sending))
      · cases none
    · exact .inr (.inl List.mem_cons_self)

theorem send {call : CallerId} {requestId : UInt64} (made : (call, requestId) ∈ called t.log)
    (waits : call ∈ waiters t.log) :
    { t with sending := t.sending.insert call (requestId, none) }.Orderly [] := by
  refine ⟨orderly.lawful, orderly.nextId, orderly.waiting, ?_, nofun, .nil, ?_⟩
  · intro other number settled held
    simp only [Std.ExtTreeMap.getElem?_insert, Std.compare_eq_iff_eq] at held
    split at held
    next same =>
      obtain rfl := same
      cases held
      exact ⟨made, fun ended => (orderly.lawful.past _ ended).2 waits, fun _ => .inl waits, nofun⟩
    · exact orderly.sending other number settled held
  · intro other known
    rcases orderly.known other known with ended | waiting | sending | none
    · exact .inl ended
    · exact .inr (.inl waiting)
    · exact .inr (.inr (.inl (Std.ExtTreeMap.mem_insert.mpr (.inr sending))))
    · cases none

theorem refuse :
    { t with
      calls := t.calls + 1
      log := .ended t.calls (.error .closed) :: t.log }.Orderly [] := by
  -- The call never got a number, so the log knows nothing of it but its end.
  have uncalled : t.calls ∉ callers t.log :=
    fun member => Nat.lt_irrefl _ (orderly.lawful.called _ member)
  have going : t.calls ∉ Traffic.endings t.log :=
    fun member => Nat.lt_irrefl _ (orderly.lawful.past _ member).1
  have gone : t.calls ∉ waiters t.log :=
    fun member => Nat.lt_irrefl _ (orderly.lawful.waiter_lt member)
  refine ⟨orderly.lawful.more.ended (Nat.lt_succ_self _) going (.late uncalled), orderly.nextId, ?_,
    ?_, nofun, .nil, ?_⟩
  · intro requestId w
    rw [waiters_ended gone]
    exact orderly.waiting requestId w
  · intro call number settled held
    have different : call ≠ t.calls := by
      rintro rfl
      rw [orderly.calls_not_sending] at held
      cases held
    exact (orderly.sending call number settled held).ended different _
  · intro call known
    rcases Nat.lt_or_eq_of_le (Nat.le_of_lt_succ known) with old | rfl
    · rcases orderly.known call old with ended | waiting | sending | none
      · exact .inl (List.mem_cons_of_mem _ ended)
      · exact .inr (.inl (mem_waiters_ended.mpr ⟨waiting, Nat.ne_of_lt old⟩))
      · exact .inr (.inr (.inl sending))
      · cases none
    · exact .inl List.mem_cons_self

end Orderly

end ShardedWorld.Traffic
