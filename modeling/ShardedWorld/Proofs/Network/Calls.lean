import ShardedWorld.Proofs.Network.TrafficLedger

/-! Calls get their own answers.

However requests, responses, deadlines and the closing of the connection follow on each other, no
call is lost, and none is answered with what belongs to another one.
-/

set_option autoImplicit false

namespace ShardedWorld.Traffic

section Steps

variable {t : Traffic} (orderly : t.Orderly [])

include orderly

theorem call_closed (closed : t.connection.closed = true) (request : Request) (deadline : Duration)
    (sending : Option (Except IoError Unit)) :
    t.call request deadline sending =
      { t with calls := t.calls + 1, log := .ended t.calls (.error .closed) :: t.log } := by
  cases sending <;>
    simp [call, Connection.call, closed, carryOut, perform, settle, orderly.calls_not_sending]

theorem call_oversized {request : Request} {length : Nat} (open_ : t.connection.closed = false)
    (large : (Packet.request t.connection.nextId request).encode = .error (.oversized length))
    (deadline : Duration) (sending : Option (Except IoError Unit)) :
    t.call request deadline sending =
      { t with
        connection := { t.connection with nextId := t.connection.nextId + 1 }
        calls := t.calls + 1
        log := .ended t.calls (.error (.oversized length)) ::
          .called t.calls t.connection.nextId request deadline :: t.log } := by
  cases sending <;>
    simp [call, Connection.call, open_, large, carryOut, perform, settle,
      orderly.calls_not_sending]

theorem call_unsent {request : Request} {bytes : Wire.Bytes} (open_ : t.connection.closed = false)
    (fits : (Packet.request t.connection.nextId request).encode = .ok bytes) (deadline : Duration)
    (cause : IoError) :
    t.call request deadline (some (.error cause)) =
      { t with
        connection := { t.connection with nextId := t.connection.nextId + 1 }
        calls := t.calls + 1
        log := .ended t.calls (.error (.io cause)) ::
          .called t.calls t.connection.nextId request deadline :: t.log } := by
  simp [call, Connection.call, open_, fits, carryOut, perform, settle, orderly.calls_not_sending]

end Steps

def calling (t : Traffic) (request : Request) (deadline : Duration) : Traffic :=
  { t with
    connection := { t.connection with
      nextId := t.connection.nextId + 1
      waiting := t.connection.waiting.insert t.connection.nextId ⟨t.calls, deadline⟩ }
    calls := t.calls + 1
    log := .called t.calls t.connection.nextId request deadline :: t.log }

theorem call_sent {t : Traffic} {request : Request} {bytes : Wire.Bytes}
    (open_ : t.connection.closed = false)
    (fits : (Packet.request t.connection.nextId request).encode = .ok bytes) (deadline : Duration) :
    t.call request deadline (some (.ok ())) = t.calling request deadline := by
  simp [call, calling, Connection.call, open_, fits, carryOut, perform]

theorem call_begun {t : Traffic} {request : Request} {bytes : Wire.Bytes}
    (open_ : t.connection.closed = false)
    (fits : (Packet.request t.connection.nextId request).encode = .ok bytes) (deadline : Duration) :
    t.call request deadline none =
      { t.calling request deadline with
        sending := t.sending.insert t.calls (t.connection.nextId, none) } := by
  simp [call, calling, Connection.call, open_, fits]

theorem encode_cases (packet : Packet) :
    (∃ length, packet.encode = .error (.oversized length)) ∨
      ∃ bytes, packet.encode = .ok bytes := by
  unfold Packet.encode
  dsimp only
  split
  · exact .inl ⟨_, rfl⟩
  · exact .inr ⟨_, rfl⟩

theorem carryOut_calls (t : Traffic) (next : Connection × List Connection.Effect) :
    (t.carryOut next).calls = t.calls := by
  obtain ⟨c, effects⟩ := next
  suffices same : ∀ t : Traffic, (effects.foldl perform t).calls = t.calls from same _
  induction effects with
  | nil => exact fun t => rfl
  | cons effect rest ih =>
    intro t
    rw [List.foldl_cons, ih]
    cases effect with
    | conclude call outcome =>
      show (t.settle call outcome).calls = t.calls
      unfold settle
      split <;> rfl
    | send | deliver => rfl

theorem step_calls (t : Traffic) (event : Event) :
    (t.step event).calls = t.calls + if event.isCall then 1 else 0 := by
  cases event with
  | call request deadline sending =>
    simp only [step, call]
    split
    · rfl
    · exact carryOut_calls _ _
  | sent call sending =>
    simp only [step, sent]
    split
    · rfl
    · split <;> rfl
  | receive bytes =>
    simp only [step, receive]
    split <;> exact carryOut_calls _ _
  | expire requestId =>
    simp only [step, expire]
    split
    · rfl
    · exact carryOut_calls _ _
  | close receiving => exact carryOut_calls _ _
  | refused | stop => rfl

theorem receive_answered {t : Traffic} {bytes : Wire.Bytes} {requestId : UInt64}
    {response : Response} {w : Connection.Waiting}
    (heard : hears t.connection bytes = some (requestId, response))
    (found : t.connection.waiting[requestId]? = some w) :
    t.receive bytes =
      { t with
        connection := { t.connection with
          stale := false
          waiting := t.connection.waiting.erase requestId }
        log := .heard requestId response :: t.log }.settle w.caller
          (Connection.outcome response) := by
  unfold receive
  rw [heard]
  unfold hears at heard
  split at heard
  · cases heard
  next open_ =>
    split at heard
    next arrives =>
      cases heard
      simp [Connection.receive, Connection.respond, open_, arrives, found, carryOut, perform]
    · cases heard

theorem receive_unanswered {t : Traffic} {bytes : Wire.Bytes} {requestId : UInt64}
    {response : Response} (heard : hears t.connection bytes = some (requestId, response))
    (missing : t.connection.waiting[requestId]? = none) :
    t.receive bytes =
      { t with
        connection := { t.connection with stale := false }
        log := .heard requestId response :: t.log } := by
  unfold receive
  rw [heard]
  unfold hears at heard
  split at heard
  · cases heard
  next open_ =>
    split at heard
    next arrives =>
      cases heard
      simp [Connection.receive, Connection.respond, open_, arrives, missing, carryOut]
    · cases heard

theorem receive_other {t : Traffic} {bytes : Wire.Bytes}
    (other : hears t.connection bytes = none) : t.receive bytes = t := by
  unfold receive
  rw [other]
  unfold hears at other
  unfold Connection.receive
  split
  · rfl
  next open_ =>
    rw [if_neg open_] at other
    split
    next arrives =>
      rw [arrives] at other
      cases other
    · cases t.connection.listens <;> rfl
    · rfl
    · rfl

theorem expire_waiting {t : Traffic} {requestId : UInt64} {w : Connection.Waiting}
    (found : t.connection.waiting[requestId]? = some w) (missing : w.caller ∉ t.sending) :
    t.expire requestId =
      { t with
        connection := { t.connection with waiting := t.connection.waiting.erase requestId }
        log := .ended w.caller (.error (.timeout requestId w.deadline)) :: t.log } := by
  simp [expire, Connection.expire, found, missing, carryOut, perform, settle]

theorem expire_of_none {t : Traffic} {requestId : UInt64}
    (missing : t.connection.waiting[requestId]? = none) : t.expire requestId = t := by
  simp [expire, Connection.expire, missing, carryOut]

namespace Orderly

variable {t : Traffic} (orderly : t.Orderly [])

include orderly

theorem ended_at_once (room : t.calls + 1 < 2 ^ 64) {request : Request} {deadline : Duration}
    {outcome : Except TransportError Response}
    (ends : Ends t.calls (.called t.calls t.connection.nextId request deadline :: t.log) outcome) :
    { t with
      connection := { t.connection with nextId := t.connection.nextId + 1 }
      calls := t.calls + 1
      log := .ended t.calls outcome ::
        .called t.calls t.connection.nextId request deadline :: t.log }.Orderly [] := by
  have made : (t.calling request deadline).Orderly [] :=
    orderly.made room request deadline rfl rfl
  have missing : t.calls ∉ t.sending := by
    intro sending
    obtain ⟨_, found⟩ := Table.mem_iff.mp sending
    rw [orderly.calls_not_sending] at found
    cases found
  have absent := orderly.nextId_not_waiting room
  refine made.stop (w := ⟨t.calls, deadline⟩) List.mem_cons_self missing ?_ ?_ ends
  · rfl
  · exact (Table.erase_insert absent _).symm

theorem call (room : t.calls + 1 < 2 ^ 64) (request : Request) (deadline : Duration)
    (sending : Option (Except IoError Unit)) : (t.call request deadline sending).Orderly [] := by
  by_cases closed : t.connection.closed = true
  · rw [call_closed orderly closed]
    exact orderly.refuse
  have open_ : t.connection.closed = false := Bool.eq_false_iff.mpr closed
  rcases encode_cases (.request t.connection.nextId request) with ⟨length, large⟩ | ⟨bytes, fits⟩
  · rw [call_oversized orderly open_ large]
    exact orderly.ended_at_once room (.oversized deadline large)
  have made : (t.calling request deadline).Orderly [] :=
    orderly.made room request deadline rfl rfl
  rcases sending with _ | cause | _
  · rw [call_begun open_ fits]
    exact made.send List.mem_cons_self List.mem_cons_self
  · rw [call_unsent orderly open_ fits]
    exact orderly.ended_at_once room (.unsent List.mem_cons_self cause)
  · rw [call_sent open_ fits]
    exact made

theorem receive (bytes : Wire.Bytes) : (t.receive bytes).Orderly [] := by
  cases heard : hears t.connection bytes with
  | none =>
    rw [receive_other heard]
    exact orderly
  | some arrived =>
    obtain ⟨requestId, response⟩ := arrived
    cases found : t.connection.waiting[requestId]? with
    | none =>
      rw [receive_unanswered heard found]
      exact (orderly.unanswered found response).connection rfl rfl
    | some w =>
      rw [receive_answered heard found]
      refine settle (x := (w.caller, Connection.outcome response))
        (orderly.answered found ?_ ?_ response)
      · rfl
      · rfl

theorem expire (requestId : UInt64) : (t.expire requestId).Orderly [] := by
  cases found : t.connection.waiting[requestId]? with
  | none =>
    rw [expire_of_none found]
    exact orderly
  | some w =>
    by_cases sending : w.caller ∈ t.sending
    · have kept : t.expire requestId = t := by simp [Traffic.expire, found, sending]
      rw [kept]
      exact orderly
    · have waiting := (orderly.waiting requestId w).mp found
      rw [expire_waiting found sending]
      refine orderly.stop waiting sending ?_ ?_ (.timedOut waiting)
      · rfl
      · rfl

theorem close (receiving : Bool) : (t.close receiving).Orderly [] := by
  have shut : { t with
      connection := { t.connection.close.1 with closed := t.connection.closed || !receiving }
      log := .shut :: t.log }.Orderly (cutOff t.connection) := orderly.shut rfl rfl
  have carried := shut.carryOut
  rw [cutOff, List.map_map] at carried
  exact carried

theorem step (event : Event) (few : (t.step event).calls < 2 ^ 64) : (t.step event).Orderly [] := by
  cases event with
  | call request deadline sending =>
    rw [step_calls] at few
    exact orderly.call few request deadline sending
  | sent call sending => exact orderly.sent call sending
  | receive bytes => exact orderly.receive bytes
  | refused =>
    have kept : t.connection.refused.nextId = t.connection.nextId ∧
        t.connection.refused.waiting = t.connection.waiting := by
      unfold Connection.refused
      split <;> exact ⟨rfl, rfl⟩
    exact orderly.connection kept.1 kept.2
  | expire requestId => exact orderly.expire requestId
  | close receiving => exact orderly.close receiving
  | stop => exact orderly.connection rfl rfl

end Orderly

theorem mem_settle_sending {t : Traffic} {call other : CallerId}
    {outcome : Except TransportError Response} :
    other ∈ (t.settle call outcome).sending ↔ other ∈ t.sending := by
  unfold settle
  split
  next requestId settled found =>
    show other ∈ t.sending.insert call (requestId, some outcome) ↔ _
    rw [Std.ExtTreeMap.mem_insert, Std.compare_eq_iff_eq]
    refine ⟨fun member => member.elim ?_ id, .inr⟩
    rintro rfl
    exact Table.mem_iff.mpr ⟨_, found⟩
  · rfl

theorem log_subset_settle (t : Traffic) (call : CallerId)
    (outcome : Except TransportError Response) : t.log ⊆ (t.settle call outcome).log := by
  unfold settle
  split
  · exact List.Subset.refl _
  · exact List.subset_cons_self _ _

/-- All calls end that are about to, unless their requests are still being sent. -/
theorem mem_log_of_conclude {endings : List Ending} {x : Ending} (member : x ∈ endings)
    {t : Traffic} (missing : x.1 ∉ t.sending) :
    .ended x.1 x.2 ∈
      ((endings.map fun x => Connection.Effect.conclude x.1 x.2).foldl perform t).log := by
  -- What the log has told already stays there while the others end.
  have grows (rest : List Ending) (t : Traffic) :
      t.log ⊆ ((rest.map fun x => Connection.Effect.conclude x.1 x.2).foldl perform t).log := by
    induction rest generalizing t with
    | nil => exact List.Subset.refl _
    | cons y rest ih => exact List.Subset.trans (log_subset_settle t y.1 y.2) (ih _)
  induction endings generalizing t with
  | nil => cases member
  | cons y rest ih =>
    rcases List.mem_cons.mp member with rfl | later
    · refine grows rest (t.settle x.1 x.2) ?_
      have gone : t.sending[x.1]? = none := by simpa using missing
      simp [settle, gone]
    · exact ih later (mt mem_settle_sending.mp missing)

/-- What holds of the calls over a connection at any time. Those in flight are those that wait. A
call ends once at most, in one of the ways that there are, at most one waits under a number, and
none is lost. A call that waits and was sent ends with the first response that has its number, when
its deadline passes and when the connection is closed, and one that is too long ends at once. -/
structure Served (t : Traffic) : Prop where
  inFlight : t.connection.inFlight = (waits t.log).length
  once : (endings t.log).Nodup
  ends : ∀ (later earlier : List Notice) (call : CallerId)
    (outcome : Except TransportError Response),
    t.log = later ++ .ended call outcome :: earlier → Ends call earlier outcome
  own : ∀ (later earlier : List Notice) (requestId : UInt64) (w w' : Connection.Waiting),
    t.log = later ++ earlier → (requestId, w) ∈ waits earlier → (requestId, w') ∈ waits earlier →
      w = w'
  known : ∀ call < t.calls, call ∈ endings t.log ∨ call ∈ waiters t.log ∨ call ∈ t.sending
  answered : ∀ (bytes : Wire.Bytes) (requestId : UInt64) (response : Response)
    (w : Connection.Waiting), hears t.connection bytes = some (requestId, response) →
    (requestId, w) ∈ waits t.log → w.caller ∉ t.sending →
      (t.step (.receive bytes)).log =
        .ended w.caller (Connection.outcome response) :: .heard requestId response :: t.log
  expires : ∀ (requestId : UInt64) (w : Connection.Waiting), (requestId, w) ∈ waits t.log →
    w.caller ∉ t.sending →
      (t.step (.expire requestId)).log =
        .ended w.caller (.error (.timeout requestId w.deadline)) :: t.log
  closes : ∀ (call : CallerId) (receiving : Bool), call ∈ waiters t.log → call ∉ t.sending →
    .ended call (.error .closed) ∈ (t.step (.close receiving)).log
  oversized : ∀ (request : Request) (deadline : Duration)
    (sending : Option (Except IoError Unit)) (length : Nat), t.connection.closed = false →
    (Packet.request t.connection.nextId request).encode = .error (.oversized length) →
      (t.step (.call request deadline sending)).log =
        .ended t.calls (.error (.oversized length)) ::
          .called t.calls t.connection.nextId request deadline :: t.log

theorem Orderly.served {t : Traffic} (orderly : t.Orderly []) : t.Served where
  inFlight := orderly.inFlight
  once := orderly.lawful.once
  ends _ _ _ _ split := orderly.lawful.explained.ends split
  own later earlier requestId w w' split waiting other := by
    -- Every number is given once, so it cannot stand for two who wait.
    have distinct : (numbers earlier).Nodup := by
      refine orderly.lawful.distinct.sublist ?_
      rw [split]
      exact ((List.sublist_append_right later earlier).filterMap _).map _
    have same := List.inj_on_of_nodup_map (distinct.sublist (waits_numbers_sublist earlier))
      waiting other rfl
    exact (Prod.mk.inj same).2
  known call made := by simpa using orderly.known call made
  answered bytes requestId response w heard waiting missing := by
    have found := (orderly.waiting requestId w).mpr waiting
    have gone : t.sending[w.caller]? = none := by simpa using missing
    show (t.receive bytes).log = _
    rw [receive_answered heard found]
    simp [Traffic.settle, gone]
  expires requestId w waiting missing := by
    show (t.expire requestId).log = _
    rw [expire_waiting ((orderly.waiting requestId w).mpr waiting) missing]
  closes call receiving waits missing := by
    obtain ⟨⟨requestId, w⟩, waiting, rfl⟩ := List.mem_map.mp waits
    have found := (orderly.waiting requestId w).mpr waiting
    have cut : (w.caller, .error .closed) ∈ cutOff t.connection := by
      refine List.mem_map.mpr ⟨w, ?_, rfl⟩
      rw [Table.values_eq_toList_map]
      exact List.mem_map.mpr ⟨_, Std.ExtTreeMap.mem_toList_iff_getElem?_eq_some.mpr found, rfl⟩
    have told := mem_log_of_conclude cut (t := { t with
      connection := { t.connection.close.1 with closed := t.connection.closed || !receiving }
      log := .shut :: t.log }) missing
    rw [cutOff, List.map_map] at told
    exact told
  oversized request deadline sending length open_ large := by
    show (t.call request deadline sending).log = _
    rw [call_oversized orderly open_ large]

/-- Of two calls the second one is answered first, and again, and the first one is being sent. -/
def crossed : List Event :=
  [.receive (Wire.Codec.packet.write (.response 2 (.pong 7))),
    .receive (Wire.Codec.packet.write (.response 2 (.pong 6))),
    .call (.ping 6) (.ofSeconds 1) (some (.ok ())), .call (.ping 5) (.ofSeconds 1) none]

end ShardedWorld.Traffic
