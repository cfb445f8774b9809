import Mathlib.Algebra.Group.Nat.Defs
import Mathlib.Data.List.Nodup
import ShardedWorld.Network.Connection

/-! The calls over one connection, overlapping.

While the request of one call is still being sent and others wait, anything can arrive, deadlines
can pass and the connection can be closed. What the calls go through is kept in a log, and histories
and logs are told backwards, the last event first.
-/

set_option autoImplicit false

namespace ShardedWorld

namespace Traffic

/-- `called` tells the number under which a call waits, `heard` is a response that arrives while the
connection listens, and `shut` is where the connection forgets all who wait. -/
inductive Notice where
  | called (call : CallerId) (requestId : UInt64) (request : Request) (deadline : Duration)
  | heard (requestId : UInt64) (response : Response)
  | ended (call : CallerId) (outcome : Except TransportError Response)
  | shut

/-- A `call` for which nothing tells how the sending went is still being sent, until it is `sent`. A
connection that is closed may go on receiving for a while, until it stops. -/
inductive Event where
  | call (request : Request) (deadline : Duration) (sending : Option (Except IoError Unit))
  | sent (call : CallerId) (sending : Except IoError Unit)
  | receive (bytes : Wire.Bytes)
  | refused
  | expire (requestId : UInt64)
  | close (receiving : Bool)
  | stop

end Traffic

/-- The calls over a connection are numbered from zero. `sending` are those whose requests are still
being sent, under which number, and what each is going to end with, if that is settled already. -/
structure Traffic where
  connection : Connection
  calls : Nat
  sending : Table CallerId (UInt64 × Option (Except TransportError Response))
  log : List Traffic.Notice

namespace Traffic

def opened (listens : Bool) : Traffic := ⟨.opened listens, 0, ∅, []⟩

def settle (t : Traffic) (call : CallerId) (outcome : Except TransportError Response) : Traffic :=
  match t.sending[call]? with
  | some (requestId, _) => { t with sending := t.sending.insert call (requestId, some outcome) }
  | none => { t with log := .ended call outcome :: t.log }

def perform (t : Traffic) : Connection.Effect → Traffic
  | .conclude call outcome => t.settle call outcome
  | .send _ | .deliver _ => t

def carryOut (t : Traffic) (next : Connection × List Connection.Effect) : Traffic :=
  next.2.foldl perform { t with connection := next.1 }

def call (t : Traffic) (request : Request) (deadline : Duration)
    (sending : Option (Except IoError Unit)) : Traffic :=
  let requestId := t.connection.nextId
  let next := t.connection.call t.calls request deadline (sending.getD (.ok ()))
  let called := { t with
    calls := t.calls + 1
    log :=
      if t.connection.closed then t.log
      else .called t.calls requestId request deadline :: t.log }
  match sending, next.2 with
  | none, [.send _] =>
    { called with
      connection := next.1
      sending := t.sending.insert t.calls (requestId, none) }
  | _, _ => called.carryOut next

/-- The deadline of a call runs from when its request is sent. A call that cannot be sent ends, also
if there is an answer to it. -/
def sent (t : Traffic) (call : CallerId) (sending : Except IoError Unit) : Traffic :=
  match t.sending[call]? with
  | none => t
  | some (requestId, settled) =>
    let t := { t with sending := t.sending.erase call }
    match sending, settled with
    | .ok _, none => t
    | .ok _, some outcome => { t with log := .ended call outcome :: t.log }
    | .error cause, _ =>
      { t with
        connection := { t.connection with waiting := t.connection.waiting.erase requestId }
        log := .ended call (.error (.io cause)) :: t.log }

def hears (c : Connection) (bytes : Wire.Bytes) : Option (UInt64 × Response) :=
  if c.closed then none
  else
    match Packet.decode bytes with
    | .ok (.response requestId response) => some (requestId, response)
    | _ => none

def receive (t : Traffic) (bytes : Wire.Bytes) : Traffic :=
  let next := t.connection.receive bytes
  match hears t.connection bytes with
  | some (requestId, response) => { t with log := .heard requestId response :: t.log }.carryOut next
  | none => t.carryOut next

def expire (t : Traffic) (requestId : UInt64) : Traffic :=
  if (t.connection.waiting[requestId]?).any fun waiting => t.sending.contains waiting.caller then t
  else t.carryOut (t.connection.expire requestId)

def close (t : Traffic) (receiving : Bool) : Traffic :=
  let (connection, effects) := t.connection.close
  { t with log := .shut :: t.log }.carryOut
    ({ connection with closed := t.connection.closed || !receiving }, effects)

def step (t : Traffic) : Event → Traffic
  | .call request deadline sending => t.call request deadline sending
  | .sent call sending => t.sent call sending
  | .receive bytes => t.receive bytes
  | .refused => { t with connection := t.connection.refused }
  | .expire requestId => t.expire requestId
  | .close receiving => t.close receiving
  | .stop => { t with connection := { t.connection with closed := true } }

def after (listens : Bool) : List Event → Traffic
  | [] => opened listens
  | event :: earlier => (after listens earlier).step event

def Event.isCall : Event → Bool
  | .call .. => true
  | _ => false

/-! What a log tells. -/

namespace Notice

def called? : Notice → Option (CallerId × UInt64)
  | .called call requestId .. => some (call, requestId)
  | _ => none

def ended? : Notice → Option CallerId
  | .ended call _ => some call
  | _ => none

end Notice

def called (log : List Notice) : List (CallerId × UInt64) := log.filterMap Notice.called?

def callers (log : List Notice) : List CallerId := (called log).map (·.1)

def numbers (log : List Notice) : List UInt64 := (called log).map (·.2)

def endings (log : List Notice) : List CallerId := log.filterMap Notice.ended?

/-- The calls that wait, with their numbers: from when they are made until a response with their
number is heard, they end, or the connection is closed. -/
def waits : List Notice → List (UInt64 × Connection.Waiting)
  | [] => []
  | .called call requestId _ deadline :: earlier => (requestId, ⟨call, deadline⟩) :: waits earlier
  | .heard requestId _ :: earlier => (waits earlier).filter (·.1 ≠ requestId)
  | .ended call _ :: earlier => (waits earlier).filter (·.2.caller ≠ call)
  | .shut :: _ => []

def waiters (log : List Notice) : List CallerId := (waits log).map (·.2.caller)

/-- What settles how a call ends: a response with its own number, heard while it waits, or that the
connection is closed while it waits. -/
inductive Due (call : CallerId) : List Notice → Except TransportError Response → Prop where
  | answered {log : List Notice} {requestId : UInt64} {deadline : Duration} (response : Response)
      (waiting : (requestId, ⟨call, deadline⟩) ∈ waits log) :
      Due call (.heard requestId response :: log) (Connection.outcome response)
  | shut {log : List Notice} {requestId : UInt64} {deadline : Duration}
      (waiting : (requestId, ⟨call, deadline⟩) ∈ waits log) :
      Due call (.shut :: log) (.error .closed)
  | later {log : List Notice} {outcome : Except TransportError Response} (notice : Notice)
      (due : Due call log outcome) : Due call (notice :: log) outcome

inductive Ends (call : CallerId) : List Notice → Except TransportError Response → Prop where
  | due {log : List Notice} {outcome : Except TransportError Response}
      (due : Due call log outcome) : Ends call log outcome
  | timedOut {log : List Notice} {requestId : UInt64} {deadline : Duration}
      (waiting : (requestId, ⟨call, deadline⟩) ∈ waits log) :
      Ends call log (.error (.timeout requestId deadline))
  | oversized {log : List Notice} {requestId : UInt64} {request : Request} {length : Nat}
      (deadline : Duration)
      (large : (Packet.request requestId request).encode = .error (.oversized length)) :
      Ends call (.called call requestId request deadline :: log) (.error (.oversized length))
  | unsent {log : List Notice} (called : call ∈ callers log) (cause : IoError) :
      Ends call log (.error (.io cause))
  | late {log : List Notice} (uncalled : call ∉ callers log) : Ends call log (.error .closed)

def Explained : List Notice → Prop
  | [] => True
  | .ended call outcome :: earlier => Ends call earlier outcome ∧ Explained earlier
  | _ :: earlier => Explained earlier

theorem Explained.ends {log later earlier : List Notice} {call : CallerId}
    {outcome : Except TransportError Response} (explained : Explained log)
    (split : log = later ++ .ended call outcome :: earlier) : Ends call earlier outcome := by
  subst split
  induction later with
  | nil => exact explained.1
  | cons notice later ih =>
    cases notice with
    | ended => exact ih explained.2
    | called | heard | shut => exact ih explained

theorem called_of_mem_waits {log : List Notice} {requestId : UInt64} {w : Connection.Waiting}
    (waiting : (requestId, w) ∈ waits log) :
    ∃ request, .called w.caller requestId request w.deadline ∈ log := by
  induction log with
  | nil => cases waiting
  | cons notice earlier ih =>
    have older (waiting : (requestId, w) ∈ waits earlier) :
        ∃ request, .called w.caller requestId request w.deadline ∈ notice :: earlier :=
      (ih waiting).imp fun _ => List.mem_cons_of_mem notice
    cases notice with
    | called call number request deadline =>
      rcases List.mem_cons.mp waiting with new | old
      · cases new
        exact ⟨request, List.mem_cons_self⟩
      · exact older old
    | heard | ended => exact older (List.mem_filter.mp waiting).1
    | shut => cases waiting

theorem mem_called {log : List Notice} {call : CallerId} {requestId : UInt64} {request : Request}
    {deadline : Duration} (made : .called call requestId request deadline ∈ log) :
    (call, requestId) ∈ called log :=
  List.mem_filterMap.mpr ⟨_, made, rfl⟩

/-- A call that is waited for is one that was made, in the same order. -/
theorem waits_numbers_sublist (log : List Notice) :
    ((waits log).map (·.1)).Sublist (numbers log) := by
  induction log with
  | nil => exact .slnil
  | cons notice earlier ih =>
    cases notice with
    | called => exact ih.cons_cons _
    | heard | ended => exact (List.filter_sublist.map _).trans ih
    | shut => exact List.nil_sublist _

theorem waiters_sublist (log : List Notice) : (waiters log).Sublist (callers log) := by
  unfold waiters
  induction log with
  | nil => exact .slnil
  | cons notice earlier ih =>
    cases notice with
    | called => exact ih.cons_cons _
    | heard | ended => exact (List.filter_sublist.map _).trans ih
    | shut => exact List.nil_sublist _

/-- The numbers of calls are counted up from one, and no call is made or ends twice. -/
structure Lawful (log : List Notice) (calls : Nat) : Prop where
  numbered : ∀ requestId ∈ numbers log, requestId.toNat ≤ (numbers log).length
  distinct : (numbers log).Nodup
  few : (numbers log).length ≤ calls
  called : ∀ call ∈ callers log, call < calls
  own : (callers log).Nodup
  past : ∀ call ∈ endings log, call < calls ∧ call ∉ waiters log
  once : (endings log).Nodup
  explained : Explained log

namespace Lawful

variable {log : List Notice} {calls : Nat} (lawful : Lawful log calls)

include lawful

theorem distinct_waits : ((waits log).map (·.1)).Nodup :=
  lawful.distinct.sublist (waits_numbers_sublist log)

theorem distinct_waiters : (waiters log).Nodup := lawful.own.sublist (waiters_sublist log)

theorem waiter_lt {call : CallerId} (waiting : call ∈ waiters log) : call < calls :=
  lawful.called call ((waiters_sublist log).subset waiting)

theorem waits_unique {requestId : UInt64} {w w' : Connection.Waiting}
    (waiting : (requestId, w) ∈ waits log) (other : (requestId, w') ∈ waits log) : w = w' := by
  have same := List.inj_on_of_nodup_map lawful.distinct_waits waiting other rfl
  exact (Prod.mk.inj same).2

theorem number_unique {call : CallerId} {requestId number : UInt64}
    (made : (call, requestId) ∈ Traffic.called log) (again : (call, number) ∈ Traffic.called log) :
    requestId = number := by
  have same := List.inj_on_of_nodup_map lawful.own made again rfl
  exact (Prod.mk.inj same).2

theorem caller_unique {call other : CallerId} {requestId : UInt64}
    (made : (call, requestId) ∈ Traffic.called log)
    (again : (other, requestId) ∈ Traffic.called log) : call = other := by
  have same := List.inj_on_of_nodup_map lawful.distinct made again rfl
  exact (Prod.mk.inj same).1

theorem more : Lawful log (calls + 1) where
  numbered := lawful.numbered
  distinct := lawful.distinct
  few := Nat.le_succ_of_le lawful.few
  called := fun call member => Nat.lt_succ_of_lt (lawful.called call member)
  own := lawful.own
  past := fun call member =>
    ⟨Nat.lt_succ_of_lt (lawful.past call member).1, (lawful.past call member).2⟩
  once := lawful.once
  explained := lawful.explained

/-- A call that is made waits under the next number. -/
theorem call (room : calls + 1 < 2 ^ 64) (request : Request) (deadline : Duration) :
    Lawful (.called calls (.ofNat ((numbers log).length + 1)) request deadline :: log)
      (calls + 1) := by
  -- The numbers have not wrapped, so the next one is above all that were given.
  have next : (UInt64.ofNat ((numbers log).length + 1)).toNat = (numbers log).length + 1 := by
    rw [UInt64.toNat_ofNat']
    exact Nat.mod_eq_of_lt (Nat.lt_of_le_of_lt (Nat.succ_le_succ lawful.few) room)
  refine ⟨?_, ?_, Nat.succ_le_succ lawful.few, ?_, ?_, ?_, lawful.once, lawful.explained⟩
  · intro requestId member
    rcases List.mem_cons.mp member with rfl | old
    · exact Nat.le_of_eq next
    · exact Nat.le_succ_of_le (lawful.numbered requestId old)
  · refine List.nodup_cons.mpr ⟨?_, lawful.distinct⟩
    intro old
    have low : (UInt64.ofNat ((numbers log).length + 1)).toNat ≤ (numbers log).length :=
      lawful.numbered _ old
    omega
  · intro call member
    rcases List.mem_cons.mp member with rfl | old
    · exact Nat.lt_succ_self _
    · exact Nat.lt_succ_of_lt (lawful.called call old)
  · refine List.nodup_cons.mpr ⟨?_, lawful.own⟩
    intro old
    exact Nat.lt_irrefl calls (lawful.called calls old)
  · intro call ended
    obtain ⟨known, past⟩ := lawful.past call ended
    refine ⟨Nat.lt_succ_of_lt known, ?_⟩
    intro waiting
    rcases List.mem_cons.mp waiting with rfl | old
    · exact Nat.lt_irrefl _ known
    · exact past old

/-- What is heard and what is closed makes and ends no call by itself. -/
theorem notice {notice : Notice} (called : notice.called? = none) (ended : notice.ended? = none)
    (fewer : (waits (notice :: log)).Sublist (waits log)) (explained : Explained (notice :: log)) :
    Lawful (notice :: log) calls := by
  have calledSame : Traffic.called (notice :: log) = Traffic.called log :=
    List.filterMap_cons_none called
  have endedSame : endings (notice :: log) = endings log := List.filterMap_cons_none ended
  refine ⟨?_, ?_, ?_, ?_, ?_, ?_, ?_, explained⟩
  · simpa only [numbers, calledSame] using lawful.numbered
  · simpa only [numbers, calledSame] using lawful.distinct
  · simpa only [numbers, calledSame] using lawful.few
  · simpa only [callers, calledSame] using lawful.called
  · simpa only [callers, calledSame] using lawful.own
  · intro call member
    rw [endedSame] at member
    obtain ⟨known, past⟩ := lawful.past call member
    exact ⟨known, fun waiting => past ((fewer.map _).subset waiting)⟩
  · rw [endedSame]
    exact lawful.once

theorem heard (requestId : UInt64) (response : Response) :
    Lawful (.heard requestId response :: log) calls :=
  lawful.notice rfl rfl List.filter_sublist lawful.explained

theorem shut : Lawful (.shut :: log) calls :=
  lawful.notice rfl rfl (List.nil_sublist _) lawful.explained

theorem ended {call : CallerId} {outcome : Except TransportError Response} (known : call < calls)
    (going : call ∉ endings log) (ends : Ends call log outcome) :
    Lawful (.ended call outcome :: log) calls where
  numbered := lawful.numbered
  distinct := lawful.distinct
  few := lawful.few
  called := lawful.called
  own := lawful.own
  once := List.nodup_cons.mpr ⟨going, lawful.once⟩
  explained := ⟨ends, lawful.explained⟩
  past := by
    intro other member
    rcases List.mem_cons.mp member with rfl | old
    · refine ⟨known, ?_⟩
      simp [waiters, waits]
    · obtain ⟨known, past⟩ := lawful.past other old
      exact ⟨known, fun waiting => past ((List.filter_sublist.map _).subset waiting)⟩

end Lawful

end Traffic

end ShardedWorld
