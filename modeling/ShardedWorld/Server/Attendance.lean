import ShardedWorld.Identity
import ShardedWorld.Network.Address
import ShardedWorld.Text.Blank
import ShardedWorld.Time

/-!
The players whose clients are attached to a server, and where they are reached.

Attendance decides who is sent the state of the world. It does not decide which server owns a
player's entity.
-/

set_option autoImplicit false

namespace ShardedWorld

/-- A client that is attached. `lastSequence` is the highest number of a move that was applied. -/
structure Attendee where
  address : Address
  lastSeen : Instant
  lastSequence : UInt32
  deriving DecidableEq

structure Attendance where
  attendees : Table PlayerId Attendee
  capacity : Nat
  timeout : Duration

namespace Attendance

/-- Whether a client may attach with a session key: any key that is not blank will do. -/
def admitsKey (sessionKey : String) : Bool := !Text.isBlankText sessionKey

def empty (capacity : Nat) (timeout : Duration) : Attendance := ⟨∅, capacity, timeout⟩

def size (a : Attendance) : Nat := a.attendees.size

def get? (a : Attendance) (player : PlayerId) : Option Attendee := a.attendees[player]?

def toList (a : Attendance) : List (PlayerId × Attendee) := a.attendees.toList

def put (a : Attendance) (player : PlayerId) (attendee : Attendee) : Attendance :=
  { a with attendees := a.attendees.insert player attendee }

/-- Attaches a player; none if there is no room. A player who is attached already moves to the new
address and keeps the place. -/
def attach? (a : Attendance) (player : PlayerId) (address : Address) (now : Instant) :
    Option Attendance :=
  match a.get? player with
  | some attendee => some (a.put player { attendee with address, lastSeen := now })
  | none => if a.capacity ≤ a.size then none else some (a.put player ⟨address, now, 0⟩)

def detach (a : Attendance) (player : PlayerId) : Bool × Attendance :=
  (player ∈ a.attendees, { a with attendees := a.attendees.erase player })

def find? (a : Attendance) (address : Address) : Option PlayerId :=
  (a.toList.find? fun (_, attendee) => attendee.address = address).map (·.1)

/-- Whether a move is to be applied: it comes from where its player is attached and is newer than
every move applied before. -/
def acceptMove (a : Attendance) (player : PlayerId) (sequence : UInt32) (address : Address)
    (now : Instant) : Bool × Attendance :=
  match a.get? player with
  | none => (false, a)
  | some attendee =>
    if attendee.address ≠ address then (false, a)
    else
      let newer := attendee.lastSequence < sequence
      let lastSequence := if newer then sequence else attendee.lastSequence
      (newer, a.put player { attendee with lastSeen := now, lastSequence })

def touch (a : Attendance) (address : Address) (now : Instant) : Attendance :=
  match a.find? address with
  | none => a
  | some player =>
    { a with
      attendees := a.attendees.modify player fun attendee => { attendee with lastSeen := now } }

def dropSilent (a : Attendance) (now : Instant) : List PlayerId × Attendance :=
  let silent := (a.toList.filter fun (_, c) => a.timeout < now.since c.lastSeen).map (·.1)
  (silent, silent.foldl (fun a player => (a.detach player).2) a)

end Attendance

end ShardedWorld
