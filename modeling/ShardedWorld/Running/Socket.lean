import ShardedWorld.Network.Address
import ShardedWorld.Network.IoError
import ShardedWorld.Time
import ShardedWorld.Wire.Codec
import Std.Async.Select
import Std.Async.Signal
import Std.Async.Timer
import Std.Async.UDP

/-!
The clocks, the datagram sockets and the interruption of a running program.
-/

set_option autoImplicit false

namespace ShardedWorld.Running

open Std.Async

def now : BaseIO Instant := return ⟨← IO.monoNanosNow⟩

def timestamp : IO UInt64 := do
  return .ofNat (← Std.Time.Timestamp.now).toMillisecondsSinceUnixEpoch.val.toNat

/-- What the system says when it fails, and which failure it means. -/
def failures : List (String × SystemError) :=
  [("no such file or directory", .noSuchFile), ("permission denied", .permissionDenied),
    ("illegal operation on a directory", .isDirectory), ("is a directory", .isDirectory),
    ("address already in use", .addressInUse), ("address not available", .addressNotAvailable),
    ("network is unreachable", .networkUnreachable), ("connection refused", .connectionRefused)]

def failure (e : IO.Error) : IoError :=
  let text := toString e
  match failures.find? fun (phrase, _) => 1 < (text.splitOn phrase).length with
  | some (_, known) => .system known
  | none => .other text

def attempt {α : Type} (action : IO α) : IO (Except IoError α) := do
  try
    return .ok (← action)
  catch e =>
    return .error (failure e)

/-- The system's form of an address, which has no labels. -/
def toSocketAddress (a : Address) : Std.Net.SocketAddress :=
  match a.host with
  | .v4 bits =>
    let octet (place : Nat) : UInt8 := .ofBitVec (bits.extractLsb' (8 * place) 8)
    .v4 ⟨.ofParts (octet 3) (octet 2) (octet 1) (octet 0), a.port⟩
  | .v6 bits _ _ =>
    let group (place : Nat) : UInt16 := .ofBitVec (bits.extractLsb' (16 * place) 16)
    .v6 ⟨.ofParts (group 7) (group 6) (group 5) (group 4) (group 3) (group 2) (group 1) (group 0),
      a.port⟩

def ofSocketAddress : Std.Net.SocketAddress → Address
  | .v4 a =>
    ⟨.v4 (.ofNat 32 (a.addr.octets.foldl (fun n octet => n * 256 + octet.toNat) 0)), a.port⟩
  | .v6 a =>
    ⟨.v6 (.ofNat 128 (a.addr.segments.foldl (fun n group => n * 65536 + group.toNat) 0)) 0 0,
      a.port⟩

abbrev Socket := UDP.Socket

def listenAt (address : Address) : IO Socket := do
  let socket ← UDP.Socket.mk
  socket.bind (toSocketAddress address)
  return socket

def addressOf (socket : Socket) : IO Address :=
  ofSocketAddress <$> socket.getSockName

def send (socket : Socket) (peer : Option Address) (bytes : Wire.Bytes) : IO Unit :=
  Async.block (socket.send ⟨bytes.toArray⟩ (peer.map toSocketAddress))

def receive (socket : Socket) (millis : Nat) : IO (Option (Wire.Bytes × Option Address)) :=
  Async.block do
    Selectable.one #[
      .case (socket.recvSelector 65536) fun (data, sender) =>
        return some (data.toList, sender.map ofSocketAddress),
      .case (← Selector.sleep (.ofNat millis)) fun _ => return none]

/-- Tells from now on whether the user has interrupted the program. -/
def watchInterruption : IO (BaseIO Bool) := do
  let waiter ← Signal.Waiter.mk .sigint true
  let interruption ← waiter.wait
  return IO.hasFinished interruption

abbrev Duty := Task (Except IO.Error Unit)

def inBackground (action : IO Unit) : IO Duty := IO.asTask action .dedicated

def waitForAll (duties : List Duty) : IO Unit := do
  for duty in duties do
    let _ ← IO.wait duty

end ShardedWorld.Running
