import ShardedWorld.CommandLine.Failure
import ShardedWorld.Coordinator.Basic
import ShardedWorld.Running.Socket

/-!
The coordinator as a running program.
-/

set_option autoImplicit false

namespace ShardedWorld.Running

open CommandLine (Failure)

def openStore (path : Option String) : IO (Except StoreError SnapshotStore) := do
  match path with
  | none => return .ok (.memory .empty)
  | some path =>
    if (← attempt (IO.FS.realPath path)).isOk then
      match ← attempt (IO.FS.readBinFile path) with
      | .ok data => return (FileStore.openFile (.present data.toList)).map .file
      | .error cause => return .error (.io cause)
    else return (FileStore.openFile .absent).map .file

/-- Writes a snapshot beside its file and then puts it in the file's place. -/
def writeSnapshot (path : String) (bytes : Wire.Bytes) : IO Unit := do
  let draft := path ++ ".tmp"
  IO.FS.writeBinFile draft ⟨bytes.toArray⟩
  IO.FS.rename draft path

def storeOf (c : Coordinator SnapshotStore) : SnapshotStore := c.mailbox.registry.store

def withStore (c : Coordinator SnapshotStore) (store : SnapshotStore) :
    Coordinator SnapshotStore :=
  { c with mailbox.registry.store := store }

/-- Lets the coordinator do something. The snapshot that it stores by that is written to the file;
if this fails, it does the same again with a store that refuses. -/
def durably {α : Type} (path : Option String) (c : Coordinator SnapshotStore)
    (act : Coordinator SnapshotStore → α × Coordinator SnapshotStore) :
    IO (α × Coordinator SnapshotStore) := do
  let snapshot (c : Coordinator SnapshotStore) := (storeOf c).file?.bind (·.contents?)
  let (a, next) := act c
  match path, snapshot next with
  | some path, some bytes =>
    if snapshot c = some bytes then return (a, next)
    if (← attempt (writeSnapshot path bytes)).isOk then return (a, next)
    let (a, refused) := act (withStore c (storeOf c).removeDirectory)
    return (a, withStore refused (storeOf c))
  | _, _ => return (a, next)

/-- Answers requests, evicts silent servers and pushes statistics until the user interrupts it. -/
def coordinate (config : CoordinatorConfig) (socket : Socket) (store : SnapshotStore) :
    IO Unit := do
  let interrupted ← watchInterruption
  let path := config.snapshotPath
  let mut c := Coordinator.start config.grid store (← now)
  let mut sweepAt := (← now).after config.sweepInterval
  repeat
    if ← interrupted then break
    let t ← now
    if sweepAt ≤ t then
      c := (← durably path c fun c => ((), c.sweep t config.heartbeatTimeout)).2
      sweepAt := t.after config.sweepInterval
    let (pushes, pushed) := c.push t (← timestamp)
    c := pushed
    for (subscriber, datagram) in pushes do
      if let .ok bytes := (Packet.datagram datagram).encode then
        let _ ← attempt (send socket (some subscriber) bytes)
    match ← attempt (receive socket 10) with
    | .ok (some (bytes, some sender)) =>
      let (answer, next) ← durably path c fun c =>
        Coordinator.service.receive c t sender bytes
      c := next
      if let some answer := answer then
        let _ ← attempt (send socket (some sender) answer)
    | .ok _ => pure ()
    | .error _ => IO.sleep 10

/-- Runs a coordinator; gives what kept it from starting. -/
def runCoordinator (config : CoordinatorConfig) : IO (Except Failure Unit) := do
  match ← openStore config.snapshotPath with
  | .error e => return .error (.store e)
  | .ok store =>
    match ← attempt (listenAt config.listen) with
    | .error cause => return .error (.system cause)
    | .ok socket =>
      coordinate config socket store
      return .ok ()

end ShardedWorld.Running
