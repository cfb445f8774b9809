import ShardedWorld.Network.IoError
import ShardedWorld.Registry.Entry

/-!
Where a registry keeps its snapshot.

A store holds the last snapshot that it took over. Every write offers it a whole new snapshot,
which it takes over or refuses; after a refusal it holds what it held before.
-/

set_option autoImplicit false

namespace ShardedWorld

inductive StoreError where
  | io (cause : IoError)
  | codec (cause : Wire.DecodeError)
  | unavailable (reason : String)
  deriving DecidableEq

namespace StoreError

def message : StoreError → String
  | .io cause => "i/o error: " ++ cause.message
  | .codec cause => "snapshot codec error: " ++ cause.message
  | .unavailable reason => "store unavailable: " ++ reason

end StoreError

class Store (σ : Type) where
  snapshot : σ → Snapshot
  commit : σ → Snapshot → Except StoreError σ

namespace Store

variable {σ : Type} [Store σ]

def putServer (store : σ) (server : StoredServer) : Except StoreError σ :=
  commit store ((snapshot store).putServer server)

def removeServer (store : σ) (id : ServerId) : Except StoreError σ :=
  commit store ((snapshot store).removeServer id)

def putPlayer (store : σ) (entry : PlayerEntry) : Except StoreError σ :=
  commit store ((snapshot store).putPlayer entry)

def clearPlayers (store : σ) : Except StoreError σ :=
  commit store (snapshot store).clearPlayers

end Store

/-- A store that forgets everything with its process and refuses writes on demand. -/
structure MemoryStore where
  snapshot : Snapshot
  failWrites : Bool

namespace MemoryStore

def empty : MemoryStore := ⟨.empty, false⟩

instance : Store MemoryStore where
  snapshot := snapshot
  commit store next :=
    if store.failWrites then .error (.unavailable "writes disabled")
    else .ok { store with snapshot := next }

end MemoryStore

inductive SnapshotFile where
  | noDirectory
  | directory
  | absent
  | present (bytes : Wire.Bytes)
  deriving DecidableEq

namespace SnapshotFile

/-- The file is replaced in one step by a new one, or stays as it was. -/
def replace (file : SnapshotFile) (bytes : Wire.Bytes) : Except IoError SnapshotFile :=
  match file with
  | .noDirectory => .error (.system .noSuchFile)
  | .directory => .error (.system .isDirectory)
  | .absent | .present _ => .ok (.present bytes)

def contents? : SnapshotFile → Option Wire.Bytes
  | .present bytes => some bytes
  | _ => none

end SnapshotFile

/-- A store that writes every snapshot to a file before it takes it over. -/
structure FileStore where
  snapshot : Snapshot
  file : SnapshotFile

namespace FileStore

def openFile (file : SnapshotFile) : Except StoreError FileStore :=
  match file with
  | .noDirectory | .absent => .ok ⟨.empty, file⟩
  | .directory => .error (.io (.system .isDirectory))
  | .present bytes =>
    match Wire.Codec.snapshot.read bytes with
    | .error cause => .error (.codec cause)
    | .ok (snapshot, _) => .ok ⟨snapshot, file⟩

/-- Writes a snapshot by `replace` and takes it over if that went well. -/
def commitBy (replace : SnapshotFile → Wire.Bytes → Except IoError SnapshotFile)
    (store : FileStore) (next : Snapshot) : Except StoreError FileStore :=
  match replace store.file (Wire.Codec.snapshot.write next) with
  | .error cause => .error (.io cause)
  | .ok file => .ok ⟨next, file⟩

instance : Store FileStore where
  snapshot := snapshot
  commit := commitBy SnapshotFile.replace

end FileStore

/-- The store of a coordinator: in memory, or in a file where there is a path for one. -/
inductive SnapshotStore where
  | memory (store : MemoryStore)
  | file (store : FileStore)

namespace SnapshotStore

def snapshot : SnapshotStore → Snapshot
  | memory store => store.snapshot
  | file store => store.snapshot

instance : Store SnapshotStore where
  snapshot := snapshot
  commit
    | memory store, next => (Store.commit store next).map memory
    | file store, next => (Store.commit store next).map file

/-- What a coordinator finds that starts anew: a memory store is handed on, a file is read. -/
def reopen : SnapshotStore → Except StoreError SnapshotStore
  | memory store => .ok (memory { store with failWrites := false })
  | file store => (FileStore.openFile store.file).map file

def setFailWrites (failWrites : Bool) : SnapshotStore → SnapshotStore
  | memory store => memory { store with failWrites }
  | file store => file store

def removeDirectory : SnapshotStore → SnapshotStore
  | memory store => memory store
  | file store => file { store with file := .noDirectory }

def file? : SnapshotStore → Option SnapshotFile
  | memory _ => none
  | file store => some store.file

end SnapshotStore

end ShardedWorld
