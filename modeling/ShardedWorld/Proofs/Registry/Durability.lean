import ShardedWorld.Proofs.Wire.Snapshots

/-! What a file store has taken over outlives it.

A file store and a store in memory that are offered the same writes, and refuse the same ones, hold
the same snapshot all along. Whoever opens the file finds this snapshot in it, but for the labels of
the servers' addresses.
-/

set_option autoImplicit false

namespace ShardedWorld

open Wire.Codec (lengthBound)

namespace Store

inductive Write where
  | putServer (server : StoredServer)
  | removeServer (id : ServerId)
  | putPlayer (entry : PlayerEntry)
  | clearPlayers

namespace Write

def perform {σ : Type} [Store σ] (store : σ) : Write → Except StoreError σ
  | putServer server => Store.putServer store server
  | removeServer id => Store.removeServer store id
  | putPlayer entry => Store.putPlayer store entry
  | clearPlayers => Store.clearPlayers store

/-- The store after it was asked; it is the same one if it refused. -/
def after {σ : Type} [Store σ] (store : σ) (w : Write) : σ := (w.perform store).toOption.getD store

def apply (s : Snapshot) : Write → Snapshot
  | putServer server => s.putServer server
  | removeServer id => s.removeServer id
  | putPlayer entry => s.putPlayer entry
  | clearPlayers => s.clearPlayers

def Unlabelled : Write → Prop
  | putServer server => server.endpoint.Unlabelled
  | _ => True

theorem perform_eq_commit {σ : Type} [Store σ] (w : Write) (store : σ) :
    w.perform store = commit store (w.apply (snapshot store)) := by
  cases w <;> rfl

theorem apply_unlabelled {w : Write} (unlabelled : w.Unlabelled) {s : Snapshot}
    (before : s.Unlabelled) :
    (w.apply s).Unlabelled := by
  intro id server found
  cases w with
  | putServer put =>
    simp only [apply, Snapshot.putServer, Std.ExtTreeMap.getElem?_insert] at found
    split at found
    · rw [← Option.some.inj found]
      exact unlabelled
    · exact before id server found
  | removeServer gone =>
    simp only [apply, Snapshot.removeServer, Std.ExtTreeMap.getElem?_erase] at found
    split at found
    · cases found
    · exact before id server found
  | putPlayer entry => exact before id server found
  | clearPlayers => exact before id server found

end Write

end Store

/-- A file store on a drive. If there is a `fault`, the next attempt to replace the file fails with
it. -/
structure Drive where
  store : FileStore
  fault : Option IoError

namespace Drive

/-- An attempt to replace a file that fails with the fault, if there is one, and leaves the file as
it was then. -/
def replace (fault : Option IoError) (file : SnapshotFile) (bytes : Wire.Bytes) :
    Except IoError SnapshotFile :=
  match fault with
  | some cause => .error cause
  | none => file.replace bytes

instance : Store Drive where
  snapshot d := d.store.snapshot
  commit d next := (d.store.commitBy (replace d.fault) next).map fun store => { d with store }

theorem perform_cases (d : Drive) (w : Store.Write) :
    (∃ e, w.perform d = .error e) ∨
      w.perform d =
        .ok { d with
          store := ⟨w.apply d.store.snapshot,
            .present (Wire.Codec.snapshot.write (w.apply d.store.snapshot))⟩ } := by
  rw [Store.Write.perform_eq_commit]
  obtain ⟨⟨snapshot, file⟩, fault⟩ := d
  cases fault with
  | some cause => exact .inl ⟨_, rfl⟩
  | none =>
    cases file with
    | noDirectory => exact .inl ⟨_, rfl⟩
    | directory => exact .inl ⟨_, rfl⟩
    | absent => exact .inr rfl
    | present bytes => exact .inr rfl

end Drive

/-- A file store and a store in memory that are offered the same writes. -/
structure Companions where
  drive : Drive
  memory : MemoryStore

namespace Companions

def starting (store : FileStore) : Companions := ⟨⟨store, none⟩, ⟨store.snapshot, false⟩⟩

/-- Offers both stores a write, the file store with or without a fault of its drive. The store in
memory refuses what the file store refuses, and nothing else. -/
def offer (c : Companions) (fault : Option IoError) (write : Store.Write) : Companions :=
  let drive := { c.drive with fault }
  let refused := !(write.perform drive).toBool
  ⟨write.after drive, write.after { c.memory with failWrites := refused }⟩

def run (c : Companions) : List (Option IoError × Store.Write) → Companions
  | [] => c
  | (fault, write) :: rest => (c.offer fault write).run rest

/-- The two stores agree, and so would a third one that is opened on the file. -/
structure Agree (c : Companions) : Prop where
  same : c.drive.store.snapshot = c.memory.snapshot
  reopened : FileStore.openFile c.drive.store.file =
    .ok ⟨c.drive.store.snapshot.withoutLabels, c.drive.store.file⟩

theorem starting_agree {file : SnapshotFile} {store : FileStore}
    (opened : FileStore.openFile file = .ok store) :
    (starting store).Agree ∧ store.snapshot.Unlabelled ∧ store.file = file := by
  have found : store.snapshot.Unlabelled ∧ store.file = file := by
    cases file with
    | directory => cases opened
    | noDirectory | absent =>
      obtain rfl := Except.ok.inj opened
      exact ⟨fun id server found => by simp [Snapshot.empty] at found, rfl⟩
    | present bytes =>
      simp only [FileStore.openFile] at opened
      split at opened
      · cases opened
      next snapshot rest read =>
        obtain rfl := Except.ok.inj opened
        exact ⟨Wire.Codec.Exact.snapshot_faithful read, rfl⟩
  obtain ⟨unlabelled, rfl⟩ := found
  refine ⟨⟨rfl, ?_⟩, unlabelled, rfl⟩
  rw [starting, opened, Snapshot.withoutLabels_eq_self unlabelled]

/-- A write that the file store refuses changes nothing, and any other one is taken over by both. -/
theorem offer_cases (c : Companions) (fault : Option IoError) (write : Store.Write) :
    ((c.offer fault write).drive.store = c.drive.store ∧
        (c.offer fault write).memory.snapshot = c.memory.snapshot) ∨
      (c.offer fault write).drive.store =
          ⟨write.apply c.drive.store.snapshot,
            .present (Wire.Codec.snapshot.write (write.apply c.drive.store.snapshot))⟩ ∧
        (c.offer fault write).memory.snapshot = write.apply c.memory.snapshot := by
  rcases Drive.perform_cases { c.drive with fault } write with ⟨e, refused⟩ | taken
  · left
    have memory : write.perform (⟨c.memory.snapshot, true⟩ : MemoryStore) =
        .error (.unavailable "writes disabled") := by
      rw [Store.Write.perform_eq_commit]
      rfl
    simp [offer, Store.Write.after, refused, memory, Except.toBool, Except.toOption]
  · right
    have memory : write.perform (⟨c.memory.snapshot, false⟩ : MemoryStore) =
        .ok ⟨write.apply c.memory.snapshot, false⟩ := by
      rw [Store.Write.perform_eq_commit]
      rfl
    simp [offer, Store.Write.after, taken, memory, Except.toBool, Except.toOption]

theorem Agree.offer {c : Companions} (agree : c.Agree) (fault : Option IoError)
    (write : Store.Write)
    (short : (Wire.Codec.snapshot.write (c.offer fault write).drive.store.snapshot).length <
      lengthBound) : (c.offer fault write).Agree := by
  rcases c.offer_cases fault write with ⟨kept, still⟩ | ⟨taken, also⟩
  · refine ⟨?_, ?_⟩
    · rw [kept, still, agree.same]
    · rw [kept, agree.reopened]
  · refine ⟨?_, ?_⟩
    · rw [taken, also, agree.same]
    · -- The file holds the whole snapshot, and nothing of a label comes back from it.
      rw [taken] at short ⊢
      have read := Wire.Codec.Exact.snapshot_complete _ [] short
      rw [List.append_nil] at read
      simp only [FileStore.openFile, read]

/-- No snapshot of the run takes as many bytes as a length in eight bytes can count. -/
def Addressable (c : Companions) (offers : List (Option IoError × Store.Write)) : Prop :=
  ∀ n, (Wire.Codec.snapshot.write (c.run (offers.take n)).drive.store.snapshot).length < lengthBound

theorem Agree.run {offers : List (Option IoError × Store.Write)} {c : Companions} (agree : c.Agree)
    (addressable : c.Addressable offers) : (c.run offers).Agree := by
  induction offers generalizing c with
  | nil => exact agree
  | cons first rest ih =>
    obtain ⟨fault, write⟩ := first
    exact ih (agree.offer fault write (addressable 1)) fun n => addressable (n + 1)

theorem run_unlabelled {offers : List (Option IoError × Store.Write)}
    (unlabelled : ∀ o ∈ offers, o.2.Unlabelled) {c : Companions}
    (before : c.drive.store.snapshot.Unlabelled) :
    (c.run offers).drive.store.snapshot.Unlabelled := by
  induction offers generalizing c with
  | nil => exact before
  | cons first rest ih =>
    obtain ⟨fault, write⟩ := first
    obtain ⟨here, later⟩ := List.forall_mem_cons.mp unlabelled
    refine ih later ?_
    rcases c.offer_cases fault write with ⟨kept, -⟩ | ⟨taken, -⟩
    · rw [kept]
      exact before
    · rw [taken]
      exact Store.Write.apply_unlabelled here before

end Companions

/-- A file store holds what a store in memory would hold, whatever was asked of it and whichever
attempts to write failed. Opening its file gives this snapshot, without the labels of addresses, and
so the very store if the servers that were put have none. Any snapshot is read back like that. -/
theorem file_store_refines_memory {file : SnapshotFile} {store : FileStore}
    (opened : FileStore.openFile file = .ok store) {offers : List (Option IoError × Store.Write)}
    (addressable : (Companions.starting store).Addressable offers) :
    let c := (Companions.starting store).run offers
    c.drive.store.snapshot = c.memory.snapshot ∧
      FileStore.openFile c.drive.store.file =
        .ok ⟨c.memory.snapshot.withoutLabels, c.drive.store.file⟩ ∧
      ((∀ o ∈ offers, o.2.Unlabelled) →
        FileStore.openFile c.drive.store.file = .ok c.drive.store) ∧
      ∀ (s : Snapshot) (tail : Wire.Bytes),
        (Wire.Codec.snapshot.write s).length < lengthBound →
          Wire.Codec.snapshot.read (Wire.Codec.snapshot.write s ++ tail) =
            .ok (s.withoutLabels, tail) ∧ (s.Unlabelled → s.withoutLabels = s) := by
  intro c
  obtain ⟨initially, unlabelled, -⟩ := Companions.starting_agree opened
  have agree : c.Agree := initially.run addressable
  refine ⟨agree.same, ?_, ?_, ?_⟩
  · rw [← agree.same]
    exact agree.reopened
  · intro named
    have still : c.drive.store.snapshot.Unlabelled := Companions.run_unlabelled named unlabelled
    rw [agree.reopened, Snapshot.withoutLabels_eq_self still]
  · intro s tail short
    exact ⟨Wire.Codec.Exact.snapshot_complete s tail short, Snapshot.withoutLabels_eq_self⟩

/-- A snapshot file with two entries for one key; the second one holds under another name. -/
def twiceListed : Wire.Bytes :=
  [2, 0, 0, 0, 0, 0, 0, 0,
    1, 0, 0, 0, 0, 0, 0, 0, 97, 1, 0, 0, 0, 0, 0, 0, 0, 97,
    0, 0, 0, 0, 127, 0, 0, 1, 89, 27, 0, 0, 0, 0, 0, 0, 0, 0,
    1, 0, 0, 0, 0, 0, 0, 0, 97, 1, 0, 0, 0, 0, 0, 0, 0, 98,
    0, 0, 0, 0, 127, 0, 0, 1, 90, 27, 0, 0, 0, 0, 1, 0, 0, 0,
    0, 0, 0, 0, 0, 0, 0, 0]

def twiceListedStore : FileStore :=
  ⟨⟨(∅ : Table ServerId StoredServer).insert ⟨"a"⟩ ⟨⟨"b"⟩, .loopback 7002, ⟨0, 1⟩⟩, ∅⟩,
    .present twiceListed⟩

/-- A server comes, a player cannot be written, and the server of the file goes. -/
def fewOffers : List (Option IoError × Store.Write) :=
  [(none, .putServer ⟨⟨"c"⟩, .loopback 7003, ⟨1, 0⟩⟩),
    (some (.system .permissionDenied), .putPlayer ⟨.appearing 7 "ann" .zero, some ⟨"c"⟩, none⟩),
    (none, .removeServer ⟨"a"⟩)]

theorem twice_listed_refined :
    FileStore.openFile (.present twiceListed) = .ok twiceListedStore ∧
      (Companions.starting twiceListedStore).Addressable fewOffers ∧
      let c := (Companions.starting twiceListedStore).run fewOffers
      c.drive.store.snapshot = c.memory.snapshot ∧
        FileStore.openFile c.drive.store.file = .ok c.drive.store := by
  have opened : FileStore.openFile (.present twiceListed) = .ok twiceListedStore := rfl
  have addressable : (Companions.starting twiceListedStore).Addressable fewOffers := by
    intro n
    match n with
    | 0 | 1 | 2 => decide +kernel
    | n + 3 =>
      rw [List.take_of_length_le (by simp [fewOffers])]
      decide +kernel
  have unlabelled : ∀ o ∈ fewOffers, o.2.Unlabelled := by
    simp [fewOffers, Store.Write.Unlabelled, Address.Unlabelled, Address.loopback, Address.ofOctets]
  obtain ⟨same, -, reopened, -⟩ := file_store_refines_memory opened addressable
  exact ⟨opened, addressable, same, reopened unlabelled⟩

def labelledServer (id : ServerId) (flow scope : UInt32) : StoredServer :=
  ⟨id, ⟨.v6 (0xfe80 <<< 112 ||| 1) flow scope, 7001⟩, ⟨0, 0⟩⟩

/-- One server has an address with a flow, the other one with a scope. -/
def labelledServers : List StoredServer :=
  [labelledServer ⟨"a"⟩ 9 0, labelledServer ⟨"b"⟩ 0 3]

/-- The labels of the servers' addresses are in the store, and no more in the file. -/
theorem labels_not_reopened :
    FileStore.openFile .absent = .ok ⟨.empty, .absent⟩ ∧
      let c := (Companions.starting ⟨.empty, .absent⟩).run
        (labelledServers.map fun server => (none, .putServer server))
      ∃ reopened, FileStore.openFile c.drive.store.file = .ok reopened ∧
        ∀ server ∈ labelledServers,
          c.drive.store.snapshot.servers[server.serverId]? = some server ∧
            reopened.snapshot.servers[server.serverId]? ≠ some server := by
  have opened : FileStore.openFile .absent = .ok ⟨.empty, .absent⟩ := rfl
  refine ⟨opened, ?_⟩
  intro c
  have agree : c.Agree := by
    refine (Companions.starting_agree opened).1.run ?_
    intro n
    match n with
    | 0 | 1 => decide +kernel
    | n + 2 =>
      rw [List.take_of_length_le (by simp [labelledServers])]
      decide +kernel
  have listed : ∀ server ∈ labelledServers,
      c.drive.store.snapshot.servers[server.serverId]? = some server := by decide +kernel
  refine ⟨_, agree.reopened, fun server member => ⟨listed server member, ?_⟩⟩
  simp only [Snapshot.withoutLabels, Std.ExtTreeMap.getElem?_map, listed server member]
  have labelled : ∀ server ∈ labelledServers, some server.withoutLabels ≠ some server := by decide
  exact labelled server member

end ShardedWorld
