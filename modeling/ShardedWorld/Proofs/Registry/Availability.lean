import ShardedWorld.Proofs.Registry.Entries
import ShardedWorld.Proofs.Registry.Ownership

/-! Registries that can always write.

Where the store takes every write over, an order to move a player and its confirmation never fail.
-/

set_option autoImplicit false

namespace ShardedWorld

variable {σ : Type} [Store σ]

/-- A store that takes every write over, now and after any of them. -/
def Store.TakesWrites (store : σ) : Prop :=
  ∃ good : σ → Prop, good store ∧
    ∀ store next, good store → ∃ taken, commit store next = .ok taken ∧ good taken

theorem Store.TakesWrites.taken {store store' : σ} (writes : TakesWrites store) {next : Snapshot}
    (done : commit store next = .ok store') : TakesWrites store' := by
  obtain ⟨good, holds, takes⟩ := writes
  obtain ⟨taken, committed, still⟩ := takes store next holds
  rw [done] at committed
  exact ⟨good, Except.ok.inj committed ▸ still, takes⟩

theorem MemoryStore.takesWrites {store : MemoryStore} (enabled : store.failWrites = false) :
    Store.TakesWrites store := by
  refine ⟨fun store => store.failWrites = false, enabled, ?_⟩
  intro store next enabled
  refine ⟨{ store with snapshot := next }, ?_, enabled⟩
  simp [Store.commit, enabled]

theorem FileStore.takesWrites {store : FileStore} (directory : store.file ≠ .noDirectory)
    (file : store.file ≠ .directory) : Store.TakesWrites store := by
  refine ⟨fun store => store.file ≠ .noDirectory ∧ store.file ≠ .directory,
    ⟨directory, file⟩, ?_⟩
  rintro ⟨snapshot, file⟩ next ⟨directory, other⟩
  cases file with
  | noDirectory => exact absurd rfl directory
  | directory => exact absurd rfl other
  | absent => exact ⟨_, rfl, by simp⟩
  | present bytes => exact ⟨_, rfl, by simp⟩

namespace Registry

theorem Change.takesWrites {r r' : Registry σ} (change : Change r r')
    (writes : Store.TakesWrites r.store) : Store.TakesWrites r'.store := by
  cases change with
  | claim now unknown free taken => exact writes.taken taken
  | release found taken => exact writes.taken taken
  | beat now found => exact writes
  | keep named taken => exact writes.taken taken
  | reset taken => exact writes.taken taken
  | report stats owned => exact writes

theorem Change.grid {r r' : Registry σ} (change : Change r r') : r'.grid = r.grid := by
  cases change <;> rfl

theorem keepPlayer_succeeds {r : Registry σ} (writes : Store.TakesWrites r.store) (id : PlayerId)
    (entry : PlayerEntry) : ∃ r', r.keepPlayer id entry = .ok r' := by
  obtain ⟨good, holds, takes⟩ := writes
  obtain ⟨taken, committed, -⟩ := takes r.store ((Store.snapshot r.store).putPlayer entry) holds
  exact ⟨_, bind_eq_ok.mpr ⟨taken, written_eq_ok.mpr committed, rfl⟩⟩

theorem initiateTransfer_succeeds {r : Registry σ} (writes : Store.TakesWrites r.store)
    (id : PlayerId) (position : Vec2) :
    ∃ order r', r.initiateTransfer id position = .ok (order, r') := by
  unfold initiateTransfer
  split
  next unknown =>
    obtain ⟨kept, done⟩ := keepPlayer_succeeds writes id
      ⟨.appearing id (PlayerRecord.defaultName id) position,
        (r.locate position).map (·.serverId), none⟩
    exact ⟨none, kept, bind_eq_ok.mpr ⟨kept, done, rfl⟩⟩
  next entry found =>
    obtain ⟨kept, done⟩ := keepPlayer_succeeds writes id
      (direct { entry with record := { entry.record with position } } (r.locate position)).1
    exact ⟨_, kept, bind_eq_ok.mpr ⟨kept, done, rfl⟩⟩

theorem completeTransfer_succeeds {r : Registry σ} (writes : Store.TakesWrites r.store)
    (id : PlayerId) (server : ServerId) : ∃ r', r.completeTransfer id server = .ok r' := by
  unfold completeTransfer
  split
  · exact ⟨r, rfl⟩
  · split
    · exact ⟨r, rfl⟩
    · exact keepPlayer_succeeds writes id _

end Registry

end ShardedWorld
