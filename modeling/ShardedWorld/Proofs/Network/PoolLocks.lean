import Mathlib.Data.List.Perm.Subperm
import ShardedWorld.Proofs.Network.PoolAccounting

/-! Which creation locks a pool keeps.

A lock goes with the connection of its peer, when this is dropped. A lock whose peer has no
connection to drop stays: the last one could not be opened, or it was dropped while its caller still
held the lock. Histories are told backwards, the last event first.
-/

set_option autoImplicit false

namespace ShardedWorld.Pool

/-- What happens to a pool. A caller that has its connection holds the lock for a moment more; a
connection that is dropped in this moment leaves the lock behind. -/
inductive Act where
  | event (event : Event)
  | dropHeld (peer : Address)

inductive Fate where
  | opened (peer : Address)
  | failed (peer : Address)
  | dropped (peer : Address)
  deriving DecidableEq

def act (p : Pool) : Act → Pool
  | .event event => (p.step event).2
  | .dropHeld peer =>
    match p.entries[peer]? with
    | some entry => p.drop peer entry
    | none => p

def fate? (p : Pool) : Act → Option Fate
  | .event (.succeed peer _) => (p.opening? peer).map fun _ => .opened peer
  | .event (.fail peer) => (p.opening? peer).map fun _ => .failed peer
  | .event _ => none
  | .dropHeld peer => (p.entries[peer]?).map fun _ => .dropped peer

def after (config : PoolConfig) : List Act → Pool × List Fate
  | [] => (empty config, [])
  | act :: earlier =>
    let (p, fates) := after config earlier
    (p.act act, (p.fate? act).toList ++ fates)

/-- The last attempt to connect to a peer failed, or its connection left the lock behind, and no
connection to it was opened since. -/
def Stranded (peer : Address) : List Fate → Prop
  | [] => False
  | .opened other :: earlier => other ≠ peer ∧ Stranded peer earlier
  | .failed other :: earlier | .dropped other :: earlier => other = peer ∨ Stranded peer earlier

structure Sound (pooled? : Option Entry) (lock? : Option CreationLock) (stranded : Prop) :
    Prop where
  pooled : pooled?.isSome → lock?.isSome
  stays : stranded → lock?.isSome ∧ pooled? = none
  unused : lock? = some .idle → pooled?.isSome ∨ stranded
  opening : ∀ lock, lock? = some lock → lock.opening.isSome → pooled? = none

def Keeps (p : Pool) (fates : List Fate) : Prop :=
  ∀ peer : Address, Sound p.entries[peer]? p.locks[peer]? (Stranded peer fates)

theorem CreationLock.isIdle_iff {lock : CreationLock} : lock.isIdle = true ↔ lock = .idle := by
  obtain ⟨opening, waiting⟩ := lock
  simp [isIdle, idle]

namespace Sound

variable {pooled? : Option Entry} {lock? : Option CreationLock} {stranded : Prop}

/-- A connection goes, and with it the lock if nobody uses it. -/
theorem pruned (sound : Sound pooled? lock? stranded) (pooled : pooled?.isSome) :
    Sound none (lock?.filter fun lock => !lock.isIdle) stranded where
  pooled := nofun
  stays left := by
    rw [(sound.stays left).2] at pooled
    cases pooled
  unused idle := by
    obtain ⟨-, used⟩ := Option.filter_eq_some_iff.mp idle
    cases used
  opening _ _ _ := rfl

theorem busy {lock : CreationLock} (used : lock ≠ .idle) (stranded : Prop) :
    Sound none (some lock) stranded where
  pooled := nofun
  stays _ := ⟨rfl, rfl⟩
  unused idle := absurd (Option.some.inj idle) used
  opening _ _ _ := rfl

theorem shared {lock : CreationLock} (idle : lock.opening = none) (entry : Entry)
    (fresh : ¬stranded) : Sound (some entry) (some lock) stranded where
  pooled _ := rfl
  stays left := absurd left fresh
  unused _ := .inl rfl
  opening other same busy := by
    obtain rfl := Option.some.inj same
    rw [idle] at busy
    cases busy

theorem leftBehind {lock : CreationLock} (last : stranded) : Sound none (some lock) stranded where
  pooled := nofun
  stays _ := ⟨rfl, rfl⟩
  unused _ := .inr last
  opening _ _ _ := rfl

theorem fresh (sound : Sound pooled? lock? stranded) (pooled : pooled?.isSome) : ¬stranded := by
  intro left
  rw [(sound.stays left).2] at pooled
  cases pooled

end Sound

theorem releaseLock_entries (p : Pool) (peer : Address) :
    (p.releaseLock peer).entries = p.entries := by
  rw [releaseLock_frame]

theorem releaseLock_locks (p : Pool) (peer other : Address) :
    (p.releaseLock peer).locks[other]? =
      if peer = other then p.locks[peer]?.filter fun lock => !lock.isIdle
      else p.locks[other]? := by
  by_cases same : peer = other
  · subst same
    rw [if_pos rfl]
    unfold releaseLock
    cases found : p.locks[peer]? with
    | none => simpa using found
    | some lock => by_cases idle : lock.isIdle <;> simp [idle, found, Option.filter]
  · rw [if_neg same]
    unfold releaseLock
    split
    · split
      · simp [Std.ExtTreeMap.getElem?_erase, same]
      · rfl
    · rfl

namespace Keeps

variable {p q : Pool} {fates later : List Fate}

theorem change (keeps : p.Keeps fates) (peer : Address)
    (others : ∀ other : Address, other ≠ peer → q.entries[other]? = p.entries[other]? ∧
      q.locks[other]? = p.locks[other]? ∧ (Stranded other later ↔ Stranded other fates))
    (sound : Sound q.entries[peer]? q.locks[peer]? (Stranded peer later)) : q.Keeps later := by
  intro other
  by_cases same : other = peer
  · exact same ▸ sound
  · obtain ⟨entries, locks, strands⟩ := others other same
    rw [entries, locks, propext strands]
    exact keeps other

theorem empty (config : PoolConfig) : (Pool.empty config).Keeps [] := by
  intro peer
  refine ⟨?_, nofun, ?_, ?_⟩ <;> simp [Pool.empty]

theorem silent (keeps : p.Keeps fates) (peer : Address)
    (others : ∀ other : Address, other ≠ peer → q.entries[other]? = p.entries[other]? ∧
      q.locks[other]? = p.locks[other]?)
    (sound : Sound q.entries[peer]? q.locks[peer]? (Stranded peer fates)) : q.Keeps fates :=
  keeps.change peer (fun other different =>
    ⟨(others other different).1, (others other different).2, Iff.rfl⟩) sound

theorem same (keeps : p.Keeps fates) (entries : q.entries = p.entries)
    (locks : q.locks = p.locks) : q.Keeps fates := by
  intro peer
  rw [entries, locks]
  exact keeps peer

theorem prune (keeps : p.Keeps fates) {peer : Address} {entry : Entry}
    (found : p.entries[peer]? = some entry) :
    ((p.drop peer entry).releaseLock peer).Keeps fates := by
  refine keeps.silent peer ?_ ?_
  · intro other different
    rw [releaseLock_entries, releaseLock_locks]
    simp [Pool.drop, Std.ExtTreeMap.getElem?_erase, Ne.symm different]
  · rw [releaseLock_entries, releaseLock_locks]
    have gone := (keeps peer).pruned (by simp [found])
    simpa [Pool.drop] using gone

theorem touch (keeps : p.Keeps fates) {peer : Address} {entry : Entry}
    (found : p.entries[peer]? = some entry) (now : Instant) :
    (p.touch peer entry now).Keeps fates := by
  have sound := keeps peer
  rw [found] at sound
  refine keeps.silent peer ?_ ?_
  · intro other different
    simp [Pool.touch, Std.ExtTreeMap.getElem?_insert, Ne.symm different]
  · simp only [Pool.touch, Std.ExtTreeMap.getElem?_insert_self]
    refine ⟨fun _ => sound.pooled rfl, fun last => ?_, fun _ => .inl rfl, fun lock same busy => ?_⟩
    · cases (sound.stays last).2
    · cases sound.opening lock same busy

theorem begin (keeps : p.Keeps fates) {peer : Address} (missing : p.entries[peer]? = none)
    (caller : CallerId) (waiting : List CallerId) : (p.begin caller peer waiting).Keeps fates := by
  refine keeps.silent peer ?_ ?_
  · intro other different
    simp [Pool.begin, Std.ExtTreeMap.getElem?_insert, Ne.symm different]
  · simp only [Pool.begin, missing, Std.ExtTreeMap.getElem?_insert_self]
    exact .busy (by simp [CreationLock.idle]) _

theorem dropThenBegin (keeps : p.Keeps fates) (peer : Address) (entry : Entry)
    (caller : CallerId) (waiting : List CallerId) :
    ((p.drop peer entry).begin caller peer waiting).Keeps fates := by
  refine keeps.silent peer ?_ ?_
  · intro other different
    simp [Pool.drop, Pool.begin, Std.ExtTreeMap.getElem?_insert, Std.ExtTreeMap.getElem?_erase,
      Ne.symm different]
  · simp only [Pool.drop, Pool.begin, Std.ExtTreeMap.getElem?_erase_self,
      Std.ExtTreeMap.getElem?_insert_self]
    exact .busy (by simp [CreationLock.idle]) _

theorem yield (keeps : p.Keeps fates) {peer : Address} {entry : Entry}
    (found : p.entries[peer]? = some entry) (waiting : List CallerId) :
    (p.yield peer waiting).Keeps fates := by
  have fresh := (keeps peer).fresh (by simp [found])
  refine keeps.silent peer ?_ ?_
  · intro other different
    simp [Pool.yield, Std.ExtTreeMap.getElem?_insert, Ne.symm different]
  · simp only [Pool.yield, found, Std.ExtTreeMap.getElem?_insert_self]
    exact .shared rfl entry fresh

theorem takeTurn (keeps : p.Keeps fates) (caller : CallerId) (peer : Address)
    (waiting : List CallerId) (now : Instant) :
    (p.takeTurn caller peer waiting now).2.Keeps fates := by
  rw [takeTurn_eq]
  rcases p.lookup_cases peer now id with
    ⟨missing, -, outcome⟩ | ⟨entry, found, ⟨-, outcome⟩ | ⟨-, outcome⟩⟩
  · rw [outcome]
    exact keeps.begin missing caller waiting
  · rw [outcome]
    exact keeps.dropThenBegin peer entry caller waiting
  · rw [outcome]
    exact (keeps.touch found now).yield Std.ExtTreeMap.getElem?_insert_self waiting

theorem lookup (keeps : p.Keeps fates) (peer : Address) (now : Instant) :
    (p.lookup peer now fun q => q.releaseLock peer).2.Keeps fates := by
  rcases p.lookup_cases peer now fun q => q.releaseLock peer with
    ⟨-, -, outcome⟩ | ⟨entry, found, ⟨-, outcome⟩ | ⟨-, outcome⟩⟩
  · rw [outcome]
    exact keeps
  · rw [outcome]
    exact keeps.prune found
  · rw [outcome]
    exact keeps.touch found now

theorem queue (keeps : p.Keeps fates) (caller : CallerId) (peer : Address) :
    (p.queue caller peer).Keeps fates := by
  have sound := keeps peer
  refine keeps.silent peer ?_ ?_
  · intro other different
    simp [Pool.queue, Std.ExtTreeMap.getElem?_insert, Ne.symm different]
  · simp only [Pool.queue, Std.ExtTreeMap.getElem?_insert_self]
    refine ⟨fun _ => rfl, fun last => ⟨rfl, (sound.stays last).2⟩, ?_, ?_⟩
    · intro idle
      simp [CreationLock.idle] at idle
    · -- Whoever gets in line does not change what is opened under the lock.
      intro lock same busy
      cases same
      cases found : p.locks[peer]? with
      | none => simp [found, CreationLock.idle] at busy
      | some old =>
        rw [found] at busy
        exact sound.opening old found busy

theorem request (keeps : p.Keeps fates) (caller : CallerId) (peer : Address) (now : Instant) :
    (p.request caller peer now).2.Keeps fates := by
  unfold Pool.request
  have looked := keeps.lookup peer now
  generalize (p.lookup peer now fun q => q.releaseLock peer) = outcome at looked ⊢
  obtain ⟨_ | link, next⟩ := outcome
  · dsimp only
    split
    · exact looked.takeTurn caller peer [] now
    · exact looked.queue caller peer
  · exact looked

theorem dropAll (keeps : p.Keeps fates) (idle : List (Address × Entry))
    (distinct : idle.Pairwise fun one other => one.1 ≠ other.1)
    (present : ∀ pair ∈ idle, p.entries[pair.1]? = some pair.2) :
    (idle.foldl (fun p (peer, entry) => (p.drop peer entry).releaseLock peer) p).Keeps fates := by
  induction idle generalizing p with
  | nil => exact keeps
  | cons pair rest ih =>
    obtain ⟨peer, entry⟩ := pair
    obtain ⟨different, distinct⟩ := List.pairwise_cons.mp distinct
    refine ih (keeps.prune (present (peer, entry) List.mem_cons_self)) distinct ?_
    -- The rest of the connections are to other peers, so they are there still.
    intro pair member
    rw [releaseLock_entries]
    simp only [Pool.drop, Std.ExtTreeMap.getElem?_erase, Std.compare_eq_iff_eq,
      if_neg (different pair member)]
    exact present pair (List.mem_cons_of_mem _ member)

theorem succeed (keeps : p.Keeps fates) (peer : Address) (link : LinkId)
    (waiting : List CallerId) (now : Instant) :
    (p.enroll peer link waiting now).Keeps (.opened peer :: fates) := by
  refine keeps.change peer ?_ ?_
  · intro other different
    simp [Pool.enroll, Stranded, Std.ExtTreeMap.getElem?_insert, Ne.symm different]
  · simp only [Pool.enroll, Std.ExtTreeMap.getElem?_insert_self]
    exact .shared rfl _ fun last => last.1 rfl

theorem fail (keeps : p.Keeps fates) {peer : Address} (opening : (p.opening? peer).isSome)
    (waiting : List CallerId) : (p.yield peer waiting).Keeps (.failed peer :: fates) := by
  have missing : p.entries[peer]? = none := by
    obtain ⟨attempt, opening⟩ := Option.isSome_iff_exists.mp opening
    obtain ⟨lock, found, busy⟩ := Option.bind_eq_some_iff.mp opening
    exact (keeps peer).opening lock found (Option.isSome_of_eq_some busy)
  refine keeps.change peer ?_ ?_
  · intro other different
    simp [Pool.yield, Stranded, Std.ExtTreeMap.getElem?_insert, Ne.symm different]
  · simp only [Pool.yield, missing, Std.ExtTreeMap.getElem?_insert_self]
    exact .leftBehind (.inl rfl)

theorem dropHeld (keeps : p.Keeps fates) {peer : Address} {entry : Entry}
    (found : p.entries[peer]? = some entry) :
    (p.drop peer entry).Keeps (.dropped peer :: fates) := by
  obtain ⟨lock, locked⟩ := Option.isSome_iff_exists.mp ((keeps peer).pooled (by simp [found]))
  refine keeps.change peer ?_ ?_
  · intro other different
    simp [Pool.drop, Stranded, Std.ExtTreeMap.getElem?_erase, Ne.symm different]
  · simp only [Pool.drop, Std.ExtTreeMap.getElem?_erase_self, locked]
    exact .leftBehind (.inl rfl)

theorem act (keeps : p.Keeps fates) (act : Act) :
    (p.act act).Keeps ((p.fate? act).toList ++ fates) := by
  cases act with
  | dropHeld peer =>
    cases found : p.entries[peer]? with
    | none => simpa [Pool.act, fate?, found] using keeps
    | some entry => simpa [Pool.act, fate?, found] using keeps.dropHeld found
  | event event =>
    cases event with
    | request caller peer now => exact keeps.request caller peer now
    | glance peer now => exact keeps.lookup peer now
    | queue caller peer => exact keeps.queue caller peer
    | wake peer now =>
      rcases p.wake_cases peer now with outcome | ⟨caller, waiting, -, outcome⟩
      · simpa [Pool.act, fate?, step, outcome] using keeps
      · simpa [Pool.act, fate?, step, outcome] using keeps.takeTurn caller peer waiting now
    | succeed peer now =>
      rcases p.succeed_cases peer now with ⟨idle, outcome⟩ | ⟨caller, link, waiting, busy, outcome⟩
      · simpa [Pool.act, fate?, step, outcome, idle] using keeps
      · simpa [Pool.act, fate?, step, outcome, busy] using keeps.succeed peer link waiting now
    | fail peer =>
      rcases p.fail_cases peer with ⟨idle, outcome⟩ | ⟨caller, link, waiting, busy, outcome⟩
      · simpa [Pool.act, fate?, step, outcome, idle] using keeps
      · have opening : (p.opening? peer).isSome := by simp [busy]
        simpa [Pool.act, fate?, step, outcome, busy] using keeps.fail opening waiting
    | invalidate peer =>
      show (p.invalidate peer).Keeps fates
      unfold Pool.invalidate
      split
      next entry found => exact keeps.prune found
      · exact keeps
    | evictIdle now =>
      -- Every idle peer is pooled, and each is dropped once.
      obtain ⟨distinct, members⟩ := p.idlePeers_spec now
      exact keeps.dropAll (p.idlePeers now) distinct
        fun pair member => ((members pair.1 pair.2).mp member).1
    | turnStale | recover | release => exact keeps.same rfl rfl

end Keeps

theorem after_keeps (config : PoolConfig) (history : List Act) :
    (after config history).1.Keeps (after config history).2 := by
  induction history with
  | nil => exact .empty config
  | cons act earlier ih => exact ih.act act

def AtRest (p : Pool) : Prop :=
  ∀ (peer : Address) (lock : CreationLock), p.locks[peer]? = some lock → lock.isIdle = true

namespace Keeps

variable {p : Pool} {fates : List Fate} (keeps : p.Keeps fates)

include keeps

theorem mem_locks_of_mem_entries {peer : Address} (pooled : peer ∈ p.entries) :
    peer ∈ p.locks := by
  rw [← Std.ExtTreeMap.isSome_getElem?_iff_mem] at pooled ⊢
  exact (keeps peer).pooled pooled

theorem mem_locks_iff (rest : p.AtRest) (peer : Address) :
    peer ∈ p.locks ↔ peer ∈ p.entries ∨ Stranded peer fates := by
  have sound := keeps peer
  constructor
  · intro locked
    obtain ⟨lock, found⟩ := Table.mem_iff.mp locked
    obtain rfl := CreationLock.isIdle_iff.mp (rest peer lock found)
    rw [← Std.ExtTreeMap.isSome_getElem?_iff_mem]
    exact sound.unused found
  · rintro (pooled | last)
    · exact keeps.mem_locks_of_mem_entries pooled
    · rw [← Std.ExtTreeMap.isSome_getElem?_iff_mem]
      exact (sound.stays last).1

theorem not_mem_entries_of_stranded {peer : Address} (last : Stranded peer fates) :
    peer ∉ p.entries := by
  have missing := ((keeps peer).stays last).2
  simpa using missing

theorem locks_size_le_iff (rest : p.AtRest) :
    p.locks.size ≤ p.size ↔ ∀ peer, ¬Stranded peer fates := by
  have entries : p.entries.keys ⊆ p.locks.keys := by
    intro peer member
    rw [Std.ExtTreeMap.mem_keys] at member ⊢
    exact keeps.mem_locks_of_mem_entries member
  rw [size, ← Std.ExtTreeMap.length_keys, ← Std.ExtTreeMap.length_keys]
  -- The pooled peers are among those with a lock, so equal numbers make them the same.
  constructor
  · intro few peer last
    have all := (List.subperm_of_subset Std.ExtTreeMap.nodup_keys entries).perm_of_length_le few
    have locked := (keeps.mem_locks_iff rest peer).mpr (.inr last)
    rw [← Std.ExtTreeMap.mem_keys, ← all.mem_iff, Std.ExtTreeMap.mem_keys] at locked
    exact keeps.not_mem_entries_of_stranded last locked
  · intro none
    refine (List.subperm_of_subset Std.ExtTreeMap.nodup_keys ?_).length_le
    intro peer locked
    rw [Std.ExtTreeMap.mem_keys] at locked ⊢
    exact ((keeps.mem_locks_iff rest peer).mp locked).resolve_right (none peer)

end Keeps

/-- When no caller uses a lock, the locks are those of the peers with a connection and those that
were left behind. So there are locks of pooled connections only, and no more of them than there are
connections, exactly if none was left behind. -/
theorem unused_locks_pruned_iff (config : PoolConfig) (history : List Act)
    (rest : (after config history).1.AtRest) :
    let (p, fates) := after config history
    (∀ peer, peer ∈ p.locks ↔ peer ∈ p.entries ∨ Stranded peer fates) ∧
    ((∀ peer ∈ p.locks, peer ∈ p.entries) ↔ ∀ peer, ¬Stranded peer fates) ∧
    (p.locks.size ≤ p.size ↔ ∀ peer, ¬Stranded peer fates) := by
  have keeps := after_keeps config history
  refine ⟨keeps.mem_locks_iff rest, ⟨?_, ?_⟩, keeps.locks_size_le_iff rest⟩
  · intro pooled peer last
    refine keeps.not_mem_entries_of_stranded last (pooled peer ?_)
    exact (keeps.mem_locks_iff rest peer).mpr (.inr last)
  · intro none peer locked
    exact ((keeps.mem_locks_iff rest peer).mp locked).resolve_right (none peer)

/-- A connection that could not be opened is opened at the second attempt. -/
def retried : List Act :=
  [.event (.succeed (.loopback 8001) .start), .event (.request 1 (.loopback 8001) .start),
    .event (.fail (.loopback 8001)), .event (.request 0 (.loopback 8001) .start)]

theorem rest_of_all {p : Pool} (idle : p.locks.toList.all (·.2.isIdle) = true) : p.AtRest := by
  intro peer lock found
  exact List.all_eq_true.mp idle (peer, lock)
    (Std.ExtTreeMap.mem_toList_iff_getElem?_eq_some.mpr found)

theorem retried_lock_pruned :
    (after .standard retried).1.AtRest ∧
      (after .standard retried).1.locks.size ≤ (after .standard retried).1.size := by
  have rest : (after .standard retried).1.AtRest := rest_of_all (by decide +kernel)
  have fates : (after .standard retried).2 =
      [.opened (.loopback 8001), .failed (.loopback 8001)] := by decide +kernel
  have few := (unused_locks_pruned_iff .standard retried rest).2.2
  refine ⟨rest, few.mpr fun peer last => ?_⟩
  replace last : Stranded peer (after .standard retried).2 := last
  rw [fates] at last
  obtain ⟨different, same | last⟩ := last
  · exact different same
  · exact last

/-- A connection that could not be opened leaves its lock behind. -/
theorem failed_connection_leaves_lock :
    ¬∀ history, (after .standard history).1.AtRest →
      (∀ peer ∈ (after .standard history).1.locks, peer ∈ (after .standard history).1.entries) ∧
      (after .standard history).1.locks.size ≤ (after .standard history).1.size := by
  intro pruned
  have refused := pruned [.event (.fail (.loopback 8001)),
    .event (.request 0 (.loopback 8001) .start)] (rest_of_all (by decide +kernel))
  exact absurd refused.2 (by decide +kernel)

end ShardedWorld.Pool
