import ShardedWorld.Proofs.Wire.Labels
import ShardedWorld.Registry.Store

/-! Snapshots as bytes.

A table is written in the order of its keys, and read from entries in any order, of which a later
one replaces an earlier one. A snapshot is read back as it was written, but for the labels of its
addresses.
-/

set_option autoImplicit false

namespace ShardedWorld

def StoredServer.withoutLabels (s : StoredServer) : StoredServer :=
  { s with endpoint := s.endpoint.withoutLabels }

namespace Snapshot

def withoutLabels (s : Snapshot) : Snapshot :=
  { s with servers := s.servers.map fun _ server => server.withoutLabels }

def Unlabelled (s : Snapshot) : Prop :=
  ∀ (id : ServerId) (server : StoredServer),
    s.servers[id]? = some server → server.endpoint.Unlabelled

theorem withoutLabels_eq_self {s : Snapshot} (unlabelled : s.Unlabelled) : s.withoutLabels = s := by
  have servers : s.withoutLabels.servers = s.servers := by
    apply Std.ExtTreeMap.ext_getElem?
    intro id
    simp only [withoutLabels, Std.ExtTreeMap.getElem?_map]
    cases found : s.servers[id]? with
    | none => rfl
    | some server =>
      have same := Address.withoutLabels_eq_self.mpr (unlabelled id server found)
      simp only [Option.map_some, StoredServer.withoutLabels, same]
  simp only [withoutLabels] at servers ⊢
  rw [servers]

end Snapshot

namespace Wire.Codec

/-! Tables. -/

variable {κ α : Type} [Ord κ] [Std.TransOrd κ] [Std.LawfulEqOrd κ]

theorem ofList_toList (t : Table κ α) : Std.ExtTreeMap.ofList t.toList compare = t := by
  apply Std.ExtTreeMap.ext_getElem?
  intro k
  cases found : t[k]? with
  | some a =>
    have member : (k, a) ∈ t.toList := Std.ExtTreeMap.mem_toList_iff_getElem?_eq_some.mpr found
    exact Std.ExtTreeMap.getElem?_ofList_of_mem Std.ReflCmp.compare_self
      Std.ExtTreeMap.distinct_keys_toList member
  | none =>
    classical
    apply Std.ExtTreeMap.getElem?_ofList_of_contains_eq_false
    rw [List.contains_eq_mem, decide_eq_false_iff_not, List.mem_map]
    rintro ⟨⟨k, a⟩, member, rfl⟩
    rw [Std.ExtTreeMap.mem_toList_iff_getElem?_eq_some.mp member] at found
    cases found

theorem mem_of_getElem?_insertMany {entries : List (κ × α)} {t : Table κ α} {k : κ} {a : α}
    (found : (t.insertMany entries)[k]? = some a) : t[k]? = some a ∨ (k, a) ∈ entries := by
  induction entries generalizing t with
  | nil => exact .inl (by simpa using found)
  | cons entry entries ih =>
    obtain ⟨key, value⟩ := entry
    rw [Std.ExtTreeMap.insertMany_cons] at found
    rcases ih found with inserted | member
    · rw [Std.ExtTreeMap.getElem?_insert] at inserted
      split at inserted
      next same =>
        obtain rfl := Std.LawfulEqOrd.eq_of_compare same
        obtain rfl := Option.some.inj inserted
        exact .inr List.mem_cons_self
      · exact .inl inserted
    · exact .inr (List.mem_cons_of_mem _ member)

theorem mem_of_getElem?_ofList {entries : List (κ × α)} {k : κ} {a : α}
    (found : (Std.ExtTreeMap.ofList entries compare)[k]? = some a) : (k, a) ∈ entries := by
  rw [Std.ExtTreeMap.ofList_eq_insertMany_empty] at found
  rcases mem_of_getElem?_insertMany found with nowhere | member
  · simp at nowhere
  · exact member

namespace Exact

variable {key : Codec κ} {value : Codec α} {P : α → Prop}

omit [Ord κ] [Std.TransOrd κ] [Std.LawfulEqOrd κ] in
theorem entries (keys : key.Exact fun _ => True) (values : value.Exact P)
    (filled : ∀ k, 0 < (key.write k).length) :
    (Codec.list (key.pair value)).Exact fun es => ∀ e ∈ es, P e.2 := by
  refine ((keys.pair values).list ?_).congr (by simp)
  intro e
  simp only [Codec.pair, List.length_append]
  have := filled e.1
  omega

/-- A table is read back with what `reduce` leaves of its values, if a reduced value has the bytes
of the whole one. -/
theorem table_complete (keys : key.Exact fun _ => True) (values : value.Exact P)
    (filled : ∀ k, 0 < (key.write k).length) (reduce : α → α)
    (same : ∀ a, value.write (reduce a) = value.write a) (domain : ∀ a, P (reduce a))
    (t : Table κ α) (tail : Bytes) (short : ((table key value).write t).length < lengthBound) :
    (table key value).read ((table key value).write t ++ tail) =
      .ok (t.map fun _ => reduce, tail) := by
  have written : (Codec.list (key.pair value)).write (t.map fun _ => reduce).toList =
      (table key value).write t := by
    simp [table, Codec.via, Codec.list, Codec.pair, Function.comp_def, same]
  have inside : ∀ e ∈ (t.map fun _ => reduce).toList, P e.2 := by
    intro e member
    rw [Std.ExtTreeMap.toList_map] at member
    obtain ⟨e, -, rfl⟩ := List.mem_map.mp member
    exact domain e.2
  have read := (keys.entries values filled).reads_as written inside tail short
  simp only [table, Codec.via] at read ⊢
  exact readAs_eq_ok.mpr ⟨_, read, ofList_toList _⟩

theorem table_faithful (keys : key.Exact fun _ => True) (values : value.Exact P)
    (filled : ∀ k, 0 < (key.write k).length) {bytes rest : Bytes} {t : Table κ α}
    (done : (table key value).read bytes = .ok (t, rest)) {k : κ} {a : α}
    (found : t[k]? = some a) : P a := by
  simp only [table, Codec.via] at done
  obtain ⟨es, domain, rfl, -⟩ := (keys.entries values filled).faithful_as done
  exact domain (k, a) (mem_of_getElem?_ofList found)

/-! Snapshots. -/

theorem storedServer : Codec.storedServer.Exact fun s => s.endpoint.Unlabelled :=
  ((serverId.pair (address.pair zone)).via (fun _ => rfl) fun _ => rfl).congr (by simp)

theorem pendingHandoff : Codec.pendingHandoff.Exact fun _ => True :=
  ((serverId.pair serverId.option).via (fun _ => rfl) fun _ => rfl).congr (by simp)

theorem playerEntry : Codec.playerEntry.Exact fun _ => True :=
  ((playerRecord.pair (serverId.option.pair pendingHandoff.option)).via (fun _ => rfl)
    fun _ => rfl).congr (by simp)

theorem serverId_filled (id : ServerId) : 0 < (Codec.serverId.write id).length := by
  simp only [Codec.serverId, Codec.via, Codec.text, Codec.length, Codec.little,
    List.length_append, littleBytes_length]
  omega

theorem u64_filled (n : UInt64) : 0 < (Codec.u64.write n).length := by
  simp [Codec.u64, Codec.little]

theorem storedServer_write_withoutLabels (s : StoredServer) :
    Codec.storedServer.write s.withoutLabels = Codec.storedServer.write s := by
  simp [Codec.storedServer, Codec.via, Codec.pair, StoredServer.withoutLabels]

theorem snapshot_complete (s : Snapshot) (tail : Bytes)
    (short : (Codec.snapshot.write s).length < lengthBound) :
    Codec.snapshot.read (Codec.snapshot.write s ++ tail) = .ok (s.withoutLabels, tail) := by
  simp only [Codec.snapshot, Codec.via, Codec.pair, List.length_append] at short
  have servers := table_complete serverId storedServer serverId_filled
    StoredServer.withoutLabels storedServer_write_withoutLabels
    (fun server => server.endpoint.withoutLabels_unlabelled) s.servers
    ((Codec.table Codec.u64 Codec.playerEntry).write s.players ++ tail) (by omega)
  have players := table_complete u64 playerEntry u64_filled id (fun _ => rfl) (fun _ => trivial)
    s.players tail (by omega)
  have unchanged : s.players.map (fun _ => id) = s.players := by
    apply Std.ExtTreeMap.ext_getElem?
    intro k
    simp
  rw [unchanged] at players
  simp only [Codec.snapshot, Codec.via, Codec.pair, List.append_assoc]
  refine readAs_eq_ok.mpr ⟨(s.withoutLabels.servers, s.players), ?_, rfl⟩
  simp only [servers]
  exact readAs_eq_ok.mpr ⟨s.players, players, rfl⟩

theorem snapshot_faithful {s : Snapshot} {bytes rest : Bytes}
    (done : Codec.snapshot.read bytes = .ok (s, rest)) : s.Unlabelled := by
  simp only [Codec.snapshot, Codec.via] at done
  obtain ⟨⟨servers, players⟩, found, rfl⟩ := readAs_eq_ok.mp done
  simp only [Codec.pair] at found
  split at found
  · cases found
  next servers' left read =>
    obtain ⟨players', -, same⟩ := readAs_eq_ok.mp found
    obtain ⟨rfl, rfl⟩ := Prod.mk.inj same
    intro id server registered
    exact table_faithful serverId storedServer serverId_filled read registered

end Exact

end Wire.Codec

end ShardedWorld
