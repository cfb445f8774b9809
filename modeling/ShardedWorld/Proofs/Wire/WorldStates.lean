import ShardedWorld.Proofs.Scan.Candidates
import ShardedWorld.Proofs.Wire.Sizes

/-! The state of a zone arrives whole.

It is cut into datagrams that each fit a packet. Together they list every entity of the zone once,
in the order of their numbers, and none of them is empty unless the zone is.
-/

set_option autoImplicit false

namespace ShardedWorld

namespace Population

/-- A listing of all entities as others see them, each of them once and in the order of their
numbers. -/
structure Lists (p : Population) (entities : List EntitySnapshot) : Prop where
  ascending : entities.Pairwise fun a b => a.id < b.id
  listed : ∀ e : EntitySnapshot,
    e ∈ entities ↔ ∃ held, p.get? e.id = some held ∧ held.snapshot = e
  count : entities.length = p.size

theorem toList_ascending (p : Population) : p.toList.Pairwise fun a b => a.id < b.id := by
  rw [toList, List.pairwise_map]
  apply p.bodies.ordered_keys_toList.imp
  intro a b before
  exact Std.compare_eq_lt.mp before

theorem get?_eq_some {p : Population} {id : EntityId} {e : Entity} :
    p.get? id = some e ↔ e ∈ p.toList ∧ e.id = id := by
  rw [mem_toList_iff, get?, Option.map_eq_some_iff]
  constructor
  · rintro ⟨b, found, rfl⟩
    exact ⟨found, rfl⟩
  · rintro ⟨found, rfl⟩
    exact ⟨e.toBody, found, rfl⟩

theorem snapshots_lists (p : Population) : p.Lists p.snapshots where
  ascending := List.pairwise_map.mpr p.toList_ascending
  listed e := by
    simp only [snapshots, List.mem_map, get?_eq_some]
    constructor
    · rintro ⟨held, member, rfl⟩
      exact ⟨held, ⟨member, rfl⟩, rfl⟩
    · rintro ⟨held, ⟨member, -⟩, same⟩
      exact ⟨held, member, same⟩
  count := by simp [snapshots, toList, size]

end Population

namespace Datagram

variable {α : Type}

theorem pieces_flatten (size : Nat) (l : List α) : (pieces size l).flatten = l := by
  fun_induction pieces size l with
  | case1 => rfl
  | case2 x rest ih => rw [List.flatten_cons, ih, List.cons_append, List.take_append_drop]

theorem ne_nil_of_mem_pieces {size : Nat} {l piece : List α} (member : piece ∈ pieces size l) :
    piece ≠ [] := by
  fun_induction pieces size l with
  | case1 => cases member
  | case2 x rest ih =>
    rcases List.mem_cons.mp member with rfl | member
    · exact List.cons_ne_nil _ _
    · exact ih member

theorem length_le_of_mem_pieces {size : Nat} (positive : 0 < size) {l piece : List α}
    (member : piece ∈ pieces size l) : piece.length ≤ size := by
  fun_induction pieces size l with
  | case1 => cases member
  | case2 x rest ih =>
    rcases List.mem_cons.mp member with rfl | member
    · rw [List.length_cons, List.length_take]
      omega
    · exact ih member

def entities : Datagram → List EntitySnapshot
  | worldState _ _ _ entities => entities
  | _ => []

variable (tick : UInt32) (timestamp : UInt64) (zone : Zone)

theorem worldStates_shares (listing : List EntitySnapshot) :
    ∃ shares : List (List EntitySnapshot),
      worldStates tick timestamp zone listing = shares.map (.worldState tick timestamp zone) ∧
        shares ≠ [] ∧ shares.flatten = listing ∧
        ∀ share ∈ shares, share.length ≤ worldStateLimit ∧ (share = [] → listing = []) := by
  unfold worldStates
  split
  next few => exact ⟨[listing], by simpa using few⟩
  next many =>
    refine ⟨pieces worldStateLimit listing, rfl, ?_, pieces_flatten _ _, ?_⟩
    · intro nothing
      have whole := pieces_flatten worldStateLimit listing
      rw [nothing] at whole
      simp [← whole] at many
    · intro share member
      exact ⟨length_le_of_mem_pieces (by decide) member,
        fun empty => absurd empty (ne_nil_of_mem_pieces member)⟩

theorem worldState_sent {share : List EntitySnapshot} (short : share.length ≤ worldStateLimit) :
    ∃ bytes, (Packet.datagram (.worldState tick timestamp zone share)).encode = .ok bytes ∧
      Packet.decode bytes = .ok (.datagram (.worldState tick timestamp zone share)) := by
  have fits : (Packet.datagram (.worldState tick timestamp zone share)).Fits := by
    simp only [Packet.Fits, Wire.Codec.packet_size_worldState, Packet.sizeLimit,
      worldStateLimit] at *
    omega
  -- No datagram holds an address, so nothing of it depends on who reads it.
  have unlabelled : (Packet.datagram (.worldState tick timestamp zone share)).Unlabelled := trivial
  have read := Packet.decode_encoding unlabelled fits.encode []
  rw [List.append_nil] at read
  exact ⟨_, fits.encode, read⟩

/-- The datagrams with the state of a population are at least one, can all be sent and are read as
they were sent, belong to one time and zone, and list together all entities, each of them once and
in the order of their numbers. Only that of nobody is empty. -/
theorem world_states_carry_population (p : Population) :
    let parts := worldStates tick timestamp zone p.snapshots
    parts ≠ [] ∧
      (∀ part ∈ parts, part = .worldState tick timestamp zone part.entities ∧
        (part.entities = [] → p.size = 0) ∧
        ∃ bytes, (Packet.datagram part).encode = .ok bytes ∧
          Packet.decode bytes = .ok (.datagram part)) ∧
      p.Lists (parts.flatMap entities) := by
  intro parts
  -- The list is cut into shares, at least one, that are short enough and empty only if it is.
  obtain ⟨shares, cut, nonempty, whole, bounded⟩ :=
    worldStates_shares tick timestamp zone p.snapshots
  have parted : parts = shares.map (.worldState tick timestamp zone) := cut
  have lists := p.snapshots_lists
  refine ⟨?_, ?_, ?_⟩
  · rw [parted]
    exact fun nothing => nonempty (List.map_eq_nil_iff.mp nothing)
  · intro part member
    rw [parted] at member
    obtain ⟨share, shared, rfl⟩ := List.mem_map.mp member
    obtain ⟨short, filled⟩ := bounded share shared
    refine ⟨rfl, fun empty => ?_, worldState_sent tick timestamp zone short⟩
    rw [← lists.count, filled empty, List.length_nil]
  · have joined : parts.flatMap entities = p.snapshots :=
      calc parts.flatMap entities
        _ = shares.flatMap id := by
          rw [parted, List.flatMap_map]
          rfl
        _ = p.snapshots := by rw [List.flatMap_id, whole]
    rw [joined]
    exact lists

end Datagram

end ShardedWorld
