import Std.Data.ExtTreeMap

/-!
Finite maps whose keys stay in order. Two tables with the same entries are equal, whatever
operations made them.
-/

set_option autoImplicit false

namespace ShardedWorld

abbrev Table (κ : Type) [Ord κ] (ν : Type) := Std.ExtTreeMap κ ν compare

theorem Table.mem_iff {κ ν : Type} [Ord κ] [Std.TransOrd κ] {t : Table κ ν} {key : κ} :
    key ∈ t ↔ ∃ value, t[key]? = some value := by
  rw [← Std.ExtTreeMap.isSome_getElem?_iff_mem, Option.isSome_iff_exists]

theorem Table.values_eq_toList_map {κ ν : Type} [Ord κ] [Std.TransOrd κ] (t : Table κ ν) :
    t.values = t.toList.map Prod.snd := by
  obtain ⟨⟨tree⟩⟩ := t
  induction tree using Quotient.ind with
  | _ tree =>
    show tree.inner.values = (Std.DTreeMap.Internal.Impl.Const.toList tree.inner).map Prod.snd
    rw [Std.DTreeMap.Internal.Impl.values_eq_map_snd,
      Std.DTreeMap.Internal.Impl.Const.toList_eq_toListModel_map]
    simp

/-- A list with the same entries, each of them once, is the listing in some order. -/
theorem Table.toList_perm {κ ν : Type} [Ord κ] [Std.TransOrd κ] [Std.LawfulEqOrd κ] {t : Table κ ν}
    {entries : List (κ × ν)} (distinct : (entries.map Prod.fst).Nodup)
    (same : ∀ key value, t[key]? = some value ↔ (key, value) ∈ entries) :
    t.toList.Perm entries := by
  have once {list : List (κ × ν)} (keys : (list.map Prod.fst).Nodup) : list.Nodup :=
    List.Pairwise.of_map Prod.fst
      (fun _ _ different equal => different (congrArg Prod.fst equal)) keys
  have listed : (t.toList.map Prod.fst).Nodup := by
    rw [Std.ExtTreeMap.map_fst_toList_eq_keys]
    exact Std.ExtTreeMap.nodup_keys
  refine (List.perm_ext_iff_of_nodup (once listed) (once distinct)).mpr ?_
  rintro ⟨key, value⟩
  rw [Std.ExtTreeMap.mem_toList_iff_getElem?_eq_some]
  exact same key value

theorem Table.erase_of_absent {κ ν : Type} [Ord κ] [Std.TransOrd κ] [Std.LawfulEqOrd κ]
    {t : Table κ ν} {key : κ} (absent : t[key]? = none) : t.erase key = t := by
  refine Std.ExtTreeMap.ext_getElem? fun other => ?_
  rw [Std.ExtTreeMap.getElem?_erase]
  split
  next same => rw [← Std.compare_eq_iff_eq.mp same, absent]
  · rfl

theorem Table.erase_insert {κ ν : Type} [Ord κ] [Std.TransOrd κ] [Std.LawfulEqOrd κ]
    {t : Table κ ν} {key : κ} (absent : t[key]? = none) (value : ν) :
    (t.insert key value).erase key = t := by
  refine Std.ExtTreeMap.ext_getElem? fun other => ?_
  rw [Std.ExtTreeMap.getElem?_erase]
  split
  next same => rw [← Std.compare_eq_iff_eq.mp same, absent]
  next different => rw [Std.ExtTreeMap.getElem?_insert, if_neg different]

end ShardedWorld
