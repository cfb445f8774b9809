import Mathlib.Data.List.DropRight
import ShardedWorld.Entity.Crossing
import ShardedWorld.Time

/-! Stays of an entity outside its zone.

The scans that saw an entity tell since when it has been outside. They tell as well when it was
first outside since it was last inside, which is the same unless it was about to leave in between:
then it was in its zone, but the earlier stay is remembered.
-/

set_option autoImplicit false

namespace ShardedWorld.Scan

structure Sight where
  now : Instant
  crossing : Crossing
  deriving DecidableEq

namespace Sight

def isOutside (s : Sight) : Bool :=
  match s.crossing with
  | .outside _ => true
  | .inside | .leaving _ => false

theorem not_inside {s : Sight} (outside : s.isOutside = true) : s.crossing ≠ .inside := by
  intro inside
  simp [isOutside, inside] at outside

def InOrder (sights : List Sight) : Prop := sights.Pairwise fun a b => a.now ≤ b.now

end Sight

def sinceInside (sights : List Sight) : List Sight :=
  sights.rtakeWhile fun s => decide (s.crossing ≠ .inside)

/-- When an entity was first seen outside since it was last inside. -/
def firstOutside (sights : List Sight) : Option Instant :=
  ((sinceInside sights).find? Sight.isOutside).map (·.now)

/-- The unbroken run of sights outside that ends with the last sight. -/
def stay (sights : List Sight) : List Sight := sights.rtakeWhile Sight.isOutside

def stayBegin? (sights : List Sight) : Option Instant := (stay sights).head?.map (·.now)

/-- Whether an entity was not outside, since it was last inside, before its stay began. -/
def OnlyStay (sights : List Sight) : Prop :=
  ∀ s ∈ sinceInside sights, s.isOutside = true → ∃ start ∈ stayBegin? sights, start ≤ s.now

instance (sights : List Sight) : Decidable (OnlyStay sights) :=
  inferInstanceAs (Decidable (∀ s ∈ sinceInside sights, s.isOutside = true →
    ∃ start ∈ stayBegin? sights, start ≤ s.now))

theorem sinceInside_concat {s : Sight} (sights : List Sight) (out : s.crossing ≠ .inside) :
    sinceInside (sights ++ [s]) = sinceInside sights ++ [s] :=
  List.rtakeWhile_concat_pos _ _ _ (decide_eq_true out)

theorem firstOutside_concat (sights : List Sight) (s : Sight) :
    firstOutside (sights ++ [s]) =
      match s.crossing with
      | .inside => none
      | .outside _ => some ((firstOutside sights).getD s.now)
      | .leaving _ => firstOutside sights := by
  obtain ⟨now, crossing⟩ := s
  cases crossing with
  | inside => simp [firstOutside, sinceInside]
  | outside zone =>
    rw [firstOutside, sinceInside_concat sights (by simp), List.find?_append, firstOutside]
    cases (sinceInside sights).find? Sight.isOutside <;> rfl
  | leaving zone =>
    rw [firstOutside, sinceInside_concat sights (by simp), List.find?_append, firstOutside]
    cases (sinceInside sights).find? Sight.isOutside <;> rfl

theorem firstOutside_eq_none_iff {sights : List Sight} :
    firstOutside sights = none ↔ ∀ s ∈ sinceInside sights, s.isOutside = false := by
  simp [firstOutside]

theorem firstOutside_mem {sights : List Sight} {t : Instant}
    (first : firstOutside sights = some t) :
    ∃ s ∈ sinceInside sights, s.isOutside = true ∧ s.now = t := by
  obtain ⟨s, found, rfl⟩ := Option.map_eq_some_iff.mp first
  exact ⟨s, List.mem_of_find?_eq_some found, List.find?_some found, rfl⟩

theorem firstOutside_of_mem {sights : List Sight} (ordered : Sight.InOrder sights) {s : Sight}
    (mem : s ∈ sinceInside sights) (outside : s.isOutside = true) :
    ∃ t, firstOutside sights = some t ∧ t ≤ s.now := by
  obtain ⟨first, found⟩ : ∃ first, (sinceInside sights).find? Sight.isOutside = some first :=
    Option.isSome_iff_exists.mp (List.find?_isSome.mpr ⟨s, mem, outside⟩)
  refine ⟨first.now, congrArg (Option.map Sight.now) found, ?_⟩
  obtain ⟨-, before, later, split, unseen⟩ := List.find?_eq_some_iff_append.mp found
  have times : (sinceInside sights).Pairwise fun a b => a.now ≤ b.now :=
    ordered.sublist (List.rtakeWhile_suffix _ _).sublist
  rw [split] at times mem
  rcases List.mem_append.mp mem with earlier | rest
  · have missed := unseen s earlier
    rw [outside] at missed
    cases missed
  · rcases List.mem_cons.mp rest with rfl | after
    · exact Nat.le_refl _
    · exact (List.pairwise_cons.mp (List.pairwise_append.mp times).2.1).1 s after

theorem mem_sinceInside_of_mem_stay {sights : List Sight} {s : Sight} (mem : s ∈ stay sights) :
    s ∈ sinceInside sights := by
  induction sights using List.reverseRecOn with
  | nil => cases mem
  | append_singleton sights last ih =>
    rw [stay, List.rtakeWhile_concat] at mem
    split at mem
    next outside =>
      rw [sinceInside_concat sights (Sight.not_inside outside)]
      rcases List.mem_append.mp mem with earlier | same
      · exact List.mem_append_left _ (ih earlier)
      · exact List.mem_append_right _ same
    next => cases mem

theorem stayBegin?_mem {sights : List Sight} {t : Instant} (begun : stayBegin? sights = some t) :
    ∃ s ∈ sinceInside sights, s.isOutside = true ∧ s.now = t := by
  obtain ⟨s, head, rfl⟩ := Option.map_eq_some_iff.mp begun
  have mem := List.mem_of_head? head
  exact ⟨s, mem_sinceInside_of_mem_stay mem, List.mem_rtakeWhile_imp mem, rfl⟩

/-- An entity was first outside when its stay began, exactly if it was in no stay before. -/
theorem firstOutside_eq_stayBegin?_iff {sights : List Sight} (ordered : Sight.InOrder sights) :
    firstOutside sights = stayBegin? sights ↔ OnlyStay sights := by
  constructor
  · intro same s mem outside
    obtain ⟨t, first, before⟩ := firstOutside_of_mem ordered mem outside
    exact ⟨t, same ▸ first, before⟩
  · intro only
    cases first : firstOutside sights with
    | none =>
      cases begun : stayBegin? sights with
      | none => rfl
      | some start =>
        obtain ⟨s, mem, outside, -⟩ := stayBegin?_mem begun
        obtain ⟨t, found, -⟩ := firstOutside_of_mem ordered mem outside
        rw [first] at found
        cases found
    -- The stay lies since the entity was inside, so neither of the two can come before the other.
    | some t =>
      obtain ⟨s, mem, outside, rfl⟩ := firstOutside_mem first
      obtain ⟨start, begun, until_first⟩ := only s mem outside
      obtain ⟨s', mem', outside', rfl⟩ := stayBegin?_mem begun
      obtain ⟨t, found, from_first⟩ := firstOutside_of_mem ordered mem' outside'
      obtain rfl := Option.some.inj (found.symm.trans first)
      rw [begun, Instant.le_antisymm from_first until_first]

end ShardedWorld.Scan
