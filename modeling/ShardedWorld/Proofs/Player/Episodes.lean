import Mathlib.Data.List.DropRight
import Mathlib.Data.List.Induction
import Mathlib.Data.List.Pairwise
import ShardedWorld.Player.Health

/-! Episodes of disagreement between a position and the connected server.

An episode goes from the first disagreement after an agreement up to the next agreement. What a
health monitor keeps out of sight of the zones is told by the disagreements of the episode that it
is in: when it began, which of them counted, and what was reported.
-/

set_option autoImplicit false

namespace ShardedWorld

namespace Health

structure Sighting where
  here : Zone
  connected : Option Zone
  now : Instant
  deriving DecidableEq

namespace Sighting

def Agrees (s : Sighting) : Prop := s.connected = some s.here

instance (s : Sighting) : Decidable s.Agrees :=
  inferInstanceAs (Decidable (s.connected = some s.here))

/-- There is a connection, to the server of another zone. -/
def Disagrees (s : Sighting) : Prop := s.connected ≠ none ∧ ¬s.Agrees

instance (s : Sighting) : Decidable s.Disagrees :=
  inferInstanceAs (Decidable (s.connected ≠ none ∧ ¬s.Agrees))

theorem cases (s : Sighting) : s.connected = none ∨ s.Agrees ∨ s.Disagrees := by
  by_cases disconnected : s.connected = none
  · exact .inl disconnected
  · by_cases agrees : s.Agrees
    · exact .inr (.inl agrees)
    · exact .inr (.inr ⟨disconnected, agrees⟩)

theorem not_agrees_of_disconnected {s : Sighting} (disconnected : s.connected = none) :
    ¬s.Agrees := by
  simp [Agrees, disconnected]

def InOrder (sightings : List Sighting) : Prop := sightings.Pairwise fun a b => a.now ≤ b.now

instance (sightings : List Sighting) : Decidable (InOrder sightings) :=
  inferInstanceAs (Decidable (List.Pairwise _ _))

end Sighting

structure Entry extends Sighting where
  reported : List Anomaly
  count : UInt32
  deriving DecidableEq

/-- The episode that a log ends in; empty if there has been no disagreement since the last
agreement. -/
def episode (log : List Entry) : List Entry :=
  (log.rtakeWhile fun e => decide ¬e.Agrees).dropWhile fun e => decide ¬e.Disagrees

def begin? (log : List Entry) : Option Instant := (episode log).head?.map (·.now)

/-- The sightings of the episode that were made with a connection. -/
def disagreements (log : List Entry) : List Entry :=
  (episode log).filter fun e => decide e.Disagrees

/-- The times that count: the first, and each that comes a period or more after the one that counted
last. -/
def counted (period : Duration) (times : List Instant) : List Instant :=
  times.foldl (fun counted now =>
    if counted.getLast?.all fun last => decide (period ≤ now.since last) then counted ++ [now]
    else counted) []

/-! Episodes as a log grows. -/

section Concat

variable {e : Entry} (log : List Entry)

theorem episode_concat_of_agrees (agrees : e.Agrees) : episode (log ++ [e]) = [] := by
  simp [episode, agrees]

theorem episode_concat_of_disagrees (disagrees : e.Disagrees) :
    episode (log ++ [e]) = episode log ++ [e] := by
  simp only [episode, List.rtakeWhile_concat_pos, disagrees.2, not_false_eq_true, decide_true,
    List.dropWhile_append]
  split
  next empty => simp_all
  next => rfl

theorem episode_concat_of_disconnected (disconnected : e.connected = none) :
    episode (log ++ [e]) = if episode log = [] then [] else episode log ++ [e] := by
  have agrees := Sighting.not_agrees_of_disconnected disconnected
  have disagrees : ¬e.Disagrees := fun disagrees => disagrees.1 disconnected
  simp [episode, agrees, disagrees, List.dropWhile_append]

theorem disagreements_concat_of_disagrees (disagrees : e.Disagrees) :
    disagreements (log ++ [e]) = disagreements log ++ [e] := by
  simp [disagreements, episode_concat_of_disagrees log disagrees, disagrees]

theorem disagreements_concat_of_disconnected (disconnected : e.connected = none) :
    disagreements (log ++ [e]) = disagreements log := by
  have disagrees : ¬e.Disagrees := fun disagrees => disagrees.1 disconnected
  rw [disagreements, episode_concat_of_disconnected log disconnected]
  split
  next empty => simp [disagreements, empty]
  next => simp [disagreements, disagrees]

end Concat

theorem episode_suffix (log : List Entry) : episode log <:+ log :=
  (List.dropWhile_suffix _).trans (List.rtakeWhile_suffix _ log)

theorem not_agrees_of_mem_episode {log : List Entry} {e : Entry} (mem : e ∈ episode log) :
    ¬e.Agrees := by
  have kept := List.mem_rtakeWhile_imp ((List.dropWhile_suffix _).subset mem)
  simpa using kept

theorem disagreements_sublist (log : List Entry) : (disagreements log).Sublist log :=
  List.filter_sublist.trans (episode_suffix log).sublist

theorem begin?_eq (log : List Entry) : begin? log = (disagreements log).head?.map (·.now) := by
  rw [begin?, disagreements]
  cases same : episode log with
  | nil => rfl
  | cons first rest =>
    have head := List.head?_dropWhile_not (fun e : Entry => decide ¬e.Disagrees)
      (log.rtakeWhile fun e => decide ¬e.Agrees)
    rw [← episode, same] at head
    have disagrees : first.Disagrees := by simpa using head
    simp [disagrees]

/-! Times that count. -/

section Counted

variable {period : Duration} {times : List Instant}

theorem counted_concat (period : Duration) (times : List Instant) (now : Instant) :
    counted period (times ++ [now]) =
      if (counted period times).getLast?.all fun last => decide (period ≤ now.since last) then
        counted period times ++ [now]
      else counted period times := by
  rw [counted, List.foldl_concat]
  rfl

theorem counted_sublist (period : Duration) (times : List Instant) :
    (counted period times).Sublist times := by
  induction times using List.reverseRecOn with
  | nil => exact .slnil
  | append_singleton times now ih =>
    rw [counted_concat]
    split
    · exact ih.append (.refl _)
    · exact ih.trans (List.sublist_append_left _ _)

theorem counted_spaced (ordered : times.Pairwise (· ≤ ·)) :
    (counted period times).Pairwise fun earlier later => earlier.after period ≤ later := by
  induction times using List.reverseRecOn with
  | nil => exact .nil
  | append_singleton times now ih =>
    obtain ⟨ordered, -, to_now⟩ := List.pairwise_append.mp ordered
    rw [counted_concat]
    split
    next spaced =>
      refine List.pairwise_append.mpr ⟨ih ordered, List.pairwise_singleton _ _, ?_⟩
      intro time mem later same
      rw [List.mem_singleton.mp same]
      -- The time that counted last is no earlier than any other that counted.
      have nonempty := List.ne_nil_of_mem mem
      have before_last : time ≤ (counted period times).getLast nonempty :=
        (ordered.sublist (counted_sublist _ _)).rel_getLast_of_rel_getLast_getLast mem
          (Nat.le_refl _)
      have last_mem := (counted_sublist period times).subset (List.getLast_mem nonempty)
      have last_before := to_now _ last_mem now List.mem_cons_self
      rw [List.getLast?_eq_some_getLast nonempty, Option.all_some, decide_eq_true_eq,
        Instant.le_since_iff last_before] at spaced
      exact Instant.le_trans (Nat.add_le_add_right before_last _) spaced
    · exact ih ordered

theorem counted_length_le (period : Duration) (times : List Instant) (now : Instant) :
    (counted period times).length ≤ (counted period (times ++ [now])).length := by
  rw [counted_concat]
  split
  · simp
  · exact Nat.le_refl _

end Counted

end Health

end ShardedWorld
