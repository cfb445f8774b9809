import Mathlib.Algebra.Group.Nat.Defs
import Mathlib.Data.List.Infix
import ShardedWorld.Player.Schedule

/-! Scopes that pause a group of timers.

The group stops with the first scope that is opened and goes on with the last one that is closed,
in whatever order they are closed. Histories are told backwards, the last event first.
-/

set_option autoImplicit false

namespace ShardedWorld

namespace TimerGroup

theorem openScope_of_lt {g : TimerGroup} (room : g.depth.toNat + 1 < 2 ^ 32) :
    g.openScope.depth.toNat = g.depth.toNat + 1 ∧
      g.openScope.paused = (decide (g.depth = 0) || g.paused) ∧
      g.openScope.pauses = g.pauses + (if g.depth = 0 then 1 else 0) ∧
      g.openScope.resumes = g.resumes := by
  have deeper : (g.depth + 1).toNat = g.depth.toNat + 1 := by
    rw [UInt32.toNat_add]
    exact Nat.mod_eq_of_lt room
  have first : g.depth + 1 = 1 ↔ g.depth = 0 := by
    simp only [← UInt32.toNat_inj, deeper]
    simp
  by_cases idle : g.depth = 0
  · simp [openScope, idle]
  · simp [openScope, first, idle, deeper]

theorem closeScope_of_ne {g : TimerGroup} (open_ : g.depth ≠ 0) :
    g.closeScope.depth.toNat + 1 = g.depth.toNat ∧
      g.closeScope.paused = (decide (g.depth ≠ 1) && g.paused) ∧
      g.closeScope.resumes = g.resumes + (if g.depth = 1 then 1 else 0) ∧
      g.closeScope.pauses = g.pauses := by
  have some : g.depth.toNat ≠ 0 := by
    intro none
    exact open_ (UInt32.toNat_inj.mp none)
  have higher : (g.depth - 1).toNat + 1 = g.depth.toNat := by
    have one : (1 : UInt32) ≤ g.depth := by
      rw [UInt32.le_iff_toNat_le]
      exact Nat.one_le_iff_ne_zero.mpr some
    rw [UInt32.toNat_sub_of_le _ _ one]
    exact Nat.sub_add_cancel (Nat.one_le_iff_ne_zero.mpr some)
  have last : g.depth - 1 = 0 ↔ g.depth = 1 := by
    simp only [← UInt32.toNat_inj]
    rw [← higher]
    simp
  by_cases only : g.depth = 1
  · simp [closeScope, only]
  · simp [closeScope, open_, last, only, higher]

/-- The group stands still exactly while scopes are open. -/
def Sound (g : TimerGroup) : Prop := g.paused = decide (g.depth ≠ 0)

/-- One scope, opened and closed again, leaves the group as it was: if it ran, it has stopped and
gone on once more. -/
theorem Sound.scope {g : TimerGroup} (sound : g.Sound) :
    g.openScope.closeScope.paused = g.paused ∧
      g.openScope.closeScope.pauses = g.pauses + (if g.paused then 0 else 1) ∧
      g.openScope.closeScope.resumes = g.resumes + (if g.paused then 0 else 1) := by
  have still : g.paused = decide (g.depth ≠ 0) := sound
  by_cases idle : g.depth = 0
  · simp [openScope, closeScope, idle, still]
  · have deeper : g.depth + 1 ≠ 1 := by simpa using idle
    -- The depth may have started over with zero; then the scope is closed without a trace.
    by_cases wrapped : g.depth + 1 = 0
    · simp [openScope, closeScope, idle, still, wrapped]
    · simp [openScope, closeScope, idle, still, deeper, wrapped]

end TimerGroup

namespace Schedule

inductive Event where
  | openScope
  | closeScope (scope : Nat)
  | startTimer (every : Duration)
  | stopTimer (timer : Nat)
  | sleep (time : Duration)
  deriving DecidableEq

def step (s : Schedule) : Event → Schedule
  | .openScope => s.openScope
  | .closeScope scope => s.closeScope scope
  | .startTimer every => s.startTimer every
  | .stopTimer timer => s.stopTimer timer
  | .sleep time => s.sleep time

def after : List Event → Schedule
  | [] => empty
  | event :: earlier => (after earlier).step event

/-- Scopes are numbered in the order in which they are opened. -/
def opened (history : List Event) : Nat := history.count .openScope

/-- The scopes that were opened and not closed since, the latest first. -/
def alive : List Event → List Nat
  | [] => []
  | .openScope :: earlier => opened earlier :: alive earlier
  | .closeScope scope :: earlier => (alive earlier).erase scope
  | _ :: earlier => alive earlier

/-- How often a first scope was opened while none was. -/
def rises : List Event → Nat
  | [] => 0
  | event :: earlier =>
    rises earlier +
      if (alive earlier).length = 0 ∧ (alive (event :: earlier)).length = 1 then 1 else 0

/-- How often the last open scope was closed. -/
def falls : List Event → Nat
  | [] => 0
  | event :: earlier =>
    falls earlier +
      if (alive earlier).length ≠ 0 ∧ (alive (event :: earlier)).length = 0 then 1 else 0

/-- The group knows how many scopes are open, stands still while there are any, and has counted. -/
structure Counted (history : List Event) (g : TimerGroup) : Prop where
  depth : g.depth.toNat = (alive history).length
  paused : g.paused = decide ((alive history).length ≠ 0)
  pauses : g.pauses = rises history
  resumes : g.resumes = falls history
  balance : g.pauses = g.resumes + if g.paused then 1 else 0

namespace Counted

variable {history : List Event} {g : TimerGroup} (counted : Counted history g)

include counted

theorem depth_eq_zero_iff : g.depth = 0 ↔ (alive history).length = 0 := by
  rw [← counted.depth, ← UInt32.toNat_inj]
  rfl

theorem depth_eq_one_iff : g.depth = 1 ↔ (alive history).length = 1 := by
  rw [← counted.depth, ← UInt32.toNat_inj]
  rfl

theorem sound : g.Sound := by
  rw [TimerGroup.Sound, counted.paused]
  simp [counted.depth_eq_zero_iff]

theorem keep {event : Event} (same : alive (event :: history) = alive history) :
    Counted (event :: history) g where
  depth := by rw [same, counted.depth]
  paused := by rw [same, counted.paused]
  pauses := by
    rw [counted.pauses, rises, same, if_neg (by omega)]
    rfl
  resumes := by
    rw [counted.resumes, falls, same, if_neg (by omega)]
    rfl
  balance := counted.balance

theorem openScope (room : (alive history).length + 1 < 2 ^ 32) :
    Counted (.openScope :: history) g.openScope := by
  rw [← counted.depth] at room
  obtain ⟨depth, paused, pauses, resumes⟩ := TimerGroup.openScope_of_lt room
  have more : (alive (.openScope :: history)).length = (alive history).length + 1 := rfl
  have first := counted.depth_eq_zero_iff
  have before := counted.paused
  have balance := counted.balance
  refine ⟨?_, ?_, ?_, ?_, ?_⟩
  · rw [depth, more, counted.depth]
  · rw [paused, before, more]
    simp [first]
  · rw [pauses, counted.pauses, rises, more]
    simp [first]
  · rw [resumes, counted.resumes, falls, more]
    simp
  · rw [pauses, paused, resumes, balance, before]
    by_cases idle : (alive history).length = 0 <;> simp [first, idle]

theorem closeScope {scope : Nat} (open_ : scope ∈ alive history) :
    Counted (.closeScope scope :: history) g.closeScope := by
  have some : (alive history).length ≠ 0 := by
    intro none
    rw [List.length_eq_zero_iff.mp none] at open_
    cases open_
  have less : (alive (.closeScope scope :: history)).length + 1 = (alive history).length := by
    show ((alive history).erase scope).length + 1 = _
    rw [List.length_erase_of_mem open_]
    omega
  have last := counted.depth_eq_one_iff
  obtain ⟨depth, paused, resumes, pauses⟩ :=
    TimerGroup.closeScope_of_ne (mt counted.depth_eq_zero_iff.mp some)
  have before := counted.paused
  have balance := counted.balance
  have only : (alive (.closeScope scope :: history)).length = 0 ↔ g.depth = 1 := by
    rw [last]
    omega
  refine ⟨?_, ?_, ?_, ?_, ?_⟩
  · have total := counted.depth
    omega
  · rw [paused, before]
    simp [only, some]
  · rw [pauses, counted.pauses, rises, if_neg (by omega)]
    rfl
  · rw [resumes, counted.resumes, falls]
    simp [only, some]
  · rw [pauses, paused, resumes, balance, before]
    by_cases ends : g.depth = 1 <;> simp [ends, some]

end Counted

structure Tells (history : List Event) (s : Schedule) : Prop where
  count : s.scopes.length = opened history
  scopes : ∀ scope, s.scopes[scope]? = some true ↔ scope ∈ alive history
  distinct : (alive history).Nodup
  group : Counted history s.group

namespace Tells

variable {history : List Event} {s : Schedule} (tells : Tells history s)

include tells

theorem openScope (room : (alive history).length + 1 < 2 ^ 32) :
    Tells (.openScope :: history) s.openScope := by
  -- All scopes that are open were opened before and have smaller numbers.
  have new : opened history ∉ alive history := by
    rw [← tells.scopes, ← tells.count]
    simp
  refine ⟨?_, ?_, ?_, tells.group.openScope room⟩
  · simp [Schedule.openScope, tells.count, opened]
  · intro scope
    show (s.scopes ++ [true])[scope]? = some true ↔ scope ∈ opened history :: alive history
    rw [List.mem_cons, ← tells.scopes, ← tells.count]
    rcases Nat.lt_trichotomy scope s.scopes.length with known | rfl | unknown
    · rw [List.getElem?_append_left known]
      simp [Nat.ne_of_lt known]
    · simp
    · have beyond : (s.scopes ++ [true]).length ≤ scope := by
        rw [List.length_append]
        exact unknown
      simp [List.getElem?_eq_none beyond, Nat.ne_of_gt unknown, Nat.le_of_lt unknown]
  · exact List.nodup_cons.mpr ⟨new, tells.distinct⟩

theorem closeScope (scope : Nat) : Tells (.closeScope scope :: history) (s.closeScope scope) := by
  have erased (other : Nat) :
      other ∈ (alive history).erase scope ↔ other ≠ scope ∧ other ∈ alive history :=
    tells.distinct.mem_erase_iff
  unfold Schedule.closeScope
  split
  next open_ =>
    refine ⟨by simp [tells.count, opened], ?_, tells.distinct.erase scope,
      tells.group.closeScope ((tells.scopes scope).mp open_)⟩
    intro other
    show (s.scopes.set scope false)[other]? = some true ↔ other ∈ (alive history).erase scope
    rw [erased, ← tells.scopes, List.getElem?_set]
    by_cases same : scope = other
    · simp [same]
    · simp [same, Ne.symm same]
  next closed =>
    -- A scope that is closed already, or was never opened, is not closed again.
    have same : alive (.closeScope scope :: history) = alive history :=
      List.erase_of_not_mem (mt (tells.scopes scope).mpr closed)
    exact ⟨by simp [tells.count, opened], fun other => by rw [same, tells.scopes],
      same ▸ tells.distinct, tells.group.keep same⟩

theorem step (event : Event) (room : (alive (event :: history)).length < 2 ^ 32) :
    Tells (event :: history) (s.step event) := by
  cases event with
  | openScope => exact tells.openScope room
  | closeScope scope => exact tells.closeScope scope
  | startTimer | stopTimer | sleep =>
    exact ⟨tells.count, tells.scopes, tells.distinct, tells.group.keep rfl⟩

end Tells

theorem after_tells (history : List Event)
    (few : ∀ earlier ∈ history.tails, (alive earlier).length < 2 ^ 32) :
    Tells history (after history) := by
  induction history with
  | nil => exact ⟨rfl, by simp [after, empty, alive], .nil, ⟨rfl, rfl, rfl, rfl, rfl⟩⟩
  | cons event earlier ih =>
    simp only [List.tails_cons, List.mem_cons, forall_eq_or_imp] at few
    exact (ih few.2).step event few.1

/-- A group that comes of opening and closing scopes, and has room for one more. -/
def Reaches (g : TimerGroup) : Prop :=
  ∃ history, (∀ earlier ∈ history.tails, (alive earlier).length < 2 ^ 32) ∧
    (alive history).length + 1 < 2 ^ 32 ∧ (after history).group = g

namespace Reaches

theorem running : Reaches .running := ⟨[], by simp [alive], by simp [alive], rfl⟩

theorem sound {g : TimerGroup} (reaches : Reaches g) : g.Sound := by
  obtain ⟨history, few, -, rfl⟩ := reaches
  exact (after_tells history few).group.sound

theorem scope {g : TimerGroup} (reaches : Reaches g) : Reaches g.openScope.closeScope := by
  obtain ⟨history, few, room, rfl⟩ := reaches
  have count := (after_tells history few).count
  have back : alive (.closeScope (opened history) :: .openScope :: history) = alive history :=
    List.erase_cons_head ..
  have open_ : (after (.openScope :: history)).scopes[opened history]? = some true := by
    simp [after, step, Schedule.openScope, ← count]
  refine ⟨.closeScope (opened history) :: .openScope :: history, ?_, by rwa [back], ?_⟩
  · simp only [List.tails_cons, List.mem_cons, forall_eq_or_imp]
    exact ⟨by rw [back]; omega, room, few⟩
  · show ((after (.openScope :: history)).closeScope (opened history)).group = _
    rw [Schedule.closeScope, if_pos open_]
    rfl

end Reaches

/-- The group of timers stands still exactly while a scope is open. It has stopped as often as a
first scope was opened, and gone on as often as the last one was closed, so that it has stopped once
more than it has gone on while it stands still, and as often otherwise. It does not go on as long as
another scope than the one that is closed is open. -/
theorem scopes_balance (history : List Event)
    (few : ∀ earlier ∈ history.tails, (alive earlier).length < 2 ^ 32) :
    let g := (after history).group
    (g.isPaused = true ↔ ∃ scope, scope ∈ alive history) ∧
    g.pauses = rises history ∧
    g.resumes = falls history ∧
    g.pauses = g.resumes + (if g.isPaused then 1 else 0) ∧
    ∀ scope, ∀ other ∈ alive history, other ≠ scope →
      (after (.closeScope scope :: history)).group.isPaused = true ∧
        (after (.closeScope scope :: history)).group.resumes = g.resumes := by
  have tells := after_tells history few
  refine ⟨?_, tells.group.pauses, tells.group.resumes, tells.group.balance, ?_⟩
  · rw [TimerGroup.isPaused, tells.group.paused, decide_eq_true_iff, ← Nat.pos_iff_ne_zero,
      List.length_pos_iff_exists_mem]
  · intro scope other open_ different
    have later := (tells.closeScope scope).group
    -- Each scope has a number of its own, so that closing one leaves the other open.
    have still : other ∈ alive (.closeScope scope :: history) :=
      tells.distinct.mem_erase_iff.mpr ⟨different, open_⟩
    have some : (alive (.closeScope scope :: history)).length ≠ 0 :=
      mt List.length_eq_zero_iff.mp (List.ne_nil_of_mem still)
    refine ⟨?_, ?_⟩
    · exact later.paused.trans (decide_eq_true some)
    · refine later.resumes.trans ?_
      rw [falls, if_neg (fun ends => some ends.2), Nat.add_zero]
      exact tells.group.resumes.symm

/-- Two scopes overlap, and the older one is closed first. -/
def overlapping : List Event :=
  [.closeScope 0, .sleep (.ofMillis 5), .openScope, .startTimer (.ofMillis 2), .openScope]

theorem overlapping_scopes_balance :
    (∀ earlier ∈ overlapping.tails, (alive earlier).length < 2 ^ 32) ∧
      (after overlapping).group.isPaused = true ∧
      (after overlapping).group.pauses = 1 ∧ (after overlapping).group.resumes = 0 := by
  have few : ∀ earlier ∈ overlapping.tails, (alive earlier).length < 2 ^ 32 := by decide
  obtain ⟨paused, pauses, resumes, -, -⟩ := scopes_balance overlapping few
  exact ⟨few, paused.mpr ⟨1, by decide⟩, pauses, resumes⟩

end Schedule

end ShardedWorld
