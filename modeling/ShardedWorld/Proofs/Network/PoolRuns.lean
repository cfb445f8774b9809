import ShardedWorld.Network.Pool

/-! Callers of one pool, interleaved.

A caller is one event up to where it waits, for its turn or for its connection, and another one from
there on. All else that happens to a pool is an event as well, and the events may come in any order.
What can be seen of them is kept in a log.
-/

set_option autoImplicit false

namespace ShardedWorld.Pool

/-- A request is `glance` and `queue` if its caller is put off between the two, even where nobody
uses the lock. -/
inductive Event where
  | request (caller : CallerId) (peer : Address) (now : Instant)
  | glance (peer : Address) (now : Instant)
  | queue (caller : CallerId) (peer : Address)
  | wake (peer : Address) (now : Instant)
  | succeed (peer : Address) (now : Instant)
  | fail (peer : Address)
  | invalidate (peer : Address)
  | evictIdle (now : Instant)
  | turnStale (link : LinkId)
  | recover (link : LinkId)
  | release (link : LinkId)

/-- `began`, `opened` and `failed` are about opening a connection to a peer; `sawStale` is what a
caller finds when it looks for one, `handed` what it gets and when, and `returned` what it gives
back. -/
inductive Notice where
  | began (peer : Address) (link : LinkId)
  | opened (peer : Address) (link : LinkId)
  | failed (peer : Address) (link : LinkId)
  | sawStale (link : LinkId)
  | handed (link : LinkId) (now : Instant)
  | returned (link : LinkId)
  deriving DecidableEq

namespace Notice

def isOpened : Notice → Bool
  | .opened _ _ => true
  | _ => false

def isUse : Notice → Bool
  | .sawStale _ | .handed _ _ | .returned _ => true
  | _ => false

def hands (link : LinkId) : Notice → Bool
  | .handed found _ => found = link
  | _ => false

@[simp]
theorem hands_handed (link found : LinkId) (now : Instant) :
    (handed found now).hands link = decide (found = link) := rfl

@[simp]
theorem hands_opened (link found : LinkId) (peer : Address) :
    (opened peer found).hands link = false := rfl

@[simp]
theorem hands_returned (link found : LinkId) : (returned found).hands link = false := rfl

end Notice

def opening? (p : Pool) (peer : Address) : Option (CallerId × LinkId) :=
  (p.locks[peer]?).bind (·.opening)

/-- What a caller sees that looks for a connection to a peer. -/
def look (p : Pool) (peer : Address) : List Notice :=
  match p.entries[peer]? with
  | some entry => if entry.link ∈ p.stale then [.sawStale entry.link] else []
  | none => []

def Progress.notices (peer : Address) (now : Instant) : Progress → List Notice
  | .ready link => [.handed link now]
  | .opening link => [.began peer link]
  | .waiting => []

def queue (p : Pool) (caller : CallerId) (peer : Address) : Pool :=
  let lock := (p.locks[peer]?).getD .idle
  { p with locks := p.locks.insert peer { lock with waiting := lock.waiting ++ [caller] } }

/-- The caller takes the connection to a peer if there is one, and goes on without otherwise. -/
def glance (p : Pool) (peer : Address) (now : Instant) : Option LinkId × Pool :=
  p.lookup peer now fun p => p.releaseLock peer

def recover (p : Pool) (link : LinkId) : Pool :=
  { p with stale := p.stale.filter (· ≠ link) }

def step (p : Pool) : Event → List Notice × Pool
  | .request caller peer now =>
    let (progress, next) := p.request caller peer now
    (p.look peer ++ progress.notices peer now, next)
  | .glance peer now =>
    let (found, next) := p.glance peer now
    (p.look peer ++ found.toList.map (.handed · now), next)
  | .queue caller peer => ([], p.queue caller peer)
  | .wake peer now =>
    match p.wake peer now with
    | (some (_, progress), next) => (p.look peer ++ progress.notices peer now, next)
    | (none, next) => ([], next)
  | .succeed peer now =>
    let (given, next) := p.succeed peer now
    -- The connection is open whatever the pool makes of it.
    ((p.opening? peer).toList.map (fun (_, link) => .opened peer link) ++
      given.toList.map fun (_, link) => .handed link now, next)
  | .fail peer => ((p.opening? peer).toList.map fun (_, link) => .failed peer link, (p.fail peer).2)
  | .invalidate peer => ([], p.invalidate peer)
  | .evictIdle now => ([], (p.evictIdle now).2)
  | .turnStale link => ([], p.markStale link)
  | .recover link => ([], p.recover link)
  | .release link => (if link ∈ p.held then [.returned link] else [], p.release link)

def run (p : Pool) : List Event → List Notice × Pool
  | [] => ([], p)
  | event :: rest =>
    let (seen, p) := p.step event
    let (later, p) := p.run rest
    (seen ++ later, p)

/-! What the operations make of a pool. -/

def touch (p : Pool) (peer : Address) (entry : Entry) (now : Instant) : Pool :=
  { p with
    entries := p.entries.insert peer { entry with lastUsed := entry.lastUsed.max now }
    held := entry.link :: p.held }

def begin (p : Pool) (caller : CallerId) (peer : Address) (waiting : List CallerId) : Pool :=
  { p with
    opened := p.opened + 1
    locks := p.locks.insert peer ⟨some (caller, p.opened + 1), waiting⟩ }

def enroll (p : Pool) (peer : Address) (link : LinkId) (waiting : List CallerId) (now : Instant) :
    Pool :=
  { p with
    entries := p.entries.insert peer ⟨link, now⟩
    created := p.created + 1
    held := link :: p.held
    locks := p.locks.insert peer ⟨none, waiting⟩ }

def yield (p : Pool) (peer : Address) (waiting : List CallerId) : Pool :=
  { p with locks := p.locks.insert peer ⟨none, waiting⟩ }

theorem lookup_cases (p : Pool) (peer : Address) (now : Instant) (afterDrop : Pool → Pool) :
    (p.entries[peer]? = none ∧ p.look peer = [] ∧ p.lookup peer now afterDrop = (none, p)) ∨
    ∃ entry, p.entries[peer]? = some entry ∧
      ((p.look peer = [.sawStale entry.link] ∧
          p.lookup peer now afterDrop = (none, afterDrop (p.drop peer entry))) ∨
        (p.look peer = [] ∧
          p.lookup peer now afterDrop = (some entry.link, p.touch peer entry now))) := by
  unfold look lookup
  cases found : p.entries[peer]? with
  | none => simp
  | some entry =>
    refine .inr ⟨entry, rfl, ?_⟩
    by_cases stale : entry.link ∈ p.stale
    · simp [stale]
    · simp [stale, touch]

theorem takeTurn_eq (p : Pool) (caller : CallerId) (peer : Address) (waiting : List CallerId)
    (now : Instant) :
    p.takeTurn caller peer waiting now =
      match p.lookup peer now id with
      | (some link, next) => (.ready link, next.yield peer waiting)
      | (none, next) => (.opening (next.opened + 1), next.begin caller peer waiting) := rfl

theorem wake_cases (p : Pool) (peer : Address) (now : Instant) :
    p.wake peer now = (none, p) ∨
    ∃ caller waiting, p.opening? peer = none ∧
      p.wake peer now = ((some (caller, (p.takeTurn caller peer waiting now).1)),
        (p.takeTurn caller peer waiting now).2) := by
  unfold wake
  split
  next caller waiting found =>
    exact .inr ⟨caller, waiting, by simp [opening?, found], rfl⟩
  · exact .inl rfl

theorem opening?_eq_none {p : Pool} {peer : Address}
    (unlocked : ∀ caller link waiting, p.locks[peer]? ≠ some ⟨some (caller, link), waiting⟩) :
    p.opening? peer = none := by
  refine Option.eq_none_iff_forall_ne_some.mpr ?_
  rintro ⟨caller, link⟩ busy
  obtain ⟨⟨opening, waiting⟩, found, rfl⟩ := Option.bind_eq_some_iff.mp busy
  exact unlocked caller link waiting found

theorem succeed_cases (p : Pool) (peer : Address) (now : Instant) :
    (p.opening? peer = none ∧ p.succeed peer now = (none, p)) ∨
    ∃ caller link waiting, p.opening? peer = some (caller, link) ∧
      p.succeed peer now = (some (caller, link), p.enroll peer link waiting now) := by
  unfold succeed
  split
  next caller link waiting found =>
    exact .inr ⟨caller, link, waiting, by simp [opening?, found], rfl⟩
  next other => exact .inl ⟨opening?_eq_none other, rfl⟩

theorem fail_cases (p : Pool) (peer : Address) :
    (p.opening? peer = none ∧ (p.fail peer).2 = p) ∨
    ∃ caller link waiting, p.opening? peer = some (caller, link) ∧
      (p.fail peer).2 = p.yield peer waiting := by
  unfold fail
  split
  next caller link waiting found =>
    exact .inr ⟨caller, link, waiting, by simp [opening?, found], rfl⟩
  next other => exact .inl ⟨opening?_eq_none other, rfl⟩

/-! What the operations do to the locks. -/

theorem releaseLock_frame (p : Pool) (peer : Address) :
    p.releaseLock peer = { p with locks := (p.releaseLock peer).locks } := by
  unfold releaseLock
  split
  · split <;> rfl
  · rfl

/-- A lock that is forgotten is used by nobody, so nothing is being opened under it. -/
@[simp]
theorem releaseLock_opening? (p : Pool) (peer other : Address) :
    (p.releaseLock peer).opening? other = p.opening? other := by
  unfold releaseLock
  split
  next lock found =>
    split
    next idle =>
      simp only [opening?, Std.ExtTreeMap.getElem?_erase]
      split
      next same =>
        obtain rfl := Std.LawfulEqOrd.eq_of_compare same
        simp only [CreationLock.isIdle, Bool.and_eq_true, Option.isNone_iff_eq_none] at idle
        simp [found, idle.1]
      · rfl
    · rfl
  · rfl

theorem insert_opening? (p : Pool) (peer other : Address) (lock : CreationLock) :
    opening? { p with locks := p.locks.insert peer lock } other =
      if peer = other then lock.opening else p.opening? other := by
  simp only [opening?, Std.ExtTreeMap.getElem?_insert, Std.compare_eq_iff_eq]
  split <;> rfl

theorem begin_opening? (p : Pool) (caller : CallerId) (peer other : Address)
    (waiting : List CallerId) :
    (p.begin caller peer waiting).opening? other =
      if peer = other then some (caller, p.opened + 1) else p.opening? other :=
  insert_opening? p peer other _

theorem enroll_opening? (p : Pool) (peer other : Address) (link : LinkId) (waiting : List CallerId)
    (now : Instant) :
    (p.enroll peer link waiting now).opening? other =
      if peer = other then none else p.opening? other :=
  insert_opening? p peer other _

theorem yield_opening? (p : Pool) (peer other : Address) (waiting : List CallerId) :
    (p.yield peer waiting).opening? other = if peer = other then none else p.opening? other :=
  insert_opening? p peer other _

@[simp]
theorem queue_opening? (p : Pool) (caller : CallerId) (peer other : Address) :
    (p.queue caller peer).opening? other = p.opening? other := by
  rw [queue, insert_opening?]
  split
  next same =>
    subst same
    cases found : p.locks[peer]? <;> simp [opening?, found, CreationLock.idle]
  · rfl

end ShardedWorld.Pool
