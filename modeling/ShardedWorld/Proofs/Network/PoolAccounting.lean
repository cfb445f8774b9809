import ShardedWorld.Proofs.Network.PoolLedger

/-! A pool keeps account of its connections in every run of its callers. -/

set_option autoImplicit false

namespace ShardedWorld.Pool

variable {p : Pool} {log : List Notice}

namespace Accounted

theorem releaseLock (accounted : p.Accounted log) (peer : Address) :
    (p.releaseLock peer).Accounted log := by
  rw [releaseLock_frame]
  refine accounted.relocked fun other => ?_
  rw [← releaseLock_opening? p peer other, releaseLock_frame p peer]

theorem queue (accounted : p.Accounted log) (caller : CallerId) (peer : Address) :
    (p.queue caller peer).Accounted log :=
  accounted.relocked fun other => queue_opening? p caller peer other

/-- What is done after a stale connection was dropped changes locks at most. -/
structure Relocks (afterDrop : Pool → Pool) : Prop where
  accounted : ∀ {q : Pool} {log : List Notice}, q.Accounted log → (afterDrop q).Accounted log
  entries : ∀ q, (afterDrop q).entries = q.entries
  opening : ∀ q peer, (afterDrop q).opening? peer = q.opening? peer

theorem Relocks.none : Relocks id := ⟨id, fun _ => rfl, fun _ _ => rfl⟩

theorem Relocks.forget (peer : Address) : Relocks fun q => q.releaseLock peer where
  accounted := (·.releaseLock peer)
  entries q := by rw [releaseLock_frame]
  opening q := releaseLock_opening? q peer

theorem lookup (accounted : p.Accounted log) {afterDrop : Pool → Pool} (relocks : Relocks afterDrop)
    (peer : Address) (now : Instant) {found : Option LinkId} {next : Pool}
    (looked : p.lookup peer now afterDrop = (found, next)) :
    next.Accounted (log ++ (p.look peer ++ found.toList.map (.handed · now))) ∧
      (found = .none → next.entries[peer]? = .none) ∧
      ∀ other, next.opening? other = p.opening? other := by
  rcases p.lookup_cases peer now afterDrop with
    ⟨absent, sees, outcome⟩ | ⟨entry, there, ⟨sees, outcome⟩ | ⟨sees, outcome⟩⟩
  all_goals
    rw [outcome, Prod.mk.injEq] at looked
    obtain ⟨rfl, rfl⟩ := looked
    rw [sees]
  · exact ⟨by simpa using accounted, fun _ => absent, fun _ => rfl⟩
  · refine ⟨?_, fun _ => ?_, fun other => relocks.opening _ other⟩
    · exact relocks.accounted ((accounted.drop there).sight (by simp [Pool.drop]))
    · simp [relocks.entries, Pool.drop]
  · refine ⟨accounted.touch there now, fun gone => ?_, fun _ => rfl⟩
    cases gone

theorem takeTurn (accounted : p.Accounted log) {peer : Address} (idle : p.opening? peer = none)
    (caller : CallerId) (waiting : List CallerId) (now : Instant) :
    (p.takeTurn caller peer waiting now).2.Accounted
      (log ++ (p.look peer ++ (p.takeTurn caller peer waiting now).1.notices peer now)) := by
  rw [takeTurn_eq]
  rcases looked : p.lookup peer now id with ⟨found, next⟩
  obtain ⟨accounted, absent, same⟩ := accounted.lookup .none peer now looked
  rw [← same] at idle
  cases found with
  | none =>
    have began := accounted.begin idle (absent rfl) caller waiting
    simpa [Progress.notices] using began
  | some link =>
    refine Accounted.relocked accounted fun other => ?_
    by_cases here : peer = other
    · rw [← here, idle]
      exact (yield_opening? next peer peer waiting).trans (if_pos rfl)
    · exact (yield_opening? next peer other waiting).trans (if_neg here)

theorem request (accounted : p.Accounted log) (caller : CallerId) (peer : Address) (now : Instant) :
    (p.request caller peer now).2.Accounted
      (log ++ (p.look peer ++ (p.request caller peer now).1.notices peer now)) := by
  unfold Pool.request
  rcases looked : p.lookup peer now fun p => p.releaseLock peer with ⟨found, next⟩
  obtain ⟨accounted, absent, same⟩ := accounted.lookup (.forget peer) peer now looked
  cases found with
  | some link => exact accounted
  | none =>
    have sees : next.look peer = [] := by simp [look, absent rfl]
    simp only [Option.toList_none, List.map_nil, List.append_nil] at accounted
    by_cases unused : ((next.locks[peer]?).getD .idle).isIdle
    · have idle : next.opening? peer = none := by
        cases found : next.locks[peer]? with
        | none => simp [opening?, found]
        | some lock =>
          simp only [found, Option.getD_some, CreationLock.isIdle, Bool.and_eq_true,
            Option.isNone_iff_eq_none] at unused
          simp [opening?, found, unused.1]
      have turn := accounted.takeTurn idle caller [] now
      rw [sees] at turn
      simpa only [if_pos unused, List.append_assoc, List.nil_append] using turn
    · simp only [if_neg unused, Progress.notices, List.append_nil]
      exact accounted.queue caller peer

theorem invalidate (accounted : p.Accounted log) (peer : Address) :
    (p.invalidate peer).Accounted log := by
  unfold Pool.invalidate
  split
  next entry found => exact (accounted.drop found).releaseLock peer
  next => exact accounted

end Accounted

theorem dropAll_accounted (accounted : p.Accounted log) (idle : List (Address × Entry))
    (distinct : idle.Pairwise fun one other => one.1 ≠ other.1)
    (present : ∀ pair ∈ idle, p.entries[pair.1]? = some pair.2) :
    let next := idle.foldl (fun p (peer, entry) => (p.drop peer entry).releaseLock peer) p
    next.Accounted log ∧ next.closed = p.closed ++ idle.map (·.2.link) ∧
      ∀ (peer : Address) (entry : Entry), next.entries[peer]? = some entry ↔
        p.entries[peer]? = some entry ∧ (peer, entry) ∉ idle := by
  -- No two of the entries are of one peer, so each drop leaves those to come where they are.
  induction idle generalizing p with
  | nil => simpa using accounted
  | cons pair rest ih =>
    obtain ⟨peer, entry⟩ := pair
    obtain ⟨different, distinct⟩ := List.pairwise_cons.mp distinct
    have found : p.entries[peer]? = some entry := present (peer, entry) (by simp)
    have entries (other : Address) : ((p.drop peer entry).releaseLock peer).entries[other]? =
        if peer = other then none else p.entries[other]? := by
      rw [releaseLock_frame]
      simp only [Pool.drop, Std.ExtTreeMap.getElem?_erase, Std.compare_eq_iff_eq]
    have closed : ((p.drop peer entry).releaseLock peer).closed = p.closed ++ [entry.link] := by
      rw [releaseLock_frame]
      rfl
    obtain ⟨accounted, closes, leaves⟩ := ih ((accounted.drop found).releaseLock peer) distinct (by
      intro pair member
      rw [entries, if_neg (different pair member)]
      exact present pair (List.mem_cons_of_mem _ member))
    refine ⟨accounted, ?_, ?_⟩
    · rw [List.foldl_cons, closes, closed]
      simp
    · intro other e
      rw [List.foldl_cons, leaves, entries]
      by_cases same : peer = other
      · subst same
        simp only [if_true, reduceCtorEq, false_and, found, Option.some.injEq, List.mem_cons,
          not_or, false_iff]
        rintro ⟨rfl, fresh, -⟩
        exact fresh rfl
      · simp [same, Ne.symm same]

theorem idlePeers_spec (p : Pool) (now : Instant) :
    ((p.idlePeers now).Pairwise fun one other => one.1 ≠ other.1) ∧
    ∀ (peer : Address) (entry : Entry), (peer, entry) ∈ p.idlePeers now ↔
      p.entries[peer]? = some entry ∧ p.config.idleTimeout < now.since entry.lastUsed ∧
        entry.link ∉ p.held := by
  refine ⟨?_, ?_⟩
  · refine (List.Pairwise.filter _ ?_)
    refine Std.ExtTreeMap.distinct_keys_toList.imp ?_
    intro one other different same
    exact different (Std.compare_eq_iff_eq.mpr same)
  · intro peer entry
    simp [idlePeers, Std.ExtTreeMap.mem_toList_iff_getElem?_eq_some]

theorem Accounted.swept (accounted : p.Accounted log) (now : Instant) :
    (p.evictIdle now).2.Accounted log ∧
      (p.evictIdle now).2.closed.length = p.closed.length + (p.evictIdle now).1 ∧
      ∀ (peer : Address) (entry : Entry), (p.evictIdle now).2.entries[peer]? = some entry ↔
        p.entries[peer]? = some entry ∧ (peer, entry) ∉ p.idlePeers now := by
  obtain ⟨distinct, members⟩ := p.idlePeers_spec now
  obtain ⟨after, closes, leaves⟩ := dropAll_accounted accounted (p.idlePeers now) distinct
    fun pair member => ((members pair.1 pair.2).mp member).1
  change (p.evictIdle now).2.closed = _ at closes
  refine ⟨after, ?_, leaves⟩
  rw [closes, List.length_append, List.length_map]
  rfl

theorem step_accounted (accounted : p.Accounted log) (event : Event) :
    (p.step event).2.Accounted (log ++ (p.step event).1) := by
  cases event with
  | request caller peer now => exact accounted.request caller peer now
  | glance peer now =>
    simp only [step, glance]
    rcases looked : p.lookup peer now fun p => p.releaseLock peer with ⟨found, next⟩
    exact (accounted.lookup (.forget peer) peer now looked).1
  | queue caller peer => simpa [step] using accounted.queue caller peer
  | wake peer now =>
    rcases p.wake_cases peer now with outcome | ⟨caller, waiting, idle, outcome⟩
    · simpa [step, outcome] using accounted
    · simpa [step, outcome] using accounted.takeTurn idle caller waiting now
  | succeed peer now =>
    rcases p.succeed_cases peer now with ⟨idle, outcome⟩ | ⟨caller, link, waiting, busy, outcome⟩
    · simpa [step, idle, outcome] using accounted
    · simpa [step, busy, outcome] using accounted.enroll busy waiting now
  | fail peer =>
    rcases p.fail_cases peer with ⟨idle, outcome⟩ | ⟨caller, link, waiting, busy, outcome⟩
    · simpa [step, idle, outcome] using accounted
    · simpa [step, busy, outcome] using accounted.yield busy waiting
  | invalidate peer => simpa [step] using accounted.invalidate peer
  | evictIdle now =>
    simp only [step, List.append_nil]
    exact (accounted.swept now).1
  | turnStale link =>
    simp only [step, List.append_nil]
    exact accounted.relocked fun _ => rfl
  | recover link =>
    simp only [step, List.append_nil]
    exact accounted.relocked fun _ => rfl
  | release link =>
    by_cases member : link ∈ p.held
    · simpa [step, member] using accounted.giveBack member
    · simpa [step, member, release, List.erase_of_not_mem member] using accounted

theorem lookup_config (p : Pool) (peer : Address) (now : Instant) {afterDrop : Pool → Pool}
    (same : ∀ q, (afterDrop q).config = q.config) :
    (p.lookup peer now afterDrop).2.config = p.config := by
  rcases p.lookup_cases peer now afterDrop with
    ⟨-, -, outcome⟩ | ⟨entry, -, ⟨-, outcome⟩ | ⟨-, outcome⟩⟩
  all_goals rw [outcome]
  · exact same _
  · rfl

theorem releaseLock_config (p : Pool) (peer : Address) :
    (p.releaseLock peer).config = p.config := by
  rw [releaseLock_frame]

theorem takeTurn_config (p : Pool) (caller : CallerId) (peer : Address) (waiting : List CallerId)
    (now : Instant) : (p.takeTurn caller peer waiting now).2.config = p.config := by
  have kept : (p.lookup peer now id).2.config = p.config := p.lookup_config peer now fun _ => rfl
  rw [takeTurn_eq, ← kept]
  rcases p.lookup peer now id with ⟨_ | link, next⟩ <;> rfl

theorem request_config (p : Pool) (caller : CallerId) (peer : Address) (now : Instant) :
    (p.request caller peer now).2.config = p.config := by
  unfold request
  rw [← p.lookup_config peer now fun q => q.releaseLock_config peer]
  rcases p.lookup peer now fun p => p.releaseLock peer with ⟨_ | link, next⟩
  · dsimp only
    split
    · exact next.takeTurn_config caller peer [] now
    · rfl
  · rfl

theorem step_config (p : Pool) (event : Event) : (p.step event).2.config = p.config := by
  cases event with
  | request caller peer now => exact p.request_config caller peer now
  | glance peer now => exact p.lookup_config peer now fun q => q.releaseLock_config peer
  | queue | turnStale | recover | release => rfl
  | wake peer now =>
    rcases p.wake_cases peer now with outcome | ⟨caller, waiting, -, outcome⟩
    · simp only [step, outcome]
    · simp only [step, outcome, takeTurn_config]
  | succeed peer now =>
    rcases p.succeed_cases peer now with ⟨-, outcome⟩ | ⟨caller, link, waiting, -, outcome⟩
    · simp only [step, outcome]
    · simp only [step, outcome, enroll]
  | fail peer =>
    rcases p.fail_cases peer with ⟨-, outcome⟩ | ⟨caller, link, waiting, -, outcome⟩
    · simp only [step, outcome]
    · simp only [step, outcome, yield]
  | invalidate peer =>
    simp only [step, invalidate]
    split
    · exact releaseLock_config _ peer
    · rfl
  | evictIdle now =>
    simp only [step, evictIdle]
    generalize p.idlePeers now = idle
    induction idle generalizing p with
    | nil => rfl
    | cons pair rest ih => rw [List.foldl_cons, ih, releaseLock_config, drop]

theorem run_config (p : Pool) (events : List Event) : (p.run events).2.config = p.config := by
  induction events generalizing p with
  | nil => rfl
  | cons event rest ih => exact (ih (p.step event).2).trans (p.step_config event)

theorem run_accounted (accounted : p.Accounted log) (events : List Event) :
    (p.run events).2.Accounted (log ++ (p.run events).1) := by
  induction events generalizing p log with
  | nil => simpa [run] using accounted
  | cons event rest ih =>
    have later := ih (step_accounted accounted event)
    rwa [List.append_assoc] at later

/-- The sweep at some time drops a connection exactly if it was last handed out longer ago than the
timeout and all that was handed out was given back. -/
theorem Accounted.sweeps (accounted : p.Accounted log) (now : Instant) (peer : Address)
    (link : LinkId) :
    (p.evictIdle now).2.Pools peer link ↔
      p.Pools peer link ∧
        ¬((∀ time, .handed link time ∈ log → p.config.idleTimeout < now.since time) ∧
          log.countP (·.hands link) = log.count (.returned link)) := by
  obtain ⟨-, members⟩ := p.idlePeers_spec now
  obtain ⟨-, -, leaves⟩ := accounted.swept now
  -- What an entry says of its last use and its holders, the log says as well.
  have unused (entry : Entry) (there : p.entries[peer]? = some entry) :
      (p.config.idleTimeout < now.since entry.lastUsed ∧ entry.link ∉ p.held) ↔
        (∀ time, .handed entry.link time ∈ log → p.config.idleTimeout < now.since time) ∧
          log.countP (·.hands entry.link) = log.count (.returned entry.link) := by
    obtain ⟨last, latest⟩ := accounted.handouts.used peer entry there
    have held := accounted.handouts.held entry.link
    refine and_congr ⟨?_, fun all => all _ last⟩ ?_
    · intro idle time handed
      have earlier : time.nanos ≤ entry.lastUsed.nanos := latest time handed
      have idle : p.config.idleTimeout.nanos < now.nanos - entry.lastUsed.nanos := idle
      show p.config.idleTimeout.nanos < now.nanos - time.nanos
      omega
    · rw [← List.count_eq_zero]
      omega
  constructor
  · rintro ⟨entry, there, rfl⟩
    obtain ⟨before, stays⟩ := (leaves peer entry).mp there
    refine ⟨⟨entry, before, rfl⟩, fun idle => stays ?_⟩
    exact (members peer entry).mpr ⟨before, (unused entry before).mpr idle⟩
  · rintro ⟨⟨entry, before, rfl⟩, busy⟩
    refine ⟨entry, (leaves peer entry).mpr ⟨before, fun idle => busy ?_⟩, rfl⟩
    exact (unused entry before).mp ((members peer entry).mp idle).2

theorem Accounted.sweep_size (accounted : p.Accounted log) (now : Instant) :
    (p.evictIdle now).2.size + (p.evictIdle now).1 = p.size := by
  obtain ⟨after, closes, -⟩ := accounted.swept now
  -- No connection is opened by a sweep, so that as many are left as are not closed.
  obtain ⟨created, evicted⟩ := And.intro accounted.holdings.created accounted.holdings.evicted
  obtain ⟨created', evicted'⟩ := And.intro after.holdings.created after.holdings.evicted
  have balance := accounted.holdings.balance
  have balance' := after.holdings.balance
  omega

theorem Accounted.underWay_unique (accounted : p.Accounted log) {peer : Address}
    {link other : LinkId} (first : UnderWay log peer link) (second : UnderWay log peer other) :
    link = other := by
  obtain ⟨caller, busy⟩ := (accounted.openings.opening peer link).mp first
  obtain ⟨caller', busy'⟩ := (accounted.openings.opening peer other).mp second
  rw [busy, Option.some.injEq, Prod.mk.injEq] at busy'
  exact busy'.2

theorem Accounted.opened_kept_or_closed (accounted : p.Accounted log) {peer : Address}
    {link : LinkId} (opened : .opened peer link ∈ log) :
    (∀ other, p.Pools other link ↔ other = peer) ∧ link ∉ p.closed ∨
      (∀ other, ¬p.Pools other link) ∧ p.closed.count link = 1 := by
  have holdings := accounted.holdings
  by_cases closed : link ∈ p.closed
  · refine .inr ⟨fun other pooled => (holdings.pooled other link pooled).2 closed, ?_⟩
    rw [holdings.once.count, if_pos closed]
  · have here := (holdings.kept peer link opened).resolve_right closed
    refine .inl ⟨fun other => ⟨fun pooled => accounted.pools_unique pooled here, ?_⟩, closed⟩
    rintro rfl
    exact here

/-- At most one connection to a peer is under way, the counters balance, and every connection that
was opened is the one of its peer and open, or was closed once and is pooled nowhere. No connection
that was seen to be stale is handed out later. A sweep drops exactly the connections that were last
handed out longer ago than the timeout and that nobody holds. -/
theorem connections_accounted (config : PoolConfig) (events : List Event) :
    let (log, p) := (Pool.empty config).run events
    (∀ peer link other, UnderWay log peer link → UnderWay log peer other → link = other) ∧
    p.created = p.evicted + p.size ∧
    p.created = log.countP (·.isOpened) ∧
    p.evicted = p.closed.length ∧
    (∀ peer link, .opened peer link ∈ log →
      (∀ other, p.Pools other link ↔ other = peer) ∧ link ∉ p.closed ∨
      (∀ other, ¬p.Pools other link) ∧ p.closed.count link = 1) ∧
    (∀ peer link, p.Pools peer link → .opened peer link ∈ log) ∧
    (∀ link ∈ p.closed, ∃ peer, .opened peer link ∈ log) ∧
    (∀ earlier later, log = earlier ++ later →
      ∀ link time, .sawStale link ∈ earlier → .handed link time ∉ later) ∧
    ∀ now,
      (p.evictIdle now).2.size + (p.evictIdle now).1 = p.size ∧
      ∀ peer link, (p.evictIdle now).2.Pools peer link ↔
        p.Pools peer link ∧
          ¬((∀ time, .handed link time ∈ log → config.idleTimeout < now.since time) ∧
            log.countP (·.hands link) = log.count (.returned link)) := by
  -- From here on nothing matters of the run but that log and pool agree.
  have accounted := run_accounted (.empty config) events
  have kept : ((Pool.empty config).run events).2.config = config := run_config _ events
  generalize (Pool.empty config).run events = outcome at accounted kept
  obtain ⟨log, p⟩ := outcome
  change p.Accounted log at accounted
  subst kept
  have holdings := accounted.holdings
  refine ⟨fun _ _ _ => accounted.underWay_unique, holdings.balance, holdings.created,
    holdings.evicted, fun _ _ => accounted.opened_kept_or_closed,
    fun peer link pooled => (holdings.pooled peer link pooled).1, holdings.closed, ?_,
    fun now => ⟨accounted.sweep_size now, accounted.sweeps now⟩⟩
  rintro earlier later rfl link time seen handed
  have apart := (List.pairwise_append.mp accounted.handouts.fresh).2.2
  exact apart _ seen _ handed link time rfl rfl

/-- Two callers share a connection. Its peer goes, and the third caller gets another one. -/
def replacing : List Event :=
  [.request 0 (.loopback 8001) .start, .request 1 (.loopback 8001) .start,
    .succeed (.loopback 8001) .start, .wake (.loopback 8001) .start, .turnStale 1,
    .request 2 (.loopback 8001) .start, .succeed (.loopback 8001) .start, .release 2]

/-- The first connection was closed, the second one is pooled until a sweep after the timeout. -/
theorem stale_connection_replaced :
    let (log, p) := (Pool.empty .standard).run replacing
    log = [.began (.loopback 8001) 1, .opened (.loopback 8001) 1, .handed 1 .start,
      .handed 1 .start, .sawStale 1, .began (.loopback 8001) 2, .opened (.loopback 8001) 2,
      .handed 2 .start, .returned 2] ∧
    p.created = 2 ∧ p.evicted = 1 ∧ p.size = 1 ∧
    (∀ peer, ¬p.Pools peer 1) ∧ p.closed.count 1 = 1 ∧
    (∀ peer, p.Pools peer 2 ↔ peer = .loopback 8001) ∧ 2 ∉ p.closed ∧
    (p.evictIdle (.after .start (.ofSeconds 300))).2.Pools (.loopback 8001) 2 ∧
    ∀ peer, ¬(p.evictIdle (.after .start (.ofSeconds 301))).2.Pools peer 2 := by
  have account := connections_accounted .standard replacing
  have logged : ((Pool.empty .standard).run replacing).1 = [.began (.loopback 8001) 1,
      .opened (.loopback 8001) 1, .handed 1 .start, .handed 1 .start, .sawStale 1,
      .began (.loopback 8001) 2, .opened (.loopback 8001) 2, .handed 2 .start, .returned 2] := by
    decide +kernel
  have gone : ((Pool.empty .standard).run replacing).2.closed = [1] := by decide +kernel
  generalize (Pool.empty .standard).run replacing = outcome at account logged gone ⊢
  obtain ⟨log, p⟩ := outcome
  obtain rfl : log = _ := logged
  replace gone : p.closed = [1] := gone
  obtain ⟨-, balance, created, evicted, kept, -, -, -, sweeps⟩ := account
  -- Of the two connections only the first one is among those that were closed.
  obtain ⟨nowhere, once⟩ := (kept (.loopback 8001) 1 (by simp)).resolve_left (by simp [gone])
  obtain ⟨here, kept⟩ := (kept (.loopback 8001) 2 (by simp)).resolve_right (by simp [gone])
  replace created : p.created = 2 := created
  rw [gone] at evicted
  replace evicted : p.evicted = 1 := evicted
  refine ⟨rfl, created, evicted, by omega, nowhere, once, here, kept, ?_, fun peer swept => ?_⟩
  · refine ((sweeps _).2 _ 2).mpr ⟨(here _).mpr rfl, fun idle => ?_⟩
    exact absurd (idle.1 .start (by simp)) (by decide)
  · refine (((sweeps _).2 peer 2).mp swept).2 ⟨fun time handed => ?_, rfl⟩
    obtain rfl : time = .start := by simpa using handed
    decide

end ShardedWorld.Pool
