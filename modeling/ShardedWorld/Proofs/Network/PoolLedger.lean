import ShardedWorld.Proofs.Network.PoolRuns

/-! A pool keeps account of its connections.

However its callers interleave, at most one connection to a peer is being opened, the counters
balance, and every connection that was opened is pooled or was closed once.
-/

set_option autoImplicit false

namespace ShardedWorld.Pool

/-- A connection whose opening has begun and has neither succeeded nor failed. -/
def UnderWay (log : List Notice) (peer : Address) (link : LinkId) : Prop :=
  .began peer link ∈ log ∧ .opened peer link ∉ log ∧ .failed peer link ∉ log

def Pools (p : Pool) (peer : Address) (link : LinkId) : Prop :=
  ∃ entry, p.entries[peer]? = some entry ∧ entry.link = link

def LastUse (log : List Notice) (link : LinkId) (time : Instant) : Prop :=
  .handed link time ∈ log ∧ ∀ other, .handed link other ∈ log → other ≤ time

theorem LastUse.elsewhere {log later : List Notice} {link : LinkId} {time : Instant}
    (use : LastUse log link time) (others : ∀ now, .handed link now ∉ later) :
    LastUse (log ++ later) link time := by
  refine ⟨List.mem_append_left later use.1, ?_⟩
  intro other member
  rcases List.mem_append.mp member with before | after
  · exact use.2 other before
  · exact absurd after (others other)

theorem LastUse.again {log : List Notice} {link : LinkId} {time : Instant}
    (use : LastUse log link time) (now : Instant) :
    LastUse (log ++ [.handed link now]) link (time.max now) := by
  have latest : time ≤ time.max now ∧ now ≤ time.max now := by
    unfold Instant.max
    split
    next earlier => exact ⟨Nat.le_of_lt earlier, Nat.le_refl _⟩
    next later => exact ⟨Nat.le_refl _, Nat.not_lt.mp later⟩
  refine ⟨?_, ?_⟩
  · simp only [Instant.max]
    split
    · simp
    · exact List.mem_append_left _ use.1
  · intro other member
    simp only [List.mem_append, List.mem_singleton, Notice.handed.injEq, true_and] at member
    rcases member with before | rfl
    · exact Nat.le_trans (use.2 other before) latest.1
    · exact latest.2

/-- The connections that are being opened are those under way, one for a peer that has none yet. -/
structure Openings (p : Pool) (log : List Notice) : Prop where
  numbered : ∀ peer link, .began peer link ∈ log → link ≤ p.opened
  own : ∀ peer other link, .began peer link ∈ log → .began other link ∈ log → peer = other
  begun : ∀ peer link, .opened peer link ∈ log ∨ .failed peer link ∈ log → .began peer link ∈ log
  opening : ∀ peer link, UnderWay log peer link ↔ ∃ caller, p.opening? peer = some (caller, link)
  alone : ∀ peer, p.opening? peer ≠ none → p.entries[peer]? = none

/-- The connections that were opened are pooled or were closed, and are counted. -/
structure Holdings (p : Pool) (log : List Notice) : Prop where
  pooled : ∀ peer link, p.Pools peer link → .opened peer link ∈ log ∧ link ∉ p.closed
  kept : ∀ peer link, .opened peer link ∈ log → p.Pools peer link ∨ link ∈ p.closed
  closed : ∀ link ∈ p.closed, ∃ peer, .opened peer link ∈ log
  once : p.closed.Nodup
  balance : p.created = p.evicted + p.size
  created : p.created = log.countP (·.isOpened)
  evicted : p.evicted = p.closed.length

/-- What callers saw and got is in keeping with what the pool holds. -/
structure Handouts (p : Pool) (log : List Notice) : Prop where
  seen : ∀ link, .sawStale link ∈ log → link ∈ p.closed
  fresh : log.Pairwise fun earlier later =>
    ∀ link time, earlier = .sawStale link → later ≠ .handed link time
  handed : ∀ link time, .handed link time ∈ log → ∃ peer, .opened peer link ∈ log
  used : ∀ (peer : Address) (entry : Entry),
    p.entries[peer]? = some entry → LastUse log entry.link entry.lastUsed
  held : ∀ link, p.held.count link + log.count (.returned link) = log.countP (·.hands link)

structure Accounted (p : Pool) (log : List Notice) : Prop where
  openings : Openings p log
  holdings : Holdings p log
  handouts : Handouts p log

/-! What does not change what each part says. -/

variable {p q : Pool} {log later : List Notice}

theorem Openings.keep (openings : p.Openings log) (uses : ∀ notice ∈ later, notice.isUse)
    (opened : q.opened = p.opened) (opening : ∀ peer, q.opening? peer = p.opening? peer)
    (absent : ∀ peer : Address, p.entries[peer]? = none → q.entries[peer]? = none) :
    q.Openings (log ++ later) := by
  have begins (peer : Address) (link : LinkId) : .began peer link ∉ later :=
    fun member => nomatch uses _ member
  have opens (peer : Address) (link : LinkId) : .opened peer link ∉ later :=
    fun member => nomatch uses _ member
  have fails (peer : Address) (link : LinkId) : .failed peer link ∉ later :=
    fun member => nomatch uses _ member
  exact
    { numbered := by simpa [begins, opened] using openings.numbered
      own := by simpa [begins] using openings.own
      begun := by simpa [begins, opens, fails] using openings.begun
      opening := by simpa [UnderWay, begins, opens, fails, opening] using openings.opening
      alone := by
        intro peer busy
        rw [opening] at busy
        exact absent peer (openings.alone peer busy) }

theorem Holdings.keep (holdings : p.Holdings log) (unopened : ∀ notice ∈ later, ¬notice.isOpened)
    (pools : ∀ peer link, q.Pools peer link ↔ p.Pools peer link) (size : q.size = p.size)
    (closed : q.closed = p.closed) (created : q.created = p.created)
    (evicted : q.evicted = p.evicted) : q.Holdings (log ++ later) := by
  have opens (peer : Address) (link : LinkId) : .opened peer link ∉ later :=
    fun member => unopened _ member rfl
  exact
    { pooled := by simpa [opens, pools, closed] using holdings.pooled
      kept := by simpa [opens, pools, closed] using holdings.kept
      closed := by simpa [opens, closed] using holdings.closed
      once := closed ▸ holdings.once
      balance := by rw [created, evicted, size, holdings.balance]
      created := by
        rw [created, holdings.created, List.countP_append, List.countP_eq_zero.mpr unopened]
        rfl
      evicted := by rw [evicted, closed, holdings.evicted] }

theorem Handouts.keep (handouts : p.Handouts log) (useless : ∀ notice ∈ later, ¬notice.isUse)
    (closed : ∀ link ∈ p.closed, link ∈ q.closed)
    (entries : ∀ (peer : Address) (entry : Entry),
      q.entries[peer]? = some entry → p.entries[peer]? = some entry)
    (held : q.held = p.held) : q.Handouts (log ++ later) := by
  have sees (link : LinkId) : .sawStale link ∉ later := fun member => useless _ member rfl
  have hands (link : LinkId) (time : Instant) : .handed link time ∉ later :=
    fun member => useless _ member rfl
  have returns (link : LinkId) : .returned link ∉ later := fun member => useless _ member rfl
  refine ⟨?_, ?_, ?_, ?_, ?_⟩
  · intro link member
    exact closed link (handouts.seen link (by simpa [sees] using member))
  · refine List.pairwise_append.mpr ⟨handouts.fresh, ?_, ?_⟩
    · refine List.pairwise_of_forall_mem_list ?_
      rintro earlier - last member link time - rfl
      exact hands link time member
    · rintro earlier - last member link time - rfl
      exact hands link time member
  · intro link time member
    obtain ⟨peer, opened⟩ := handouts.handed link time (by simpa [hands] using member)
    exact ⟨peer, List.mem_append_left _ opened⟩
  · intro peer entry there
    exact (handouts.used peer entry (entries peer entry there)).elsewhere (hands entry.link)
  · intro link
    have none : later.countP (·.hands link) = 0 := by
      refine List.countP_eq_zero.mpr ?_
      rintro (_ | _ | _ | _ | ⟨found, time⟩ | _) member
      case handed => exact absurd member (hands found time)
      all_goals exact Bool.false_ne_true
    rw [held, List.count_append, List.countP_append, none,
      List.count_eq_zero_of_not_mem (returns link)]
    exact handouts.held link

namespace Accounted

theorem empty (config : PoolConfig) : (Pool.empty config).Accounted [] where
  openings :=
    ⟨by simp, by simp, by simp, by simp [UnderWay, opening?, Pool.empty], by simp [Pool.empty]⟩
  holdings :=
    ⟨by simp [Pools, Pool.empty], by simp, by simp [Pool.empty], List.nodup_nil, rfl, rfl, rfl⟩
  handouts := ⟨by simp, .nil, by simp, by simp [Pool.empty], by simp [Pool.empty]⟩

/-- Locks and staleness do not matter, but for what is being opened. -/
theorem relocked (accounted : p.Accounted log) {locks : Table Address CreationLock}
    {stale : List LinkId}
    (same : ∀ peer, opening? { p with locks, stale } peer = p.opening? peer) :
    Accounted { p with locks, stale } log := by
  have openings : Openings { p with locks, stale } (log ++ []) :=
    accounted.openings.keep (by simp) rfl same fun _ absent => absent
  rw [List.append_nil] at openings
  exact ⟨openings, { accounted.holdings with }, { accounted.handouts with }⟩

theorem pools_unique (accounted : p.Accounted log) {peer other : Address} {link : LinkId}
    (here : p.Pools peer link) (there : p.Pools other link) : peer = other :=
  accounted.openings.own peer other link
    (accounted.openings.begun _ _ (.inl (accounted.holdings.pooled _ _ here).1))
    (accounted.openings.begun _ _ (.inl (accounted.holdings.pooled _ _ there).1))

theorem drop_entries (p : Pool) (peer : Address) (entry : Entry) (other : Address) :
    (p.drop peer entry).entries[other]? = if peer = other then none else p.entries[other]? := by
  simp only [Pool.drop, Std.ExtTreeMap.getElem?_erase, Std.compare_eq_iff_eq]

theorem drop_holdings (accounted : p.Accounted log) {peer : Address} {entry : Entry}
    (found : p.entries[peer]? = some entry) : (p.drop peer entry).Holdings log := by
  have here : p.Pools peer entry.link := ⟨entry, found, rfl⟩
  obtain ⟨opened, unclosed⟩ := accounted.holdings.pooled _ _ here
  have pools (other : Address) (link : LinkId) :
      (p.drop peer entry).Pools other link ↔ peer ≠ other ∧ p.Pools other link := by
    simp only [Pools, drop_entries]
    by_cases same : peer = other <;> simp [same]
  have closed (link : LinkId) :
      link ∈ (p.drop peer entry).closed ↔ link ∈ p.closed ∨ link = entry.link := by
    simp [Pool.drop]
  refine { accounted.holdings with
    pooled := ?_, kept := ?_, closed := ?_, once := ?_, balance := ?_, evicted := ?_ }
  · intro other link pooled
    obtain ⟨different, before⟩ := (pools other link).mp pooled
    obtain ⟨opened', unclosed'⟩ := accounted.holdings.pooled other link before
    refine ⟨opened', ?_⟩
    rw [closed, not_or]
    refine ⟨unclosed', ?_⟩
    rintro rfl
    exact different (accounted.pools_unique here before)
  · intro other link opened'
    rw [closed, pools]
    rcases accounted.holdings.kept other link opened' with there | gone
    · by_cases same : peer = other
      -- What was pooled for the peer is what is dropped and closed.
      · subst same
        obtain ⟨e, again, rfl⟩ := there
        rw [found] at again
        exact .inr (.inr (by rw [Option.some.inj again]))
      · exact .inl ⟨same, there⟩
    · exact .inr (.inl gone)
  · intro link member
    rcases (closed link).mp member with before | rfl
    · exact accounted.holdings.closed link before
    · exact ⟨peer, opened⟩
  · refine List.nodup_append.mpr ⟨accounted.holdings.once, by simp, ?_⟩
    intro link member other last same
    rw [List.mem_singleton.mp last] at same
    exact unclosed (same ▸ member)
  · have present : p.entries.contains peer := by
      simp [Std.ExtTreeMap.contains_eq_isSome_getElem?, found]
    have some : p.entries.size ≠ 0 := by
      intro none
      simp [Std.ExtTreeMap.eq_empty_iff_size_eq_zero.mpr none] at found
    have balance := accounted.holdings.balance
    simp only [size, Pool.drop, Std.ExtTreeMap.size_erase, if_pos present] at balance ⊢
    omega
  · simp [Pool.drop, accounted.holdings.evicted]

theorem drop (accounted : p.Accounted log) {peer : Address} {entry : Entry}
    (found : p.entries[peer]? = some entry) : (p.drop peer entry).Accounted log := by
  have openings : (p.drop peer entry).Openings (log ++ []) :=
    accounted.openings.keep (by simp) rfl (fun _ => rfl) fun other absent => by
      rw [drop_entries, absent, ite_self]
  have handouts : (p.drop peer entry).Handouts (log ++ []) := by
    refine accounted.handouts.keep (by simp) (fun _ => List.mem_append_left _) ?_ rfl
    intro other e there
    rw [drop_entries] at there
    split at there
    · cases there
    · exact there
  rw [List.append_nil] at openings handouts
  exact ⟨openings, accounted.drop_holdings found, handouts⟩

/-- A caller finds that the peer of a connection has gone, once the connection was dropped. -/
theorem sight (accounted : p.Accounted log) {link : LinkId} (gone : link ∈ p.closed) :
    p.Accounted (log ++ [.sawStale link]) where
  openings := accounted.openings.keep (by simp [Notice.isUse]) rfl (fun _ => rfl) fun _ => id
  holdings := accounted.holdings.keep (by simp [Notice.isOpened]) (fun _ _ => .rfl) rfl rfl rfl rfl
  handouts :=
    { seen := by
        intro other member
        simp only [List.mem_append, List.mem_singleton, Notice.sawStale.injEq] at member
        rcases member with before | rfl
        · exact accounted.handouts.seen _ before
        · exact gone
      fresh := List.pairwise_append.mpr ⟨accounted.handouts.fresh, by simp, by simp⟩
      handed := by simpa using accounted.handouts.handed
      used := by simpa [LastUse] using accounted.handouts.used
      held := by simpa [Notice.hands] using accounted.handouts.held }

theorem touch_handouts (accounted : p.Accounted log) {peer : Address} {entry : Entry}
    (found : p.entries[peer]? = some entry) (now : Instant) :
    (p.touch peer entry now).Handouts (log ++ [.handed entry.link now]) := by
  have here : p.Pools peer entry.link := ⟨entry, found, rfl⟩
  obtain ⟨opened, unclosed⟩ := accounted.holdings.pooled _ _ here
  refine { seen := ?_, fresh := ?_, handed := ?_, used := ?_, held := ?_ }
  · simpa [Pool.touch] using accounted.handouts.seen
  · refine List.pairwise_append.mpr ⟨accounted.handouts.fresh, by simp, ?_⟩
    rintro earlier member later last link time rfl same
    rw [List.mem_singleton.mp last, Notice.handed.injEq] at same
    exact unclosed (same.1 ▸ accounted.handouts.seen link member)
  · intro link time member
    simp only [List.mem_append, List.mem_singleton, Notice.handed.injEq, reduceCtorEq, or_false]
      at member ⊢
    rcases member with before | ⟨rfl, -⟩
    · exact accounted.handouts.handed link time before
    · exact ⟨peer, opened⟩
  · intro other e there
    simp only [Pool.touch, Std.ExtTreeMap.getElem?_insert, Std.compare_eq_iff_eq] at there
    split at there
    next same =>
      obtain rfl := Option.some.inj there
      exact (accounted.handouts.used peer entry found).again now
    next different =>
      -- The connection of another peer is another one, whose last use stays what it was.
      refine (accounted.handouts.used other e there).elsewhere ?_
      intro time member
      rw [List.mem_singleton, Notice.handed.injEq] at member
      exact different (accounted.pools_unique here ⟨e, there, member.1⟩)
  · intro link
    have held := accounted.handouts.held link
    simp only [Pool.touch, List.count_cons, List.count_append, List.countP_append,
      List.countP_singleton, List.count_nil, Notice.hands_handed, beq_iff_eq, decide_eq_true_eq,
      reduceCtorEq, if_false]
    omega

theorem touch (accounted : p.Accounted log) {peer : Address} {entry : Entry}
    (found : p.entries[peer]? = some entry) (now : Instant) :
    (p.touch peer entry now).Accounted (log ++ [.handed entry.link now]) where
  openings := by
    refine accounted.openings.keep (by simp [Notice.isUse]) rfl (fun _ => rfl) ?_
    intro other absent
    have different : peer ≠ other := by
      rintro rfl
      simp [found] at absent
    simpa [Pool.touch, Std.ExtTreeMap.getElem?_insert, different] using absent
  holdings := by
    refine accounted.holdings.keep (by simp [Notice.isOpened]) ?_ ?_ rfl rfl rfl
    · intro other link
      simp only [Pools, Pool.touch, Std.ExtTreeMap.getElem?_insert, Std.compare_eq_iff_eq]
      by_cases same : peer = other
      · subst same
        simp [found]
      · simp [same]
    · have present : p.entries.contains peer := by
        simp [Std.ExtTreeMap.contains_eq_isSome_getElem?, found]
      simp only [size, Pool.touch, Std.ExtTreeMap.size_insert, if_pos present]
  handouts := accounted.touch_handouts found now

theorem giveBack (accounted : p.Accounted log) {link : LinkId} (member : link ∈ p.held) :
    (p.release link).Accounted (log ++ [.returned link]) where
  openings := accounted.openings.keep (by simp [Notice.isUse]) rfl (fun _ => rfl) fun _ => id
  holdings := accounted.holdings.keep (by simp [Notice.isOpened]) (fun _ _ => .rfl) rfl rfl rfl rfl
  handouts :=
    { seen := by simpa [release] using accounted.handouts.seen
      fresh := List.pairwise_append.mpr ⟨accounted.handouts.fresh, by simp, by simp⟩
      handed := by simpa using accounted.handouts.handed
      used := by simpa [LastUse, release] using accounted.handouts.used
      held := by
        intro other
        have held := accounted.handouts.held other
        have positive : 0 < p.held.count link := List.count_pos_iff.mpr member
        simp only [release, List.count_erase, List.count_append, List.countP_append,
          List.count_singleton, List.countP_singleton, Notice.hands_returned, Bool.false_eq_true,
          if_false, beq_iff_eq, Notice.returned.injEq]
        split
        next same =>
          subst same
          omega
        next => omega }

theorem begin (accounted : p.Accounted log) {peer : Address} (idle : p.opening? peer = none)
    (absent : p.entries[peer]? = none) (caller : CallerId) (waiting : List CallerId) :
    (p.begin caller peer waiting).Accounted (log ++ [.began peer (p.opened + 1)]) := by
  have new (other : Address) : .began other (p.opened + 1) ∉ log := by
    intro before
    have := accounted.openings.numbered _ _ before
    omega
  refine ⟨⟨?_, ?_, ?_, ?_, ?_⟩,
    accounted.holdings.keep (by simp [Notice.isOpened]) (fun _ _ => .rfl) rfl rfl rfl rfl,
    accounted.handouts.keep (by simp [Notice.isUse]) (fun _ => id) (fun _ _ => id) rfl⟩
  · intro other link member
    simp only [List.mem_append, List.mem_singleton, Notice.began.injEq] at member
    rcases member with before | ⟨-, rfl⟩
    · exact Nat.le_succ_of_le (accounted.openings.numbered other link before)
    · exact Nat.le_refl _
  · intro one other link first second
    -- The number is a new one, so the log before cannot have given it to another peer.
    simp only [List.mem_append, List.mem_singleton, Notice.began.injEq] at first second
    rcases first with before | ⟨rfl, rfl⟩ <;> rcases second with before' | ⟨rfl, same⟩
    · exact accounted.openings.own one other link before before'
    · exact absurd (same ▸ before) (new one)
    · exact absurd before' (new other)
    · rfl
  · intro other link settled
    refine List.mem_append_left _ (accounted.openings.begun other link ?_)
    simpa using settled
  · intro other link
    rw [begin_opening?]
    have before := accounted.openings.opening other link
    have unsettled : ¬(.opened other (p.opened + 1) ∈ log ∨ .failed other (p.opened + 1) ∈ log) :=
      fun settled => new other (accounted.openings.begun other _ settled)
    by_cases same : peer = other
    · subst same
      simp only [UnderWay, idle, reduceCtorEq, exists_false, iff_false] at before
      simp only [UnderWay, List.mem_append, List.mem_singleton, Notice.began.injEq, true_and,
        reduceCtorEq, or_false, if_true, Option.some.injEq, Prod.mk.injEq, exists_eq_left']
      constructor
      · rintro ⟨began | rfl, unsettled⟩
        · exact absurd ⟨began, unsettled⟩ before
        · rfl
      · rintro rfl
        exact ⟨.inr rfl, not_or.mp unsettled⟩
    · simpa [UnderWay, same, Ne.symm same] using before
  · intro other busy
    rw [begin_opening?] at busy
    split at busy
    next same => exact same ▸ absent
    next => exact accounted.openings.alone other busy

/-- Once an opening succeeded or failed, it alone is no longer under way. -/
theorem settled (accounted : p.Accounted log) {peer : Address} {caller : CallerId} {link : LinkId}
    (busy : p.opening? peer = some (caller, link)) (begins : ∀ other l, .began other l ∉ later)
    (settles : ∀ other l,
      .opened other l ∈ later ∨ .failed other l ∈ later ↔ other = peer ∧ l = link)
    (opening : ∀ other, q.opening? other = if peer = other then none else p.opening? other)
    (opened : q.opened = p.opened)
    (absent : ∀ other, peer ≠ other → p.entries[other]? = none → q.entries[other]? = none) :
    q.Openings (log ++ later) := by
  have began := ((accounted.openings.opening peer link).mpr ⟨caller, busy⟩).1
  refine
    { numbered := by simpa [begins, opened] using accounted.openings.numbered
      own := by simpa [begins] using accounted.openings.own
      begun := ?_
      opening := ?_
      alone := ?_ }
  · intro other l ended
    refine List.mem_append_left _ ?_
    rw [List.mem_append, List.mem_append, or_or_or_comm] at ended
    rcases ended with before | after
    · exact accounted.openings.begun other l before
    · obtain ⟨rfl, rfl⟩ := (settles other l).mp after
      exact began
  · intro other l
    have before := accounted.openings.opening other l
    have ends := settles other l
    rw [opening]
    by_cases same : peer = other
    · subst same
      -- Only `link` was under way to this peer, and it has ended.
      simp only [if_true, reduceCtorEq, exists_false, iff_false]
      rintro ⟨began, unopened, unfailed⟩
      simp only [List.mem_append, begins, or_false, not_or] at began unopened unfailed
      obtain ⟨caller', busy'⟩ := before.mp ⟨began, unopened.1, unfailed.1⟩
      rw [busy, Option.some.injEq, Prod.mk.injEq] at busy'
      rcases ends.mpr ⟨rfl, busy'.2.symm⟩ with opened | failed
      · exact unopened.2 opened
      · exact unfailed.2 failed
    · simp only [Ne.symm same, false_and, iff_false, not_or] at ends
      simpa [UnderWay, same, begins, ends] using before
  · intro other busy'
    rw [opening] at busy'
    split at busy'
    next => exact absurd rfl busy'
    next different => exact absent other different (accounted.openings.alone other busy')

theorem yield (accounted : p.Accounted log) {peer : Address} {caller : CallerId} {link : LinkId}
    (busy : p.opening? peer = some (caller, link)) (waiting : List CallerId) :
    (p.yield peer waiting).Accounted (log ++ [.failed peer link]) where
  openings := accounted.settled busy (by simp) (by simp) (yield_opening? p peer · waiting) rfl
    fun _ _ => id
  holdings := accounted.holdings.keep (by simp [Notice.isOpened]) (fun _ _ => .rfl) rfl rfl rfl rfl
  handouts := accounted.handouts.keep (by simp [Notice.isUse]) (fun _ => id) (fun _ _ => id) rfl

theorem unheard (accounted : p.Accounted log) {peer : Address} {caller : CallerId} {link : LinkId}
    (busy : p.opening? peer = some (caller, link)) :
    (∀ other, .opened other link ∉ log) ∧ link ∉ p.closed ∧ ∀ time, .handed link time ∉ log := by
  obtain ⟨began, unopened, -⟩ := (accounted.openings.opening peer link).mpr ⟨caller, busy⟩
  have new (other : Address) : .opened other link ∉ log := by
    intro opened
    have elsewhere := accounted.openings.begun other link (.inl opened)
    obtain rfl := accounted.openings.own _ _ _ began elsewhere
    exact unopened opened
  refine ⟨new, ?_, ?_⟩
  · intro closed
    obtain ⟨other, opened⟩ := accounted.holdings.closed link closed
    exact new other opened
  · intro time handed
    obtain ⟨other, opened⟩ := accounted.handouts.handed link time handed
    exact new other opened

theorem enroll_holdings (accounted : p.Accounted log) {peer : Address} {caller : CallerId}
    {link : LinkId} (busy : p.opening? peer = some (caller, link)) (waiting : List CallerId)
    (now : Instant) :
    (p.enroll peer link waiting now).Holdings (log ++ [.opened peer link, .handed link now]) := by
  -- Whoever opens a connection does so because none was pooled for the peer.
  have absent := accounted.openings.alone peer (by simp [busy])
  obtain ⟨-, unclosed, -⟩ := accounted.unheard busy
  have pools (other : Address) (l : LinkId) :
      (p.enroll peer link waiting now).Pools other l ↔
        (other = peer ∧ l = link) ∨ p.Pools other l := by
    simp only [Pools, Pool.enroll, Std.ExtTreeMap.getElem?_insert, Std.compare_eq_iff_eq]
    by_cases same : peer = other
    · subst same
      simp [absent, eq_comm]
    · simp [same, Ne.symm same]
  refine { accounted.holdings with
    pooled := ?_, kept := ?_, closed := ?_, balance := ?_, created := ?_ }
  · intro other l pooled
    rcases (pools other l).mp pooled with ⟨rfl, rfl⟩ | before
    · exact ⟨by simp, unclosed⟩
    · obtain ⟨opened, still⟩ := accounted.holdings.pooled other l before
      exact ⟨List.mem_append_left _ opened, still⟩
  · intro other l opened
    rw [pools]
    simp only [List.mem_append, List.mem_cons, List.not_mem_nil, reduceCtorEq, or_false,
      Notice.opened.injEq] at opened
    rcases opened with before | same
    · exact (accounted.holdings.kept other l before).imp_left .inr
    · exact .inl (.inl same)
  · intro l member
    obtain ⟨other, opened⟩ := accounted.holdings.closed l member
    exact ⟨other, List.mem_append_left _ opened⟩
  · have missing : ¬p.entries.contains peer := by
      simp [Std.ExtTreeMap.contains_eq_isSome_getElem?, absent]
    have balance := accounted.holdings.balance
    simp only [size, Pool.enroll, Std.ExtTreeMap.size_insert, if_neg missing] at balance ⊢
    omega
  · simpa [Pool.enroll, Notice.isOpened] using accounted.holdings.created

theorem enroll_handouts (accounted : p.Accounted log) {peer : Address} {caller : CallerId}
    {link : LinkId} (busy : p.opening? peer = some (caller, link)) (waiting : List CallerId)
    (now : Instant) :
    (p.enroll peer link waiting now).Handouts (log ++ [.opened peer link, .handed link now]) := by
  -- Nothing in the log names the link yet, so it is handed out now for the first time.
  obtain ⟨unopened, unclosed, unhanded⟩ := accounted.unheard busy
  refine { seen := ?_, fresh := ?_, handed := ?_, used := ?_, held := ?_ }
  · simpa [Pool.enroll] using accounted.handouts.seen
  · refine List.pairwise_append.mpr ⟨accounted.handouts.fresh, by simp, ?_⟩
    rintro earlier member last later l time rfl rfl
    simp only [List.mem_cons, List.not_mem_nil, reduceCtorEq, or_false, false_or,
      Notice.handed.injEq] at later
    exact unclosed (later.1 ▸ accounted.handouts.seen l member)
  · intro l time member
    simp only [List.mem_append, List.mem_cons, List.not_mem_nil, Notice.handed.injEq, reduceCtorEq,
      or_false, false_or] at member
    rcases member with before | ⟨rfl, -⟩
    · obtain ⟨other, opened⟩ := accounted.handouts.handed l time before
      exact ⟨other, List.mem_append_left _ opened⟩
    · exact ⟨peer, by simp⟩
  · intro other e there
    simp only [Pool.enroll, Std.ExtTreeMap.getElem?_insert, Std.compare_eq_iff_eq] at there
    split at there
    next =>
      obtain rfl := Option.some.inj there
      refine ⟨by simp, ?_⟩
      intro time member
      simp only [List.mem_append, List.mem_cons, List.not_mem_nil, Notice.handed.injEq,
        reduceCtorEq, or_false, false_or, true_and, unhanded] at member
      exact Nat.le_of_eq (congrArg Instant.nanos member)
    next =>
      refine (accounted.handouts.used other e there).elsewhere ?_
      intro time member
      simp only [List.mem_cons, List.not_mem_nil, Notice.handed.injEq, reduceCtorEq, or_false,
        false_or] at member
      have opened := (accounted.holdings.pooled other e.link ⟨e, there, rfl⟩).1
      exact unopened other (member.1 ▸ opened)
  · intro l
    have held := accounted.handouts.held l
    simp only [Pool.enroll, List.count_cons, List.count_append, List.countP_append,
      List.countP_cons, List.countP_nil, List.count_nil, Notice.hands_handed,
      Notice.hands_opened, beq_iff_eq, decide_eq_true_eq, reduceCtorEq, if_false,
      Bool.false_eq_true]
    omega

theorem enroll (accounted : p.Accounted log) {peer : Address} {caller : CallerId} {link : LinkId}
    (busy : p.opening? peer = some (caller, link)) (waiting : List CallerId) (now : Instant) :
    (p.enroll peer link waiting now).Accounted (log ++ [.opened peer link, .handed link now]) where
  openings := by
    refine accounted.settled busy (by simp) (by simp)
      (enroll_opening? p peer · link waiting now) rfl ?_
    intro other different before
    simpa [Pool.enroll, Std.ExtTreeMap.getElem?_insert, different] using before
  holdings := accounted.enroll_holdings busy waiting now
  handouts := accounted.enroll_handouts busy waiting now

end Accounted

end ShardedWorld.Pool
