import Mathlib.Data.List.DropRight
import ShardedWorld.Proofs.Registry.Entries

/-! A player's entry is what was last said of the player.

The log of a registry tells what every entry has to be: where the player was seen last, which record
was given last, and which server confirmed the player last. The registry and its store hold just
that, through refused writes and new starts, and nothing said of others changes it.
-/

set_option autoImplicit false

namespace ShardedWorld

/-- What a registry is told of a player. A place comes with the server that owned its zone then. -/
inductive Observation where
  | sighted (position : Vec2) (owner : Option ServerId)
  | updated (record : PlayerRecord) (owner : Option ServerId)
  | confirmed (server : ServerId)
  | forgotten
  deriving DecidableEq

namespace Observation

def position? : Observation → Option Vec2
  | sighted position _ => some position
  | updated record _ => some record.position
  | confirmed _ | forgotten => none

def owner? : Observation → Option ServerId
  | sighted _ owner => owner
  | updated _ owner => owner
  | confirmed _ | forgotten => none

def record? : Observation → Option PlayerRecord
  | updated record _ => some record
  | _ => none

def server? : Observation → Option ServerId
  | confirmed server => some server
  | _ => none

def latest? {α : Type} (told : Observation → Option α) (observations : List Observation) :
    Option α :=
  (observations.filterMap told).getLast?

/-- The observations since the player was last forgotten, from the first place on: a confirmation
before that is of an unknown player. -/
def sinceKnown (observations : List Observation) : List Observation :=
  (observations.rtakeWhile fun o => o ≠ forgotten).dropWhile fun o => o.position?.isNone

@[simp] theorem latest?_nil {α : Type} (told : Observation → Option α) : latest? told [] = none :=
  rfl

@[simp] theorem latest?_concat {α : Type} (told : Observation → Option α)
    (observations : List Observation) (o : Observation) :
    latest? told (observations ++ [o]) = (told o).or (latest? told observations) := by
  cases found : told o <;> simp [latest?, List.filterMap_append, found]

@[simp] theorem sinceKnown_forgotten (observations : List Observation) :
    sinceKnown (observations ++ [forgotten]) = [] := by
  simp [sinceKnown]

theorem sinceKnown_remembered (observations : List Observation) {o : Observation}
    (remembered : o ≠ forgotten) :
    sinceKnown (observations ++ [o]) =
      if (sinceKnown observations).isEmpty then [o].dropWhile fun o => o.position?.isNone
      else sinceKnown observations ++ [o] := by
  have kept : decide (o ≠ forgotten) = true := decide_eq_true remembered
  rw [sinceKnown, List.rtakeWhile_concat, if_pos kept, List.dropWhile_append]
  rfl

theorem sinceKnown_placed (observations : List Observation) {o : Observation} {position : Vec2}
    (placed : o.position? = some position) :
    sinceKnown (observations ++ [o]) = sinceKnown observations ++ [o] := by
  rw [sinceKnown_remembered]
  · split
    next nothing => simp [List.isEmpty_iff.mp nothing, placed]
    · rfl
  · rintro rfl
    cases placed

theorem sinceKnown_confirmed (observations : List Observation) (server : ServerId) :
    sinceKnown (observations ++ [confirmed server]) =
      if (sinceKnown observations).isEmpty then []
      else sinceKnown observations ++ [confirmed server] :=
  sinceKnown_remembered observations nofun

end Observation

open Observation

structure PlayerEntry.Follows (entry : PlayerEntry) (player : PlayerId)
    (observations : List Observation) : Prop where
  position : latest? position? observations = some entry.record.position
  record : entry.record =
    { (latest? record? observations).getD
        (.appearing player (PlayerRecord.defaultName player) .zero) with
      position := entry.record.position }
  owner : entry.owner = (latest? server? observations).or (observations.head?.bind owner?)
  previous : ∀ handoff, entry.pending = some handoff → handoff.previous = entry.owner

namespace PlayerEntry.Follows

variable {entry : PlayerEntry} {player : PlayerId} {observations : List Observation}

theorem observed (follows : entry.Follows player observations) : observations ≠ [] := by
  rintro rfl
  cases follows.position

theorem head?_concat (follows : entry.Follows player observations) (o : Observation) :
    (observations ++ [o]).head? = observations.head? :=
  List.head?_append_of_ne_nil _ follows.observed

theorem sighted (follows : entry.Follows player observations) (position : Vec2)
    (owner : Option ServerId) :
    { entry with record := { entry.record with position } }.Follows player
      (observations ++ [Observation.sighted position owner]) where
  position := by simp [position?]
  record := by
    rw [follows.record]
    simp [record?]
  owner := by
    rw [follows.head?_concat]
    simpa [server?] using follows.owner
  previous := follows.previous

theorem updated (follows : entry.Follows player observations) (record : PlayerRecord)
    (owner : Option ServerId) :
    { entry with record }.Follows player (observations ++ [Observation.updated record owner]) where
  position := by simp [position?]
  record := by simp [record?]
  owner := by
    rw [follows.head?_concat]
    simpa [server?] using follows.owner
  previous := follows.previous

theorem confirmed (follows : entry.Follows player observations) (server : ServerId) :
    { entry with owner := some server, pending := none }.Follows player
      (observations ++ [Observation.confirmed server]) where
  position := by simpa [position?] using follows.position
  record := by simpa [record?] using follows.record
  owner := by simp [server?]
  previous := by simp

/-- An order notes the owner as the previous server, and changes nothing else of an entry. -/
theorem directed (follows : entry.Follows player observations) (target : Option ServerInfo) :
    (Registry.direct entry target).1.Follows player observations := by
  unfold Registry.direct
  split
  · exact follows
  · split
    · exact follows
    · refine ⟨follows.position, follows.record, follows.owner, ?_⟩
      intro handoff noted
      rw [← Option.some.inj noted]

theorem of_sighted (player : PlayerId) (position : Vec2) (owner : Option ServerId) :
    (⟨.appearing player (PlayerRecord.defaultName player) position, owner, none⟩ :
      PlayerEntry).Follows player [Observation.sighted position owner] :=
  ⟨rfl, rfl, rfl, by simp⟩

theorem of_updated (player : PlayerId) (record : PlayerRecord) (owner : Option ServerId) :
    (⟨record, owner, none⟩ : PlayerEntry).Follows player [Observation.updated record owner] :=
  ⟨rfl, rfl, rfl, by simp⟩

end PlayerEntry.Follows

def Recorded (player : PlayerId) (observations : List Observation) : Option PlayerEntry → Prop
  | none => observations = []
  | some entry => entry.Follows player observations

namespace Registry

variable {σ : Type}

/-- What a command says of a player when the registry takes it over. -/
def observation? (r : Registry σ) (player : PlayerId) : Command → Option Observation
  | .initiateTransfer id position =>
    if id = player then some (.sighted position ((r.locate position).map (·.serverId))) else none
  | .completeTransfer id server => if id = player then some (.confirmed server) else none
  | .updatePlayer record =>
    if record.playerId = player then
      some (.updated record ((r.locate record.position).map (·.serverId)))
    else none
  | .resetPlayers => some .forgotten
  | _ => none

def Command.player? : Command → Option PlayerId
  | .initiateTransfer id _ => some id
  | .completeTransfer id _ => some id
  | .updatePlayer record => some record.playerId
  | _ => none

theorem observation?_eq_none {r : Registry σ} {player : PlayerId} {command : Command}
    (others : command.player? ≠ some player) (kept : command ≠ .resetPlayers) :
    r.observation? player command = none := by
  cases command <;> simp_all [observation?, Command.player?]

theorem entryAfter_of_unobserved {r : Registry σ} {player : PlayerId} {command : Command}
    (unobserved : r.observation? player command = none) :
    r.entryAfter player command = r.player? player := by
  cases command <;> simp_all [observation?, entryAfter]

theorem recorded_entryAfter {r : Registry σ} {player : PlayerId} {observations : List Observation}
    (recorded : Recorded player (sinceKnown observations) (r.player? player)) {command : Command}
    {o : Observation} (observed : r.observation? player command = some o) :
    Recorded player (sinceKnown (observations ++ [o])) (r.entryAfter player command) := by
  cases command with
  | initiateTransfer id position =>
    simp only [observation?, Option.ite_none_right_eq_some, Option.some.injEq] at observed
    obtain ⟨rfl, rfl⟩ := observed
    rw [sinceKnown_placed observations rfl, entryAfter, if_pos rfl]
    cases known : r.player? id with
    | none =>
      rw [known] at recorded
      rw [show sinceKnown observations = [] from recorded]
      exact .of_sighted id position _
    | some entry =>
      rw [known] at recorded
      exact (PlayerEntry.Follows.sighted recorded position _).directed _
  | completeTransfer id server =>
    simp only [observation?, Option.ite_none_right_eq_some, Option.some.injEq] at observed
    obtain ⟨rfl, rfl⟩ := observed
    rw [sinceKnown_confirmed, entryAfter, if_pos rfl]
    cases known : r.player? id with
    -- A confirmation before the first place makes nobody known.
    | none =>
      rw [known] at recorded
      exact if_pos (List.isEmpty_iff.mpr recorded)
    | some entry =>
      rw [known] at recorded
      rw [if_neg]
      · exact PlayerEntry.Follows.confirmed recorded server
      · rw [List.isEmpty_iff]
        exact PlayerEntry.Follows.observed recorded
  | updatePlayer record =>
    simp only [observation?, Option.ite_none_right_eq_some, Option.some.injEq] at observed
    obtain ⟨rfl, rfl⟩ := observed
    rw [sinceKnown_placed observations rfl, entryAfter, if_pos rfl]
    cases known : r.player? record.playerId with
    | none =>
      rw [known] at recorded
      rw [show sinceKnown observations = [] from recorded]
      exact .of_updated record.playerId record _
    | some entry =>
      rw [known] at recorded
      exact PlayerEntry.Follows.updated recorded record _
  | resetPlayers =>
    obtain rfl := Option.some.inj observed
    rw [sinceKnown_forgotten]
    rfl
  | _ => cases observed

structure Execution (σ : Type) where
  before : Registry σ
  now : Instant
  command : Command

variable [Store σ]

/-- What is said of a player. A command that fails has said nothing. -/
def Execution.observation? (e : Execution σ) (player : PlayerId) : Option Observation :=
  match (e.before.execute e.now e.command).1 with
  | .ok _ => e.before.observation? player e.command
  | .error _ => none

def observations (player : PlayerId) (log : List (Execution σ)) : List Observation :=
  log.filterMap (·.observation? player)

/-- A registry that started from a store without players, and the commands that it was given since.
Between commands its store may be changed from outside, but for the players in it, and the registry
may start anew from it. -/
inductive Logged : List (Execution σ) → Registry σ → Prop where
  | start {store : σ} (grid : Grid) (now : Instant) : (Store.snapshot store).players = ∅ →
      Logged [] (restore grid store now)
  | execute {log : List (Execution σ)} {r : Registry σ} (now : Instant) (command : Command) :
      Logged log r → Logged (log ++ [⟨r, now, command⟩]) (r.execute now command).2
  | outside {log : List (Execution σ)} {r : Registry σ} {store : σ} :
      (Store.snapshot store).players = (Store.snapshot r.store).players → Logged log r →
      Logged log { r with store }
  | restart {log : List (Execution σ)} {r : Registry σ} (grid : Grid) (now : Instant) :
      Logged log r → Logged log (restore grid r.store now)

theorem restore_players (grid : Grid) (store : σ) (now : Instant) :
    (restore grid store now).store = store ∧
      (restore grid store now).players = (Store.snapshot store).players := by
  rw [restore_eq_takeOverAll]
  obtain ⟨-, kept, players, -⟩ := takeOverAll_keeps now (Store.snapshot store).servers.toList
    (unserved grid store (Store.snapshot store).players)
  exact ⟨kept, players⟩

theorem restore_mirrorsPlayers (grid : Grid) {store : σ} (now : Instant)
    (numbered : ∀ (id : PlayerId) (entry : PlayerEntry),
      (Store.snapshot store).players[id]? = some entry → entry.record.playerId = id) :
    MirrorsPlayers (restore grid store now) := by
  obtain ⟨kept, players⟩ := restore_players grid store now
  refine ⟨?_, ?_⟩
  · rw [kept, players]
  · rw [players]
    exact numbered

theorem Logged.mirrorsPlayers [LawfulStore σ] {log : List (Execution σ)} {r : Registry σ}
    (logged : Logged log r) : MirrorsPlayers r := by
  induction logged with
  | start grid now empty =>
    apply restore_mirrorsPlayers
    intro id entry found
    simp [empty] at found
  | execute now command _ ih => exact execute_invariant MirrorsPlayers.change ih now command
  | outside same _ ih => exact ⟨same.trans ih.players, ih.numbered⟩
  | restart grid now _ ih =>
    apply restore_mirrorsPlayers
    rw [ih.players]
    exact ih.numbered

theorem observations_concat (player : PlayerId) (log : List (Execution σ)) (e : Execution σ) :
    observations player (log ++ [e]) =
      observations player log ++ (e.observation? player).toList := by
  cases observed : e.observation? player <;> simp [observations, observed]

theorem recorded_execute {log : List (Execution σ)} {r : Registry σ} {player : PlayerId}
    (recorded : Recorded player (sinceKnown (observations player log)) (r.player? player))
    (now : Instant) (command : Command) :
    Recorded player (sinceKnown (observations player (log ++ [⟨r, now, command⟩])))
      ((r.execute now command).2.player? player) := by
  rw [observations_concat, execute_player?, Execution.observation?]
  cases (r.execute now command).1 with
  | error e => simpa using recorded
  | ok answer =>
    cases observed : r.observation? player command with
    | none => simpa [entryAfter_of_unobserved observed] using recorded
    | some o => exact recorded_entryAfter recorded observed

theorem Logged.recorded [LawfulStore σ] {log : List (Execution σ)} {r : Registry σ}
    (logged : Logged log r) (player : PlayerId) :
    Recorded player (sinceKnown (observations player log)) (r.player? player) := by
  -- On the log: a command adds what it says, and all else leaves log and players as they are.
  induction logged with
  | start grid now empty =>
    rw [player?, (restore_players grid _ now).2, empty, Std.ExtTreeMap.getElem?_empty]
    rfl
  | execute now command _ ih => exact recorded_execute ih now command
  | outside _ _ ih => exact ih
  | restart grid now before ih =>
    rw [player?, (restore_players grid _ now).2, before.mirrorsPlayers.players]
    exact ih

theorem execute_others {r : Registry σ} {now : Instant} {command : Command} {player : PlayerId}
    (others : command.player? ≠ some player) (kept : command ≠ .resetPlayers) :
    (r.execute now command).2.player? player = r.player? player := by
  rw [execute_player?, entryAfter_of_unobserved (observation?_eq_none others kept)]
  split <;> rfl

/-- Every player's entry, in the registry and in its store, is what the commands that succeeded have
said of the player since all players were forgotten last; and a command that is about another player
or about a server leaves it as it is. -/
theorem players_follow_observations [LawfulStore σ] {log : List (Execution σ)} {r : Registry σ}
    (logged : Logged log r) (player : PlayerId) :
    Recorded player (sinceKnown (observations player log)) (r.player? player) ∧
      (Store.snapshot r.store).players[player]? = r.player? player ∧
      ∀ (now : Instant) (command : Command), command.player? ≠ some player →
        command ≠ .resetPlayers →
        let after := (r.execute now command).2
        after.player? player = r.player? player ∧
          (Store.snapshot after.store).players[player]? =
            (Store.snapshot r.store).players[player]? := by
  have stored {log : List (Execution σ)} {r : Registry σ} (logged : Logged log r) :
      (Store.snapshot r.store).players[player]? = r.player? player := by
    rw [logged.mirrorsPlayers.players, player?]
  refine ⟨logged.recorded player, stored logged, ?_⟩
  intro now command others kept after
  have same : after.player? player = r.player? player := execute_others others kept
  exact ⟨same, by rw [stored (logged.execute now command), stored logged, same]⟩

/-- A registry with one server, one where a player was seen as well, and one that then begins to
refuse writes. -/
def served : Registry MemoryStore :=
  ((restore .standard MemoryStore.empty .start).execute .start
    (.registerServer ⟨"a"⟩ (.loopback 7001))).2

def visited : Registry MemoryStore :=
  (served.execute .start (.initiateTransfer 7 ⟨.ofInt 10, .ofInt 10⟩)).2

def refusing : Registry MemoryStore :=
  { visited with store := { visited.store with failWrites := true } }

/-- The player is given a name that is not written, and the registry starts anew. -/
def rename : Execution MemoryStore :=
  ⟨refusing, .start, .updatePlayer (.appearing 7 "ann" ⟨.ofInt 20, .ofInt 10⟩)⟩

def restarted : Registry MemoryStore :=
  restore .standard (refusing.execute .start rename.command).2.store .start

theorem refused_record_not_followed :
    let log : List (Execution MemoryStore) :=
      [⟨restore .standard MemoryStore.empty .start, .start,
          .registerServer ⟨"a"⟩ (.loopback 7001)⟩,
        ⟨served, .start, .initiateTransfer 7 ⟨.ofInt 10, .ofInt 10⟩⟩, rename]
    Logged log restarted ∧
      Recorded 7 [.sighted ⟨.ofInt 10, .ofInt 10⟩ (some ⟨"a"⟩)] (restarted.player? 7) := by
  intro log
  have arrival : Logged _ served := .execute .start _ (.start .standard .start rfl)
  have visit : Logged _ visited := .execute .start _ arrival
  have refusal : Logged _ refusing := .outside rfl visit
  have logged : Logged log restarted :=
    .restart .standard .start (refusal.execute .start rename.command)
  have known : sinceKnown (observations 7 log) =
      [.sighted ⟨.ofInt 10, .ofInt 10⟩ (some ⟨"a"⟩)] := by
    decide +kernel
  refine ⟨logged, ?_⟩
  rw [← known]
  exact (players_follow_observations logged 7).1

end Registry

end ShardedWorld
