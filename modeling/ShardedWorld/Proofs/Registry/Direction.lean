import ShardedWorld.Coordinator.Basic
import ShardedWorld.Proofs.Registry.Changes

/-! Players are directed to registered servers.

Neither an order to move a player nor its confirmation changes any registration.
-/

set_option autoImplicit false

namespace ShardedWorld

namespace Registry

variable {σ : Type}

def Lists (r : Registry σ) (info : ServerInfo) : Prop :=
  ∃ (id : ServerId) (s : Registration), r.servers[id]? = some s ∧ s.info = info

theorem locate_listed {r : Registry σ} {position : Vec2} {info : ServerInfo}
    (found : r.locate position = some info) : r.Lists info := by
  obtain ⟨s, owner, rfl⟩ := Option.map_eq_some_iff.mp found
  obtain ⟨id, -, registered⟩ := Option.bind_eq_some_iff.mp owner
  exact ⟨id, s, registered, rfl⟩

theorem direct_target {entry : PlayerEntry} {target : Option ServerInfo}
    {directive : TransferDirective} (directed : (direct entry target).2 = some directive) :
    target = some directive.target := by
  unfold direct at directed
  split at directed
  · cases directed
  · split at directed
    · obtain ⟨handoff, -, rfl⟩ := Option.map_eq_some_iff.mp directed
      rfl
    · rw [← Option.some.inj directed]

variable [Store σ]

theorem keepPlayer_servers {r r' : Registry σ} {id : PlayerId} {entry : PlayerEntry}
    (done : r.keepPlayer id entry = .ok r') : r'.servers = r.servers := by
  obtain ⟨store, -, rfl⟩ := keepPlayer_eq_ok done
  rfl

theorem initiateTransfer_listed {r r' : Registry σ} {id : PlayerId} {position : Vec2}
    {order : Option TransferDirective}
    (done : r.initiateTransfer id position = .ok (order, r')) :
    r'.servers = r.servers ∧ ∀ directive, order = some directive → r.Lists directive.target := by
  unfold initiateTransfer at done
  split at done
  next unknown =>
    obtain ⟨kept, outcome, done⟩ := bind_eq_ok.mp done
    obtain ⟨rfl, rfl⟩ := Prod.mk.inj (Except.ok.inj done)
    exact ⟨keepPlayer_servers outcome, by simp⟩
  next entry found =>
    obtain ⟨kept, outcome, done⟩ := bind_eq_ok.mp done
    obtain ⟨rfl, rfl⟩ := Prod.mk.inj (Except.ok.inj done)
    refine ⟨keepPlayer_servers outcome, ?_⟩
    intro directive directed
    exact locate_listed (direct_target directed)

theorem completeTransfer_servers {r r' : Registry σ} {id : PlayerId} {server : ServerId}
    (done : r.completeTransfer id server = .ok r') : r'.servers = r.servers := by
  unfold completeTransfer at done
  split at done
  · rw [← Except.ok.inj done]
  · split at done
    · rw [← Except.ok.inj done]
    · exact keepPlayer_servers done

end Registry

namespace Coordinator

variable {σ : Type} [Store σ]

def Directs (c : Coordinator σ) (outcome : Response × Coordinator σ) : Prop :=
  outcome.2.mailbox.registry.servers = c.mailbox.registry.servers ∧
    ∀ directive, outcome.1 = .directive (some directive) →
      c.mailbox.registry.Lists directive.target

theorem command_directs {c : Coordinator σ} (now : Instant) {command : Registry.Command}
    (servers : (c.mailbox.registry.execute now command).2.servers = c.mailbox.registry.servers)
    (listed : ∀ directive,
      (c.mailbox.registry.execute now command).1 = .ok (.directive (some directive)) →
        c.mailbox.registry.Lists directive.target) :
    c.Directs (c.command now command) := by
  simp only [Directs, Coordinator.command, Mailbox.request]
  split
  · refine ⟨servers, ?_⟩
    intro directive told
    apply listed directive
    unfold respond at told
    split at told
    all_goals cases told
    assumption
  · exact ⟨rfl, by simp [respond]⟩

theorem initiateTransfer_directs (c : Coordinator σ) (now : Instant) (id : PlayerId)
    (position : Vec2) : c.Directs (c.command now (.initiateTransfer id position)) := by
  apply command_directs
  · simp only [Registry.execute]
    cases outcome : c.mailbox.registry.initiateTransfer id position with
    | error e => rfl
    | ok done => exact (Registry.initiateTransfer_listed outcome).1
  · intro directive
    simp only [Registry.execute]
    cases outcome : c.mailbox.registry.initiateTransfer id position with
    | error e => simp [Registry.settle]
    | ok done =>
      intro told
      have order : done.1 = some directive := by
        simpa [Registry.settle] using told
      exact (Registry.initiateTransfer_listed outcome).2 directive order

theorem completeTransfer_directs (c : Coordinator σ) (now : Instant) (id : PlayerId)
    (server : ServerId) : c.Directs (c.command now (.completeTransfer id server)) := by
  apply command_directs
  · simp only [Registry.execute]
    cases outcome : c.mailbox.registry.completeTransfer id server with
    | error e => rfl
    | ok done => exact Registry.completeTransfer_servers outcome
  · intro directive
    simp only [Registry.execute]
    cases c.mailbox.registry.completeTransfer id server <;> simp [Registry.settleDone]

theorem locate_directs (c : Coordinator σ) (now : Instant) (position : Vec2) :
    c.Directs (c.command now (.locate position)) := by
  apply command_directs
  · rfl
  · intro directive told
    simp [Registry.execute] at told

end Coordinator

end ShardedWorld
