import ShardedWorld.Network.Service
import ShardedWorld.Proofs.Wire.Labels
import ShardedWorld.Proofs.Wire.Sizes

/-! What a call over the network comes to.

A service handles the request that arrives, and the caller hears the response that arrives. Both are
what was sent, but for the labels of addresses.
-/

set_option autoImplicit false

namespace ShardedWorld

/-- Whether a call knows what to do with a response: it is the expected one or a refusal. -/
def Call.Understands {α : Type} (call : Call α) : Response → Prop
  | .error _ => True
  | response => (call.expects response).isSome

theorem Call.Understands.conclude {α : Type} {call : Call α} {response : Response}
    (understands : call.Understands response) (text : String) :
    call.conclude (Connection.outcome response) ≠ .error (.unexpected text) := by
  have expected (ok : Connection.outcome response = .ok response)
      (some : (call.expects response).isSome) :
      call.conclude (Connection.outcome response) ≠ .error (.unexpected text) := by
    obtain ⟨a, found⟩ := Option.isSome_iff_exists.mp some
    simp [ok, Call.conclude, found]
  cases response with
  | error refusal => simp [Connection.outcome, Call.conclude]
  | pong | ack | zone | directive | accepted | server | joined => exact expected rfl understands

namespace Service

variable {σ α : Type} (service : Service σ)

/-- What the caller hears of a response: nothing until its deadline, if it does not fit a packet. -/
def heard (requestId : UInt64) (deadline : Duration) (response : Response) :
    Except TransportError Response :=
  match (Packet.response requestId response).encode with
  | .ok _ => Connection.outcome response.withoutLabels
  | .error _ => .error (.timeout requestId deadline)

theorem outcome_encode (requestId : UInt64) (deadline : Duration) (response : Response) :
    outcome requestId deadline (Packet.response requestId response).encode.toOption =
      heard requestId deadline response := by
  unfold heard
  cases sent : (Packet.response requestId response).encode with
  | error e => rfl
  | ok bytes =>
    have arrives := Packet.decode_encode sent []
    rw [List.append_nil] at arrives
    simp [outcome, Except.toOption, arrives, Packet.withoutLabels]

theorem exchange_eq {call : Call α} {requestId : UInt64}
    (asked : (Packet.request requestId call.request).Fits) (s : σ) (now : Instant)
    (sender : Address) (deadlines : Deadlines) :
    service.exchange s now sender requestId deadlines call =
      let (response, next) := service.handle s now sender call.request.withoutLabels
      (call.conclude (heard requestId (call.deadline deadlines) response), next) := by
  have arrives := Packet.decode_encode asked.encode []
  rw [List.append_nil] at arrives
  simp only [exchange, asked.encode, receive, arrives, Packet.withoutLabels, outcome_encode]

theorem exchange_answered {call : Call α} {requestId : UInt64} {s next : σ} {now : Instant}
    {sender : Address} {response : Response}
    (asked : (Packet.request requestId call.request).Fits)
    (handled : service.handle s now sender call.request.withoutLabels = (response, next))
    (answered : (Packet.response requestId response).Fits) (deadlines : Deadlines) :
    service.exchange s now sender requestId deadlines call =
      (call.conclude (Connection.outcome response.withoutLabels), next) := by
  rw [service.exchange_eq asked, handled]
  simp only [heard, answered.encode]

/-- A call whose response fits none: it is carried out, and the caller never hears of it. -/
theorem exchange_unanswered {call : Call α} {requestId : UInt64} {s next : σ} {now : Instant}
    {sender : Address} {response : Response}
    (asked : (Packet.request requestId call.request).Fits)
    (handled : service.handle s now sender call.request.withoutLabels = (response, next))
    (unsent : ¬(Packet.response requestId response).Fits) (deadlines : Deadlines) :
    service.exchange s now sender requestId deadlines call =
      (.error (.timeout requestId (call.deadline deadlines)), next) := by
  rw [service.exchange_eq asked, handled]
  simp only [heard, Packet.not_fits_iff.mp unsent]
  rfl

theorem exchange_refused {call : Call α} {requestId : UInt64} {s next : σ} {now : Instant}
    {sender : Address} {refusal : RemoteError}
    (asked : (Packet.request requestId call.request).Fits)
    (handled : service.handle s now sender call.request.withoutLabels = (.error refusal, next))
    (brief : refusal.reasonSize ≤ 65487) (deadlines : Deadlines) :
    service.exchange s now sender requestId deadlines call = (.error (.remote refusal), next) := by
  rw [service.exchange_answered asked handled (Packet.refusal_fits requestId brief)]
  rfl

/-- No call of this kind is ever given a response that it does not expect. -/
def Suits (call : Call α) : Prop :=
  ∀ (s : σ) (now : Instant) (sender : Address) (requestId : UInt64) (deadlines : Deadlines)
    (text : String),
    (service.exchange s now sender requestId deadlines call).1 ≠ .error (.unexpected text)

theorem suits_of_understands {call : Call α}
    (understands : ∀ (s : σ) (now : Instant) (sender : Address),
      call.Understands (service.handle s now sender call.request.withoutLabels).1.withoutLabels) :
    service.Suits call := by
  intro s now sender requestId deadlines text
  by_cases asked : (Packet.request requestId call.request).Fits
  · rw [service.exchange_eq asked]
    dsimp only [heard]
    split
    · exact (understands s now sender).conclude text
    · simp [Call.conclude]
  · simp [exchange, Packet.not_fits_iff.mp asked]

end Service

end ShardedWorld
