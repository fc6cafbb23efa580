import GraphQLClient.Proofs.Response.Answers
import GraphQLClient.Proofs.Response.Opening
import GraphQLClient.Proofs.Retry.Backoff

/-! # Refused requests and another attempt

A server refuses a request by a status, with a body that holds neither data nor
errors. The failure of a query or mutation is then transient just if the status
is (`payload_refused`). That of a subscription keeps the status too, but counts
as final whatever it is (`events_refused`), so backoff meets the same refusal
with further attempts in one family and with none in the other
(`refusals_classed`). A body that breaks off fails both in the same way. -/

namespace GraphQLClient

variable {κ σ : Type}

/-- Too many requests, or a fault of the server. -/
def StatusCode.Transient (status : StatusCode) : Prop :=
  status.toNat = 429 ∨ 500 ≤ status.toNat ∧ status.toNat ≤ 599

theorem StatusCode.isTransient_iff {status : StatusCode} :
    status.isTransient = true ↔ status.Transient := by
  have h429 : status = 429 ↔ status.toNat = 429 := UInt16.toNat_inj.symm
  have h500 : (500 : UInt16) ≤ status ↔ 500 ≤ status.toNat := UInt16.le_iff_toNat_le
  have h600 : status < (600 : UInt16) ↔ status.toNat < 600 := UInt16.lt_iff_toNat_lt
  simp only [isTransient, Transient, Bool.or_eq_true, Bool.and_eq_true, decide_eq_true_eq, h429,
    h500, h600]
  omega

/-- The bytes are no envelope, or one without errors and with no data but null. -/
def Envelope.Bare (body : Bytes) : Prop :=
  ∀ e, Envelope.read body = .ok e → e.errors = [] ∧ e.data.getD .null = .null

/-! ## The policy -/

/-- A failure that is worth another attempt just if `again`, and that backoff without a test of its
own meets so, up to its limit. -/
structure Failure.Classed (f : Failure) (again : Prop) : Prop where
  isRetryable : f.isRetryable = true ↔ again
  met : ∀ {κ τ : Type} (b : Backoff), b.test = Failure.isRetryable →
    ∀ (factor : Binary64) (info : CallInfo κ) (attempt : UInt32) (t : Session τ),
      t.deadline = none → ∃ answer t',
        (b.policy factor info attempt f).complete t = (some answer, t') ∧
          (answer = true ↔ attempt ≤ b.maxRetries ∧ again)

theorem Failure.classed {f : Failure} {again : Prop} (h : f.isRetryable = true ↔ again) :
    f.Classed again where
  isRetryable := h
  met b hb factor info attempt t ht := by
    obtain ⟨t', hc⟩ := b.exists_complete_policy factor info attempt f ht
    refine ⟨_, t', hc, ?_⟩
    rw [Backoff.accepts, hb, Bool.and_eq_true, decide_eq_true_eq, h]

/-! ## The failures of a refused request -/

namespace HttpResponse

theorem resolve_of_bare {handler : ErrorHandler} {op : Operation} {status : StatusCode}
    {body : Bytes} (bare : Envelope.Bare body) (refused : status.isSuccess = false) :
    (resolve handler op status body).1 = .error (refusal status body) := by
  cases h : Envelope.read body with
  | error fault => simp [resolve_of_fault h, refused]
  | ok e =>
    obtain ⟨herrors, hdata⟩ := bare e h
    simp [resolve_of_no_errors h herrors, hdata, settled, Json.isNull, refused]

/-- The failure of a refused request: the fault of its body, or one that is worth another attempt
just if `again`. -/
def RefusedWith (again : Prop) (f : Failure) : Except Failure Bytes → Prop
  | .error fault => f = fault
  | .ok _ => f.Classed again

/-- **A query or mutation** that is refused fails as its status says. -/
theorem payload_refused {handler : ErrorHandler} {op : Operation} {r : HttpResponse}
    {s s' : Session σ} {x : Except Failure Bytes} (refused : r.head.status.isSuccess = false)
    (bare : ∀ body, x = .ok body → Envelope.Bare body)
    (hc : r.body.collect.complete s = (some x, s')) :
    ∃ f s'', (r.payload handler op).complete s = (some (.error f), s'') ∧
      RefusedWith r.head.status.Transient f x := by
  have hp := complete_payload handler op r s
  rw [hc] at hp
  cases x with
  | error fault => exact ⟨fault, _, hp, rfl⟩
  | ok body =>
    have ha : (answerTo handler op r.head.status (.ok body)).1 =
        .error (refusal r.head.status body) := resolve_of_bare (bare body rfl) refused
    dsimp only at hp
    rw [ha] at hp
    exact ⟨_, _, hp, Failure.classed StatusCode.isTransient_iff⟩

/-- **A subscription** that is refused fails for good. -/
theorem events_refused {handler : ErrorHandler} {op : Operation} {h : Handle} {r : HttpResponse}
    {s s' : Session σ} {x : Except Failure Bytes} (rejected : r.head.status ≠ 200)
    (hc : r.body.collect.complete s = (some x, s')) :
    ∃ f s'', (r.events handler op h).complete s = (some (.error f), s'') ∧
      RefusedWith False f x := by
  have hresult := complete_events_of_not_accepts handler op h (fun a => rejected a.1) s
  rw [hc, Option.map_some] at hresult
  refine ⟨_, _, Prod.ext hresult rfl, ?_⟩
  cases x with
  | error fault => rfl
  | ok body => exact Failure.classed (by simp [rejectionOf, Failure.isRetryable])

/-- **Only queries and mutations are tried again** behind a transient refusal: the status decides
about their failure, and not about that of a subscription, which is final under every status. -/
theorem refusals_classed (handler : ErrorHandler) (op : Operation) (h : Handle) (r : HttpResponse)
    (s : Session σ) (unlimited : s.deadline = none) (ends : r.body.arrivals.Ends)
    (bare : ∀ body, r.body.outcome = .ok body → Envelope.Bare body) :
    (r.head.status.isSuccess = false →
      ∃ f s', (r.payload handler op).complete s = (some (.error f), s') ∧
        RefusedWith r.head.status.Transient f r.body.outcome) ∧
    (r.head.status ≠ 200 →
      ∃ f s', (r.events handler op h).complete s = (some (.error f), s') ∧
        RefusedWith False f r.body.outcome) := by
  obtain ⟨s', hc⟩ := r.body.exists_complete_collect unlimited ends
  exact ⟨fun refused => payload_refused refused bare hc, fun rejected => events_refused rejected hc⟩

/-- A server that is busy, and says so in pieces. -/
def busyResponse : HttpResponse where
  head := ⟨503, [("content-type", Text.Utf8.encode "text/plain")]⟩
  body := .streamed { pending :=
    [.data (Text.Utf8.encode "try "), .delay 5, .data (Text.Utf8.encode "later")] }

def pollReady : Operation := ⟨"PollReady", "query PollReady \x7b ready \x7d", .query⟩

theorem bare_busyResponse (body : Bytes) (h : busyResponse.body.outcome = .ok body) :
    Envelope.Bare body := by
  cases h
  rintro e ⟨⟩

theorem busyResponse_classed :
    (busyResponse.body.arrivals.Ends ∧
      ∀ body, busyResponse.body.outcome = .ok body → Envelope.Bare body) ∧
    (busyResponse.head.status.isSuccess = false →
      ∃ f s', (busyResponse.payload ErrorHandler.raise pollReady).complete ({ state := () }) =
          (some (.error f), s') ∧
        RefusedWith busyResponse.head.status.Transient f busyResponse.body.outcome) ∧
    (busyResponse.head.status ≠ 200 →
      ∃ f s', (busyResponse.events ErrorHandler.raise EventStream.onTick ⟨0⟩).complete
            ({ state := () }) = (some (.error f), s') ∧
        RefusedWith False f busyResponse.body.outcome) :=
  ⟨⟨.inl rfl, bare_busyResponse⟩,
    (refusals_classed _ pollReady ⟨0⟩ _ _ rfl (.inl rfl) bare_busyResponse).1,
    (refusals_classed _ EventStream.onTick ⟨0⟩ _ _ rfl (.inl rfl) bare_busyResponse).2⟩

/-- The same refusal of a busy server is transient for a query and final for a subscription. -/
theorem busyResponse_unlike : busyResponse.head.status.Transient ∧
    (∀ body, busyResponse.body.outcome = .ok body → Envelope.Bare body) ∧
    ∃ f g s s', (busyResponse.payload ErrorHandler.raise pollReady).complete ({ state := () }) =
        (some (.error f), s) ∧ f.isRetryable = true ∧
      (busyResponse.events ErrorHandler.raise EventStream.onTick ⟨0⟩).complete
        ({ state := () }) = (some (.error g), s') ∧ g.isRetryable = false :=
  ⟨.inr ⟨by decide, by decide⟩, bare_busyResponse, _, _, _, _, rfl, rfl, rfl, rfl⟩

end HttpResponse

end GraphQLClient
