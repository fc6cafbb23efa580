import GraphQLClient.Call.Executor
import GraphQLClient.Proofs.Future

/-! # The transport in the middle of an attempt

An attempt is what it does until it calls the transport (`outgoing`), the wait
for the answer (`answering`), and what it makes of that (`incoming`).
`exchange_eq` puts an exchange together from these, so that a theorem about one
of them needs to know nothing of the others. -/

namespace GraphQLClient

variable {κ σ ρ α β γ : Type}

namespace Run

theorem bind_assoc (r : Run σ α) (f : α → Run σ β) (g : β → Run σ γ) :
    (r.bind f).bind g = r.bind fun v => (f v).bind g := by
  funext s
  unfold Run.bind
  rcases r s with ⟨_ | _ | _ | _, s'⟩ <;> rfl

theorem bind_of_value {r : Run σ α} {s s' : Session σ} {v : α} (h : r s = (.value v, s'))
    (f : α → Run σ β) : r.bind f s = f v s' := by
  rw [Run.bind, h]

theorem bind_of_failure {r : Run σ α} {s s' : Session σ} {e : Failure}
    (h : r s = (.failure e, s')) (f : α → Run σ β) : r.bind f s = (.failure e, s') := by
  rw [Run.bind, h]

/-- A value comes only through both parts of a run. -/
theorem bind_eq_value_iff {r : Run σ α} {f : α → Run σ β} {s s' : Session σ} {v : β} :
    r.bind f s = (.value v, s') ↔
      ∃ x s₁, r s = (.value x, s₁) ∧ f x s₁ = (.value v, s') := by
  unfold Run.bind
  constructor
  · intro hv
    rcases h : r s with ⟨x | _ | _ | _, s₁⟩
    · rw [h] at hv
      exact ⟨x, s₁, rfl, hv⟩
    all_goals
      rw [h] at hv
      cases hv
  · rintro ⟨x, s₁, h, hv⟩
    rw [h]
    exact hv

theorem await_eq_value_iff {f : Future σ α} {s s' : Session σ} {v : α} :
    await f s = (.value v, s') ↔ f.complete s = (some v, s') := by
  unfold await
  rcases f.complete s with ⟨_ | v', s''⟩ <;> simp

end Run

/-- The session behind the call of the transport. -/
def Session.calling (transport : Transport σ) (attempt : UInt32) (request : HttpRequest)
    (s : Session σ) : Session σ :=
  { s with
    timeline := s.timeline.record (.invoked attempt request)
    state := (transport request s.state).2 }

namespace Executor

/-- An attempt until it calls the transport: the operation, and the request that goes out. -/
def outgoing (e : Executor κ σ ρ) (stages : Stages κ σ α) (info : AttemptInfo κ)
    (base : OperationRequest) : Run σ (OperationRequest × HttpRequest) := do
  Run.record (.entered info.attempt .serializing)
  let operation ← stages.prepare info base
  let request ← Run.awaitOk (e.encoder operation info.settings)
  let encoded : EncodedInfo κ := { info with operation }
  let request ← Stages.runAll encoded stages.afterEncoding request
  Run.record (.entered info.attempt .sending)
  match info.cancellation with
  | some h => return (operation, { request with cancellation := some h })
  | none => return (operation, request)

/-- Waiting for the answer of the transport, or for the handle. -/
def answering (answer : Future σ (Except Failure HttpResponse)) :
    Option Handle → Run σ HttpResponse
  | none => Run.awaitOk answer
  | some h =>
    (Run.await (answer.untilFired h)).bind fun
      | none => .fail .cancelled
      | some r => .ofExcept r

/-- An attempt from the answer of the transport on, up to decoding. -/
def incoming (stages : Stages κ σ α) (info : AttemptInfo κ) (out : OperationRequest × HttpRequest)
    (response : HttpResponse) : Run σ Exchange := do
  Run.record (.entered info.attempt .parsing)
  let answered : AnsweredInfo κ := { info with operation := out.1, request := out.2 }
  let response ← Stages.runAll answered stages.beforeDecoding response
  return { operation := out.1, request := out.2, response }

theorem send_eq (transport : Transport σ) (attempt : UInt32) (request : HttpRequest)
    (s : Session σ) :
    send transport attempt request s =
      answering (transport request s.state).1 request.cancellation
        (s.calling transport attempt request) := by
  unfold send
  cases request.cancellation <;> rfl

theorem exchange_eq (e : Executor κ σ ρ) (stages : Stages κ σ α) (info : AttemptInfo κ)
    (base : OperationRequest) :
    e.exchange stages info base = (e.outgoing stages info base).bind fun out =>
      (send e.transport info.attempt out.2).bind (incoming stages info out) := by
  have hbind {α β : Type} (r : Run σ α) (f : α → Run σ β) : r >>= f = r.bind f := rfl
  simp only [exchange, outgoing, hbind, Run.bind_assoc]
  cases info.cancellation <;> rfl

/-! ## Requests with a handle -/

section

variable {transport : Transport σ} {n : UInt32} {request : HttpRequest} {h : Handle}
  {s s' start : Session σ} {answer : Except Failure HttpResponse}

theorem send_of_complete_untilFired (hc : request.cancellation = some h) {o : Option _}
    (hu : ((transport request s.state).1.untilFired h).complete (s.calling transport n request) =
      (some o, s')) :
    send transport n request s =
      match o with
      | none => (.failure .cancelled, s')
      | some answer => Run.ofExcept answer s' := by
  rw [send_eq, hc]
  have haw : Run.await ((transport request s.state).1.untilFired h)
      (s.calling transport n request) = (.value o, s') := by
    rw [Run.await, hu]
  rw [answering, Run.bind_of_value haw]
  cases o <;> rfl

/-- **Behind the firing of the handle a call of the transport is in vain**: the answer is not even
waited for. -/
theorem send_of_isFired (hc : request.cancellation = some h)
    (hf : s.timeline.isFired h = true) :
    send transport n request s = (.failure .cancelled, s.calling transport n request) :=
  send_of_complete_untilFired hc (Future.complete_untilFired_of_isFired _ hf)

/-- **The answer counts if the handle has not fired when the poll that delivers it begins**, and
the handle counts if it has. -/
theorem send_of_delivers (hc : request.cancellation = some h)
    (hd : (transport request s.state).1.Delivers (s.calling transport n request) start answer s') :
    if start.timeline.isFired h then
      ∃ s'', send transport n request s = (.failure .cancelled, s'')
    else send transport n request s = Run.ofExcept answer s' := by
  have hu := hd.complete_untilFired (h := h)
  split_ifs with hf
  · rw [if_pos hf] at hu
    obtain ⟨s'', hu, -⟩ := hu
    exact ⟨s'', send_of_complete_untilFired hc hu⟩
  · rw [if_neg hf] at hu
    exact send_of_complete_untilFired hc hu

/-- A transport that never answers is given up when the handle fires, if that is in time. -/
theorem send_of_unanswered (hc : request.cancellation = some h)
    (hn : (transport request s.state).1.complete (s.calling transport n request) = (none, s')) :
    (∃ s'', send transport n request s = (.failure .cancelled, s'')) ∨
      (send transport n request s = (.stalled, s') ∧
        (s'.deadline.all (s'.timeline.now ≤ ·) = true → s'.timeline.isFired h = false)) := by
  rcases Future.complete_untilFired_of_stuck (h := h) hn with ⟨s'', hu, -⟩ | ⟨hu, hlate⟩
  · exact .inl ⟨s'', send_of_complete_untilFired hc hu⟩
  · refine .inr ⟨?_, hlate⟩
    rw [send_eq, hc, answering, Run.bind, Run.await, hu]

end

end Executor

end GraphQLClient
