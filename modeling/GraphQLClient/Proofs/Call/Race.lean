import GraphQLClient.Proofs.Call.Departure

/-! # The race of the handle and the answer

A call that has a handle looks at it in one place: where an attempt waits for
the answer of the transport. `Raced` says what is decided there and what comes
of it, for every attempt of a call (`calls_raced`). Work that is given up is
given up at the beginning of a poll, so an answer that a poll would bring comes
too late if the handle has fired when that poll begins. -/

namespace GraphQLClient

variable {κ σ ρ α β : Type}

namespace Executor

section

variable (e : Executor κ σ ρ) (stages : Stages κ σ β) (info : CallInfo κ) (h : Handle)

/-- The attempt is cancelled while it waits for the answer to `request`, and the call with it. -/
structure Try.CalledOff (a : Try σ α) (r : Outcome α × Session σ) (request : HttpRequest)
    (s : Session σ) : Prop where
  /-- The attempt ends where the call of the transport does: nothing comes of the answer. -/
  sent : send e.transport a.number request s = (.failure .cancelled, a.finish)
  outcome : a.outcome = .failure .cancelled
  unparsed : .entered a.number .parsing ∉ a.finish.since a.start
  unasked : a.verdict = none
  returned : r = (.failure .cancelled,
    a.finish.record (.failed info.request.operation a.number .cancelled))

/-- What the race of the handle and the answer decides, in an attempt of a call that ends
in `r`. -/
structure Try.Raced (a : Try σ α) (r : Outcome α × Session σ) : Prop where
  /-- What is handed to the transport has the handle of the call. -/
  handed : ∀ n request, .invoked n request ∈ a.finish.since a.start →
    n = a.number ∧ request.cancellation = some h ∧ ∃ s, a.Departs e stages info h request s
  /-- The handle has fired when the poll that would bring the answer begins. -/
  calledOff : ∀ {request : HttpRequest} {s start : Session σ} {answer s'},
    a.Departs e stages info h request s →
    (e.transport request s.state).1.Delivers (s.calling e.transport a.number request)
      start answer s' →
    start.timeline.isFired h = true → a.CalledOff e info r request s
  /-- It has not: the answer is taken as it is. -/
  delivered : ∀ {request : HttpRequest} {s start : Session σ} {answer s'},
    a.Departs e stages info h request s →
    (e.transport request s.state).1.Delivers (s.calling e.transport a.number request)
      start answer s' →
    start.timeline.isFired h = false →
      send e.transport a.number request s = Run.ofExcept answer s' ∧
        match answer with
        | .ok _ => ∃ es,
          a.finish.timeline.events = s'.timeline.events ++ .entered a.number .parsing :: es
        | .error f => a.outcome = .failure f ∧ a.finish = s'
  /-- There is no answer to come. -/
  unanswered : ∀ {request : HttpRequest} {s s' : Session σ},
    a.Departs e stages info h request s →
    (e.transport request s.state).1.complete (s.calling e.transport a.number request) =
      (none, s') →
    a.CalledOff e info r request s ∨
      (a.outcome = .stalled ∧ a.finish = s' ∧
        (s'.deadline.all (s'.timeline.now ≤ ·) = true → s'.timeline.isFired h = false))

end

section

variable {e : Executor κ σ ρ} {stages : Stages κ σ β} {policy : RetryPolicy κ σ}
  {info : CallInfo κ} {h : Handle} {run : UInt32 → Run σ α}

variable {first fuel : Nat} {s₀ : Session σ} {r : Outcome α × Session σ} {tries : List (Try σ α)}
  {a : Try σ α} {request : HttpRequest} {s s' : Session σ}

/-- **An attempt whose wait for the answer is cut short is called off, and the call with it.** -/
theorem History.calledOff (hist : History policy info run first fuel s₀ r tries)
    (hrun : e.UnderHandle stages info h run) (ha : a ∈ tries)
    (hd : a.Departs e stages info h request s)
    (hsend : send e.transport a.number request s = (.failure .cancelled, s')) :
    a.CalledOff e info r request s ∧ a.finish = s' := by
  obtain ⟨back, hr, -⟩ := hrun.run_of_departs hd
  rw [(hist.happened a ha).ran, Run.bind_of_failure hsend, Prod.mk.injEq] at hr
  obtain ⟨ho, rfl⟩ := hr
  obtain ⟨-, hv, hret⟩ := hist.ends_of_isFinal ha ho rfl
  refine ⟨⟨hsend, ho, ?_, hv, hret⟩, rfl⟩
  obtain ⟨out, hs, hout⟩ := hd.events
  obtain ⟨ns, hns, hq⟩ := e.events_send a.number request s
  rw [hsend, hs] at hns
  rw [Session.since_eq (hns.trans (List.append_assoc ..))]
  intro hm
  rcases List.mem_cons.1 hm with hm | hm
  · cases hm
  · rcases List.mem_append.1 hm with hm | hm
    · rcases hout _ hm with hm | ⟨n, hm⟩ <;> cases hm
    · rcases List.mem_cons.1 hm with hm | hm
      · cases hm
      · obtain ⟨n, hm⟩ := hq _ hm
        cases hm

/-- **The race of the handle and the answer**, in every attempt of a call with a handle. -/
theorem History.raced (hist : History policy info run first fuel s₀ r tries)
    (hrun : e.UnderHandle stages info h run) (ha : a ∈ tries) :
    a.Raced e stages info h r where
  handed n request' hm := by
    rcases (hist.happened a ha).departs_or_quiet hrun with ⟨request, s, hd⟩ | hquiet
    · obtain ⟨out, back, hs, hout, hback⟩ := (hist.happened a ha).since_of_departs hrun hd
      rw [hs] at hm
      rcases List.mem_cons.1 hm with hm | hm
      · cases hm
      · rcases List.mem_append.1 hm with hm | hm
        · rcases hout _ hm with hm | ⟨n, hm⟩ <;> cases hm
        · rcases List.mem_cons.1 hm with hm | hm
          · cases hm
            exact ⟨rfl, hd.cancellation rfl, s, hd⟩
          · rcases hback _ hm with hm | ⟨n, hm⟩ <;> cases hm
    · cases hquiet _ hm
  calledOff hd hdel hf := by
    have hsend := send_of_delivers (hd.cancellation rfl) hdel
    rw [if_pos hf] at hsend
    obtain ⟨s'', hsend⟩ := hsend
    exact (hist.calledOff hrun ha hd hsend).1
  delivered := by
    intro request s start answer s' hd hdel hf
    have hsend := send_of_delivers (hd.cancellation rfl) hdel
    rw [if_neg (by simp [hf])] at hsend
    refine ⟨hsend, ?_⟩
    obtain ⟨back, hr, hback⟩ := hrun.run_of_departs hd
    rw [(hist.happened a ha).ran] at hr
    cases answer with
    | error f =>
      rw [Run.bind_of_failure hsend, Prod.mk.injEq] at hr
      exact hr
    | ok response =>
      rw [Run.bind_of_value hsend] at hr
      obtain ⟨es, hes⟩ := (hback response).2 s'
      rw [← hr] at hes
      exact ⟨es, hes⟩
  unanswered := by
    intro request s s' hd hn
    rcases send_of_unanswered (hd.cancellation rfl) hn with ⟨s'', hsend⟩ | ⟨hsend, hlate⟩
    · exact .inl (hist.calledOff hrun ha hd hsend).1
    · right
      obtain ⟨back, hr, -⟩ := hrun.run_of_departs hd
      rw [(hist.happened a ha).ran, Run.bind, hsend, Prod.mk.injEq] at hr
      exact ⟨hr.1, hr.2, hlate⟩

end

/-- **In every call with a handle, executions and subscriptions alike, the race decides every
attempt**, at whatever time the handle fires. -/
theorem calls_raced (e : Executor κ σ ρ) (fuel : Nat) (op : Operation) (decode : Json.Decoder ρ)
    (inputs : Data) (settings : CallSettings) (h : Handle) (s : Session σ) :
    match inputs.encode with
    | .error fault =>
      e.execute fuel op decode inputs (settings.under h) s =
          (.failure (.serialization (.encoding fault)), s) ∧
        e.subscribe fuel op decode inputs settings h s =
          (.failure (.serialization (.encoding fault)), s)
    | .ok v =>
      (∃ tries, History e.retry (e.callInfo op v (settings.under h))
          (e.attemptUnder decode (e.callInfo op v (settings.under h)) h) 1 fuel s
          (e.execute fuel op decode inputs (settings.under h) s) tries ∧
        ∀ a ∈ tries, a.Raced e e.stages (e.callInfo op v (settings.under h)) h
          (e.execute fuel op decode inputs (settings.under h) s)) ∧
      ∃ tries, History e.subscriptionRetry (e.callInfo op v settings)
          (e.attemptSubscriptionUnder decode (e.callInfo op v settings) h) 1 fuel s
          (e.subscribe fuel op decode inputs settings h s) tries ∧
        ∀ a ∈ tries, a.Raced e e.subscriptionStages (e.callInfo op v settings) h
          (e.subscribe fuel op decode inputs settings h s) := by
  rw [execute_under, subscribe_eq]
  cases inputs.encode with
  | error fault => exact ⟨rfl, rfl⟩
  | ok v =>
    have hexec := e.underHandle_attempt decode (e.callInfo op v (settings.under h)) h
    have hsub := e.underHandle_attemptSubscription decode (e.callInfo op v settings) h
    obtain ⟨tries, hist, -⟩ := hexec.exists_history fuel s
    obtain ⟨tries', hist', -⟩ := hsub.exists_history fuel s
    exact ⟨⟨tries, hist, fun _ => hist.raced hexec⟩, tries', hist', fun _ => hist'.raced hsub⟩

end Executor

end GraphQLClient
