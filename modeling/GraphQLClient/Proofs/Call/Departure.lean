import GraphQLClient.Proofs.Call.Attempts

/-! # An attempt around its departure

In a call with a handle, an attempt departs when it calls the transport, which
it does at most once. Until then it says that it encodes and sends
(`Try.Departs.events`), behind the answer that it parses (`run_of_departs`), and
an attempt that does not depart does not call the transport at all. All of this
holds of both families of calls, whose attempts go on differently from the
exchange (`UnderHandle`). -/

namespace GraphQLClient

open Relation (ReflTransGen)

variable {κ σ ρ α β : Type}

/-- Calls of the transport. -/
def Event.isInvocation : Event → Bool
  | .invoked _ _ => true
  | _ => false

/-- What the stages of an attempt are told in a call with a handle. -/
def CallInfo.attemptUnder (info : CallInfo κ) (h : Handle) (n : UInt32) : AttemptInfo κ :=
  ⟨info.client, info.settings, n, some h⟩

/-- Settings with which executions have a handle. -/
def CallSettings.under (settings : CallSettings) (h : Handle) : CallSettings :=
  { settings with cancellation := some h }

/-- A handle that has fired stays fired, whatever a run does. -/
theorem isFired_of_steps {P : Event → Prop} {W : (α : Type) → Future σ α → Prop}
    {s s' : Session σ} {h : Handle} (hs : ReflTransGen (Session.Step P W) s s')
    (hf : s.timeline.isFired h = true) : s'.timeline.isFired h = true := by
  induction hs with
  | refl => exact hf
  | tail _ step ih =>
    cases step with
    | worked => exact Future.isFired_complete _ ih
    | _ => exact ih

namespace Executor

/-- An attempt that begins in `s` comes to call the transport with `request` in `s'`. -/
def Departs (e : Executor κ σ ρ) (stages : Stages κ σ α) (info : AttemptInfo κ)
    (base : OperationRequest) (s : Session σ) (request : HttpRequest) (s' : Session σ) : Prop :=
  ∃ operation, e.outgoing stages info base s = (.value (operation, request), s')

/-- **The request that goes out has the handle of the call**, whatever the stages have put in its
place. -/
theorem Departs.cancellation {e : Executor κ σ ρ} {stages : Stages κ σ α} {info : AttemptInfo κ}
    {base : OperationRequest} {s s' : Session σ} {request : HttpRequest} {h : Handle}
    (hd : e.Departs stages info base s request s') (hh : info.cancellation = some h) :
    request.cancellation = some h := by
  obtain ⟨operation, hout⟩ := hd
  unfold outgoing at hout
  rw [hh] at hout
  obtain ⟨_, _, -, hout⟩ := Run.bind_eq_value_iff.1 hout
  obtain ⟨_, _, -, hout⟩ := Run.bind_eq_value_iff.1 hout
  obtain ⟨_, _, -, hout⟩ := Run.bind_eq_value_iff.1 hout
  obtain ⟨_, _, -, hout⟩ := Run.bind_eq_value_iff.1 hout
  obtain ⟨_, _, -, hout⟩ := Run.bind_eq_value_iff.1 hout
  cases hout
  rfl

theorem steps_outgoing {e : Executor κ σ ρ} {stages : Stages κ σ α} {info : AttemptInfo κ}
    {base : OperationRequest} {s s' : Session σ} {o : Outcome (OperationRequest × HttpRequest)}
    (hout : e.outgoing stages info base s = (o, s')) :
    ReflTransGen (Session.Step (Outward info.attempt) AnyWork) s s' := by
  have ho := ((e.admits_any stages e.retry).outgoing info base s).2
  rwa [hout] at ho

section

variable (e : Executor κ σ ρ) (stages : Stages κ σ β) (info : CallInfo κ) (h : Handle)

/-- Runs that are attempts under the handle: an exchange, and what is made of it. -/
def UnderHandle (run : UInt32 → Run σ α) : Prop :=
  ∀ n, ∃ rest : Exchange → Run σ α,
    run n = (e.exchange stages (info.attemptUnder h n) info.request).bind rest ∧
      ∀ x, (rest x).Takes (fun _ => False) AnyWork

/-- The attempt comes to call the transport with `request` in `s`. -/
def Try.Departs (a : Try σ α) (request : HttpRequest) (s : Session σ) : Prop :=
  Executor.Departs e stages (info.attemptUnder h a.number) info.request
    (a.start.record (.started info.request.operation a.number)) request s

end

section

variable {e : Executor κ σ ρ} {stages : Stages κ σ β} {policy : RetryPolicy κ σ}
  {info : CallInfo κ} {h : Handle} {run : UInt32 → Run σ α}

theorem UnderHandle.takes (hrun : e.UnderHandle stages info h run) (n : UInt32) :
    (run n).Takes (Within n) AnyWork := by
  obtain ⟨rest, hr, hrest⟩ := hrun n
  rw [hr]
  exact ((e.admits_any stages e.retry).exchange (info.attemptUnder h n) info.request).bind
    fun x => (hrest x).mono fun _ => False.elim

theorem UnderHandle.local (hrun : e.UnderHandle stages info h run) (n : UInt32) :
    (run n).Local (Within n) := (hrun.takes n).local .notice

theorem UnderHandle.exists_history (hrun : e.UnderHandle stages info h run) (fuel : Nat)
    (s : Session σ) :
    ∃ tries, History policy info run 1 fuel s (attempts policy info run fuel 1 s) tries ∧
      ∀ a ∈ tries, ∃ left, attempts policy info run (left + 1) a.number a.start =
        attempts policy info run fuel 1 s := by
  obtain ⟨tries, hist, -, hleft⟩ := attempts_resumes hrun.local fuel 1 s
  exact ⟨tries, hist, hleft⟩

/-- Behind the answer an attempt says first that it parses it. -/
theorem events_incoming (e : Executor κ σ ρ) (info : AttemptInfo κ)
    (out : OperationRequest × HttpRequest) (response : HttpResponse) {rest : Exchange → Run σ α}
    (hrest : ∀ x, (rest x).Takes (fun _ => False) AnyWork) (s : Session σ) :
    ∃ es, ((incoming stages info out response).bind rest s).2.timeline.events =
      s.timeline.events ++ .entered info.attempt .parsing :: es := by
  have hbind {α β : Type} (r : Run σ α) (f : α → Run σ β) : r >>= f = r.bind f := rfl
  simp only [incoming, hbind, Run.bind_assoc]
  have hstages : (Stages.runAll ⟨⟨info, out.1⟩, out.2⟩ stages.beforeDecoding response).Takes
      (fun _ => False) AnyWork := (e.admits_any stages e.retry).stagesBeforeDecoding _ trivial
  have hbehind := hstages.bind fun response => hrest ⟨out.1, out.2, response⟩
  obtain ⟨es, hes, -⟩ := events_of_steps (hbehind (s.record (.entered info.attempt .parsing))).2
  refine ⟨es, hes.trans ?_⟩
  simp [Session.record, Timeline.record]

/-- **From its departure on** an attempt waits for the answer, and then says that it parses it. -/
theorem UnderHandle.run_of_departs (hrun : e.UnderHandle stages info h run) {n : UInt32}
    {s₀ s : Session σ} {request : HttpRequest}
    (hd : e.Departs stages (info.attemptUnder h n) info.request s₀ request s) :
    ∃ back : HttpResponse → Run σ α, run n s₀ = (send e.transport n request).bind back s ∧
      ∀ response, (back response).Takes (Inward n) AnyWork ∧
        ∀ s', ∃ es, (back response s').2.timeline.events =
          s'.timeline.events ++ .entered n .parsing :: es := by
  obtain ⟨rest, hr, hrest⟩ := hrun n
  obtain ⟨operation, hout⟩ := hd
  have hback : ∀ response, ((incoming stages (info.attemptUnder h n) (operation, request)
      response).bind rest).Takes (Inward n) AnyWork := fun response =>
    ((e.admits_any stages e.retry).incoming _ _ trivial).bind fun x =>
      (hrest x).mono fun _ => False.elim
  refine ⟨_, ?_, fun response => ⟨hback response, fun s' => ?_⟩⟩
  · rw [hr, exchange_eq, Run.bind_assoc, Run.bind_of_value hout, Run.bind_assoc]
    rfl
  · exact e.events_incoming _ _ response hrest s'

/-- Until its departure an attempt says that it begins, encodes and sends. -/
theorem Try.Departs.events {a : Try σ α} {request : HttpRequest} {s : Session σ}
    (hd : a.Departs e stages info h request s) :
    ∃ out, s.timeline.events =
        a.start.timeline.events ++ .started info.request.operation a.number :: out ∧
      ∀ ev ∈ out, Outward a.number ev ∨ ∃ n, ev = .notice n := by
  obtain ⟨operation, hout⟩ := hd
  obtain ⟨out, hs, hq⟩ := events_of_steps (steps_outgoing hout)
  exact ⟨out, hs.trans (by simp [Session.record, Timeline.record]), hq⟩

/-- Calling the transport and waiting for the answer brings notices at most. -/
theorem events_send (e : Executor κ σ ρ) (n : UInt32) (request : HttpRequest) (s : Session σ) :
    ∃ back, (send e.transport n request s).2.timeline.events =
        s.timeline.events ++ .invoked n request :: back ∧
      ∀ ev ∈ back, ∃ n, ev = .notice n := by
  have hquiet : (answering (e.transport request s.state).1 request.cancellation).Takes
      (fun _ => False) AnyWork := takes_answering trivial (fun _ => trivial) _
  obtain ⟨back, hs, hq⟩ := events_of_steps (hquiet (s.calling e.transport n request)).2
  rw [send_eq]
  exact ⟨back, hs.trans (by simp [Session.calling, Timeline.record]),
    fun ev hm => (hq ev hm).resolve_left id⟩

namespace Try.Happened

variable {a : Try σ α}

/-- **The log of an attempt that departs**: one call of the transport, between what comes before
and what comes behind it. -/
theorem since_of_departs (ha : a.Happened policy info run)
    (hrun : e.UnderHandle stages info h run) {request : HttpRequest} {s : Session σ}
    (hd : a.Departs e stages info h request s) :
    ∃ out back, a.finish.since a.start =
        .started info.request.operation a.number :: (out ++ .invoked a.number request :: back) ∧
      (∀ ev ∈ out, Outward a.number ev ∨ ∃ n, ev = .notice n) ∧
      ∀ ev ∈ back, Inward a.number ev ∨ ∃ n, ev = .notice n := by
  obtain ⟨out, hs, hout⟩ := hd.events
  obtain ⟨ns, hsend, hns⟩ := e.events_send a.number request s
  obtain ⟨back, hr, hback⟩ := hrun.run_of_departs hd
  rw [ha.ran] at hr
  have hns' : ∀ ev ∈ ns, Inward a.number ev ∨ ∃ n, ev = .notice n := fun ev hm => .inr (hns ev hm)
  rcases hx : send e.transport a.number request s with ⟨response | _ | _ | _, s'⟩
  · rw [Run.bind_of_value hx] at hr
    obtain ⟨behind, hb, hqb⟩ := events_of_steps ((hback response).1 s').2
    rw [← hr] at hb
    rw [hx] at hsend
    refine ⟨out, ns ++ behind, Session.since_eq ?_, hout, fun ev hm => ?_⟩
    · simp only at hb hsend
      simp [hb, hsend, hs]
    · exact (List.mem_append.1 hm).elim (hns' ev) (hqb ev)
  all_goals
    rw [Run.bind, hx] at hr
    rw [hx] at hsend
    obtain rfl : a.finish = s' := congrArg Prod.snd hr
    refine ⟨out, ns, Session.since_eq ?_, hout, hns'⟩
    simp only at hsend
    simp [hsend, hs]

/-- **Without a departure there is no call of the transport.** -/
theorem departs_or_quiet (ha : a.Happened policy info run)
    (hrun : e.UnderHandle stages info h run) :
    (∃ request s, a.Departs e stages info h request s) ∨
      ∀ ev ∈ a.finish.since a.start, ev.isInvocation = false := by
  obtain ⟨rest, hr, -⟩ := hrun a.number
  have hran := ha.ran
  rw [hr, exchange_eq, Run.bind_assoc] at hran
  rcases hout : e.outgoing stages (info.attemptUnder h a.number) info.request
    (a.start.record (.started info.request.operation a.number))
    with ⟨⟨operation, request⟩ | _ | _ | _, s⟩
  · exact .inl ⟨request, s, operation, hout⟩
  all_goals
    right
    rw [Run.bind, hout] at hran
    obtain ⟨out, hev, hq⟩ := events_of_steps (steps_outgoing hout)
    obtain rfl : s = a.finish := congrArg Prod.snd hran
    have hsince : a.finish.since a.start = .started info.request.operation a.number :: out :=
      Session.since_eq (hev.trans (by simp [Session.record, Timeline.record]))
    rw [hsince, List.forall_mem_cons]
    refine ⟨rfl, fun ev hm => ?_⟩
    rcases hq ev hm with (_ | _) | ⟨n, rfl⟩ <;> rfl

end Try.Happened

end

/-! ## Both families of calls -/

/-- What is fixed for all attempts of a call. -/
def callInfo (e : Executor κ σ ρ) (op : Operation) (v : Variable) (settings : CallSettings) :
    CallInfo κ :=
  ⟨e.client, ⟨op, v⟩, settings⟩

section

variable (e : Executor κ σ ρ) (decode : Json.Decoder ρ) (info : CallInfo κ) (h : Handle)

/-- The attempts of an execution with a handle. -/
def attemptUnder (n : UInt32) : Run σ (Completed ρ) :=
  e.attempt decode (info.attemptUnder h n) info.request

/-- The attempts of a subscription. -/
def attemptSubscriptionUnder (n : UInt32) : Run σ (Completed (Subscription EventStream ρ)) :=
  e.attemptSubscription decode h (info.attemptUnder h n) info.request

theorem underHandle_attempt :
    e.UnderHandle e.stages info h (e.attemptUnder decode info h) :=
  fun _ => ⟨_, e.attempt_eq decode _ _, fun x =>
    (e.admits_any e.stages e.retry).decodeValue decode _ x trivial⟩

theorem underHandle_attemptSubscription :
    e.UnderHandle e.subscriptionStages info h
      (e.attemptSubscriptionUnder decode info h) :=
  fun _ => ⟨_, e.attemptSubscription_eq decode h _ _, fun x =>
    (e.admits_any _ e.subscriptionRetry).openStream decode _ h x trivial⟩

variable (fuel : Nat) (op : Operation) (inputs : Data) (settings : CallSettings)

theorem execute_under :
    e.execute fuel op decode inputs (settings.under h) =
      match inputs.encode with
      | .error fault => .fail (.serialization (.encoding fault))
      | .ok v => attempts e.retry (e.callInfo op v (settings.under h))
        (e.attemptUnder decode (e.callInfo op v (settings.under h)) h) fuel 1 :=
  bind_encodeVariables op inputs _

theorem subscribe_eq :
    e.subscribe fuel op decode inputs settings h =
      match inputs.encode with
      | .error fault => .fail (.serialization (.encoding fault))
      | .ok v => attempts e.subscriptionRetry (e.callInfo op v settings)
        (e.attemptSubscriptionUnder decode (e.callInfo op v settings) h) fuel 1 :=
  bind_encodeVariables op inputs _

end

end Executor

end GraphQLClient
