import Mathlib.Logic.Relation
import GraphQLClient.Proofs.Call.Exchange

/-! # The steps of a run

All that an executor does by itself is to record events and to call the
transport; everything else is work that it was given and waits for. `Step` says
so of one step, `Run.Takes` of a run, and `Admits.attempt` and
`Admits.attemptSubscription` of the attempts of both families. The parts of an
attempt around the call of the transport wait for less (`AdmitsAround`), namely
for nothing that the transport answers (`Given`). What holds of attempts for this
reason alone (what their log can show, that a handle stays fired, who can have
fired it) is an induction on steps and not on attempts. -/

namespace GraphQLClient

open Relation (ReflTransGen)

variable {κ σ ρ α β : Type}

def Session.record (s : Session σ) (e : Event) : Session σ :=
  { s with timeline := s.timeline.record e }

/-- A step of a run that records events of a kind `P` besides notices, and waits for work of a
kind `W`. -/
inductive Session.Step (P : Event → Prop) (W : (α : Type) → Future σ α → Prop) :
    Session σ → Session σ → Prop
  | recorded {e : Event} (he : P e) (s : Session σ) : Step P W s (s.record e)
  | noticed (n : Notice) (s : Session σ) : Step P W s (s.record (.notice n))
  | called {n : UInt32} {request : HttpRequest} (he : P (.invoked n request))
      (transport : Transport σ) (s : Session σ) : Step P W s (s.calling transport n request)
  | worked {α : Type} {f : Future σ α} (hf : W α f) (s : Session σ) : Step P W s (f.complete s).2

variable {P Q : Event → Prop} {W : (α : Type) → Future σ α → Prop}

theorem steps_mono {s s' : Session σ} (hPQ : ∀ e, P e → Q e)
    (h : ReflTransGen (Session.Step P W) s s') : ReflTransGen (Session.Step Q W) s s' := by
  refine h.lift id fun s s' step => ?_
  cases step with
  | recorded he => exact .recorded (hPQ _ he) _
  | noticed n => exact .noticed n _
  | called he transport => exact .called (hPQ _ he) transport _
  | worked hf => exact .worked hf _

/-- No step moves the deadline. -/
theorem deadline_of_steps {s s' : Session σ} (h : ReflTransGen (Session.Step P W) s s') :
    s'.deadline = s.deadline := by
  induction h with
  | refl => rfl
  | tail _ step ih =>
    rw [← ih]
    cases step with
    | recorded | noticed | called => rfl
    | worked => exact Future.deadline_complete _ _

/-! ## Work put together -/

namespace Future

theorem steps_bind {f : Future σ α} {g : α → Future σ β} (s : Session σ)
    (hf : ReflTransGen (Session.Step P W) s (f.complete s).2)
    (hg : ∀ v s', ReflTransGen (Session.Step P W) s' ((g v).complete s').2) :
    ReflTransGen (Session.Step P W) s ((f.bind g).complete s).2 := by
  rw [complete_bind]
  rcases hc : f.complete s with ⟨_ | v, s'⟩
  · rwa [hc] at hf
  · rw [hc] at hf
    exact hf.trans (hg v s')

theorem steps_reportAll (ns : List Notice) (s : Session σ) :
    ReflTransGen (Session.Step P W) s ((reportAll ns).complete s).2 := by
  induction ns generalizing s with
  | nil => exact .refl
  | cons n ns ih => exact .head (.noticed n s) (ih _)

end Future

namespace HttpResponse

/-- Of a body only the bytes are waited for. -/
theorem steps_payload (handler : ErrorHandler) (op : Operation) (r : HttpResponse)
    (hb : W _ r.body.collect) (s : Session σ) :
    ReflTransGen (Session.Step P W) s ((r.payload handler op).complete s).2 := by
  refine Future.steps_bind s (.single (.worked hb s)) fun b s => ?_
  cases b with
  | error f => exact .refl
  | ok b => exact Future.steps_bind s (Future.steps_reportAll _ s) fun _ _ => .refl

theorem steps_events (handler : ErrorHandler) (op : Operation) (h : Handle) (r : HttpResponse)
    (hb : W _ r.body.collect) (s : Session σ) :
    ReflTransGen (Session.Step P W) s ((r.events handler op h).complete s).2 := by
  unfold events
  dsimp only
  split
  · exact .refl
  · refine Future.steps_bind s (Future.steps_bind s (.single (.worked hb s)) fun _ _ => .refl)
      fun body s => ?_
    cases body with
    | error f => exact .refl
    | ok body => exact .single (.noticed _ s)

end HttpResponse

/-! ## Runs -/

namespace Run

/-- A run that takes such steps only, and never ends for want of attempts. -/
def Takes (P : Event → Prop) (W : (α : Type) → Future σ α → Prop) (r : Run σ α) : Prop :=
  ∀ s, (r s).1 ≠ .outOfAttempts ∧ ReflTransGen (Session.Step P W) s (r s).2

theorem Takes.mono {r : Run σ α} (hr : r.Takes P W) (hPQ : ∀ e, P e → Q e) : r.Takes Q W :=
  fun s => ⟨(hr s).1, steps_mono hPQ (hr s).2⟩

theorem takes_pure (v : α) : (pure v : Run σ α).Takes P W :=
  fun _ => ⟨by simp [pure], .refl⟩

theorem takes_fail (f : Failure) : (fail f : Run σ α).Takes P W :=
  fun _ => ⟨by simp [fail], .refl⟩

theorem takes_ofExcept (x : Except Failure α) : (ofExcept x : Run σ α).Takes P W := by
  cases x with
  | ok v => exact takes_pure v
  | error f => exact takes_fail f

theorem takes_record {e : Event} (he : P e) : (record e : Run σ Unit).Takes P W :=
  fun s => ⟨by simp [record], .single (.recorded he s)⟩

/-- A run whose values are of one kind. -/
def Returns (Q : α → Prop) (r : Run σ α) : Prop :=
  ∀ s v s', r s = (.value v, s') → Q v

theorem returns_pure {Q : α → Prop} {v : α} (hv : Q v) : (pure v : Run σ α).Returns Q := by
  rintro s v' s' ⟨⟩
  exact hv

theorem Returns.bind {Q : α → Prop} {R : β → Prop} {r : Run σ α} {f : α → Run σ β}
    (hr : r.Returns Q) (hf : ∀ v, Q v → (f v).Returns R) : (r.bind f).Returns R := by
  intro s v s' h
  obtain ⟨x, s₁, hx, hv⟩ := bind_eq_value_iff.1 h
  exact hf x (hr s x s₁ hx) s₁ v s' hv

theorem Takes.bind_of_returns {Q : α → Prop} {r : Run σ α} {f : α → Run σ β}
    (hr : r.Takes P W) (hq : r.Returns Q) (hf : ∀ v, Q v → (f v).Takes P W) :
    (r.bind f).Takes P W := by
  intro s
  obtain ⟨ho, hs⟩ := hr s
  unfold Run.bind
  rcases h : r s with ⟨v | _ | _ | _, s'⟩
  · rw [h] at hs
    have hv := hf v (hq s v s' h) s'
    exact ⟨hv.1, hs.trans hv.2⟩
  · exact ⟨by simp, by rwa [h] at hs⟩
  · exact ⟨by simp, by rwa [h] at hs⟩
  · exact absurd (congrArg Prod.fst h) ho

theorem Takes.bind {r : Run σ α} {f : α → Run σ β} (hr : r.Takes P W)
    (hf : ∀ v, (f v).Takes P W) : (r.bind f).Takes P W :=
  hr.bind_of_returns (Q := fun _ => True) (fun _ _ _ _ => trivial) fun v _ => hf v

theorem takes_await {f : Future σ α}
    (hf : ∀ s, ReflTransGen (Session.Step P W) s (f.complete s).2) : (await f).Takes P W := by
  intro s
  have hs := hf s
  unfold await
  rcases h : f.complete s with ⟨_ | v, s'⟩ <;>
    exact ⟨by simp, by rwa [h] at hs⟩

theorem takes_awaitOk {f : Future σ (Except Failure α)}
    (hf : ∀ s, ReflTransGen (Session.Step P W) s (f.complete s).2) : (awaitOk f).Takes P W :=
  (takes_await hf).bind takes_ofExcept

end Run

namespace Stages

variable {ι : Type} (info : ι) {stages : List (Stage ι σ α)} {Q : α → Prop}

/-- Stages that keep to values of a kind `Q` are only run on such values. -/
theorem takes_runAll (hw : ∀ stage ∈ stages, ∀ v, Q v → W _ (stage info v))
    (hq : ∀ stage ∈ stages, ∀ v, Q v → (Run.awaitOk (stage info v)).Returns Q) {v : α} (hv : Q v) :
    (runAll info stages v).Takes P W := by
  induction stages generalizing v with
  | nil => exact Run.takes_pure v
  | cons stage rest ih =>
    obtain ⟨hs, hr⟩ := List.forall_mem_cons.1 hw
    obtain ⟨hsq, hrq⟩ := List.forall_mem_cons.1 hq
    exact (Run.takes_awaitOk fun s => .single (.worked (hs v hv) s)).bind_of_returns (hsq v hv)
      fun _ hv' => ih hr hrq hv'

theorem returns_runAll
    (hq : ∀ stage ∈ stages, ∀ v, Q v → (Run.awaitOk (stage info v)).Returns Q) {v : α} (hv : Q v) :
    (runAll info stages v).Returns Q := by
  induction stages generalizing v with
  | nil => exact Run.returns_pure hv
  | cons stage rest ih =>
    obtain ⟨hsq, hrq⟩ := List.forall_mem_cons.1 hq
    exact (hsq v hv).bind fun _ hv' => ih hrq hv'

end Stages

/-! ## Attempts -/

namespace Executor

/-- Work of a kind `W` is all that an executor waits for but the answers of the transport, on
responses with bodies of a kind `B`. -/
structure AdmitsAround (e : Executor κ σ ρ) (stages : Stages κ σ β) (policy : RetryPolicy κ σ)
    (W : (α : Type) → Future σ α → Prop) (B : Body → Prop) : Prop where
  beforeEncoding : ∀ stage ∈ stages.beforeEncoding, ∀ info request, W _ (stage info request)
  encoder : ∀ request settings, W _ (e.encoder request settings)
  afterEncoding : ∀ stage ∈ stages.afterEncoding, ∀ info request, W _ (stage info request)
  beforeDecoding : ∀ stage ∈ stages.beforeDecoding, ∀ info response, B response.body →
    W _ (stage info response)
  kept : ∀ stage ∈ stages.beforeDecoding, ∀ info response, B response.body →
    (Run.awaitOk (stage info response)).Returns (B ·.body)
  body : ∀ body, B body → W _ body.collect
  afterDecoding : ∀ stage ∈ stages.afterDecoding, ∀ info result, W _ (stage info result)
  policy : ∀ info n f, W _ (policy info n f)

/-- Work of a kind `W` is all that an executor waits for, if the bodies of responses are of a
kind `B`. -/
structure Admits (e : Executor κ σ ρ) (stages : Stages κ σ β) (policy : RetryPolicy κ σ)
    (W : (α : Type) → Future σ α → Prop) (B : Body → Prop) : Prop
    extends AdmitsAround e stages policy W B where
  answer : ∀ request state, W _ (e.transport request state).1
  answerUntil : ∀ h request state, W _ ((e.transport request state).1.untilFired h)
  answered : ∀ request state, (Run.awaitOk (e.transport request state).1).Returns (B ·.body)

/-- Any work at all. -/
def AnyWork (α : Type) (_ : Future σ α) : Prop := True

theorem admits_any (e : Executor κ σ ρ) (stages : Stages κ σ β) (policy : RetryPolicy κ σ) :
    e.Admits stages policy AnyWork fun _ => True := by
  refine ⟨⟨?_, ?_, ?_, ?_, ?_, ?_, ?_, ?_⟩, ?_, ?_, ?_⟩ <;> intros <;>
    first | trivial | exact fun _ _ _ _ => trivial

/-- The work that an executor is given besides the answers of the transport. -/
inductive Given (e : Executor κ σ ρ) (stages : Stages κ σ β) (policy : RetryPolicy κ σ) :
    (α : Type) → Future σ α → Prop
  | beforeEncoding {stage} (hm : stage ∈ stages.beforeEncoding) (info) (request) :
      Given e stages policy _ (stage info request)
  | encoder (request) (settings) : Given e stages policy _ (e.encoder request settings)
  | afterEncoding {stage} (hm : stage ∈ stages.afterEncoding) (info) (request) :
      Given e stages policy _ (stage info request)
  | beforeDecoding {stage} (hm : stage ∈ stages.beforeDecoding) (info) (response) :
      Given e stages policy _ (stage info response)
  | body (body) : Given e stages policy _ (Body.collect body)
  | afterDecoding {stage} (hm : stage ∈ stages.afterDecoding) (info) (result) :
      Given e stages policy _ (stage info result)
  | policy (info) (n) (f) : Given e stages policy _ (policy info n f)

theorem admitsAround_given (e : Executor κ σ ρ) (stages : Stages κ σ β)
    (policy : RetryPolicy κ σ) :
    e.AdmitsAround stages policy (e.Given stages policy) fun _ => True where
  beforeEncoding _ hm := .beforeEncoding hm
  encoder := .encoder
  afterEncoding _ hm := .afterEncoding hm
  beforeDecoding _ hm info response _ := .beforeDecoding hm info response
  kept _ _ _ _ _ _ _ _ _ := trivial
  body b _ := .body b
  afterDecoding _ hm := .afterDecoding hm
  policy := .policy

/-- What an attempt of some number may write, between its beginning and its end. -/
inductive Within (n : UInt32) : Event → Prop
  | entered (state : AttemptState) : Within n (.entered n state)
  | invoked (request : HttpRequest) : Within n (.invoked n request)
  | notice (notice : Notice) : Within n (.notice notice)

/-- What it writes besides notices until it calls the transport. -/
inductive Outward (n : UInt32) : Event → Prop
  | serializing : Outward n (.entered n .serializing)
  | sending : Outward n (.entered n .sending)

/-- What it writes besides notices behind the answer. -/
inductive Inward (n : UInt32) : Event → Prop
  | parsing : Inward n (.entered n .parsing)

theorem Outward.within {n : UInt32} {e : Event} : Outward n e → Within n e
  | .serializing => .entered .serializing
  | .sending => .entered .sending

theorem Inward.within {n : UInt32} {e : Event} : Inward n e → Within n e
  | .parsing => .entered .parsing

/-- What an attempt does between its first two steps, and what comes of it. -/
def encoding (e : Executor κ σ ρ) (stages : Stages κ σ α) (info : AttemptInfo κ)
    (base : OperationRequest) : Run σ (OperationRequest × HttpRequest) := do
  let operation ← stages.prepare info base
  let request ← Run.awaitOk (e.encoder operation info.settings)
  let encoded : EncodedInfo κ := { info with operation }
  let request ← Stages.runAll encoded stages.afterEncoding request
  return (operation, match info.cancellation with
    | some h => { request with cancellation := some h }
    | none => request)

theorem outgoing_eq (e : Executor κ σ ρ) (stages : Stages κ σ α) (info : AttemptInfo κ)
    (base : OperationRequest) : e.outgoing stages info base =
      (Run.record (.entered info.attempt .serializing)).bind fun _ =>
        (e.encoding stages info base).bind fun out =>
          (Run.record (.entered info.attempt .sending)).bind fun _ => pure out := by
  have hbind {α β : Type} (r : Run σ α) (f : α → Run σ β) : r >>= f = r.bind f := rfl
  simp only [outgoing, encoding, hbind, Run.bind_assoc]
  cases info.cancellation <;> rfl

theorem takes_answering {answer : Future σ (Except Failure HttpResponse)} (ha : W _ answer)
    (hu : ∀ h, W _ (answer.untilFired h)) (cancellation : Option Handle) :
    (answering answer cancellation).Takes P W := by
  cases cancellation with
  | none => exact Run.takes_awaitOk fun s => .single (.worked ha s)
  | some h =>
    refine (Run.takes_await fun s => .single (.worked (hu h) s)).bind fun r => ?_
    cases r with
    | none => exact Run.takes_fail _
    | some r => exact Run.takes_ofExcept r

section

variable {e : Executor κ σ ρ} {stages : Stages κ σ β} {policy : RetryPolicy κ σ}
  {B : Body → Prop} (hw : e.AdmitsAround stages policy W B) (info : AttemptInfo κ)

include hw

theorem AdmitsAround.encoding (base : OperationRequest) :
    (e.encoding stages info base).Takes P W := by
  have hany {ι α : Type} {stages : List (Stage ι σ α)} (info : ι) : ∀ stage ∈ stages, ∀ v, True →
      (Run.awaitOk (stage info v)).Returns fun _ => True := fun _ _ _ _ _ _ _ _ => trivial
  refine ((Stages.takes_runAll _ (fun _ hm v _ => hw.beforeEncoding _ hm _ v) (hany _)
    trivial).bind fun request => ?_).bind fun operation => ?_
  · split
    · exact Run.takes_pure request
    · exact Run.takes_fail _
  refine (Run.takes_awaitOk fun s => .single (.worked (hw.encoder _ _) s)).bind fun request => ?_
  exact (Stages.takes_runAll _ (fun _ hm v _ => hw.afterEncoding _ hm _ v) (hany _)
    trivial).bind fun request => Run.takes_pure _

theorem AdmitsAround.outgoing (base : OperationRequest) :
    (e.outgoing stages info base).Takes (Outward info.attempt) W := by
  rw [outgoing_eq]
  refine (Run.takes_record .serializing).bind fun _ => ?_
  refine (hw.encoding info base).bind fun out => ?_
  exact (Run.takes_record .sending).bind fun _ => Run.takes_pure out

theorem AdmitsAround.stagesBeforeDecoding (info : AnsweredInfo κ) {response : HttpResponse}
    (hb : B response.body) : (Stages.runAll info stages.beforeDecoding response).Takes P W :=
  Stages.takes_runAll _ (fun _ hm v => hw.beforeDecoding _ hm _ v)
    (fun _ hm v => hw.kept _ hm _ v) hb

theorem AdmitsAround.incoming (out : OperationRequest × HttpRequest) {response : HttpResponse}
    (hb : B response.body) : (incoming stages info out response).Takes (Inward info.attempt) W :=
  (Run.takes_record .parsing).bind fun _ =>
    (hw.stagesBeforeDecoding _ hb).bind fun _ => Run.takes_pure _

theorem AdmitsAround.returns_incoming (out : OperationRequest × HttpRequest)
    {response : HttpResponse} (hb : B response.body) :
    (Executor.incoming stages info out response).Returns (B ·.response.body) := by
  intro s x s' hx
  obtain ⟨response', _, hr, hx⟩ := Run.bind_eq_value_iff.1 hx
  have hb' : B response'.body := Stages.returns_runAll (Q := (B ·.body)) _
    (fun _ hm v => hw.kept _ hm _ v) hb _ _ _ hr
  cases hx
  exact hb'

theorem AdmitsAround.conclude (x : Exchange) (result : β) :
    (conclude stages info x result).Takes P W :=
  (Stages.takes_runAll (Q := fun _ => True) _ (fun _ hm v _ => hw.afterDecoding _ hm _ v)
    (fun _ _ _ _ _ _ _ _ => trivial) trivial).bind fun _ => Run.takes_pure _

end

section

variable {e : Executor κ σ ρ} {stages : Stages κ σ β} {policy : RetryPolicy κ σ}
  {B : Body → Prop} (hw : e.Admits stages policy W B) (info : AttemptInfo κ)

include hw

theorem Admits.returns_answering (request : HttpRequest) (state : σ)
    (cancellation : Option Handle) :
    (Executor.answering (e.transport request state).1 cancellation).Returns (B ·.body) := by
  cases cancellation with
  | none => exact hw.answered request state
  | some h =>
    intro s v s' hv
    obtain ⟨r, s₁, hr, hv⟩ := Run.bind_eq_value_iff.1 hv
    cases r with
    | none => cases hv
    | some r =>
      have hc := Future.complete_of_complete_untilFired (Run.await_eq_value_iff.1 hr)
      exact hw.answered request state s v s'
        (Run.bind_eq_value_iff.2 ⟨r, s₁, Run.await_eq_value_iff.2 hc, hv⟩)

theorem Admits.send (n : UInt32) (request : HttpRequest) :
    (send e.transport n request).Takes (Within n) W := by
  intro s
  rw [send_eq]
  obtain ⟨ho, hs⟩ := takes_answering (hw.answer request s.state)
    (fun h => hw.answerUntil h request s.state) request.cancellation
    (s.calling e.transport n request)
  exact ⟨ho, .head (.called (.invoked request) e.transport s) hs⟩

theorem Admits.returns_send (n : UInt32) (request : HttpRequest) :
    (Executor.send e.transport n request).Returns (B ·.body) := by
  intro s v s' hv
  rw [send_eq] at hv
  exact hw.returns_answering request s.state request.cancellation _ v s' hv

theorem Admits.exchange (base : OperationRequest) :
    (e.exchange stages info base).Takes (Within info.attempt) W := by
  rw [exchange_eq]
  refine ((hw.outgoing info base).mono fun _ => Outward.within).bind fun out => ?_
  refine (hw.send info.attempt out.2).bind_of_returns (hw.returns_send _ _) fun response hb => ?_
  exact (hw.incoming info out hb).mono fun _ => Inward.within

theorem Admits.returns_exchange (base : OperationRequest) :
    (e.exchange stages info base).Returns (B ·.response.body) := by
  rw [exchange_eq]
  refine Run.Returns.bind (Q := fun _ => True) (fun _ _ _ _ => trivial) fun out _ => ?_
  exact (hw.returns_send _ _).bind fun _ hb => hw.returns_incoming info out hb

end

/-- From the exchange on, an attempt at a query or mutation. -/
def decodeValue (e : Executor κ σ ρ) (decode : Json.Decoder ρ) (info : AttemptInfo κ)
    (x : Exchange) : Run σ (Completed ρ) := do
  let data ← Run.awaitOk (x.response.payload e.handler x.operation.operation)
  let result ← Run.ofExcept
    ((decode data).mapError fun m => .validation (.result x.operation.operation.name m))
  conclude e.stages info x result

/-- From the exchange on, an attempt at a subscription. Dropping a stream that has not been
confirmed does nothing, so it stands here without the clean-up behind stages that fail. -/
def openStream (e : Executor κ σ ρ) (decode : Json.Decoder ρ) (handle : Handle)
    (info : AttemptInfo κ) (x : Exchange) : Run σ (Completed (Subscription EventStream ρ)) := do
  let events ← Run.awaitOk (x.response.events e.handler x.operation.operation handle)
  let done ← conclude e.subscriptionStages info x (.provisional events handle decode)
  return { done with result := done.result.confirm }

theorem attempt_eq (e : Executor κ σ ρ) (decode : Json.Decoder ρ) (info : AttemptInfo κ)
    (base : OperationRequest) :
    e.attempt decode info base =
      (e.exchange e.stages info base).bind (e.decodeValue decode info) := rfl

theorem onFailure_drop_provisional (r : Run σ α) (events : EventStream) (handle : Handle)
    (decode : Json.Decoder ρ) :
    (r.onFailure fun s =>
      { s with timeline := (Subscription.provisional events handle decode).drop s.timeline }) =
      r := by
  funext s
  unfold Run.onFailure
  rcases r s with ⟨_ | _ | _ | _, s'⟩ <;> rfl

theorem attemptSubscription_eq (e : Executor κ σ ρ) (decode : Json.Decoder ρ) (handle : Handle)
    (info : AttemptInfo κ) (base : OperationRequest) :
    e.attemptSubscription decode handle info base =
      (e.exchange e.subscriptionStages info base).bind (e.openStream decode handle info) := by
  simp only [attemptSubscription, onFailure_drop_provisional]
  rfl

section

variable {e : Executor κ σ ρ} {policy : RetryPolicy κ σ} {B : Body → Prop}
  (decode : Json.Decoder ρ) (info : AttemptInfo κ)

theorem AdmitsAround.decodeValue (hw : e.AdmitsAround e.stages policy W B) (x : Exchange)
    (hb : B x.response.body) : (e.decodeValue decode info x).Takes P W := by
  refine (Run.takes_awaitOk (HttpResponse.steps_payload _ _ _ (hw.body _ hb))).bind
    fun data => ?_
  exact (Run.takes_ofExcept _).bind fun result => hw.conclude info x result

theorem AdmitsAround.openStream (hw : e.AdmitsAround e.subscriptionStages policy W B)
    (handle : Handle) (x : Exchange) (hb : B x.response.body) :
    (e.openStream decode handle info x).Takes P W := by
  refine (Run.takes_awaitOk (HttpResponse.steps_events _ _ _ _ (hw.body _ hb))).bind
    fun events => ?_
  exact (hw.conclude info x _).bind fun _ => Run.takes_pure _

/-- **An attempt at a query or mutation** is such steps. -/
theorem Admits.attempt (hw : e.Admits e.stages policy W B) (base : OperationRequest) :
    (e.attempt decode info base).Takes (Within info.attempt) W := by
  rw [attempt_eq]
  exact (hw.exchange info base).bind_of_returns (hw.returns_exchange info base)
    (hw.decodeValue decode info)

/-- **An attempt at a subscription** is, although it may drop a stream. -/
theorem Admits.attemptSubscription (hw : e.Admits e.subscriptionStages policy W B)
    (handle : Handle) (base : OperationRequest) :
    (e.attemptSubscription decode handle info base).Takes (Within info.attempt) W := by
  rw [attemptSubscription_eq]
  exact (hw.exchange info base).bind_of_returns (hw.returns_exchange info base)
    (hw.openStream decode info handle)

end

end Executor

end GraphQLClient
