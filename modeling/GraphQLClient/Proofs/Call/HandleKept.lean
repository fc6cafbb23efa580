import GraphQLClient.Proofs.Call.Departure
import GraphQLClient.Proofs.Response.UntouchedStream

/-! # The handle of a subscription

All attempts at a subscription share the handle of the call, and a stream closes
its handle when it is dropped. A stream that is built by an attempt that fails
behind it is dropped too, but it has not been confirmed, and that is why the
attempts leave the handle as it was (`HandleKept`): whoever fires it while the
call runs is somebody whose work the executor waits for, or an alarm. Only the
stream that is returned closes the handle. -/

namespace GraphQLClient

open Relation (ReflTransGen)
open Timeline (Untouched)

variable {κ σ ρ α β : Type}

section

variable {P : Event → Prop} {W : (α : Type) → Future σ α → Prop} {s s' : Session σ} {h : Handle}

/-- Steps fire a handle only by the work that they wait for. -/
theorem exists_work_of_fired (hs : ReflTransGen (Session.Step P W) s s')
    (hf : s.timeline.isFired h = false) (hf' : s'.timeline.isFired h = true) :
    ∃ (α : Type) (f : Future σ α) (s₁ : Session σ), W α f ∧
      ReflTransGen (Session.Step P W) s s₁ ∧ s₁.timeline.isFired h = false ∧
      (f.complete s₁).2.timeline.isFired h = true := by
  induction hs with
  | refl =>
    rw [hf] at hf'
    cases hf'
  | @tail s₁ s₂ hpath step ih =>
    cases hf₁ : s₁.timeline.isFired h with
    | true => exact ih hf₁
    | false =>
      cases step with
      | worked hw => exact ⟨_, _, s₁, hw, hpath, hf₁, hf'⟩
      | recorded | noticed | called => exact absurd (hf₁.symm.trans hf') Bool.false_ne_true

/-- Steps that wait for work that spares a handle leave it to its alarms. -/
theorem untouched_of_steps (hs : ReflTransGen (Session.Step P W) s s')
    (hw : ∀ α (f : Future σ α), W α f → f.Spares h) (hh : h.id < s.timeline.fresh) :
    Untouched h s.timeline s'.timeline := by
  induction hs with
  | refl => exact .refl _
  | @tail s₁ s₂ _ step ih =>
    refine ih.trans ?_
    cases step with
    | worked hf => exact (hw _ _ hf).untouched s₁ (Nat.lt_of_lt_of_le hh ih.fresh)
    | recorded | noticed | called => exact (Timeline.agree_record _).untouched

end

/-- The subscription has the handle, and reading on in it does not fire it. -/
structure Subscription.Belongs (h : Handle) (s : Subscription EventStream ρ) : Prop where
  handle : s.handle = h
  spares : ∀ events ∈ s.events, events.Spares h

theorem Subscription.belongs_provisional {h : Handle} {b : Body} {events : EventStream}
    (hb : b.Spares h) (he : events.body = b.arrivals) (decode : Json.Decoder ρ) :
    (provisional events h decode).Belongs h := by
  refine ⟨rfl, ?_⟩
  rintro _ ⟨⟩
  rw [EventStream.Spares, he]
  exact hb

/-- The events of a response are read from its body. -/
theorem HttpResponse.returns_events (handler : ErrorHandler) (op : Operation) (h : Handle)
    (r : HttpResponse) :
    (Run.awaitOk (r.events handler op h) : Run σ _).Returns (·.body = r.body.arrivals) := by
  intro s v s' hv
  obtain ⟨x, s₁, hx, hv⟩ := Run.bind_eq_value_iff.1 hv
  rw [Run.await_eq_value_iff] at hx
  unfold events at hx
  dsimp only at hx
  split at hx
  · cases hx
    cases hv
    rfl
  · rw [Future.complete_bind] at hx
    rcases ht : r.text.complete s with ⟨_ | _ | body, s₂⟩ <;> rw [ht] at hx <;> cases hx
    all_goals cases hv

namespace Executor

/-- The work that an executor waits for and has not written itself. -/
inductive Foreign (e : Executor κ σ ρ) (stages : Stages κ σ β) (policy : RetryPolicy κ σ) :
    (α : Type) → Future σ α → Prop
  | given {α : Type} {f : Future σ α} (hf : e.Given stages policy α f) :
      Foreign e stages policy α f
  | answer (request) (state) : Foreign e stages policy _ (e.transport request state).1
  | answerUntil (h) (request) (state) :
      Foreign e stages policy _ ((e.transport request state).1.untilFired h)

theorem admits_foreign (e : Executor κ σ ρ) (stages : Stages κ σ β) (policy : RetryPolicy κ σ) :
    e.Admits stages policy (e.Foreign stages policy) fun _ => True where
  beforeEncoding _ hm info request := .given (.beforeEncoding hm info request)
  encoder request settings := .given (.encoder request settings)
  afterEncoding _ hm info request := .given (.afterEncoding hm info request)
  answer := .answer
  answerUntil := .answerUntil
  answered _ _ _ _ _ _ := trivial
  beforeDecoding _ hm info response _ := .given (.beforeDecoding hm info response)
  kept _ _ _ _ _ _ _ _ _ := trivial
  body b _ := .given (.body b)
  afterDecoding _ hm info result := .given (.afterDecoding hm info result)
  policy info n f := .given (.policy info n f)

/-- Nobody whose work the executor waits for fires the handle, nor does a body that is read. -/
def SparesHandle (e : Executor κ σ ρ) (h : Handle) : Prop :=
  e.Admits e.subscriptionStages e.subscriptionRetry (fun _ f => f.Spares h) (Body.Spares h)

/-- The stages behind decoding are given a stream of some kind and hand on one of that kind. -/
def HandsOn (e : Executor κ σ ρ) (Q : Subscription EventStream ρ → Prop) : Prop :=
  ∀ stage ∈ e.subscriptionStages.afterDecoding, ∀ info stream, Q stream →
    (Run.awaitOk (stage info stream)).Returns Q

/-- What becomes of the handle of a subscription in a call that begins in `s` and ends in `r`. -/
structure HandleKept (e : Executor κ σ ρ) (h : Handle) (s : Session σ)
    (r : Outcome (Completed (Subscription EventStream ρ)) × Session σ) : Prop where
  /-- The executor itself only records events and calls the transport. -/
  steps : ReflTransGen
    (Session.Step (fun _ => True) (e.Foreign e.subscriptionStages e.subscriptionRetry)) s r.2
  /-- So whoever fires the handle is somebody else. -/
  firedBy : s.timeline.isFired h = false → r.2.timeline.isFired h = true →
    ∃ (α : Type) (f : Future σ α) (s₁ : Session σ),
      e.Foreign e.subscriptionStages e.subscriptionRetry α f ∧
      s₁.timeline.isFired h = false ∧ (f.complete s₁).2.timeline.isFired h = true
  /-- If nobody does, the caller finds the handle as time would have left it. -/
  untouched : e.SparesHandle h → h.id < s.timeline.fresh → Untouched h s.timeline r.2.timeline
  /-- A stream that is returned has the handle, and closes it when it is dropped. -/
  handle : ∀ c, r.1 = .value c → e.HandsOn (·.handle = h) → c.result.handle = h
  drops : ∀ c, r.1 = .value c → ∀ t, (c.result.drop t).isFired c.result.handle = true
  /-- Otherwise it fires the handle only when it is closed. -/
  spared : ∀ c, r.1 = .value c → e.SparesHandle h → e.HandsOn (·.Belongs h) →
    ∀ acts : List Subscription.Act, (∀ a ∈ acts, ¬ a.Closes) → ∀ t,
      Untouched h t (Subscription.afterActs EventStream.poll acts c.result t).2

theorem subscribe_steps {W : (α : Type) → Future σ α → Prop} {B : Body → Prop}
    {e : Executor κ σ ρ} (hw : e.Admits e.subscriptionStages e.subscriptionRetry W B) (fuel : Nat)
    (op : Operation) (decode : Json.Decoder ρ) (inputs : Data) (settings : CallSettings)
    (h : Handle) (s : Session σ) :
    ReflTransGen (Session.Step (fun _ => True) W) s
      (e.subscribe fuel op decode inputs settings h s).2 := by
  rw [subscribe_eq]
  cases inputs.encode with
  | error fault => exact .refl
  | ok v =>
    have hrun : ∀ n, (e.attemptSubscriptionUnder decode (e.callInfo op v settings) h n).Takes
        (Within n) W := fun n => hw.attemptSubscription decode _ h _
    exact attempts_steps _ _ hrun (hw.policy _) fuel 1 s

section

variable {policy : RetryPolicy κ σ} {info : CallInfo κ} {run : UInt32 → Run σ α}

/-- What attempts return, the call returns. -/
theorem returns_attempts (hlocal : ∀ n, (run n).Local (Within n)) {Q : α → Prop}
    (hrun : ∀ n, (run n).Returns Q) (fuel : Nat) (n : UInt32) :
    (attempts policy info run fuel n).Returns Q := by
  induction fuel generalizing n with
  | zero =>
    intro s v s' hv
    cases hv
  | succ fuel ih =>
    intro s v s' hv
    obtain ⟨a, -, -, ha, hend⟩ := attempts_succ policy info hlocal fuel n s
    rcases hend with hend | ⟨s₁, -, hr⟩
    · rw [hv] at hend
      cases hend with
      | returned ho =>
        have hran := ha.ran
        rw [ho] at hran
        exact hrun a.number _ v _ hran
    · rw [hr] at hv
      exact ih _ s₁ v s' hv

end

section

variable {W : (α : Type) → Future σ α → Prop} {B : Body → Prop} {e : Executor κ σ ρ}
  {Q : Subscription EventStream ρ → Prop} (decode : Json.Decoder ρ) (h : Handle)
  (hw : e.Admits e.subscriptionStages e.subscriptionRetry W B) (hon : e.HandsOn Q)
  (hnew : ∀ b events, B b → events.body = b.arrivals → Q (.provisional events h decode))

include hw hon hnew

/-- **A stream that an attempt returns is confirmed**, and else of any kind that the stages hand
on. -/
theorem Admits.returns_attemptSubscription (info : AttemptInfo κ) (base : OperationRequest) :
    (e.attemptSubscription decode h info base).Returns fun c =>
      ∃ stream, Q stream ∧ c.result = stream.confirm := by
  rw [attemptSubscription_eq]
  refine (hw.returns_exchange info base).bind fun x hb => ?_
  refine (HttpResponse.returns_events e.handler _ h x.response).bind fun events hbody => ?_
  have hdone : (Executor.conclude e.subscriptionStages info x
      (Subscription.provisional events h decode)).Returns (Q ·.result) :=
    (Stages.returns_runAll _ (fun stage hm stream => hon stage hm _ stream)
      (hnew _ events hb hbody)).bind fun _ hq => Run.returns_pure hq
  exact hdone.bind fun done hq => Run.returns_pure ⟨done.result, hq, rfl⟩

theorem Admits.returns_subscribe (fuel : Nat) (op : Operation) (inputs : Data)
    (settings : CallSettings) :
    (e.subscribe fuel op decode inputs settings h).Returns fun c =>
      ∃ stream, Q stream ∧ c.result = stream.confirm := by
  rw [subscribe_eq]
  cases inputs.encode with
  | error fault =>
    rintro s c s' ⟨⟩
  | ok v =>
    exact returns_attempts (fun n => local_attemptSubscription e decode h _ _)
      (fun n => hw.returns_attemptSubscription decode h hon hnew _ _) fuel 1

end

/-- **Every call of a subscription keeps its handle**, however many attempts fail and at whatever
stage. -/
theorem subscribe_handleKept (e : Executor κ σ ρ) (fuel : Nat) (op : Operation)
    (decode : Json.Decoder ρ) (inputs : Data) (settings : CallSettings) (h : Handle)
    (s : Session σ) :
    e.HandleKept h s (e.subscribe fuel op decode inputs settings h s) where
  steps := subscribe_steps (e.admits_foreign _ _) fuel op decode inputs settings h s
  firedBy := by
    intro hf hf'
    have hsteps := subscribe_steps (e.admits_foreign _ _) fuel op decode inputs settings h s
    obtain ⟨α, f, s₁, hforeign, -, hbefore, hbehind⟩ := exists_work_of_fired hsteps hf hf'
    exact ⟨α, f, s₁, hforeign, hbefore, hbehind⟩
  untouched := by
    intro hw hh
    have hsteps := subscribe_steps hw fuel op decode inputs settings h s
    exact untouched_of_steps hsteps (fun _ _ hf => hf) hh
  handle := by
    intro c hc hon
    have hreturns := (e.admits_any _ _).returns_subscribe decode h hon (fun _ _ _ _ => rfl) fuel op
      inputs settings
    obtain ⟨stream, hh, hr⟩ := hreturns s c _ (Prod.ext hc rfl)
    rw [hr]
    exact hh
  drops := by
    intro c hc t
    -- Whatever the stages hand on, it is confirmed.
    have hreturns := (e.admits_any _ _).returns_subscribe decode h (Q := fun _ => True)
      (fun _ _ _ _ _ _ _ _ _ => trivial) (fun _ _ _ _ => trivial) fuel op inputs settings
    obtain ⟨stream, -, hr⟩ := hreturns s c _ (Prod.ext hc rfl)
    simp [hr, Subscription.drop, Subscription.close, Subscription.confirm]
  spared := by
    intro c hc hw hon acts hacts t
    have hreturns := hw.returns_subscribe decode h hon
      (fun _ _ hb he => Subscription.belongs_provisional hb he decode) fuel op inputs settings
    obtain ⟨stream, hb, hr⟩ := hreturns s c _ (Prod.ext hc rfl)
    have hsource : ∀ (events : EventStream) t, events.Spares h → EventStream.LeavesAlone h t
        (events.poll t) := fun _ t he => EventStream.poll_leavesAlone he t
    rw [hr]
    exact Subscription.untouched_acts hsource acts hacts _ t hb.spares

/-- Its answers are streams that stay open. A stage refuses the stream of the first attempt, and
the policy asks for another. -/
def reopening : Executor Unit Unit Json where
  client := ()
  transport := fun _ state => (.done (.ok
    { head := ⟨200, [("content-type", Text.Utf8.encode "text/event-stream")]⟩
      body := .streamed { staysOpen := true } }), state)
  encoder := fun _ _ => .done (.ok { body := .json "" })
  subscriptionStages :=
    { afterDecoding := [fun info stream =>
        .done (if info.attempt = 1 then .error (.middleware (.other "not yet")) else .ok stream)] }
  subscriptionRetry := fun _ _ _ => .done true

theorem reopening_sparesHandle (h : Handle) : reopening.SparesHandle h where
  beforeEncoding _ hm := nomatch hm
  encoder _ _ := trivial
  afterEncoding _ hm := nomatch hm
  answer _ _ := trivial
  answerUntil h₀ request state :=
    Future.Spares.untilFired (f := (reopening.transport request state).1) trivial h₀
  answered request state s v s' hv := by
    cases hv
    exact fun _ hm => nomatch hm
  beforeDecoding _ hm := nomatch hm
  kept _ hm := nomatch hm
  body _ hb := Body.spares_collect hb
  afterDecoding stage hm info stream := by
    rw [List.mem_singleton.1 hm]
    trivial
  policy _ _ _ := trivial

theorem reopening_handsOn (Q : Subscription EventStream Json → Prop) : reopening.HandsOn Q := by
  intro stage hm info stream hq s v s' hv
  rw [List.mem_singleton.1 hm] at hv
  by_cases ha : info.attempt = 1
  · simp [Run.awaitOk, Run.await, Run.bind, Run.ofExcept, Run.fail, Future.complete, ha] at hv
  · simp [Run.awaitOk, Run.await, Run.bind, Run.ofExcept, Future.complete, ha, pure] at hv
    exact hv.1 ▸ hq

/-- The stream of the second attempt is open, whatever became of the first, and closes the
handle. -/
theorem reopening_kept :
    let h : Handle := ⟨0⟩
    let ticks : Operation := ⟨"Ticks", "subscription Ticks { tick }", .subscription⟩
    let r := reopening.subscribe 2 ticks .value .unit {} h
      { state := (), timeline := { fresh := 1 } }
    ∃ c, r.1 = .value c ∧ c.result.handle = h ∧ c.result.isClosed r.2.timeline = false ∧
      c.result.isClosed (c.result.drop r.2.timeline) = true ∧
      ∀ acts : List Subscription.Act, (∀ a ∈ acts, ¬ a.Closes) → Untouched h r.2.timeline
        (Subscription.afterActs EventStream.poll acts c.result r.2.timeline).2 := by
  intro h ticks r
  let info := reopening.callInfo ticks .null {}
  let late : Failure := .middleware (.other "not yet")
  let events : List Event := [.started ticks 1, .entered 1 .serializing, .entered 1 .sending,
    .invoked 1 { body := .json "", cancellation := some h }, .entered 1 .parsing]
  have hstart : r = attempts reopening.subscriptionRetry info
      (reopening.attemptSubscriptionUnder .value info h) 2 1
      { state := (), timeline := { fresh := 1 } } :=
    congrFun (reopening.subscribe_eq .value h 2 ticks .unit {}) _
  have hfailed : reopening.attemptSubscriptionUnder .value info h 1
      { state := (), timeline := { fresh := 1, events := [.started ticks 1] } } =
      (.failure late, { state := (), timeline := { fresh := 1, events } }) := rfl
  have hagain : r = attempts reopening.subscriptionRetry info
      (reopening.attemptSubscriptionUnder .value info h) 1 2
      (asking info 1 late { state := (), timeline := { fresh := 1, events } }) := by
    rw [hstart, attempts_of_asked hfailed rfl]
    rfl
  obtain ⟨c, s', hc⟩ : ∃ c s', reopening.attemptSubscriptionUnder .value info h 2
      ((asking info 1 late { state := (), timeline := { fresh := 1, events } }).record
        (.started ticks 2)) = (.value c, s') := ⟨_, _, rfl⟩
  have hr : r.1 = .value c := by rw [hagain, attempts_of_value hc]
  have hkept : reopening.HandleKept h { state := (), timeline := { fresh := 1 } } r :=
    reopening.subscribe_handleKept 2 ticks .value .unit {} h _
  have hh : c.result.handle = h := hkept.handle c hr (reopening_handsOn _)
  have hopen : r.2.timeline.isFired h = false := by
    refine eq_false_of_ne_true fun hf => ?_
    have hu := hkept.untouched (reopening_sparesHandle h) (Nat.lt_succ_self 0)
    rcases hu.isFired hf with hf | ⟨_, hm, -⟩
    · exact absurd hf (by decide)
    · exact absurd hm List.not_mem_nil
  exact ⟨c, hr, hh, by rw [Subscription.isClosed, hh, hopen], hkept.drops c hr _, fun acts hacts =>
    hkept.spared c hr (reopening_sparesHandle h) (reopening_handsOn _) acts hacts _⟩

end Executor

end GraphQLClient
