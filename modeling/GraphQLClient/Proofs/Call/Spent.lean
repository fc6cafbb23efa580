import GraphQLClient.Proofs.Call.Race

/-! # What is left to a call whose handle has fired

Neither the loop of attempts nor the wait of the policy looks at the handle, so a
call may go on behind its firing, and call the transport once more
(`lateRetry_departs`). `Spent` says that there is not more to it than that: the
answer to this last call of the transport is not even waited for, and the call
ends there as cancelled. -/

namespace GraphQLClient

open Relation (ReflTransGen)

variable {κ σ ρ α β : Type}

namespace Executor

section

variable (e : Executor κ σ ρ) (stages : Stages κ σ β) (info : CallInfo κ) (h : Handle)

/-- What is left to a call once its handle has fired, as seen from one of its attempts. -/
structure Try.Spent (a : Try σ α) (tries : List (Try σ α)) (r : Outcome α × Session σ) : Prop where
  once : (a.finish.since a.start).countP Event.isInvocation ≤ 1
  /-- It has fired when the attempt calls the transport: nothing is asked of the answer, and the
  attempt is the last. -/
  departed : ∀ {request : HttpRequest} {s : Session σ}, a.Departs e stages info h request s →
    s.timeline.isFired h = true → a.CalledOff e info r request s ∧
      a.finish = s.calling e.transport a.number request ∧ tries.getLast? = some a
  /-- It has fired when the attempt begins: the attempt departs under it, if it departs. -/
  sticky : a.start.timeline.isFired h = true → ∀ {request : HttpRequest} {s : Session σ},
    a.Departs e stages info h request s → s.timeline.isFired h = true
  /-- If there is another attempt behind that one, it has not departed. -/
  idle : a.start.timeline.isFired h = true → tries.getLast? ≠ some a →
    ∀ ev ∈ a.finish.since a.start, ev.isInvocation = false
  fromStart : a.start.timeline.isFired h = true →
    (r.2.since a.start).countP Event.isInvocation ≤ 1
  fromFinish : a.finish.timeline.isFired h = true →
    (r.2.since a.finish).countP Event.isInvocation ≤ 1

end

section

variable {e : Executor κ σ ρ} {stages : Stages κ σ β} {policy : RetryPolicy κ σ}
  {info : CallInfo κ} {h : Handle} {run : UInt32 → Run σ α} {first fuel : Nat} {s₀ s : Session σ}
  {r : Outcome α × Session σ} {tries : List (Try σ α)} {a : Try σ α} {request : HttpRequest}

theorem Try.Departs.isFired (hd : a.Departs e stages info h request s)
    (hf : a.start.timeline.isFired h = true) : s.timeline.isFired h = true := by
  obtain ⟨operation, hout⟩ := hd
  exact isFired_of_steps (steps_outgoing hout) hf

namespace Try.Happened

theorem countP_since_le (ha : a.Happened policy info run)
    (hrun : e.UnderHandle stages info h run) :
    (a.finish.since a.start).countP Event.isInvocation ≤ 1 := by
  rcases ha.departs_or_quiet hrun with ⟨request, s, hd⟩ | hquiet
  · obtain ⟨out, back, hs, hout, hback⟩ := ha.since_of_departs hrun hd
    have ho : out.countP Event.isInvocation = 0 := List.countP_eq_zero.2 fun ev hm => by
      rcases hout ev hm with (_ | _) | ⟨n, rfl⟩ <;> simp [Event.isInvocation]
    have hb : back.countP Event.isInvocation = 0 := List.countP_eq_zero.2 fun ev hm => by
      rcases hback ev hm with hm | ⟨n, rfl⟩
      · cases hm
        simp [Event.isInvocation]
      · simp [Event.isInvocation]
    simp [hs, List.countP_cons, ho, hb, Event.isInvocation]
  · have hzero := List.countP_eq_zero.2 fun ev hm => by simpa using hquiet ev hm
    omega

/-- **Begun behind the firing of the handle**, an attempt calls the transport only in vain. -/
theorem quiet_or_cancelled (ha : a.Happened policy info run)
    (hrun : e.UnderHandle stages info h run) (hf : a.start.timeline.isFired h = true) :
    (∀ ev ∈ a.finish.since a.start, ev.isInvocation = false) ∨
      a.outcome = .failure .cancelled := by
  rcases ha.departs_or_quiet hrun with ⟨request, s, hd⟩ | hquiet
  · obtain ⟨back, hr, -⟩ := hrun.run_of_departs hd
    have hsend : send e.transport a.number request s = (.failure .cancelled, _) :=
      send_of_isFired (hd.cancellation rfl) (hd.isFired hf)
    rw [ha.ran, Run.bind_of_failure hsend] at hr
    exact .inr (congrArg Prod.fst hr)
  · exact .inl hquiet

/-- Behind an attempt the call says how it ended and what the policy is asked. -/
theorem milestones_behind (ha : a.Happened policy info run) {s : Session σ}
    (h : a.Leaves info.request.operation s) :
    ReflTransGen (Session.Step (fun ev => ev.isMilestone = true) AnyWork) a.finish s :=
  ha.steps_behind (fun _ _ => trivial) h

theorem countP_behind (ha : a.Happened policy info run) {s : Session σ}
    (h : a.Leaves info.request.operation s) :
    (s.since a.finish).countP Event.isInvocation = 0 := by
  refine List.countP_eq_zero.2 fun ev hm => ?_
  rcases since_of_steps (ha.milestones_behind h) ev hm with hm | ⟨n, rfl⟩
  · cases ev <;> simp_all [Event.isMilestone, Event.isInvocation]
  · simp [Event.isInvocation]

end Try.Happened

/-- **A call goes on behind the firing of its handle with one call of the transport at most.** -/
theorem countP_attempts_le (hrun : e.UnderHandle stages info h run) (fuel : Nat)
    (n : UInt32) (s : Session σ) (hf : s.timeline.isFired h = true) :
    ((attempts policy info run fuel n s).2.since s).countP Event.isInvocation ≤ 1 := by
  induction fuel generalizing n s with
  | zero => simp [attempts, Session.since]
  | succ fuel ih =>
    obtain ⟨a, rfl, rfl, ha, hend⟩ := attempts_succ policy info hrun.local fuel n s
    have hsteps := ha.steps (hrun.takes _)
    rcases hend with hend | ⟨s', hs, hr⟩
    · rw [since_append hsteps (ha.milestones_behind hend.leaves), List.countP_append,
        ha.countP_behind hend.leaves]
      exact ha.countP_since_le hrun
    · -- The call goes on, so the attempt was not cancelled and did not call the transport.
      have hbehind := ha.milestones_behind (.inl hs)
      have hquiet : ∀ ev ∈ a.finish.since a.start, ev.isInvocation = false := by
        refine (ha.quiet_or_cancelled hrun hf).resolve_right fun ho => ?_
        obtain ⟨f, ho', hfin, -⟩ := hs
        rw [ho, Outcome.failure.injEq] at ho'
        rw [← ho'] at hfin
        cases hfin
      have hzero := List.countP_eq_zero.2 fun ev hm => by simpa using hquiet ev hm
      have hon := hsteps.trans (steps_mono (fun _ _ => trivial) hbehind)
      have hrest := attempts_steps policy info hrun.takes (fun _ _ => trivial) fuel
        (a.number + 1) s'
      rw [hr, since_append hon hrest, since_append hsteps hbehind, List.countP_append,
        List.countP_append, hzero, ha.countP_behind (.inl hs), Nat.zero_add]
      exact ih (a.number + 1) s' (isFired_of_steps hon hf)

/-- **What is left to a call whose handle has fired**, seen from every attempt of the call. -/
theorem History.spent (hist : History policy info run first fuel s₀ r tries)
    (hrun : e.UnderHandle stages info h run) (ha : a ∈ tries) {left : Nat}
    (hleft : attempts policy info run (left + 1) a.number a.start = r) :
    a.Spent e stages info h tries r := by
  have hhap := hist.happened a ha
  constructor
  case once => exact hhap.countP_since_le hrun
  case departed =>
    intro request s hd hf
    have hsend : send e.transport a.number request s =
        (.failure .cancelled, s.calling e.transport a.number request) :=
      send_of_isFired (hd.cancellation rfl) hf
    obtain ⟨hoff, hfin⟩ := hist.calledOff hrun ha hd hsend
    exact ⟨hoff, hfin, (hist.ends_of_isFinal ha hoff.outcome rfl).1⟩
  case sticky =>
    intro hf request s hd
    exact hd.isFired hf
  case idle =>
    intro hf hlast
    refine (hhap.quiet_or_cancelled hrun hf).resolve_right fun ho => hlast ?_
    exact (hist.ends_of_isFinal ha ho rfl).1
  case fromStart =>
    intro hf
    rw [← hleft]
    exact countP_attempts_le hrun _ _ _ hf
  case fromFinish =>
    intro hf
    rcases hhap.round hrun.local left with hend | ⟨s', hs, hr⟩
    · rw [← hleft, hhap.countP_behind hend.leaves]
      exact Nat.zero_le _
    · have hbehind := hhap.milestones_behind (.inl hs)
      have hrest := attempts_steps policy info hrun.takes (fun _ _ => trivial) left
        (a.number + 1) s'
      rw [← hleft, hr, since_append hbehind hrest, List.countP_append,
        hhap.countP_behind (.inl hs), Nat.zero_add]
      exact countP_attempts_le hrun _ _ _ (isFired_of_steps hbehind hf)

end

/-- **A call whose handle has fired calls the transport once more at most**, in vain, and ends
there, whatever the stages, the transport and the policy do. -/
theorem calls_spent (e : Executor κ σ ρ) (fuel : Nat) (op : Operation) (decode : Json.Decoder ρ)
    (inputs : Data) (settings : CallSettings) (h : Handle) (s : Session σ) :
    match inputs.encode with
    | .error fault =>
      e.execute fuel op decode inputs (settings.under h) s =
          (.failure (.serialization (.encoding fault)), s) ∧
        e.subscribe fuel op decode inputs settings h s =
          (.failure (.serialization (.encoding fault)), s)
    | .ok v =>
      (∃ tries, History e.retry (e.callInfo op v (settings.under h))
          (e.attemptUnder decode (e.callInfo op v (settings.under h)) h) 1 fuel s
          (e.execute fuel op decode inputs (settings.under h) s) tries ∧
        ∀ a ∈ tries, a.Spent e e.stages (e.callInfo op v (settings.under h)) h tries
          (e.execute fuel op decode inputs (settings.under h) s)) ∧
      ∃ tries, History e.subscriptionRetry (e.callInfo op v settings)
          (e.attemptSubscriptionUnder decode (e.callInfo op v settings) h) 1 fuel s
          (e.subscribe fuel op decode inputs settings h s) tries ∧
        ∀ a ∈ tries, a.Spent e e.subscriptionStages (e.callInfo op v settings) h tries
          (e.subscribe fuel op decode inputs settings h s) := by
  rw [execute_under, subscribe_eq]
  cases inputs.encode with
  | error fault => exact ⟨rfl, rfl⟩
  | ok v =>
    have hexec := e.underHandle_attempt decode (e.callInfo op v (settings.under h)) h
    have hsub := e.underHandle_attemptSubscription decode (e.callInfo op v settings) h
    obtain ⟨tries, hist, hleft⟩ := hexec.exists_history fuel s
    obtain ⟨tries', hist', hleft'⟩ := hsub.exists_history fuel s
    refine ⟨⟨tries, hist, fun a ha => ?_⟩, tries', hist', fun a ha => ?_⟩
    · obtain ⟨left, hl⟩ := hleft a ha
      exact hist.spent hexec ha hl
    · obtain ⟨left, hl⟩ := hleft' a ha
      exact hist'.spent hsub ha hl

/-- A transport that always fails, and a policy that sleeps and lets it try again. -/
def lateRetry : Executor Unit Unit Json where
  client := ()
  transport := fun _ calls => (.done (.error (.transport "connection reset")), calls)
  encoder := fun _ _ => .done (.ok { body := .json "" })
  retry := fun _ _ _ => (Future.sleep 10).bind fun _ => .done true

/-- The handle fires while the policy sleeps, and the call goes on all the same: it begins a second
attempt, which calls the transport. -/
theorem lateRetry_departs :
    let h : Handle := ⟨0⟩
    let pay : Operation := ⟨"Pay", "mutation Pay { done }", .mutation⟩
    let info := lateRetry.callInfo pay .null (CallSettings.under {} h)
    let r := lateRetry.execute 2 pay .value .unit (CallSettings.under {} h)
      { state := (), timeline := { alarms := [⟨5, h⟩] } }
    ∃ s : Session Unit,
      r = attempts lateRetry.retry info (lateRetry.attemptUnder .value info h) 1 2 s ∧
      s.timeline.isFired h = true ∧
      r.2.since s = [.started pay 2, .entered 2 .serializing, .entered 2 .sending,
        .invoked 2 { body := .json "", cancellation := some h }, .failed pay 2 .cancelled] := by
  intro h pay info r
  let reset : Failure := .transport "connection reset"
  let events : List Event := [.started pay 1, .entered 1 .serializing, .entered 1 .sending,
    .invoked 1 { body := .json "", cancellation := some h }, .failed pay 1 reset,
    .consulted ⟨pay, .null⟩ 1 reset]
  let s : Session Unit := { state := (), timeline := { now := 10, fired := [h], events } }
  have hstart : r = attempts lateRetry.retry info (lateRetry.attemptUnder .value info h) 2 1
      { state := (), timeline := { alarms := [⟨5, h⟩] } } :=
    congrFun (lateRetry.execute_under .value h 2 pay .unit {}) _
  have hfailed : lateRetry.attemptUnder .value info h 1
      { state := (), timeline := { alarms := [⟨5, h⟩], events := events.take 1 } } =
        (.failure reset,
          { state := (), timeline := { alarms := [⟨5, h⟩], events := events.take 4 } }) := rfl
  have hasked : (lateRetry.retry info 1 reset).complete (asking info 1 reset
      { state := (), timeline := { alarms := [⟨5, h⟩], events := events.take 4 } }) =
        (some true, s) := rfl
  have hagain : r = attempts lateRetry.retry info (lateRetry.attemptUnder .value info h) 1 2 s := by
    rw [hstart, attempts_of_asked hfailed rfl, hasked]
    rfl
  refine ⟨s, hagain, rfl, ?_⟩
  rw [hagain, attempts_of_isFinal (f := .cancelled) rfl rfl]
  rfl

end Executor

end GraphQLClient
