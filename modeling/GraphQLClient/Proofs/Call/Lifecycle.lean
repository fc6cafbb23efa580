import GraphQLClient.Proofs.Call.Departure

/-! # The states of attempts in the log

Of the log of a call this looks at the states of attempts, and at the calls of
the transport among them. An attempt goes through its steps in order and may
fail behind any of them, so what it shows is one of a few lists
(`Passage.marks`). The log of a call is these lists for one attempt after
another, of which only the last may have another end than failure (`Course`).
A line in the log is not yet a call of the transport. So the same marks are read
off the steps that lead from the beginning of the call to its end, and there only
an application of the transport, whose answer is then waited for, leaves the mark
of an invocation (`Session.Marked`). The work that a call is given writes no such
lines, so it does not matter what its stages and its policy do (`calls_course`). -/

namespace GraphQLClient

open Relation (ReflTransGen)

variable {κ σ ρ α β : Type}

/-- A state of an attempt, or the call of the transport in it. -/
inductive Mark where
  | state (attempt : UInt32) (state : AttemptState)
  | invocation (attempt : UInt32)
  deriving DecidableEq

def Event.mark? : Event → Option Mark
  | .invoked n _ => some (.invocation n)
  | e => e.state?.map fun s => .state s.1 s.2

def Session.marks (s : Session σ) : List Mark := s.timeline.events.filterMap Event.mark?

/-- The last step that an attempt comes to. -/
inductive Reach where
  | serializing
  | sending
  | parsing

/-- The steps up to there. The one that sends calls the transport. -/
def Reach.marks (n : UInt32) : Reach → List Mark
  | .serializing => [.state n .serializing]
  | .sending => [.state n .serializing, .state n .sending, .invocation n]
  | .parsing => [.state n .serializing, .state n .sending, .invocation n, .state n .parsing]

/-- An attempt as the log shows it. There is no success without all the steps. -/
inductive Passage where
  | succeeded
  | failed (reach : Reach)
  | underWay (reach : Reach)

def Passage.marks (n : UInt32) : Passage → List Mark
  | .succeeded => .state n .pending :: (Reach.parsing.marks n ++ [.state n .succeeded])
  | .failed reach => .state n .pending :: (reach.marks n ++ [.state n .failed])
  | .underWay reach => .state n .pending :: reach.marks n

/-- The attempts of a call that ends with some outcome: all but the last have failed. -/
inductive Course : Outcome α → List Passage → Prop
  | returned (failed : List Reach) (v : α) :
      Course (.value v) (failed.map .failed ++ [.succeeded])
  | gaveUp (failed : List Reach) (last : Reach) (f : Failure) :
      Course (.failure f) (failed.map .failed ++ [.failed last])
  | stalled (failed : List Reach) (last : Reach) :
      Course .stalled (failed.map .failed ++ [.underWay last])
  /-- It is the policy that does not come to an end. -/
  | undecided (failed : List Reach) (last : Reach) :
      Course .stalled (failed.map .failed ++ [.failed last])
  | outOfAttempts (failed : List Reach) : Course .outOfAttempts (failed.map .failed)

/-- One more attempt in front of the others. -/
theorem Course.cons {o : Outcome α} {passages : List Passage} (reach : Reach)
    (h : Course o passages) : Course o (.failed reach :: passages) := by
  cases h with
  | returned failed v => exact .returned (reach :: failed) v
  | gaveUp failed last f => exact .gaveUp (reach :: failed) last f
  | stalled failed last => exact .stalled (reach :: failed) last
  | undecided failed last => exact .undecided (reach :: failed) last
  | outOfAttempts failed => exact .outOfAttempts (reach :: failed)

/-- The log of attempts that are numbered from `first` on, as words. -/
def courseMarks (first : Nat) (passages : List Passage) : List Mark :=
  (passages.zipIdx first).flatMap fun p => p.1.marks (UInt32.ofNat p.2)

example : courseMarks 1 [.failed .sending, .succeeded] =
    [.state 1 .pending, .state 1 .serializing, .state 1 .sending, .invocation 1, .state 1 .failed,
      .state 2 .pending, .state 2 .serializing, .state 2 .sending, .invocation 2,
      .state 2 .parsing, .state 2 .succeeded] := by decide

/-! ## The steps that leave marks -/

theorem marks_record (s : Session σ) (e : Event) :
    (s.record e).marks = s.marks ++ e.mark?.toList := by
  cases he : e.mark? <;> simp [Session.marks, Session.record, Timeline.record, he]

/-- Runs that only wait for work leave no marks. -/
theorem marks_of_takes {r : Run σ α} (h : r.Takes (fun _ => False) Executor.AnyWork)
    (s : Session σ) : (r s).2.marks = s.marks := by
  obtain ⟨es, hs, he⟩ := events_of_steps (h s).2
  have hnone : es.filterMap Event.mark? = [] := List.filterMap_eq_nil_iff.2 fun e hm => by
    obtain ⟨n, rfl⟩ := (he e hm).resolve_left id
    rfl
  rw [Session.marks, hs, List.filterMap_append, hnone, List.append_nil, Session.marks]

theorem marks_complete (f : Future σ α) (s : Session σ) : (f.complete s).2.marks = s.marks := by
  obtain ⟨ns, hs⟩ := f.events_complete s
  have hnone : (ns.map Event.notice).filterMap Event.mark? = [] := by
    rw [List.filterMap_map]
    exact List.filterMap_eq_nil_iff.2 fun n _ => rfl
  rw [Session.marks, hs, List.filterMap_append, hnone, List.append_nil, Session.marks]

namespace Session

variable {transport : Transport σ} {W : (α : Type) → Future σ α → Prop}

/-- A step, with the marks that it leaves: an event is recorded, the transport is applied to a
request and its answer waited for, or some work of a kind `W` is waited for. -/
inductive Marked (transport : Transport σ) (W : (α : Type) → Future σ α → Prop) :
    List Mark → Session σ → Session σ → Prop
  | recorded {e : Event} (h : e.isInvocation = false) (s : Session σ) :
      Marked transport W e.mark?.toList s (s.record e)
  | called (n : UInt32) (request : HttpRequest) (s : Session σ) :
      Marked transport W [.invocation n] s
        (Executor.answering (transport request s.state).1 request.cancellation
          (s.calling transport n request)).2
  | worked {α : Type} {f : Future σ α} (hf : W α f) (s : Session σ) :
      Marked transport W [] s (f.complete s).2

/-- Such steps one behind the other, with the marks of all. -/
inductive Path (transport : Transport σ) (W : (α : Type) → Future σ α → Prop) :
    List Mark → Session σ → Session σ → Prop
  | refl (s : Session σ) : Path transport W [] s s
  | head {s s' s'' : Session σ} {marks later : List Mark} (step : Marked transport W marks s s')
      (rest : Path transport W later s' s'') : Path transport W (marks ++ later) s s''

variable {s s' s'' : Session σ} {marks later : List Mark}

theorem Marked.path (h : Marked transport W marks s s') : Path transport W marks s s' := by
  rw [← List.append_nil marks]
  exact .head h (.refl s')

theorem Path.trans (h : Path transport W marks s s') (h' : Path transport W later s' s'') :
    Path transport W (marks ++ later) s s'' := by
  induction h with
  | refl => exact h'
  | head step _ ih =>
    rw [List.append_assoc]
    exact .head step (ih h')

/-- What steps leave behind is in the log. -/
theorem Path.marks_eq (h : Path transport W marks s s') : s'.marks = s.marks ++ marks := by
  induction h with
  | refl => exact (List.append_nil _).symm
  | @head s s' _ marks _ step _ ih =>
    have hstep : s'.marks = s.marks ++ marks := by
      cases step with
      | recorded => exact marks_record _ _
      | called n request =>
        have hquiet : (Executor.answering (transport request s.state).1 request.cancellation).Takes
            (fun _ => False) Executor.AnyWork :=
          Executor.takes_answering trivial (fun _ => trivial) _
        rw [marks_of_takes hquiet]
        simp [Session.marks, Session.calling, Timeline.record, Event.mark?]
      | worked => exact (marks_complete _ _).trans (List.append_nil _).symm
    rw [ih, hstep, List.append_assoc]

theorem path_record (e : Event) (h : e.isInvocation = false) (s : Session σ) :
    Path transport W e.mark?.toList s (s.record e) := (Marked.recorded h s).path

theorem path_of_steps (h : ReflTransGen (Step (fun _ => False) W) s s') :
    Path transport W [] s s' := by
  induction h with
  | refl => exact .refl _
  | tail _ step ih =>
    refine ih.trans ?_
    cases step with
    | recorded hp | called hp => exact hp.elim
    | noticed n => exact path_record (.notice n) rfl _
    | worked hf => exact (Marked.worked hf _).path

theorem path_of_takes {r : Run σ α} (h : r.Takes (fun _ => False) W) {o : Outcome α}
    (hr : r s = (o, s')) : Path transport W [] s s' := by
  have hs := (h s).2
  rw [hr] at hs
  exact path_of_steps hs

end Session

namespace Executor

open Session (Path path_record path_of_takes)

theorem record_bind (e : Event) (f : Unit → Run σ α) (s : Session σ) :
    (Run.record e).bind f s = f () (s.record e) := rfl

/-! ## Marks of an attempt -/

section

variable {e : Executor κ σ ρ} {stages : Stages κ σ β} {policy : RetryPolicy κ σ}
  {W : (α : Type) → Future σ α → Prop} (hw : e.AdmitsAround stages policy W fun _ => True)
  (info : AttemptInfo κ) (base : OperationRequest)

include hw

/-- **Until it calls the transport** an attempt comes to its first step, and to the second one
just if nothing has failed. -/
theorem path_outgoing {s s' : Session σ} {o : Outcome (OperationRequest × HttpRequest)}
    (h : e.outgoing stages info base s = (o, s')) :
    Path e.transport W (.state info.attempt .serializing ::
      match o with
      | .value _ => [.state info.attempt .sending]
      | _ => []) s s' := by
  have hfirst : Path e.transport W [.state info.attempt .serializing] s
      (s.record (.entered info.attempt .serializing)) :=
    path_record (.entered info.attempt .serializing) rfl s
  rw [outgoing_eq, record_bind] at h
  rcases hx : e.encoding stages info base (s.record (.entered info.attempt .serializing))
    with ⟨out | _ | _ | _, s₁⟩
  all_goals have hpath := hfirst.trans (path_of_takes (hw.encoding info base) hx)
  · rw [Run.bind_of_value hx, record_bind] at h
    cases h
    exact hpath.trans (path_record (.entered info.attempt .sending) rfl s₁)
  all_goals
    rw [Run.bind, hx] at h
    cases h
    exact hpath

omit hw in
/-- **The call of the transport** is one application of it. -/
theorem path_send {n : UInt32} {request : HttpRequest} {s s' : Session σ}
    {o : Outcome HttpResponse} (h : send e.transport n request s = (o, s')) :
    Path e.transport W [.invocation n] s s' := by
  rw [send_eq] at h
  have hcalled : Path e.transport W [.invocation n] s
      (answering (e.transport request s.state).1 request.cancellation
        (s.calling e.transport n request)).2 :=
    (Session.Marked.called n request s).path
  rwa [h] at hcalled

/-- From the answer on an attempt comes to its last step, and then only waits. -/
theorem path_incoming (out : OperationRequest × HttpRequest) (response : HttpResponse)
    {rest : Exchange → Run σ α} (hrest : ∀ x, (rest x).Takes (fun _ => False) W)
    (s : Session σ) :
    Path e.transport W [.state info.attempt .parsing] s
      ((incoming stages info out response).bind rest s).2 := by
  have hbind {α β : Type} (r : Run σ α) (f : α → Run σ β) : r >>= f = r.bind f := rfl
  simp only [incoming, hbind, Run.bind_assoc, record_bind]
  have hlast : (Stages.runAll ⟨⟨info, out.1⟩, out.2⟩ stages.beforeDecoding response).Takes
      (fun _ => False) W := hw.stagesBeforeDecoding _ trivial
  have hquiet := hlast.bind fun response => hrest ⟨out.1, out.2, response⟩
  exact (path_record (.entered info.attempt .parsing) rfl s).trans
    (path_of_takes hquiet (Prod.eta _).symm)

omit hw in
/-- An attempt that shows how far it comes, and comes to all steps if it succeeds. -/
def Progresses (transport : Transport σ) (W : (α : Type) → Future σ α → Prop) (n : UInt32)
    (r : Run σ α) : Prop :=
  ∀ s, ∃ reach : Reach, Path transport W (reach.marks n) s (r s).2 ∧
    ∀ v, (r s).1 = .value v → reach = .parsing

/-- **An exchange, and what is made of it by waiting for further work**, comes to its steps in
order. -/
theorem exchange_progresses {rest : Exchange → Run σ α}
    (hrest : ∀ x, (rest x).Takes (fun _ => False) W) :
    Progresses e.transport W info.attempt ((e.exchange stages info base).bind rest) := by
  intro s
  rw [exchange_eq, Run.bind_assoc]
  rcases hout : e.outgoing stages info base s with ⟨⟨operation, request⟩ | _ | _ | _, s₁⟩
  all_goals have hpath := path_outgoing hw info base hout
  · rw [Run.bind_of_value hout, Run.bind_assoc]
    rcases hsend : send e.transport info.attempt request s₁ with ⟨response | _ | _ | _, s₂⟩
    all_goals have hsent := hpath.trans (path_send (W := W) hsend)
    · rw [Run.bind_of_value hsend]
      exact ⟨.parsing, hsent.trans (path_incoming hw info _ response hrest s₂), fun _ _ => rfl⟩
    all_goals
      rw [Run.bind, hsend]
      exact ⟨.sending, hsent, by simp⟩
  all_goals
    rw [Run.bind, hout]
    exact ⟨.serializing, hpath, by simp⟩

end

/-! ## Marks of a call -/

section

variable {transport : Transport σ} {W : (α : Type) → Future σ α → Prop}
  {policy : RetryPolicy κ σ} {info : CallInfo κ} {run : UInt32 → Run σ α}

namespace Try

variable {a : Try σ α}

/-- An attempt begins with a mark of its own. -/
theorem Happened.path_finish (ha : a.Happened policy info run)
    (hrun : Progresses transport W a.number (run a.number)) :
    ∃ reach : Reach,
      Path transport W (.state a.number .pending :: reach.marks a.number) a.start a.finish ∧
        ∀ v, a.outcome = .value v → reach = .parsing := by
  obtain ⟨reach, hpath, hv⟩ := hrun (a.start.record (.started info.request.operation a.number))
  rw [ha.ran] at hpath hv
  refine ⟨reach, ?_, hv⟩
  exact (path_record (.started info.request.operation a.number) rfl a.start).trans hpath

/-- The question to the policy leaves the mark of the failure. -/
theorem Happened.path_verdict (ha : a.Happened policy info run)
    (hw : ∀ n f, W _ (policy info n f)) {f : Failure} (hf : a.outcome = .failure f)
    (hn : f.isFinal = false) {answer : Option Bool} {s : Session σ}
    (hv : a.verdict = some (answer, s)) :
    Path transport W [.state a.number .failed] a.finish s := by
  have hc := ha.asked
  simp only [hf, hn, hv, Bool.false_eq_true, if_false, Option.some.injEq] at hc
  have hfailed : Path transport W [.state a.number .failed] a.finish
      (asking info a.number f a.finish) :=
    (path_record (.failed info.request.operation a.number f) rfl a.finish).trans
      (path_record (.consulted info.request a.number f) rfl _)
  have hanswered : Path transport W [] (asking info a.number f a.finish)
      ((policy info a.number f).complete (asking info a.number f a.finish)).2 :=
    (Session.Marked.worked (hw a.number f) _).path
  rw [← hc] at hanswered
  exact hfailed.trans hanswered

/-- The marks of an attempt with which a call ends. -/
theorem Ends.path {r : Outcome α × Session σ} (h : a.Ends info.request.operation r)
    (ha : a.Happened policy info run) (hw : ∀ n f, W _ (policy info n f))
    (hrun : Progresses transport W a.number (run a.number)) :
    ∃ passage, Course r.1 [passage] ∧ Path transport W (passage.marks a.number) a.start r.2 := by
  obtain ⟨reach, hpath, hv⟩ := ha.path_finish hrun
  cases h with
  | returned ho =>
    obtain rfl := hv _ ho
    exact ⟨.succeeded, .returned [] _, hpath.trans
      (path_record (.succeeded info.request.operation a.number) rfl a.finish)⟩
  | failed ho hf =>
    exact ⟨.failed reach, .gaveUp [] _ _, hpath.trans
      (path_record (.failed info.request.operation a.number _) rfl a.finish)⟩
  | declined ho hf hverdict =>
    exact ⟨.failed reach, .gaveUp [] _ _, hpath.trans (ha.path_verdict hw ho hf hverdict)⟩
  | undecided ho hf hverdict =>
    exact ⟨.failed reach, .undecided [] _, hpath.trans (ha.path_verdict hw ho hf hverdict)⟩
  | stalled ho => exact ⟨.underWay reach, .stalled [] _, hpath⟩

end Try

/-- The marks of a call that begins in `s` and ends in `r`, for attempts numbered from `first` on.
The log shows them, and they are what happened: each invocation is an application of the transport,
and nothing else applies it. -/
structure TakesCourse (transport : Transport σ) (W : (α : Type) → Future σ α → Prop) (first : Nat)
    (s : Session σ) (r : Outcome α × Session σ) (passages : List Passage) : Prop where
  course : Course r.1 passages
  happened : Path transport W (courseMarks first passages) s r.2
  logged : r.2.marks = s.marks ++ courseMarks first passages

/-- **Every run of the loop takes such a course.** -/
theorem attempts_course (hrun : ∀ n, (run n).Local (Within n))
    (hw : ∀ n f, W _ (policy info n f)) (hprogress : ∀ n, Progresses transport W n (run n))
    (fuel first : Nat) (s : Session σ) :
    ∃ passages, TakesCourse transport W first s
      (attempts policy info run fuel (UInt32.ofNat first) s) passages := by
  suffices h : ∃ passages,
      Course (attempts policy info run fuel (UInt32.ofNat first) s).1 passages ∧
      Path transport W (courseMarks first passages) s
        (attempts policy info run fuel (UInt32.ofNat first) s).2 by
    obtain ⟨passages, hcourse, hpath⟩ := h
    exact ⟨passages, hcourse, hpath, hpath.marks_eq⟩
  induction fuel generalizing first s with
  | zero => exact ⟨[], .outOfAttempts [], .refl s⟩
  | succ fuel ih =>
    obtain ⟨a, hn, rfl, ha, h | ⟨s', hs, hr⟩⟩ :=
      attempts_succ policy info hrun fuel (UInt32.ofNat first) s
    · obtain ⟨passage, hcourse, hpath⟩ := h.path ha hw (hprogress _)
      refine ⟨[passage], hcourse, ?_⟩
      rw [hn] at hpath
      simpa [courseMarks] using hpath
    · obtain ⟨reach, hpath, -⟩ := ha.path_finish (hprogress _)
      obtain ⟨f, ho, hf, hv⟩ := hs
      obtain ⟨passages, hcourse, hrest⟩ := ih (first + 1) s'
      have hnext : UInt32.ofNat (first + 1) = UInt32.ofNat first + 1 := UInt32.ofNat_add first 1
      rw [hnext] at hcourse hrest
      rw [hr]
      refine ⟨.failed reach :: passages, hcourse.cons reach, ?_⟩
      have hfailed := (hpath.trans (ha.path_verdict hw ho hf hv)).trans hrest
      rw [hn] at hfailed
      simpa [courseMarks, Passage.marks, List.zipIdx_cons] using hfailed

end

/-- **Calls of both families take such a course**, whatever encodes, sends, decides or stands
between these. If the variables have no encoding, there is no attempt at all. -/
theorem calls_course (e : Executor κ σ ρ) (fuel : Nat) (op : Operation) (decode : Json.Decoder ρ)
    (inputs : Data) (settings : CallSettings) (handle : Handle) (s : Session σ) :
    match inputs.encode with
    | .error fault =>
      e.execute fuel op decode inputs settings s =
          (.failure (.serialization (.encoding fault)), s) ∧
        e.subscribe fuel op decode inputs settings handle s =
          (.failure (.serialization (.encoding fault)), s)
    | .ok _ =>
      (∃ passages, TakesCourse e.transport (e.Given e.stages e.retry) 1 s
        (e.execute fuel op decode inputs settings s) passages) ∧
      ∃ passages, TakesCourse e.transport (e.Given e.subscriptionStages e.subscriptionRetry) 1 s
        (e.subscribe fuel op decode inputs settings handle s) passages := by
  have hexec : e.execute fuel op decode inputs settings = (encodeVariables op inputs).bind _ := rfl
  have hsub : e.subscribe fuel op decode inputs settings handle =
    (encodeVariables op inputs).bind _ := rfl
  rw [hexec, hsub, bind_encodeVariables, bind_encodeVariables]
  cases inputs.encode with
  | error fault => exact ⟨rfl, rfl⟩
  | ok v =>
    have hgiven := e.admitsAround_given e.stages e.retry
    have hgiven' := e.admitsAround_given e.subscriptionStages e.subscriptionRetry
    refine ⟨attempts_course (fun n => local_attempt e decode _ _) (hgiven.policy _) (fun n => ?_)
        fuel 1 s,
      attempts_course (fun n => local_attemptSubscription e decode handle _ _) (hgiven'.policy _)
        (fun n => ?_) fuel 1 s⟩
    · rw [attempt_eq]
      exact exchange_progresses hgiven ⟨e.client, settings, n, settings.cancellation⟩ _ fun x =>
        hgiven.decodeValue decode _ x trivial
    · rw [attemptSubscription_eq]
      exact exchange_progresses hgiven' ⟨e.client, settings, n, some handle⟩ _ fun x =>
        hgiven'.openStream decode _ handle x trivial

end Executor

end GraphQLClient
