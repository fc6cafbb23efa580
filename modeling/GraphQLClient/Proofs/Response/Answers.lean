import GraphQLClient.Proofs.Response.WholeBody

/-! # What a query or mutation is answered with

An answer is the first fault of the body, or it is made of the status and the
bytes of the whole body (`payload_truthful`). What those two allow is said by
`Truthful`: which failure stands for which fault, when the error handler is
asked, and what becomes of its decision. A handler may fail with any failure,
and that is handed on as it is (`HandsOver`). -/

namespace GraphQLClient

variable {σ : Type}

theorem Json.isNull_iff {v : Json} : v.isNull = true ↔ v = .null := by
  cases v <;> simp [isNull]

theorem Future.complete_reportAll (ns : List Notice) (s : Session σ) :
    (reportAll ns).complete s = (some (), { s with timeline := s.timeline.report ns }) := by
  induction ns generalizing s with
  | nil => simp [reportAll, complete, Timeline.report]
  | cons n ns ih => simp [reportAll, complete, ih, Timeline.report]

namespace HttpResponse

/-! ## The decision on a whole body -/

/-- A status that is no success refused, with the text of the body. -/
def refusal (status : StatusCode) (body : Bytes) : Failure :=
  .httpStatus status (Text.Utf8.decodeLossy body)

/-- Data to answer with, unless it is null and the status is no success. -/
def settled (status : StatusCode) (body : Bytes) (data : Json) : Except Failure Json :=
  if data.isNull && !status.isSuccess then .error (refusal status body) else .ok data

section

variable {handler : ErrorHandler} {op : Operation} {status : StatusCode} {body : Bytes}
  {e : Envelope} {data : Json}

theorem resolve_of_fault {fault : Json.Fault} (h : Envelope.read body = .error fault) :
    resolve handler op status body =
      (.error (if status.isSuccess then .invalidBody (.response fault) else refusal status body),
        []) := by
  simp only [resolve, h, refusal]

theorem resolve_of_no_errors (h : Envelope.read body = .ok e) (he : e.errors = []) :
    resolve handler op status body = (settled status body (e.data.getD .null), []) := by
  simp only [resolve, h, Envelope.resolve, he, List.isEmpty_nil, if_true, settled, refusal]

theorem resolve_of_errors (h : Envelope.read body = .ok e) (he : e.errors ≠ []) :
    resolve handler op status body =
      ((handler op e.errors e.data).1.bind (settled status body),
        (handler op e.errors e.data).2) := by
  have hne : e.errors.isEmpty = false := by simpa using he
  simp only [resolve, h, Envelope.resolve, hne, Bool.false_eq_true, if_false]
  rcases handler op e.errors e.data with ⟨f | data, notices⟩ <;> rfl

theorem settled_eq_ok {d : Json} (h : settled status body data = .ok d) :
    d = data ∧ (data = .null → status.isSuccess = true) := by
  unfold settled at h
  split_ifs at h with hn
  cases h
  refine ⟨rfl, fun hnull => ?_⟩
  simpa [Json.isNull_iff.2 hnull] using hn

theorem settled_eq_error {f : Failure} (h : settled status body data = .error f) :
    data = .null ∧ status.isSuccess = false ∧ f = refusal status body := by
  unfold settled at h
  split_ifs at h with hn
  cases h
  simp only [Bool.and_eq_true, Bool.not_eq_eq_eq_not, Bool.not_true] at hn
  exact ⟨Json.isNull_iff.1 hn.1, hn.2, rfl⟩

/-! ## What the decision shows -/

/-- The handler is asked about the errors in the body and fails so. -/
def HandsOver (handler : ErrorHandler) (op : Operation) (body : Bytes) (f : Failure) : Prop :=
  ∃ e, Envelope.read body = .ok e ∧ e.errors ≠ [] ∧ (handler op e.errors e.data).1 = .error f

/-- An answer to a whole body under a status, and the notices that go with it. -/
structure Truthful (handler : ErrorHandler) (op : Operation) (status : StatusCode) (body : Bytes)
    (answer : Except Failure Json) (notices : List Notice) : Prop where
  null : answer = .ok .null → status.isSuccess = true
  httpStatus : ∀ st text, answer = .error (.httpStatus st text) →
    status.isSuccess = false ∧ st = status ∧ text = Text.Utf8.decodeLossy body ∨
      HandsOver handler op body (.httpStatus st text)
  invalidBody : ∀ cause, answer = .error (.invalidBody cause) →
    status.isSuccess = true ∧ (∃ fault, Envelope.read body = .error fault ∧
        cause = .response fault) ∨
      HandsOver handler op body (.invalidBody cause)
  /-- A body that is no envelope is the body's fault under a success, else the status's. -/
  undecodable : ∀ fault, Envelope.read body = .error fault →
    answer = .error (if status.isSuccess then .invalidBody (.response fault)
      else .httpStatus status (Text.Utf8.decodeLossy body))
  /-- Where there are errors the handler is asked about them, whatever the status, and its decision
  stands unless it is null under a status that is no success. -/
  asked : ∀ e, Envelope.read body = .ok e → e.errors ≠ [] →
    notices = (handler op e.errors e.data).2 ∧
      (answer = (handler op e.errors e.data).1 ∨
        (handler op e.errors e.data).1 = .ok .null ∧ status.isSuccess = false ∧
          answer = .error (.httpStatus status (Text.Utf8.decodeLossy body)))
  /-- Where there are none the answer and the log are those of any handler. -/
  unasked : (∀ e, Envelope.read body = .ok e → e.errors = []) →
    notices = [] ∧ ∀ other : ErrorHandler, resolve other op status body = (answer, notices)
  raise : handler = .raise → ∀ d, answer = .ok d →
    ∃ e, Envelope.read body = .ok e ∧ e.errors = []
  acceptPartialData : handler = .acceptPartialData → ∀ d e, answer = .ok d →
    Envelope.read body = .ok e → e.errors ≠ [] → e.data = some d ∧ d ≠ .null

theorem truthful_of_fault {fault : Json.Fault} (h : Envelope.read body = .error fault) :
    Truthful handler op status body
      (.error (if status.isSuccess then .invalidBody (.response fault) else refusal status body))
      [] where
  null ha := by cases ha
  httpStatus st text ha := by
    left
    cases hs : status.isSuccess with
    | true => simp [hs] at ha
    | false => simpa [hs, refusal, eq_comm] using ha
  invalidBody cause ha := by
    left
    cases hs : status.isSuccess with
    | true =>
      refine ⟨rfl, fault, h, ?_⟩
      simpa [hs, eq_comm] using ha
    | false => simp [hs, refusal] at ha
  undecodable fault' h' := by
    rw [h, Except.error.injEq] at h'
    rw [← h']
    rfl
  asked e he := by
    rw [h] at he
    cases he
  unasked _ := ⟨rfl, fun other => resolve_of_fault h⟩
  raise _ d ha := by cases ha
  acceptPartialData _ d e ha := by cases ha

theorem truthful_of_no_errors (h : Envelope.read body = .ok e) (he : e.errors = []) :
    Truthful handler op status body (settled status body (e.data.getD .null)) [] where
  null ha := by
    obtain ⟨hd, hn⟩ := settled_eq_ok ha
    exact hn hd.symm
  httpStatus st text ha := by
    obtain ⟨-, hs, hf⟩ := settled_eq_error ha
    cases hf
    exact .inl ⟨hs, rfl, rfl⟩
  invalidBody cause ha := by
    obtain ⟨-, -, hf⟩ := settled_eq_error ha
    cases hf
  undecodable fault h' := by
    rw [h] at h'
    cases h'
  asked e' h' hne := by
    rw [h, Except.ok.injEq] at h'
    exact absurd (h' ▸ he) hne
  unasked _ := ⟨rfl, fun other => resolve_of_no_errors h he⟩
  raise _ d _ := ⟨e, h, he⟩
  acceptPartialData _ d e' _ h' hne := by
    rw [h, Except.ok.injEq] at h'
    exact absurd (h' ▸ he) hne

/-- What comes of a handler's decision, and of data only by its consent. -/
theorem bind_settled_cases {decision answer : Except Failure Json}
    (ha : decision.bind (settled status body) = answer) :
    answer = decision ∧ (decision = .ok .null → status.isSuccess = true) ∨
      decision = .ok .null ∧ status.isSuccess = false ∧ answer = .error (refusal status body) := by
  cases decision with
  | error f => exact .inl ⟨ha.symm, by simp⟩
  | ok data =>
    have hs : settled status body data = answer := ha
    cases answer with
    | ok d =>
      obtain ⟨rfl, hn⟩ := settled_eq_ok hs
      exact .inl ⟨rfl, fun hd => hn (by simpa using hd)⟩
    | error f =>
      obtain ⟨rfl, hstatus, rfl⟩ := settled_eq_error hs
      exact .inr ⟨rfl, hstatus, rfl⟩

theorem truthful_of_errors (h : Envelope.read body = .ok e) (he : e.errors ≠ []) :
    Truthful handler op status body
      ((handler op e.errors e.data).1.bind (settled status body))
      (handler op e.errors e.data).2 := by
  generalize ha : (handler op e.errors e.data).1.bind (settled status body) = answer
  have hcases := bind_settled_cases ha
  have hsame {e' : Envelope} (h' : Envelope.read body = .ok e') : e' = e := by
    rw [h, Except.ok.injEq] at h'
    exact h'.symm
  have hands {f : Failure} (hf : (handler op e.errors e.data).1 = .error f) :
      HandsOver handler op body f := ⟨e, h, he, hf⟩
  constructor
  case null =>
    rintro rfl
    rcases hcases with ⟨hd, hn⟩ | ⟨-, -, hd⟩
    · exact hn hd.symm
    · cases hd
  case httpStatus =>
    rintro st text rfl
    rcases hcases with ⟨hd, -⟩ | ⟨-, hs, hd⟩
    · exact .inr (hands hd.symm)
    · cases hd
      exact .inl ⟨hs, rfl, rfl⟩
  case invalidBody =>
    rintro cause rfl
    rcases hcases with ⟨hd, -⟩ | ⟨-, -, hd⟩
    · exact .inr (hands hd.symm)
    · cases hd
  case undecodable =>
    intro fault h'
    rw [h] at h'
    cases h'
  case asked =>
    intro e' h' _
    obtain rfl := hsame h'
    exact ⟨rfl, hcases.imp And.left id⟩
  case unasked =>
    intro hall
    exact absurd (hall e h) he
  case raise =>
    rintro rfl d rfl
    rcases hcases with ⟨hd, -⟩ | ⟨hd, -⟩ <;> cases hd
  case acceptPartialData =>
    rintro rfl d e' rfl h' _
    obtain rfl := hsame h'
    have hd : (ErrorHandler.acceptPartialData op e'.errors e'.data).1 = .ok d := by
      rcases hcases with ⟨hd, -⟩ | ⟨-, -, hd⟩
      · exact hd.symm
      · cases hd
    unfold ErrorHandler.acceptPartialData at hd
    split at hd
    · next data hdata =>
      split_ifs at hd with hnull
      · cases hd
      · cases hd
        exact ⟨hdata, fun hn => hnull (Json.isNull_iff.2 hn)⟩
    · cases hd

theorem resolve_truthful (handler : ErrorHandler) (op : Operation) (status : StatusCode)
    (body : Bytes) :
    Truthful handler op status body (resolve handler op status body).1
      (resolve handler op status body).2 := by
  cases h : Envelope.read body with
  | error fault =>
    rw [resolve_of_fault h]
    exact truthful_of_fault h
  | ok e =>
    by_cases he : e.errors = []
    · rw [resolve_of_no_errors h he]
      exact truthful_of_no_errors h he
    · rw [resolve_of_errors h he]
      exact truthful_of_errors h he

end

/-! ## Answers -/

/-- What a response is answered with: the fault of its body, or what its status and the bytes of its
body decide. -/
def Answers (handler : ErrorHandler) (op : Operation) (r : HttpResponse)
    (answer : Except Failure Json) (notices : List Notice) : Prop :=
  match r.body.outcome with
  | .error fault => answer = .error fault ∧ notices = []
  | .ok body =>
    resolve handler op r.head.status body = (answer, notices) ∧
      Truthful handler op r.head.status body answer notices

/-- The answer behind the end of the body. -/
def answerTo (handler : ErrorHandler) (op : Operation) (status : StatusCode) :
    Except Failure Bytes → Except Failure Json × List Notice
  | .error fault => (.error fault, [])
  | .ok body => resolve handler op status body

theorem complete_payload (handler : ErrorHandler) (op : Operation) (r : HttpResponse)
    (s : Session σ) :
    (r.payload handler op).complete s =
      match r.body.collect.complete s with
      | (none, s') => (none, s')
      | (some x, s') =>
        (some (answerTo handler op r.head.status x).1,
          { s' with timeline :=
            s'.timeline.report (answerTo handler op r.head.status x).2 }) := by
  unfold payload bytes
  rw [Future.complete_bind]
  rcases r.body.collect.complete s with ⟨_ | ⟨fault | body⟩, s'⟩
  · rfl
  · simp [Future.complete, answerTo, Timeline.report]
  · simp [Future.complete_bind, Future.complete_reportAll, Future.complete, answerTo]

theorem answers_answerTo (handler : ErrorHandler) (op : Operation) (r : HttpResponse) :
    Answers handler op r (answerTo handler op r.head.status r.body.outcome).1
      (answerTo handler op r.head.status r.body.outcome).2 := by
  unfold Answers
  cases r.body.outcome with
  | error fault => exact ⟨rfl, rfl⟩
  | ok body => exact ⟨rfl, resolve_truthful handler op r.head.status body⟩

/-- **An answer hides no failure and gives none a wrong name.** It comes just if the body comes to
its end or to a fault, whatever else happens meanwhile, and writes the notices of the handler. -/
theorem payload_truthful (handler : ErrorHandler) (op : Operation) (r : HttpResponse)
    (s : Session σ) :
    (∀ answer s', (r.payload handler op).complete s = (some answer, s') →
      r.body.arrivals.Ends ∧ ∃ notices, Answers handler op r answer notices ∧
        s'.timeline.events = s.timeline.events ++ notices.map .notice) ∧
    (s.deadline = none → r.body.arrivals.Ends →
      ∃ answer s', (r.payload handler op).complete s = (some answer, s')) := by
  have hreads := r.body.reads_collect s
  rw [complete_payload]
  rcases hc : r.body.collect.complete s with ⟨_ | x, s₁⟩
  · rw [hc] at hreads
    refine ⟨by simp, fun hd he => ?_⟩
    obtain ⟨y, hy⟩ := hreads.comes hd he
    cases hy
  · rw [hc] at hreads
    obtain ⟨rfl, hends⟩ := hreads.only x rfl
    refine ⟨fun answer s' ha => ?_, fun _ _ => ⟨_, _, rfl⟩⟩
    cases ha
    refine ⟨hends, _, answers_answerTo handler op r, ?_⟩
    exact congrArg (· ++ _) hreads.log

end HttpResponse

end GraphQLClient
