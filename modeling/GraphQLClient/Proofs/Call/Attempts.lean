import Mathlib.Data.List.Chain
import GraphQLClient.Proofs.Call.Log

/-! # The attempts of a call

A call is a sequence of attempts, each the same function of its number and of
the session that the one before it and the policy have left. `History` says
which sequence: when it goes on, when it ends and with what, and what the log
shows of it. One round of the loop is `attempts_succ`; the rest is by induction
on the number of attempts that are allowed. -/

namespace GraphQLClient

open Relation (ReflTransGen)

variable {κ σ ρ α : Type}

/-- The beginnings and ends of attempts, and the questions to the policy. -/
def Event.isMilestone : Event → Bool
  | .started _ _ | .succeeded _ _ | .failed _ _ _ | .consulted _ _ _ => true
  | .entered _ _ | .invoked _ _ | .notice _ => false

def Session.milestones (s : Session σ) : List Event := s.timeline.events.filter Event.isMilestone

namespace Executor

/-- An attempt and what became of it. -/
structure Try (σ α : Type) where
  number : UInt32
  start : Session σ
  outcome : Outcome α
  finish : Session σ
  /-- The answer of the policy, if it was asked, and the session behind it. -/
  verdict : Option (Option Bool × Session σ)

namespace Try

/-- There is another attempt, which starts in some session. -/
def GoesOn (a : Try σ α) (s : Session σ) : Prop :=
  ∃ f, a.outcome = .failure f ∧ f.isFinal = false ∧ a.verdict = some (some true, s)

/-- The call ends with the attempt, and with what. -/
inductive Ends (op : Operation) (a : Try σ α) : Outcome α × Session σ → Prop
  | returned {v : α} (h : a.outcome = .value v) :
      Ends op a (.value v, a.finish.record (.succeeded op a.number))
  | failed {f : Failure} (h : a.outcome = .failure f) (hf : f.isFinal = true) :
      Ends op a (.failure f, a.finish.record (.failed op a.number f))
  | declined {f : Failure} {s : Session σ} (h : a.outcome = .failure f) (hf : f.isFinal = false)
      (hv : a.verdict = some (some false, s)) : Ends op a (.failure f, s)
  | stalled (h : a.outcome = .stalled) : Ends op a (.stalled, a.finish)
  | undecided {f : Failure} {s : Session σ} (h : a.outcome = .failure f) (hf : f.isFinal = false)
      (hv : a.verdict = some (none, s)) : Ends op a (.stalled, s)

/-- The call is in some session when it goes on behind the attempt, or ends with it. -/
def Leaves (op : Operation) (a : Try σ α) (s : Session σ) : Prop :=
  a.GoesOn s ∨ ∃ o, a.Ends op (o, s)

theorem Ends.leaves {op : Operation} {a : Try σ α} {r : Outcome α × Session σ}
    (h : a.Ends op r) : a.Leaves op r.2 := .inr ⟨r.1, h⟩

/-- What the log shows of an attempt. -/
def milestones (request : OperationRequest) (a : Try σ α) : List Event :=
  .started request.operation a.number ::
    match a.outcome with
    | .value _ => [.succeeded request.operation a.number]
    | .failure f =>
      .failed request.operation a.number f ::
        if f.isFinal then [] else [.consulted request a.number f]
    | _ => []

end Try

section

variable (policy : RetryPolicy κ σ) (info : CallInfo κ) (run : UInt32 → Run σ α)

/-- The session in which the policy is asked. -/
def asking (n : UInt32) (f : Failure) (s : Session σ) : Session σ :=
  (s.record (.failed info.request.operation n f)).record (.consulted info.request n f)

/-- **What became of an attempt.** It was `run` with its number, and the policy was asked, about
this number and this failure, just if it failed with a failure that is not final. -/
structure Try.Happened (a : Try σ α) : Prop where
  ran : run a.number (a.start.record (.started info.request.operation a.number)) =
    (a.outcome, a.finish)
  asked : a.verdict =
    match a.outcome with
    | .failure f =>
      if f.isFinal then none
      else some ((policy info a.number f).complete (asking info a.number f a.finish))
    | _ => none

/-- The history of a call from the attempt of number `first` on: attempts one after another, each
starting in the session that the policy left behind the one before, and the result of the last. -/
structure History (first fuel : Nat) (s : Session σ) (r : Outcome α × Session σ)
    (tries : List (Try σ α)) : Prop where
  /-- Consecutive numbers, as words. -/
  numbers : tries.map (·.number) = (List.range' first tries.length).map UInt32.ofNat
  happened : ∀ a ∈ tries, a.Happened policy info run
  begins : ∀ a ∈ tries.head?, a.start = s
  goesOn : tries.IsChain fun a b => a.GoesOn b.start
  ends : (∃ a ∈ tries.getLast?, a.Ends info.request.operation r) ∨
    (r.1 = .outOfAttempts ∧ tries.length = fuel ∧ ∀ a ∈ tries, ∃ s, a.GoesOn s)
  /-- The log shows these attempts and these questions to the policy, and no others. -/
  log : r.2.milestones = s.milestones ++ tries.flatMap (Try.milestones info.request)

variable {policy info run}

theorem milestones_record (s : Session σ) {e : Event} (h : e.isMilestone = true) :
    (s.record e).milestones = s.milestones ++ [e] := by
  simp [Session.milestones, Session.record, Timeline.record, h]

theorem milestones_of_events {s s' : Session σ} {es : List Event}
    (h : s'.timeline.events = s.timeline.events ++ es) (he : ∀ e ∈ es, e.isMilestone = false) :
    s'.milestones = s.milestones := by
  have hn : es.filter Event.isMilestone = [] :=
    List.filter_eq_nil_iff.2 fun e hm => by simp [he e hm]
  rw [Session.milestones, h, List.filter_append, hn, List.append_nil, Session.milestones]

theorem milestones_complete (f : Future σ α) (s : Session σ) :
    (f.complete s).2.milestones = s.milestones := by
  obtain ⟨ns, h⟩ := f.events_complete s
  exact milestones_of_events h (by simp [Event.isMilestone])

theorem Try.Happened.milestones_finish {a : Try σ α} (ha : a.Happened policy info run)
    (hrun : (run a.number).Local (Within a.number)) :
    a.finish.milestones = a.start.milestones ++ [.started info.request.operation a.number] := by
  obtain ⟨-, es, hs, he⟩ := hrun (a.start.record (.started info.request.operation a.number))
  rw [ha.ran] at hs
  rw [milestones_of_events hs fun e hm => by cases he e hm <;> rfl]
  exact milestones_record _ rfl

theorem Try.Happened.milestones_verdict {a : Try σ α} (ha : a.Happened policy info run)
    {f : Failure} (hf : a.outcome = .failure f) (hn : f.isFinal = false) {answer : Option Bool}
    {s : Session σ} (hv : a.verdict = some (answer, s)) :
    s.milestones = a.finish.milestones ++ [.failed info.request.operation a.number f,
      .consulted info.request a.number f] := by
  have hc := ha.asked
  simp only [hf, hn, hv, Bool.false_eq_true, if_false, Option.some.injEq] at hc
  have hs := milestones_complete (policy info a.number f) (asking info a.number f a.finish)
  rw [← hc, asking, milestones_record _ rfl, milestones_record _ rfl] at hs
  rw [hs, List.append_assoc]
  rfl

/-- **What an attempt leaves in the log**, whether the call goes on or ends with it. -/
theorem Try.Happened.log {a : Try σ α} (ha : a.Happened policy info run)
    (hrun : (run a.number).Local (Within a.number)) {s : Session σ}
    (h : a.Leaves info.request.operation s) :
    s.milestones = a.start.milestones ++ a.milestones info.request := by
  have hfin := ha.milestones_finish hrun
  rcases h with ⟨f, ho, hf, hv⟩ | ⟨o, h⟩
  · rw [ha.milestones_verdict ho hf hv, hfin]
    simp [Try.milestones, ho, hf]
  · cases h with
    | returned ho =>
      rw [milestones_record _ rfl, hfin]
      simp [Try.milestones, ho]
    | failed ho hf =>
      rw [milestones_record _ rfl, hfin]
      simp [Try.milestones, ho, hf]
    | declined ho hf hv | undecided ho hf hv =>
      rw [ha.milestones_verdict ho hf hv, hfin]
      simp [Try.milestones, ho, hf]
    | stalled ho =>
      rw [hfin]
      simp [Try.milestones, ho]

/-- A value ends the loop. -/
theorem attempts_of_value {fuel : Nat} {n : UInt32} {s s' : Session σ} {v : α}
    (hr : run n (s.record (.started info.request.operation n)) = (.value v, s')) :
    attempts policy info run (fuel + 1) n s =
      (.value v, s'.record (.succeeded info.request.operation n)) := by
  rw [Session.record] at hr
  simp only [attempts, hr]
  rfl

/-- A failure that is final ends the loop. -/
theorem attempts_of_isFinal {fuel : Nat} {n : UInt32} {s s' : Session σ} {f : Failure}
    (hr : run n (s.record (.started info.request.operation n)) = (.failure f, s'))
    (hf : f.isFinal = true) :
    attempts policy info run (fuel + 1) n s =
      (.failure f, s'.record (.failed info.request.operation n f)) := by
  rw [Session.record] at hr
  simp only [attempts, hr, hf, if_true]
  rfl

/-- Behind any other failure the loop does as the policy says. -/
theorem attempts_of_asked {fuel : Nat} {n : UInt32} {s s' : Session σ} {f : Failure}
    (hr : run n (s.record (.started info.request.operation n)) = (.failure f, s'))
    (hf : f.isFinal = false) :
    attempts policy info run (fuel + 1) n s =
      match (policy info n f).complete (asking info n f s') with
      | (none, s'') => (.stalled, s'')
      | (some false, s'') => (.failure f, s'')
      | (some true, s'') => attempts policy info run fuel (n + 1) s'' := by
  have hround : attempts policy info run (fuel + 1) n s =
      (Run.await (policy info n f)).bind
        (fun again => if again then attempts policy info run fuel (n + 1) else .fail f)
        (asking info n f s') := by
    rw [Session.record] at hr
    simp only [attempts, hr, hf, Bool.false_eq_true, if_false]
    rfl
  rw [hround, Run.bind, Run.await]
  rcases (policy info n f).complete (asking info n f s') with ⟨_ | _ | _, s''⟩ <;> rfl

variable (policy info) in
/-- **One round of the loop**: an attempt, with which the call ends, or behind which it goes on
with the next number. -/
theorem attempts_succ (hrun : ∀ n, (run n).Local (Within n)) (fuel : Nat) (n : UInt32)
    (s : Session σ) :
    ∃ a : Try σ α, a.number = n ∧ a.start = s ∧ a.Happened policy info run ∧
      (a.Ends info.request.operation (attempts policy info run (fuel + 1) n s) ∨
        ∃ s', a.GoesOn s' ∧
          attempts policy info run (fuel + 1) n s = attempts policy info run fuel (n + 1) s') := by
  rcases hr : run n (s.record (.started info.request.operation n)) with ⟨v | f | _ | _, s'⟩
  · refine ⟨⟨n, s, .value v, s', none⟩, rfl, rfl, ⟨hr, rfl⟩, .inl ?_⟩
    rw [attempts_of_value hr]
    exact .returned rfl
  · cases hf : f.isFinal with
    | true =>
      refine ⟨⟨n, s, .failure f, s', none⟩, rfl, rfl, ⟨hr, by simp [hf]⟩, .inl ?_⟩
      rw [attempts_of_isFinal hr hf]
      exact .failed rfl hf
    | false =>
      rcases hp : (policy info n f).complete (asking info n f s') with ⟨answer, s''⟩
      refine ⟨⟨n, s, .failure f, s', some (answer, s'')⟩, rfl, rfl, ⟨hr, by simp [hf, hp]⟩, ?_⟩
      rw [attempts_of_asked hr hf, hp]
      rcases answer with _ | _ | _
      · exact .inl (.undecided rfl hf rfl)
      · exact .inl (.declined rfl hf rfl)
      · exact .inr ⟨s'', ⟨f, rfl, hf, rfl⟩, rfl⟩
  · refine ⟨⟨n, s, .stalled, s', none⟩, rfl, rfl, ⟨hr, rfl⟩, .inl ?_⟩
    rw [Session.record] at hr
    simpa only [attempts, hr] using .stalled rfl
  · exact absurd (congrArg Prod.fst hr) (hrun n _).1

theorem Try.Happened.unique {a b : Try σ α} (ha : a.Happened policy info run)
    (hb : b.Happened policy info run) (hn : a.number = b.number) (hs : a.start = b.start) :
    a = b := by
  obtain ⟨n, s, o, s', v⟩ := a
  obtain ⟨n', t, o', t', v'⟩ := b
  obtain rfl : n = n' := hn
  obtain rfl : s = t := hs
  obtain ⟨rfl, rfl⟩ : o = o' ∧ s' = t' := Prod.mk.inj (ha.ran.symm.trans hb.ran)
  obtain rfl : v = v' := ha.asked.trans hb.asked.symm
  rfl

/-- One round of the loop, of an attempt that is known. -/
theorem Try.Happened.round {a : Try σ α} (ha : a.Happened policy info run)
    (hrun : ∀ n, (run n).Local (Within n)) (fuel : Nat) :
    a.Ends info.request.operation (attempts policy info run (fuel + 1) a.number a.start) ∨
      ∃ s', a.GoesOn s' ∧ attempts policy info run (fuel + 1) a.number a.start =
        attempts policy info run fuel (a.number + 1) s' := by
  obtain ⟨b, hn, hs, hb, h⟩ := attempts_succ policy info hrun fuel a.number a.start
  rwa [hb.unique ha hn hs] at h

/-- **Every run of the loop has such a history**, of no more attempts than are allowed, and it is
the same run from any of them on. -/
theorem attempts_resumes (hrun : ∀ n, (run n).Local (Within n)) (fuel first : Nat)
    (s : Session σ) :
    ∃ tries, History policy info run first fuel s
        (attempts policy info run fuel (UInt32.ofNat first) s) tries ∧
      tries.length ≤ fuel ∧ ∀ a ∈ tries, ∃ left,
        attempts policy info run (left + 1) a.number a.start =
          attempts policy info run fuel (UInt32.ofNat first) s := by
  induction fuel generalizing first s with
  | zero =>
    exact ⟨[], ⟨rfl, by simp, by simp, .nil, .inr ⟨rfl, rfl, by simp⟩, by simp [attempts]⟩,
      by simp, by simp⟩
  | succ fuel ih =>
    obtain ⟨a, hn, rfl, ha, h | ⟨s', hs, hr⟩⟩ :=
      attempts_succ policy info hrun fuel (UInt32.ofNat first) s
    · refine ⟨[a], ⟨by simp [hn], by simpa using ha, by simp, .singleton a,
        .inl ⟨a, rfl, h⟩, ?_⟩, by simp, List.forall_mem_singleton.2 ⟨fuel, by rw [hn]⟩⟩
      simpa using ha.log (hrun _) h.leaves
    · obtain ⟨tries, hist, hlength, hleft⟩ := ih (first + 1) s'
      have hnext : UInt32.ofNat (first + 1) = UInt32.ofNat first + 1 := UInt32.ofNat_add first 1
      rw [hnext] at hist hleft
      refine ⟨a :: tries, ⟨?_, List.forall_mem_cons.2 ⟨ha, hist.happened⟩, by simp, ?_, ?_, ?_⟩,
        Nat.succ_le_succ hlength, List.forall_mem_cons.2 ⟨⟨fuel, by rw [hn]⟩, by rwa [hr]⟩⟩
      · simp [hn, hist.numbers, List.range'_succ]
      · cases tries with
        | nil => exact .singleton a
        | cons b tries => exact .cons_cons (hist.begins b rfl ▸ hs) hist.goesOn
      · rw [hr]
        rcases hist.ends with ⟨b, hb, h⟩ | ⟨ho, hl, hall⟩
        · exact .inl ⟨b, by simp [List.getLast?_cons, Option.mem_def.1 hb], h⟩
        · exact .inr ⟨ho, by simp [hl], List.forall_mem_cons.2 ⟨⟨s', hs⟩, hall⟩⟩
      · have hlog := ha.log (hrun _) (.inl hs)
        rw [hr, hist.log, hlog, List.flatMap_cons, List.append_assoc]

theorem attempts_history (hrun : ∀ n, (run n).Local (Within n)) (fuel first : Nat)
    (s : Session σ) :
    ∃ tries, History policy info run first fuel s
      (attempts policy info run fuel (UInt32.ofNat first) s) tries := by
  obtain ⟨tries, hist, -, -⟩ := attempts_resumes hrun fuel first s
  exact ⟨tries, hist⟩

/-! ## The steps of a call -/

section

variable {W : (α : Type) → Future σ α → Prop}

/-- Behind an attempt, only the policy works. -/
theorem Try.Happened.steps_behind {a : Try σ α} (ha : a.Happened policy info run)
    (hw : ∀ n f, W _ (policy info n f)) {s : Session σ}
    (h : a.Leaves info.request.operation s) :
    ReflTransGen (Session.Step (fun ev => ev.isMilestone = true) W) a.finish s := by
  have hrecord (e : Event) (he : e.isMilestone = true) (s : Session σ) :
      Session.Step (fun ev => ev.isMilestone = true) W s (s.record e) := .recorded he s
  have hasked {f : Failure} {answer : Option Bool} {s : Session σ} (ho : a.outcome = .failure f)
      (hf : f.isFinal = false) (hv : a.verdict = some (answer, s)) :
      ReflTransGen (Session.Step (fun ev => ev.isMilestone = true) W) a.finish s := by
    have hc := ha.asked
    simp only [ho, hf, hv, Bool.false_eq_true, if_false, Option.some.injEq] at hc
    have hs : s = ((policy info a.number f).complete (asking info a.number f a.finish)).2 := by
      rw [← hc]
    rw [hs]
    exact ((ReflTransGen.single (hrecord _ rfl _)).tail (hrecord _ rfl _)).tail
      (.worked (hw a.number f) _)
  rcases h with ⟨f, ho, hf, hv⟩ | ⟨o, h⟩
  · exact hasked ho hf hv
  · cases h with
    | returned | failed => exact .single (hrecord _ rfl _)
    | declined ho hf hv | undecided ho hf hv => exact hasked ho hf hv
    | stalled => exact .refl

theorem Try.Happened.steps {a : Try σ α} (ha : a.Happened policy info run)
    (hrun : (run a.number).Takes (Within a.number) W) :
    ReflTransGen (Session.Step (fun _ => True) W) a.start a.finish := by
  have hs := ((hrun.mono (Q := fun _ => True) fun _ _ => trivial)
    (a.start.record (.started info.request.operation a.number))).2
  rw [ha.ran] at hs
  exact .head (.recorded trivial _) hs

variable (policy info) in
/-- **A call takes the steps of its attempts, and its policy's.** -/
theorem attempts_steps (hrun : ∀ n, (run n).Takes (Within n) W)
    (hw : ∀ n f, W _ (policy info n f)) (fuel : Nat) (n : UInt32) (s : Session σ) :
    ReflTransGen (Session.Step (fun _ => True) W) s (attempts policy info run fuel n s).2 := by
  induction fuel generalizing n s with
  | zero => exact .refl
  | succ fuel ih =>
    obtain ⟨a, rfl, rfl, ha, hend⟩ :=
      attempts_succ policy info (fun n => (hrun n).local .notice) fuel n s
    have hsteps := ha.steps (hrun _)
    have hbehind {s : Session σ} (h : a.Leaves info.request.operation s) :
        ReflTransGen (Session.Step (fun _ => True) W) a.start s :=
      hsteps.trans (steps_mono (fun _ _ => trivial) (ha.steps_behind hw h))
    rcases hend with h | ⟨s', hs, hr⟩
    · exact hbehind h.leaves
    · rw [hr]
      exact (hbehind (.inl hs)).trans (ih _ s')

end

/-- The call goes on behind every attempt but the last. -/
theorem History.last_or_goesOn {first fuel : Nat} {s : Session σ} {r : Outcome α × Session σ}
    {tries : List (Try σ α)} (hist : History policy info run first fuel s r tries) {a : Try σ α}
    (ha : a ∈ tries) : tries.getLast? = some a ∨ ∃ s, a.GoesOn s := by
  obtain ⟨before, behind, rfl⟩ := List.append_of_mem ha
  cases behind with
  | nil => exact .inl (by simp)
  | cons b behind =>
    have hab := (List.isChain_append_cons_cons.1 hist.goesOn).2.1
    exact .inr ⟨b.start, hab⟩

/-- **A failure that is final ends the call**, without a question to the policy. -/
theorem History.ends_of_isFinal {first fuel : Nat} {s : Session σ} {r : Outcome α × Session σ}
    {tries : List (Try σ α)} (hist : History policy info run first fuel s r tries) {a : Try σ α}
    (ha : a ∈ tries) {f : Failure} (ho : a.outcome = .failure f) (hf : f.isFinal = true) :
    tries.getLast? = some a ∧ a.verdict = none ∧
      r = (.failure f, a.finish.record (.failed info.request.operation a.number f)) := by
  have hstay : ¬ ∃ s, a.GoesOn s := by
    rintro ⟨s, f', ho', hf', -⟩
    rw [ho, Outcome.failure.injEq] at ho'
    rw [ho', hf'] at hf
    cases hf
  have hlast := (hist.last_or_goesOn ha).resolve_right hstay
  refine ⟨hlast, ?_, ?_⟩
  · rw [(hist.happened a ha).asked]
    simp [ho, hf]
  · rcases hist.ends with ⟨b, hb, hends⟩ | ⟨-, -, hall⟩
    · obtain rfl : a = b := Option.some.inj (hlast.symm.trans hb)
      cases hends with
      | returned ho' | stalled ho' =>
        rw [ho] at ho'
        cases ho'
      | failed ho' =>
        rw [ho] at ho'
        cases ho'
        rfl
      | declined ho' hf' | undecided ho' hf' =>
        rw [ho] at ho'
        cases ho'
        rw [hf] at hf'
        cases hf'
    · exact absurd (hall a ha) hstay

/-- Encoding the variables comes before all attempts, and once. -/
theorem bind_encodeVariables {β : Type} (op : Operation) (inputs : Data)
    (f : OperationRequest → Run σ β) :
    (encodeVariables op inputs).bind f =
      match inputs.encode with
      | .error fault => .fail (.serialization (.encoding fault))
      | .ok v => f ⟨op, v⟩ := by
  unfold encodeVariables Data.toVariables
  cases inputs.encode <;> rfl

theorem execute_eq_attempts (e : Executor κ σ ρ) (fuel : Nat) (op : Operation)
    (decode : Json.Decoder ρ) (inputs : Data) (settings : CallSettings) :
    e.execute fuel op decode inputs settings =
      match inputs.encode with
      | .error fault => .fail (.serialization (.encoding fault))
      | .ok v => attempts e.retry ⟨e.client, ⟨op, v⟩, settings⟩
          (fun n => e.attempt decode ⟨e.client, settings, n, settings.cancellation⟩ ⟨op, v⟩)
          fuel 1 :=
  bind_encodeVariables op inputs _

theorem subscribe_eq_attempts (e : Executor κ σ ρ) (fuel : Nat) (op : Operation)
    (decode : Json.Decoder ρ) (inputs : Data) (settings : CallSettings) (handle : Handle) :
    e.subscribe fuel op decode inputs settings handle =
      match inputs.encode with
      | .error fault => .fail (.serialization (.encoding fault))
      | .ok v => attempts e.subscriptionRetry ⟨e.client, ⟨op, v⟩, settings⟩
          (fun n =>
            e.attemptSubscription decode handle ⟨e.client, settings, n, some handle⟩ ⟨op, v⟩)
          fuel 1 :=
  bind_encodeVariables op inputs _

/-- **Calls of both families are such sequences of attempts**, all from the operation and the
variables that the caller gave. If these have no encoding, nothing happens at all. -/
theorem calls_history (e : Executor κ σ ρ) (fuel : Nat) (op : Operation) (decode : Json.Decoder ρ)
    (inputs : Data) (settings : CallSettings) (handle : Handle) (s : Session σ) :
    match inputs.encode with
    | .error fault =>
      e.execute fuel op decode inputs settings s =
          (.failure (.serialization (.encoding fault)), s) ∧
        e.subscribe fuel op decode inputs settings handle s =
          (.failure (.serialization (.encoding fault)), s)
    | .ok v =>
      (∃ tries, History e.retry ⟨e.client, ⟨op, v⟩, settings⟩
          (fun n => e.attempt decode ⟨e.client, settings, n, settings.cancellation⟩ ⟨op, v⟩)
          1 fuel s (e.execute fuel op decode inputs settings s) tries) ∧
        ∃ tries, History e.subscriptionRetry ⟨e.client, ⟨op, v⟩, settings⟩
          (fun n =>
            e.attemptSubscription decode handle ⟨e.client, settings, n, some handle⟩ ⟨op, v⟩)
          1 fuel s (e.subscribe fuel op decode inputs settings handle s) tries := by
  have hexec : e.execute fuel op decode inputs settings = (encodeVariables op inputs).bind _ := rfl
  have hsub : e.subscribe fuel op decode inputs settings handle =
    (encodeVariables op inputs).bind _ := rfl
  rw [hexec, hsub, bind_encodeVariables, bind_encodeVariables]
  cases inputs.encode with
  | error fault => exact ⟨rfl, rfl⟩
  | ok v =>
    exact ⟨attempts_history (fun n => local_attempt e decode _ _) fuel 1 s,
      attempts_history (fun n => local_attemptSubscription e decode handle _ _) fuel 1 s⟩

end

end Executor

end GraphQLClient
