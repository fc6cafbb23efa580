import GraphQLClient.Proofs.Response.EventItems

/-! # A stream whose handle has fired

A poll looks at the handle first, and again behind every piece of the body and
behind its end, but not behind a fault. So a stream is silent from the first
poll on that begins behind the firing, and within the poll in which it happens
too, unless the next thing to arrive is a fault (`Silenced`). The step
lemma (`poll_heeds`) says so of one poll; a run hands on that the handle stays
fired and that no firing is left in the body that was not there at first. -/

namespace GraphQLClient

/-! ## Firing and faults in a body -/

namespace Arrival

/-- The fault that is met next if nothing is waited for. -/
def nextFault? : List Arrival → Option Failure
  | .fault f :: _ => some f
  | .firing _ :: rest => nextFault? rest
  | .due _ :: rest => nextFault? rest
  | .delay ms :: rest => if ms = 0 then nextFault? rest else none
  | _ => none

/-- A handle is fired and the next thing to arrive is a fault. -/
def FaultBehindFiring (h : Handle) (f : Failure) (arrivals : List Arrival) : Prop :=
  ∃ rest, .firing h :: rest <:+ arrivals ∧ nextFault? rest = some f

theorem FaultBehindFiring.cons {h : Handle} {f : Failure} {arrivals : List Arrival}
    (hf : FaultBehindFiring h f arrivals) (a : Arrival) : FaultBehindFiring h f (a :: arrivals) :=
  let ⟨rest, hs, hn⟩ := hf
  ⟨rest, hs.trans (List.suffix_cons a arrivals), hn⟩

end Arrival

open Arrival (nextFault? FaultBehindFiring)

namespace EventStream

variable {h : Handle} {s : EventStream} {t : Timeline} {arrivals : List Arrival}

/-! ## One poll -/

/-- A stream that will not fire its handle but where some arrivals did. -/
structure Within (h : Handle) (arrivals : List Arrival) (s : EventStream) : Prop where
  handle : s.handle = h
  firings : ∀ rest, .firing h :: rest <:+ s.body.pending → .firing h :: rest <:+ arrivals

/-- What a step over some arrivals does about the handle, if it begins at `t`. -/
structure Heeds (h : Handle) (arrivals : List Arrival) (t : Timeline) (step : Step) : Prop where
  within : Within h arrivals step.2.1
  stays : t.isFired h = true → step.2.2.isFired h = true
  /-- Nothing is handed over behind the firing but a fault. -/
  item : step.2.2.isFired h = true → ∀ item, step.1 = .ready (some item) → ∃ f, item = .error f ∧
    (FaultBehindFiring h f arrivals ∨ t.isFired h = true ∧ nextFault? arrivals = some f)
  watches : ∀ w, step.1 = .waiting w → h ∈ w.handles

theorem finish_heeds (hs : Within h arrivals s) : Heeds h arrivals t (s.finish t) :=
  ⟨⟨hs.handle, hs.firings⟩, id, by simp [finish], by simp [finish]⟩

/-- An item of the body is handed over only as long as the handle has not fired. -/
theorem deliver_heeds (hs : Within h arrivals s) (live : t.isFired h = false) (item : Item) :
    Heeds h arrivals t (s.deliver item t) := by
  cases item with
  | ok data => exact ⟨hs, id, by simp [deliver, live], by simp [deliver]⟩
  | error f => exact ⟨⟨hs.handle, hs.firings⟩, id, by simp [deliver, live], by simp [deliver]⟩

theorem Heeds.behind_report {ns : List Notice} {step : Step}
    (hh : Heeds h arrivals (t.report ns) step) : Heeds h arrivals t step :=
  ⟨hh.within, hh.stays, hh.item, hh.watches⟩

theorem suspend_heeds (hs : Within h arrivals s) (w : Wait) :
    Heeds h arrivals t (s.suspend w t) where
  within := hs
  stays := id
  item := by simp [suspend]
  watches w' hw := by
    cases hw
    rw [← hs.handle]
    exact List.mem_cons_self

theorem drain_heeds (hs : Within h arrivals s) (live : t.isFired h = false) :
    Heeds h arrivals t (s.drain t) := by
  have hs' : Within h arrivals { s with lines := {} } := ⟨hs.handle, hs.firings⟩
  unfold drain
  split
  · exact finish_heeds hs
  · split
    · refine Heeds.behind_report (deliver_heeds hs' ?_ _)
      exact live
    · exact Heeds.behind_report (finish_heeds hs')

theorem Within.cons (hs : Within h arrivals s) (a : Arrival) : Within h (a :: arrivals) s :=
  ⟨hs.handle, fun rest hr => (hs.firings rest hr).trans (List.suffix_cons a arrivals)⟩

/-- What holds of the arrivals behind some first one holds with it in front. -/
theorem Heeds.cons {a : Arrival} {step : Step} (hh : Heeds h arrivals t step)
    (ha : t.isFired h = true → nextFault? (a :: arrivals) = nextFault? arrivals) :
    Heeds h (a :: arrivals) t step where
  within := hh.within.cons a
  stays := hh.stays
  item hf item hi := by
    obtain ⟨f, he, hb⟩ := hh.item hf item hi
    exact ⟨f, he, hb.imp (·.cons a) fun ⟨ht, hn⟩ => ⟨ht, (ha ht).trans hn⟩⟩
  watches := hh.watches

/-- The firing in front may be that of the handle. -/
theorem Heeds.behind_firing {h' : Handle} {step : Step}
    (hh : Heeds h arrivals (t.fire h').2 step) : Heeds h (.firing h' :: arrivals) t step where
  within := hh.within.cons _
  stays ht := hh.stays (by simp [ht])
  item hf item hi := by
    obtain ⟨f, he, hb | ⟨ht, hn⟩⟩ := hh.item hf item hi
    · exact ⟨f, he, .inl (hb.cons _)⟩
    · rw [Timeline.isFired_fire, Bool.or_eq_true, beq_iff_eq] at ht
      rcases ht with rfl | ht
      · exact ⟨f, he, .inl ⟨arrivals, List.suffix_refl _, hn⟩⟩
      · exact ⟨f, he, .inr ⟨ht, hn⟩⟩
  watches := hh.watches

/-- Reading on in the body. The recursion is that of `pull`; the handle may have fired at any time
in it, so nothing is supposed of that. -/
theorem pull_heeds (hs : s.handle = h) (arrivals : List Arrival) (lines : Lines) (t : Timeline) :
    Heeds h arrivals t (s.pull arrivals lines t) := by
  have hwithin {s : EventStream} (hs : s.handle = h) (rest : List Arrival) (lines : Lines) :
      Within h rest { s with body := { s.body with pending := rest }, lines } :=
    ⟨hs, fun _ hr => hr⟩
  induction arrivals generalizing s lines t with
  | nil =>
    have hend : Within h [] { s with
        body := { s.body with pending := [] }, lines, bodyDone := true } := ⟨hs, fun _ hr => hr⟩
    unfold pull
    split
    · exact suspend_heeds (hwithin hs [] lines) {}
    · dsimp only
      split
      · exact finish_heeds hend
      · next hf => exact drain_heeds hend (by simpa [hs] using hf)
  | cons a rest ih =>
    have hdue (time : Nat) : Within h rest { s with
        body := { s.body with pending := .due time :: rest }, lines } :=
      ⟨hs, fun r hr => by simpa [List.suffix_cons_iff] using hr⟩
    cases a with
    | data b =>
      unfold pull
      dsimp only
      split
      · exact finish_heeds ((hwithin hs rest _).cons _)
      · next hf =>
        have live : t.isFired h = false := by simpa [hs] using hf
        refine Heeds.cons ?_ (by simp [live])
        split
        · refine Heeds.behind_report (deliver_heeds (hwithin hs rest _) ?_ _)
          exact live
        · refine Heeds.behind_report (ih ?_ _ _)
          exact hs
    | fault f =>
      -- The one thing that is handed over without another look at the handle.
      have hfault : Within h rest { s with
          body := { s.body with pending := rest }, lines, ended := true } := ⟨hs, fun _ hr => hr⟩
      refine ⟨hfault.cons _, id, ?_, by simp [pull, deliver]⟩
      intro hf item hi
      exact ⟨f, by simpa [pull, deliver, eq_comm] using hi, .inr ⟨hf, rfl⟩⟩
    | firing h' => exact (ih hs lines (t.fire h').2).behind_firing
    | delay ms =>
      unfold pull
      split
      · next h0 => exact (ih hs lines t).cons fun _ => if_pos h0
      · exact suspend_heeds ((hdue _).cons _) _
    | due time =>
      unfold pull
      split
      · exact (ih hs lines t).cons fun _ => rfl
      · exact suspend_heeds ((hdue _).cons _) _

/-- **A poll looks at the handle first.** -/
theorem poll_of_isFired (hf : t.isFired s.handle = true) : (s.poll t).1 = .ready none := by
  simp only [poll, hf, if_true]
  split <;> rfl

/-- **One poll** over what is left of the body. -/
theorem poll_heeds (s : EventStream) (t : Timeline) :
    Heeds s.handle s.body.pending t (s.poll t) := by
  have hwithin : Within s.handle s.body.pending s := ⟨rfl, fun _ hr => hr⟩
  unfold poll
  split
  · exact ⟨hwithin, id, by simp, by simp⟩
  · split
    · exact finish_heeds hwithin
    · next hf =>
      have live : t.isFired s.handle = false := by simpa using hf
      split
      · refine Heeds.behind_report (deliver_heeds ?_ ?_ _)
        · exact ⟨rfl, fun _ hr => hr⟩
        · exact live
      · dsimp only
        split
        · refine Heeds.behind_report (drain_heeds ?_ ?_)
          · exact ⟨rfl, fun _ hr => hr⟩
          · exact live
        · refine Heeds.behind_report (pull_heeds ?_ _ _ _)
          rfl

/-! ## A run -/

/-- A poll of a stream: when it began, what it answered and what it left. -/
structure Ask where
  before : Timeline
  answer : Poll (Option Item)
  after : Timeline

/-- Polls of a stream one behind the other. Between two of them anything may happen, but a handle
that has fired stays fired; nothing says that the stream is polled again. -/
inductive Asks : EventStream → Timeline → List Ask → Prop
  | stop (s : EventStream) (t : Timeline) : Asks s t []
  | ask {s t p s' t' u asks} (h : s.poll t = (p, s', t'))
      (stays : t'.isFired s'.handle = true → u.isFired s'.handle = true) (rest : Asks s' u asks) :
      Asks s t (⟨t, p, t'⟩ :: asks)

/-- What some polls show of a handle, over what arrives in the body. -/
structure Silenced (h : Handle) (arrivals : List Arrival) (asks : List Ask) : Prop where
  /-- A poll that begins behind the firing comes to the end. -/
  fired : ∀ a ∈ asks, a.before.isFired h = true → a.answer = .ready none
  /-- So does every poll behind one in which the handle fired. -/
  later : asks.Pairwise fun a b => a.after.isFired h = true → b.answer = .ready none
  /-- The poll in which it fires hands over no payload, and a failure only if that is the next thing
  to arrive. -/
  firing : ∀ a ∈ asks, a.after.isFired h = true → ∀ item, a.answer = .ready (some item) →
    ∃ f, item = .error f ∧ FaultBehindFiring h f arrivals
  /-- A poll that has to wait waits for the handle as well. -/
  watched : ∀ a ∈ asks, ∀ w, a.answer = .waiting w → h ∈ w.handles

/-- Once the handle has fired, only the end is left. -/
theorem Asks.answer_of_isFired {asks : List Ask} (ha : Asks s t asks)
    (hf : t.isFired s.handle = true) : ∀ a ∈ asks, a.answer = .ready none := by
  induction ha with
  | stop => simp
  | @ask s t p s' t' u asks h stays _ ih =>
    have hh := poll_heeds s t
    have hend := poll_of_isFired hf
    rw [h] at hh hend
    have hf' : u.isFired s'.handle = true :=
      stays (by rw [hh.within.handle]; exact hh.stays hf)
    exact List.forall_mem_cons.2 ⟨hend, ih hf'⟩

/-- **Polled on and on**, a stream falls silent when its handle fires. By induction on the polls; a
body only gets shorter, so no firing is met that was not in it. -/
theorem Asks.silenced {asks : List Ask} (ha : Asks s t asks) (hs : Within h arrivals s) :
    Silenced h arrivals asks := by
  induction ha with
  | stop => exact ⟨by simp, .nil, by simp, by simp⟩
  | @ask s t p s' t' u asks hp stays hrest ih =>
    obtain rfl := hs.handle
    have hh := poll_heeds s t
    rw [hp] at hh
    have hs' : Within s.handle arrivals s' :=
      ⟨hh.within.handle, fun rest hr => hs.firings rest (hh.within.firings rest hr)⟩
    have hsilent := ih hs'
    have hend (hf : t.isFired s.handle = true) : p = .ready none := by
      have := poll_of_isFired hf
      rwa [hp] at this
    constructor
    case fired => exact List.forall_mem_cons.2 ⟨hend, hsilent.fired⟩
    case later =>
      refine .cons ?_ hsilent.later
      intro b hb hf
      rw [← hh.within.handle] at hf
      exact hrest.answer_of_isFired (stays hf) b hb
    case firing =>
      refine List.forall_mem_cons.2 ⟨?_, hsilent.firing⟩
      intro hf item hi
      -- Had it fired before the poll, the poll would have ended at once.
      obtain ⟨f, he, ⟨rest, hr, hn⟩ | ⟨ht, -⟩⟩ := hh.item hf item hi
      · exact ⟨f, he, rest, hs.firings rest hr, hn⟩
      · rw [hend ht] at hi
        cases hi
    case watched => exact List.forall_mem_cons.2 ⟨hh.watches, hsilent.watched⟩

/-- **The events of a response end with their handle**, but for a failure of the body that arrives
right behind the firing. -/
theorem events_silenced {σ : Type} (handler : ErrorHandler) (op : Operation) (h : Handle)
    (r : HttpResponse) (accepted : r.head.status = 200)
    (framed : isEventStream r.head.headers.contentType? = true) :
    ∃ s : EventStream,
      (r.events handler op h : Future σ (Except Failure EventStream)) = .done (.ok s) ∧
        ∀ t asks, Asks s t asks → Silenced h r.body.arrivals.pending asks :=
  ⟨opened handler op h r, events_of_accepted accepted framed,
    fun _ _ ha => ha.silenced ⟨rfl, fun _ hr => hr⟩⟩

/-! ## The exception -/

/-- A fault is met and handed over without another look at the handle. -/
theorem pull_of_nextFault? {f : Failure} (hn : nextFault? arrivals = some f)
    (elapsed : ∀ time, Arrival.due time ∈ arrivals → time ≤ t.now) (lines : Lines) :
    ∃ s' t', s.pull arrivals lines t = (.ready (some (.error f)), s', t') ∧
      (t.isFired h = true → t'.isFired h = true) := by
  induction arrivals generalizing lines t with
  | nil => cases hn
  | cons a rest ih =>
    have hrest : ∀ time, Arrival.due time ∈ rest → time ≤ t.now := fun time hm =>
      elapsed time (List.mem_cons_of_mem _ hm)
    cases a with
    | data b => cases hn
    | fault f' =>
      cases hn
      exact ⟨_, _, rfl, id⟩
    | firing h' =>
      obtain ⟨s', t', hp, hf⟩ := ih (t := (t.fire h').2) hn (by simpa using hrest) lines
      exact ⟨s', t', hp, fun ht => hf (by simp [ht])⟩
    | delay ms =>
      rw [nextFault?] at hn
      split_ifs at hn with h0
      rw [pull, if_pos h0]
      exact ih hn hrest lines
    | due time =>
      rw [pull, if_pos (elapsed time List.mem_cons_self)]
      exact ih hn hrest lines

/-- **The exception is met**: if a body begins with the firing and a fault, the first poll of its
events fires the handle and hands over the fault. -/
theorem poll_opened_of_nextFault? {handler : ErrorHandler} {op : Operation} {r : HttpResponse}
    {rest : List Arrival} {f : Failure} (hr : r.body.arrivals.pending = .firing h :: rest)
    (hn : nextFault? rest = some f) (elapsed : ∀ time, Arrival.due time ∈ rest → time ≤ t.now)
    (live : t.isFired h = false) :
    ∃ s' t', (opened handler op h r).poll t = (.ready (some (.error f)), s', t') ∧
      t'.isFired h = true := by
  obtain ⟨s', t', hp, hf⟩ := pull_of_nextFault? (s := opened handler op h r) (h := h)
    (t := (t.fire h).2) hn (by simpa using elapsed) {}
  refine ⟨s', t', ?_, hf (by simp)⟩
  have hlive : t.isFired (opened handler op h r).handle = false := live
  have hpull : (opened handler op h r).poll t =
      (opened handler op h r).pull (.firing h :: rest) {} (t.report []) := by
    rw [← hr, poll, if_neg (by simp [opened]), if_neg (by simp [hlive])]
    rfl
  rw [hpull, Timeline.report_nil]
  exact hp

/-- The connection is lost as the handle fires. -/
def resetResponse : HttpResponse where
  head := ⟨200, [("content-type", Text.Utf8.encode "text/event-stream")]⟩
  body := .streamed { pending := [.firing ⟨0⟩, .fault (.transport "reset")] }

theorem silenced_resetResponse :
    ∃ s : EventStream,
      (resetResponse.events ErrorHandler.raise onTick ⟨0⟩ :
        Future Unit (Except Failure EventStream)) = .done (.ok s) ∧
        ∀ t asks, Asks s t asks → Silenced ⟨0⟩ resetResponse.body.arrivals.pending asks :=
  events_silenced _ _ _ resetResponse rfl (by decide +kernel)

/-- Its first poll hands over a failure, though the handle has fired before that. -/
theorem not_silent_resetResponse :
    ∃ (s s' : EventStream) (t' : Timeline),
      (resetResponse.events ErrorHandler.raise onTick ⟨0⟩ :
        Future Unit (Except Failure EventStream)) = .done (.ok s) ∧
      s.poll {} = (.ready (some (.error (.transport "reset"))), s', t') ∧
      t'.isFired ⟨0⟩ = true := by
  obtain ⟨s', t', hp, hf⟩ := poll_opened_of_nextFault? (h := ⟨0⟩) (t := {}) (r := resetResponse)
    rfl rfl (by simp) rfl
  exact ⟨_, s', t', events_of_accepted rfl (by decide +kernel), hp, hf⟩

end EventStream

end GraphQLClient
