import GraphQLClient.Proofs.Future
import GraphQLClient.Proofs.Response.EventItems

/-! # Reading a body to its end

What reading a body brings is known from what arrives: all its bytes, or the
first fault (`Body.outcome`), however it is cut and however long its pieces take.
`Reads` says so of the work that reads it, which writes nothing meanwhile and
comes to an end if the body does. -/

namespace GraphQLClient

variable {σ : Type}

/-- The bytes that arrive, behind those seen already, or the first fault. -/
def Arrival.outcome (seen : Bytes) (arrivals : List Arrival) : Except Failure Bytes :=
  match (received arrivals).2 with
  | none => .ok (seen ++ (received arrivals).1)
  | some f => .error f

theorem Arrival.outcome_data (seen b : Bytes) (rest : List Arrival) :
    outcome seen (.data b :: rest) = outcome (seen ++ b) rest := by
  simp only [outcome, received, List.append_assoc]

def Body.outcome (b : Body) : Except Failure Bytes := Arrival.outcome [] b.arrivals.pending

/-- Work begun in `s` that brings `x` if it comes to an end, and does so just if `ends`; the log
stays as it is. -/
structure Reads (s : Session σ) (ends : Prop) (x : Except Failure Bytes)
    (r : Option (Except Failure Bytes) × Session σ) : Prop where
  log : r.2.timeline.events = s.timeline.events
  only : ∀ y, r.1 = some y → y = x ∧ ends
  comes : s.deadline = none → ends → ∃ y, r.1 = some y

namespace Reads

variable {s s' : Session σ} {ends : Prop} {x : Except Failure Bytes}
  {r : Option (Except Failure Bytes) × Session σ}

theorem now (he : ends) (x : Except Failure Bytes) : Reads s ends x (some x, s) :=
  ⟨rfl, fun _ h => ⟨(Option.some.inj h).symm, he⟩, fun _ _ => ⟨x, rfl⟩⟩

theorem of_log (h : Reads s' ends x r) (hl : s'.timeline.events = s.timeline.events)
    (hd : s'.deadline = s.deadline) : Reads s ends x r :=
  ⟨h.log.trans hl, h.only, fun hn => h.comes (hd.trans hn)⟩

/-- Waiting for a time in front changes nothing but the time. -/
theorem wait {time : Nat} {k : Future σ (Except Failure Bytes)}
    (h : ∀ s', Reads s' ends x (k.complete s')) :
    Reads s ends x ((Future.wait (.upTo time) k).complete s) := by
  unfold Future.complete
  cases hw : s.afterWait? (.upTo time) with
  | none =>
    refine ⟨rfl, by simp, fun hd => ?_⟩
    obtain ⟨s', hs⟩ := Session.exists_afterWait?_upTo hd time
    rw [hw] at hs
    cases hs
  | some s' =>
    exact (h s').of_log (Session.events_afterWait? hw) (Session.deadline_afterWait? hw)

end Reads

/-- A body stays open for ever unless it ends or breaks off. -/
theorem Body.reads_collectFrom (staysOpen : Bool) (arrivals : List Arrival) (seen : Bytes)
    (s : Session σ) :
    Reads s (Arrivals.Ends ⟨arrivals, staysOpen⟩) (Arrival.outcome seen arrivals)
      ((collectFrom staysOpen arrivals seen).complete s) := by
  induction arrivals generalizing seen s with
  | nil =>
    cases staysOpen with
    | false =>
      have hout : Arrival.outcome seen [] = .ok seen := by
        simp [Arrival.outcome, Arrival.received]
      rw [hout]
      exact Reads.now (.inl rfl) (.ok seen)
    | true =>
      have hnever : s.afterWait? {} = none := by
        simp [Session.afterWait?, Timeline.afterWait?, Timeline.wakeTime?, Timeline.isOver,
          Timeline.wakeTimes]
      simp only [collectFrom, Future.never, if_true, Future.complete, hnever]
      exact ⟨rfl, by simp, fun _ he => by simp [Arrivals.Ends] at he⟩
  | cons a rest ih =>
    -- A fault apart, what stands in front does not decide whether the body ends.
    have hends (hf : ∀ f, a ≠ .fault f) :
        Arrivals.Ends ⟨a :: rest, staysOpen⟩ = Arrivals.Ends ⟨rest, staysOpen⟩ := by
      have hne (f : Failure) : Arrival.fault f ≠ a := (hf f).symm
      simp [Arrivals.Ends, hne]
    cases a with
    | data b =>
      rw [hends (by simp), Arrival.outcome_data]
      exact ih (seen ++ b) s
    | fault f => exact Reads.now (.inr ⟨f, by simp⟩) (.error f)
    | firing h =>
      rw [hends (by simp)]
      exact (ih seen { s with timeline := (s.timeline.fire h).2 }).of_log
        (Timeline.events_fire s.timeline h) rfl
    | delay ms =>
      rw [hends (by simp)]
      simp only [collectFrom, Future.sleep]
      split_ifs
      · exact ih seen s
      · exact Reads.wait fun s' => ih seen s'
    | due time =>
      rw [hends (by simp)]
      exact Reads.wait fun s' => ih seen s'

/-- **Reading a body brings its outcome**, and comes to an end if the body does. -/
theorem Body.reads_collect (b : Body) (s : Session σ) :
    Reads s b.arrivals.Ends b.outcome (b.collect.complete s) := by
  cases b with
  | buffered bytes =>
    have hends : (Body.buffered bytes).arrivals.Ends := by
      cases bytes <;> exact .inl rfl
    have hout : (Body.buffered bytes).outcome = .ok bytes := by
      cases bytes <;> simp [outcome, arrivals, Arrival.outcome, Arrival.received]
    rw [hout]
    exact Reads.now hends (.ok bytes)
  | streamed a => exact reads_collectFrom a.staysOpen a.pending [] s

theorem Body.exists_complete_collect (b : Body) {s : Session σ} (unlimited : s.deadline = none)
    (ends : b.arrivals.Ends) : ∃ s', b.collect.complete s = (some b.outcome, s') := by
  have hreads := b.reads_collect s
  obtain ⟨x, hx⟩ := hreads.comes unlimited ends
  obtain ⟨rfl, -⟩ := hreads.only x hx
  exact ⟨_, Prod.ext hx rfl⟩

end GraphQLClient
