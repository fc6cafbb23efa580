import GraphQLClient.Proofs.Response.SubscriptionHistory
import GraphQLClient.Proofs.Untouched

/-! # What a subscription does to its handle

A subscription fires its handle when it is closed or dropped, and not otherwise:
asking for results and letting time pass leaves the handle to its alarms
(`untouched_acts`), as long as the body does not fire it while it is read. -/

namespace GraphQLClient

open Timeline (Agree Untouched)

namespace EventStream

variable {h : Handle} {s : EventStream} {t : Timeline}

/-- Reading on fires no such handle. -/
def Spares (h : Handle) (s : EventStream) : Prop := s.body.Spares h

/-- A step that leaves the handle alone, and so will those behind it. -/
def LeavesAlone (h : Handle) (t : Timeline) (step : Step) : Prop :=
  Agree h t step.2.2 ∧ step.2.1.Spares h

theorem finish_leavesAlone (hs : s.Spares h) : LeavesAlone h t (s.finish t) :=
  ⟨Timeline.agree_report _, hs⟩

theorem deliver_leavesAlone (hs : s.Spares h) (item : Item) :
    LeavesAlone h t (s.deliver item t) := by
  cases item with
  | ok data => exact ⟨.refl t, hs⟩
  | error f => exact ⟨.refl t, hs⟩

theorem LeavesAlone.behind_report {ns : List Notice} {step : Step}
    (hl : LeavesAlone h (t.report ns) step) : LeavesAlone h t step :=
  ⟨(Timeline.agree_report ns).trans hl.1, hl.2⟩

theorem drain_leavesAlone (hs : s.Spares h) : LeavesAlone h t (s.drain t) := by
  unfold drain
  split
  · exact finish_leavesAlone hs
  · have hs' : { s with lines := {} }.Spares h := hs
    split
    · exact (deliver_leavesAlone hs' _).behind_report
    · exact (finish_leavesAlone hs').behind_report

/-- Reading on in the body, by recursion on what arrives. -/
theorem pull_leavesAlone {arrivals : List Arrival} (ha : ∀ a ∈ arrivals, a ≠ .firing h)
    (s : EventStream) (lines : Lines) (t : Timeline) :
    LeavesAlone h t (s.pull arrivals lines t) := by
  induction arrivals generalizing s lines t with
  | nil =>
    unfold pull
    split
    · exact ⟨.refl t, ha⟩
    · dsimp only
      split
      · exact finish_leavesAlone ha
      · exact drain_leavesAlone ha
  | cons a rest ih =>
    obtain ⟨hne, hr⟩ := List.forall_mem_cons.1 ha
    have hdue (time : Nat) : ∀ a ∈ Arrival.due time :: rest, a ≠ .firing h :=
      List.forall_mem_cons.2 ⟨by simp, hr⟩
    cases a with
    | data b =>
      unfold pull
      dsimp only
      split
      · exact finish_leavesAlone hr
      · split
        · refine LeavesAlone.behind_report (deliver_leavesAlone ?_ _)
          exact hr
        · exact LeavesAlone.behind_report (ih hr _ _ _)
    | fault f =>
      refine deliver_leavesAlone ?_ _
      exact hr
    | firing h' =>
      have hl := ih hr s lines (t.fire h').2
      have hne' : h' ≠ h := by simpa using hne
      exact ⟨(Timeline.agree_fire hne').trans hl.1, hl.2⟩
    | delay ms =>
      unfold pull
      split
      · exact ih hr s lines t
      · exact ⟨.refl t, hdue _⟩
    | due time =>
      unfold pull
      split
      · exact ih hr s lines t
      · exact ⟨.refl t, hdue _⟩

theorem poll_leavesAlone (hs : s.Spares h) (t : Timeline) : LeavesAlone h t (s.poll t) := by
  unfold poll
  split
  · exact ⟨.refl t, hs⟩
  · split
    · exact finish_leavesAlone hs
    · split
      · refine LeavesAlone.behind_report (deliver_leavesAlone ?_ _)
        exact hs
      · dsimp only
        split
        · refine LeavesAlone.behind_report (drain_leavesAlone ?_)
          exact hs
        · exact LeavesAlone.behind_report (pull_leavesAlone hs _ _ _)

end EventStream

namespace Subscription

variable {ε ρ : Type}

/-- The subscription and the timeline behind some acts. -/
def afterActs (source : ε → Timeline → Poll (Option Item) × ε × Timeline) :
    List Act → Subscription ε ρ → Timeline → Subscription ε ρ × Timeline
  | [], s, t => (s, t)
  | a :: acts, s, t => (afterActs source acts) (perform source a s t).2.1 (perform source a s t).2.2

variable {source : ε → Timeline → Poll (Option Item) × ε × Timeline} {h : Handle} {I : ε → Prop}

/-- An act that does not close leaves a handle to its alarms, if the source does. -/
theorem Comes.untouched (hsource : ∀ e t, I e → Agree h t (source e t).2.2 ∧ I (source e t).2.1)
    {s s' : Subscription ε ρ} {t t' : Timeline} {a : Act} {m : Moment ρ}
    (hm : Comes source s t a (m, s', t')) (ha : ¬ a.Closes) (hs : ∀ e ∈ s.events, I e) :
    Untouched h t t' ∧ ∀ e ∈ s'.events, I e := by
  have hasked {e e' : ε} {p : Poll (Option Item)} (he : s.source? t = some e)
      (hr : source e t = (p, e', t')) : Agree h t t' ∧ I e' := by
    have hs' : s.events = some e := by
      unfold source? at he
      split at he
      · cases he
      · exact he
    have hl := hsource e t (hs e hs')
    rwa [hr] at hl
  cases hm with
  | idle hp =>
    refine ⟨?_, hs⟩
    cases a with
    | poll => exact absurd rfl hp
    | elapse ms => exact Timeline.untouched_moveTo t _
    | close | closeElsewhere | cancel => exact absurd trivial ha
  | gone => exact ⟨.refl t, by simp⟩
  | ended he hr | closed he hr | failed he hr => exact ⟨(hasked he hr).1.untouched, by simp⟩
  | waiting he hr | value he hr =>
    exact ⟨(hasked he hr).1.untouched, by simpa using (hasked he hr).2⟩

/-- **Only closing fires**: all other acts leave a handle to its alarms. -/
theorem untouched_acts (hsource : ∀ e t, I e → Agree h t (source e t).2.2 ∧ I (source e t).2.1)
    (acts : List Act) (hacts : ∀ a ∈ acts, ¬ a.Closes) (s : Subscription ε ρ) (t : Timeline)
    (hs : ∀ e ∈ s.events, I e) : Untouched h t (afterActs source acts s t).2 := by
  induction acts generalizing s t with
  | nil => exact .refl t
  | cons a acts ih =>
    obtain ⟨ha, hrest⟩ := List.forall_mem_cons.1 hacts
    have hm : Comes source s t a (perform source a s t) := perform_comes a
    obtain ⟨hu, hs'⟩ := hm.untouched hsource ha hs
    exact hu.trans (ih hrest _ _ hs')

end Subscription

end GraphQLClient
