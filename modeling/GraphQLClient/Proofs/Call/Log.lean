import GraphQLClient.Proofs.Call.Steps

/-! # What runs add to the log

The log of a timeline only grows: a step adds the event that it records, or the
notices of the work that it waits for. So the log of a run is known from the
kind of its steps (`events_of_steps`), without following the run. `Run.Local P`
says that a run adds nothing but events of a kind `P`, and that it makes no
attempts of its own. -/

namespace GraphQLClient

open Relation (ReflTransGen)

variable {κ σ ρ α : Type}

/-- **Work writes nothing but notices.** -/
theorem Future.events_complete (f : Future σ α) (s : Session σ) :
    ∃ ns : List Notice, (f.complete s).2.timeline.events = s.timeline.events ++ ns.map .notice := by
  induction f generalizing s with
  | done => exact ⟨[], by simp [complete]⟩
  | read k ih | clock k ih | isFired h k ih | newHandle k ih => exact ih _ _
  | write state k ih => exact ih _
  | fire h k ih =>
    obtain ⟨ns, hs⟩ := ih (s.timeline.fire h).1 { s with timeline := (s.timeline.fire h).2 }
    exact ⟨ns, by rw [complete, hs, Timeline.events_fire]⟩
  | report n k ih =>
    obtain ⟨ns, hs⟩ := ih { s with timeline := s.timeline.report [n] }
    exact ⟨n :: ns, by rw [complete, hs]; simp [Timeline.report]⟩
  | wait w k ih =>
    unfold complete
    split
    · next s' hs =>
      obtain ⟨ns, hc⟩ := ih s'
      exact ⟨ns, by rw [hc, Session.events_afterWait? hs]⟩
    · exact ⟨[], by simp⟩

/-- What the log of a session has beyond that of an earlier one. -/
def Session.since (s s₀ : Session σ) : List Event :=
  s.timeline.events.drop s₀.timeline.events.length

theorem Session.since_eq {s s₀ : Session σ} {es : List Event}
    (h : s.timeline.events = s₀.timeline.events ++ es) : s.since s₀ = es := by
  rw [since, h, List.drop_left]

section

variable {P : Event → Prop} {W : (α : Type) → Future σ α → Prop} {s s₁ s₂ : Session σ}

/-- **Steps record events of their kind, and notices.** -/
theorem events_of_steps (h : ReflTransGen (Session.Step P W) s s₁) :
    ∃ es, s₁.timeline.events = s.timeline.events ++ es ∧ ∀ e ∈ es, P e ∨ ∃ n, e = .notice n := by
  induction h with
  | refl => exact ⟨[], by simp⟩
  | @tail s₁ s₂ _ step ih =>
    obtain ⟨es, hs, he⟩ := ih
    have more : ∀ new, s₂.timeline.events = s₁.timeline.events ++ new →
        (∀ e ∈ new, P e ∨ ∃ n, e = .notice n) → ∃ es, s₂.timeline.events =
          s.timeline.events ++ es ∧ ∀ e ∈ es, P e ∨ ∃ n, e = .notice n := by
      intro new hnew hn
      refine ⟨es ++ new, by rw [hnew, hs, List.append_assoc], fun e hm => ?_⟩
      exact (List.mem_append.1 hm).elim (he e) (hn e)
    cases step with
    | recorded hp => exact more [_] rfl (by simpa using .inl hp)
    | noticed n => exact more [_] rfl (by simp)
    | called hp transport => exact more [_] rfl (by simpa using hp)
    | worked hf =>
      obtain ⟨ns, hns⟩ := Future.events_complete _ s₁
      exact more _ hns (by simp)

theorem since_of_steps (h : ReflTransGen (Session.Step P W) s s₁) :
    ∀ e ∈ s₁.since s, P e ∨ ∃ n, e = .notice n := by
  obtain ⟨es, hs, he⟩ := events_of_steps h
  rwa [Session.since_eq hs]

variable {Q : Event → Prop} {V : (α : Type) → Future σ α → Prop}

/-- The log of one run behind the other. -/
theorem since_append (h : ReflTransGen (Session.Step P W) s s₁)
    (h' : ReflTransGen (Session.Step Q V) s₁ s₂) : s₂.since s = s₁.since s ++ s₂.since s₁ := by
  obtain ⟨es, hs, -⟩ := events_of_steps h
  obtain ⟨es', hs', -⟩ := events_of_steps h'
  rw [Session.since_eq hs, Session.since_eq hs']
  exact Session.since_eq (by rw [hs', hs, List.append_assoc])

end

namespace Run

/-- A run that adds events of one kind to the log and nothing else, and never ends for want of
attempts. -/
def Local (P : Event → Prop) (r : Run σ α) : Prop :=
  ∀ s, (r s).1 ≠ .outOfAttempts ∧
    ∃ es, (r s).2.timeline.events = s.timeline.events ++ es ∧ ∀ e ∈ es, P e

theorem Takes.local {P : Event → Prop} {W : (α : Type) → Future σ α → Prop} {r : Run σ α}
    (hr : r.Takes P W) (hn : ∀ n, P (.notice n)) : r.Local P := by
  intro s
  obtain ⟨ho, hs⟩ := hr s
  obtain ⟨es, hes, he⟩ := events_of_steps hs
  refine ⟨ho, es, hes, fun e hm => ?_⟩
  rcases he e hm with hp | ⟨n, rfl⟩
  · exact hp
  · exact hn n

end Run

namespace Executor

/-- **An attempt at a query or mutation writes of itself only.** -/
theorem local_attempt (e : Executor κ σ ρ) (decode : Json.Decoder ρ) (info : AttemptInfo κ)
    (base : OperationRequest) : (e.attempt decode info base).Local (Within info.attempt) :=
  ((e.admits_any e.stages e.retry).attempt decode info base).local .notice

/-- **An attempt at a subscription writes of itself only.** -/
theorem local_attemptSubscription (e : Executor κ σ ρ) (decode : Json.Decoder ρ) (handle : Handle)
    (info : AttemptInfo κ) (base : OperationRequest) :
    (e.attemptSubscription decode handle info base).Local (Within info.attempt) :=
  ((e.admits_any _ e.subscriptionRetry).attemptSubscription decode info handle base).local .notice

end Executor

end GraphQLClient
