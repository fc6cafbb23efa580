import GraphQLClient.Future
import GraphQLClient.Proofs.Timeline

/-! # Polls of a piece of work

`complete` is a sequence of polls with waits between them (`complete_eq`), and
`Delivers` tells in which of them the value comes. Work that is given up when a
handle fires goes through the same polls as long as each begins without the
handle; so it brings the value of the work just if the handle has not fired by
the beginning of the poll that delivers it (`complete_untilFired`). -/

namespace GraphQLClient

variable {σ α β : Type}

/-! ## Waiting -/

namespace Session

variable {s s' : Session σ} {w : Wait} {h : Handle}

theorem afterWait?_eq_some_iff :
    s.afterWait? w = some s' ↔
      ∃ t, s.timeline.afterWait? w = some t ∧ s.deadline.all (t.now ≤ ·) = true ∧
        s' = { s with timeline := t } := by
  unfold afterWait?
  cases ht : s.timeline.afterWait? w with
  | none => simp
  | some t =>
    by_cases hd : s.deadline.all (t.now ≤ ·) = true
    · simp only [hd, if_true, Option.some.injEq, exists_eq_left', true_and]
      exact eq_comm
    · simp [hd]

theorem isFired_afterWait? (hw : s.afterWait? w = some s') (hf : s.timeline.isFired h = true) :
    s'.timeline.isFired h = true := by
  obtain ⟨t, ht, -, rfl⟩ := afterWait?_eq_some_iff.1 hw
  obtain ⟨time, -, rfl⟩ := Option.map_eq_some_iff.1 ht
  exact Timeline.isFired_moveTo hf time

/-- Waiting writes nothing, and the deadline stays. -/
theorem events_afterWait? (hw : s.afterWait? w = some s') :
    s'.timeline.events = s.timeline.events := by
  obtain ⟨t, ht, -, rfl⟩ := afterWait?_eq_some_iff.1 hw
  obtain ⟨time, -, rfl⟩ := Option.map_eq_some_iff.1 ht
  rfl

theorem deadline_afterWait? (hw : s.afterWait? w = some s') : s'.deadline = s.deadline := by
  obtain ⟨t, -, -, rfl⟩ := afterWait?_eq_some_iff.1 hw
  rfl

/-- A time comes, if it is not too late. -/
theorem exists_afterWait?_upTo (hd : s.deadline = none) (time : Nat) :
    ∃ s', s.afterWait? (.upTo time) = some s' := by
  have ht : ∃ t, s.timeline.afterWait? (.upTo time) = some t := by
    rw [← Option.isSome_iff_exists, Timeline.afterWait?, Option.isSome_map, Timeline.wakeTime?]
    split_ifs
    · rfl
    · simp [Timeline.wakeTimes, Wait.upTo]
  obtain ⟨t, ht⟩ := ht
  exact ⟨_, afterWait?_eq_some_iff.2 ⟨t, ht, by simp [hd], rfl⟩⟩

/-- **Waiting also for a handle** ends where the wait ends, unless the handle fires before. -/
theorem exists_afterWait?_orFiring (hw : s.afterWait? w = some s') :
    ∃ s'', s.afterWait? (w.orFiring h) = some s'' ∧
      s''.timeline.isFired h = s'.timeline.isFired h ∧
      (s'.timeline.isFired h = false → s'' = s') := by
  obtain ⟨t, ht, hd, rfl⟩ := afterWait?_eq_some_iff.1 hw
  obtain ⟨time, time', hle, hor, rfl⟩ := Timeline.exists_afterWait?_orFiring (h := h) ht
  have hd' : s.deadline.all ((s.timeline.moveTo time).now ≤ ·) = true := by
    rw [Option.all_eq_true] at hd ⊢
    intro limit hl
    have hlimit : max s.timeline.now time' ≤ limit := by simpa [Timeline.moveTo] using hd limit hl
    simpa [Timeline.moveTo] using (by omega : max s.timeline.now time ≤ limit)
  refine ⟨_, afterWait?_eq_some_iff.2 ⟨_, hor, hd', rfl⟩, ?_⟩
  rcases Timeline.afterWait?_orFiring hor with hf | hsame
  · have hf' : (s.timeline.moveTo time').isFired h = true := Timeline.isFired_moveTo_mono hle hf
    exact ⟨hf.trans hf'.symm, fun hn => by rw [hf'] at hn; cases hn⟩
  · rw [ht, Option.some.injEq] at hsame
    rw [hsame]
    exact ⟨rfl, fun _ => rfl⟩

/-- What ends a wait that would not end in time is the handle. -/
theorem isFired_of_afterWait?_eq_none (hn : s.afterWait? w = none)
    (hw : s.afterWait? (w.orFiring h) = some s') : s'.timeline.isFired h = true := by
  obtain ⟨t, ht, hd, rfl⟩ := afterWait?_eq_some_iff.1 hw
  rcases Timeline.afterWait?_orFiring ht with hf | hsame
  · exact hf
  · rw [afterWait?_eq_some_iff.2 ⟨t, hsame, hd, rfl⟩] at hn
    cases hn

/-- A handle that has fired ends every wait, if there is time left at all. -/
theorem exists_afterWait?_of_isFired (hf : s.timeline.isFired h = true)
    (hd : s.deadline.all (s.timeline.now ≤ ·) = true) :
    ∃ s', s.afterWait? (w.orFiring h) = some s' := by
  have ho : s.timeline.isOver (w.orFiring h) = true := by
    rw [Timeline.isOver_orFiring, hf, Bool.true_or]
  have ht : s.timeline.afterWait? (w.orFiring h) = some (s.timeline.moveTo s.timeline.now) := by
    rw [Timeline.afterWait?, Timeline.wakeTime?, if_pos ho, Option.map_some]
  exact ⟨_, afterWait?_eq_some_iff.2 ⟨_, ht, by simpa [Timeline.moveTo] using hd, rfl⟩⟩

end Session

namespace Future

variable {f : Future σ α} {s s' start : Session σ} {v : α} {h : Handle}

/-! ## Completing is polling -/

theorem complete_eq (f : Future σ α) (s : Session σ) :
    f.complete s =
      match f.poll s with
      | (.ready v, s') => (some v, s')
      | (.waiting w rest, s') =>
        match s'.afterWait? w with
        | some s'' => rest.complete s''
        | none => (none, s') := by
  induction f generalizing s with
  | done v => rfl
  | read k ih | clock k ih | isFired h k ih | fire h k ih | newHandle k ih =>
    simp only [complete, poll]
    exact ih _ _
  | write state k ih | report n k ih =>
    simp only [complete, poll]
    exact ih _
  | wait w k => rfl

theorem complete_of_ready (hp : f.poll s = (.ready v, s')) : f.complete s = (some v, s') := by
  rw [complete_eq, hp]

theorem complete_of_waiting {w : Wait} {rest : Future σ α} {s₂ : Session σ}
    (hp : f.poll s = (.waiting w rest, s')) (hw : s'.afterWait? w = some s₂) :
    f.complete s = rest.complete s₂ := by
  rw [complete_eq, hp]
  simp only [hw]

theorem complete_of_stuck {w : Wait} {rest : Future σ α} (hp : f.poll s = (.waiting w rest, s'))
    (hw : s'.afterWait? w = none) : f.complete s = (none, s') := by
  rw [complete_eq, hp]
  simp only [hw]

theorem complete_bind (f : Future σ α) (g : α → Future σ β) (s : Session σ) :
    (f.bind g).complete s =
      match f.complete s with
      | (some v, s') => (g v).complete s'
      | (none, s') => (none, s') := by
  induction f generalizing s with
  | done v => rfl
  | read k ih | clock k ih | isFired h k ih | fire h k ih | newHandle k ih => exact ih _ _
  | write state k ih | report n k ih => exact ih _
  | wait w k ih =>
    simp only [Future.bind, complete]
    cases s.afterWait? w with
    | none => rfl
    | some s' => exact ih s'

/-- No work moves its deadline. -/
theorem deadline_complete (f : Future σ α) (s : Session σ) :
    (f.complete s).2.deadline = s.deadline := by
  induction f generalizing s with
  | done v => rfl
  | read k ih | clock k ih | isFired h k ih | fire h k ih | newHandle k ih => exact ih _ _
  | write state k ih | report n k ih => exact ih _
  | wait w k ih =>
    unfold complete
    cases hw : s.afterWait? w with
    | none => rfl
    | some s' => exact (ih s').trans (Session.deadline_afterWait? hw)

/-- Induction on the polls of a piece of work. -/
theorem pollInduction {motive : Future σ α → Session σ → Prop}
    (step : ∀ f s, (∀ w rest s₁ s₂, f.poll s = (.waiting w rest, s₁) →
      s₁.afterWait? w = some s₂ → motive rest s₂) → motive f s)
    (f : Future σ α) (s : Session σ) : motive f s := by
  -- What a poll leaves is part of the work, so it is enough to go down in the work.
  have hrest : ∀ f : Future σ α, ∀ s w rest s₁, f.poll s = (.waiting w rest, s₁) →
      ∀ s₂, motive rest s₂ := by
    intro f
    induction f with
    | done v =>
      intro s w rest s₁ hp
      cases hp
    | read k ih | clock k ih | isFired h k ih | fire h k ih | newHandle k ih =>
      intro s w rest s₁ hp
      exact ih _ _ w rest s₁ hp
    | write state k ih | report n k ih =>
      intro s w rest s₁ hp
      exact ih _ w rest s₁ hp
    | wait w k ih =>
      intro s w' rest s₁ hp s₂
      cases hp
      exact step k s₂ fun w rest s₁ s₃ hk _ => ih s₂ w rest s₁ hk s₃
  exact step f s fun w rest s₁ s₂ hp _ => hrest f s w rest s₁ hp s₂

/-- A handle that has fired when a poll begins has fired when it is over. -/
theorem isFired_poll (f : Future σ α) (hf : s.timeline.isFired h = true) :
    (f.poll s).2.timeline.isFired h = true := by
  induction f generalizing s with
  | done v | wait w k => exact hf
  | read k ih | clock k ih | isFired h' k ih | newHandle k ih => exact ih _ hf
  | write state k ih | report n k ih => exact ih hf
  | fire h' k ih => exact ih _ (by simp [hf])

theorem isFired_complete (f : Future σ α) (hf : s.timeline.isFired h = true) :
    (f.complete s).2.timeline.isFired h = true := by
  induction f, s using pollInduction with
  | step f s ih =>
    have hpoll := f.isFired_poll hf
    rw [complete_eq]
    rcases hp : f.poll s with ⟨v | ⟨w, rest⟩, s₁⟩
    · rwa [hp] at hpoll
    · rw [hp] at hpoll
      cases hw : s₁.afterWait? w with
      | none => simpa only [hw] using hpoll
      | some s₂ =>
        simpa only [hw] using ih w rest s₁ s₂ hp hw (Session.isFired_afterWait? hw hpoll)

/-! ## Delivery -/

/-- Begun in `s`, the work brings `v` in the poll that begins in `start` and ends in `s'`. -/
inductive Delivers : Future σ α → Session σ → (start : Session σ) → α → Session σ → Prop
  | now {f : Future σ α} {s s' : Session σ} {v : α} (hp : f.poll s = (.ready v, s')) :
      Delivers f s s v s'
  | later {f rest : Future σ α} {s s₁ s₂ start s' : Session σ} {v : α} {w : Wait}
      (hp : f.poll s = (.waiting w rest, s₁)) (hw : s₁.afterWait? w = some s₂)
      (hd : Delivers rest s₂ start v s') : Delivers f s start v s'

theorem Delivers.complete (hd : f.Delivers s start v s') : f.complete s = (some v, s') := by
  induction hd with
  | now hp => exact complete_of_ready hp
  | later hp hw _ ih => rw [complete_of_waiting hp hw, ih]

/-- All that completes is delivered in some poll. -/
theorem exists_delivers (hc : f.complete s = (some v, s')) : ∃ start, f.Delivers s start v s' := by
  induction f, s using pollInduction with
  | step f s ih =>
    rcases hp : f.poll s with ⟨v' | ⟨w, rest⟩, s₁⟩
    · rw [complete_of_ready hp] at hc
      cases hc
      exact ⟨s, .now hp⟩
    · cases hw : s₁.afterWait? w with
      | none =>
        rw [complete_of_stuck hp hw] at hc
        cases hc
      | some s₂ =>
        rw [complete_of_waiting hp hw] at hc
        obtain ⟨start, hd⟩ := ih w rest s₁ s₂ hp hw hc
        exact ⟨start, .later hp hw hd⟩

theorem Delivers.isFired_start (hd : f.Delivers s start v s') (hf : s.timeline.isFired h = true) :
    start.timeline.isFired h = true := by
  induction hd with
  | now => exact hf
  | @later f _ _ _ _ _ _ _ _ hp hw _ ih =>
    have hpoll := f.isFired_poll hf
    rw [hp] at hpoll
    exact ih (Session.isFired_afterWait? hw hpoll)

/-! ## Giving up -/

theorem poll_guarded (f : Future σ α) (s : Session σ) :
    (f.guarded h).poll s =
      match f.poll s with
      | (.ready v, s') => (.ready (some v), s')
      | (.waiting w rest, s') => (.waiting (w.orFiring h) (rest.untilFired h), s') := by
  induction f generalizing s with
  | done v | wait w k => rfl
  | read k ih | clock k ih | isFired h' k ih | fire h' k ih | newHandle k ih => exact ih _ _
  | write state k ih | report n k ih => exact ih _

/-- Work that has been called off is not even polled. -/
theorem complete_untilFired_of_isFired (f : Future σ α) (hf : s.timeline.isFired h = true) :
    (f.untilFired h).complete s = (some none, s) := by
  simp only [untilFired, Future.complete, hf, if_true]

theorem complete_untilFired_eq_guarded (hf : s.timeline.isFired h = false) :
    (f.untilFired h).complete s = (f.guarded h).complete s := by
  simp only [untilFired, Future.complete, hf, Bool.false_eq_true, if_false]

/-- **Ties go to the handle**: the value comes just if the handle has not fired when the poll that
delivers it begins. -/
theorem Delivers.complete_untilFired (hd : f.Delivers s start v s') :
    if start.timeline.isFired h then
      ∃ s'', (f.untilFired h).complete s = (some none, s'') ∧ s''.timeline.isFired h = true
    else (f.untilFired h).complete s = (some (some v), s') := by
  induction hd with
  | @now f s s' v hp =>
    split_ifs with hf
    · exact ⟨s, complete_untilFired_of_isFired f hf, hf⟩
    · rw [complete_untilFired_eq_guarded (eq_false_of_ne_true hf)]
      exact complete_of_ready (by rw [poll_guarded, hp])
  | @later f rest s s₁ s₂ start s' v w hp hw hd ih =>
    cases hf : s.timeline.isFired h with
    | true =>
      have hpoll := f.isFired_poll hf
      rw [hp] at hpoll
      rw [if_pos (hd.isFired_start (Session.isFired_afterWait? hw hpoll))]
      exact ⟨s, complete_untilFired_of_isFired f hf, hf⟩
    | false =>
      have hp' : (f.guarded h).poll s = (.waiting (w.orFiring h) (rest.untilFired h), s₁) := by
        rw [poll_guarded, hp]
      obtain ⟨s₂', hw', hsame, heq⟩ := Session.exists_afterWait?_orFiring (h := h) hw
      rw [complete_untilFired_eq_guarded hf, complete_of_waiting hp' hw']
      cases hf₂ : s₂.timeline.isFired h with
      | true =>
        rw [hf₂] at hsame
        rw [if_pos (hd.isFired_start hf₂)]
        exact ⟨s₂', complete_untilFired_of_isFired rest hsame, hsame⟩
      | false => rwa [heq hf₂]

/-- Work that never delivers is given up when the handle fires; it waits in vain as before only if
that does not happen in time. -/
theorem complete_untilFired_of_stuck (hn : f.complete s = (none, s')) :
    (∃ s'', (f.untilFired h).complete s = (some none, s'') ∧ s''.timeline.isFired h = true) ∨
      ((f.untilFired h).complete s = (none, s') ∧
        (s'.deadline.all (s'.timeline.now ≤ ·) = true → s'.timeline.isFired h = false)) := by
  induction f, s using pollInduction with
  | step f s ih =>
    cases hf : s.timeline.isFired h with
    | true => exact .inl ⟨s, complete_untilFired_of_isFired f hf, hf⟩
    | false =>
      rcases hp : f.poll s with ⟨v | ⟨w, rest⟩, s₁⟩
      · rw [complete_of_ready hp] at hn
        cases hn
      · have hp' : (f.guarded h).poll s = (.waiting (w.orFiring h) (rest.untilFired h), s₁) := by
          rw [poll_guarded, hp]
        rw [complete_untilFired_eq_guarded hf]
        cases hw : s₁.afterWait? w with
        | none =>
          rw [complete_of_stuck hp hw] at hn
          cases hn
          cases hw' : s'.afterWait? (w.orFiring h) with
          | none =>
            refine .inr ⟨complete_of_stuck hp' hw', fun hd => ?_⟩
            refine eq_false_of_ne_true fun hf₁ => ?_
            obtain ⟨s₂, hs⟩ := Session.exists_afterWait?_of_isFired (w := w) hf₁ hd
            rw [hw'] at hs
            cases hs
          | some s₂ =>
            have hf₂ := Session.isFired_of_afterWait?_eq_none hw hw'
            rw [complete_of_waiting hp' hw']
            exact .inl ⟨s₂, complete_untilFired_of_isFired rest hf₂, hf₂⟩
        | some s₂ =>
          rw [complete_of_waiting hp hw] at hn
          obtain ⟨s₂', hw', hsame, heq⟩ := Session.exists_afterWait?_orFiring (h := h) hw
          rw [complete_of_waiting hp' hw']
          cases hf₂ : s₂.timeline.isFired h with
          | true =>
            rw [hf₂] at hsame
            exact .inl ⟨s₂', complete_untilFired_of_isFired rest hsame, hsame⟩
          | false =>
            rw [heq hf₂]
            exact ih w rest s₁ s₂ hp hw hn

/-- A value that comes in spite of the handle is the value of the work. -/
theorem complete_of_complete_untilFired
    (hu : (f.untilFired h).complete s = (some (some v), s')) : f.complete s = (some v, s') := by
  rcases hc : f.complete s with ⟨_ | v', s''⟩
  · rcases complete_untilFired_of_stuck (h := h) hc with ⟨s₁, hn, -⟩ | ⟨hn, -⟩
    all_goals
      rw [hu] at hn
      cases hn
  · obtain ⟨start, hd⟩ := exists_delivers hc
    have hn := hd.complete_untilFired (h := h)
    split_ifs at hn
    · obtain ⟨s₁, hn, -⟩ := hn
      rw [hu] at hn
      cases hn
    · rw [hu] at hn
      cases hn
      rfl

end Future

end GraphQLClient
