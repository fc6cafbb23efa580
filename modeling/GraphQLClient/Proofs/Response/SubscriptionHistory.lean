import GraphQLClient.Proofs.Timeline
import GraphQLClient.Response.Subscription

/-! # Histories of a subscription

A subscription is polled while others close it, cancel its handle or let time
pass (`Act`), over any source of payloads. `history` notes for every act what
the source was asked and what the consumer got; `Orderly` is what holds of
every history. The invariant is that a subscription without a source to ask
(`source?`) never has one again, and every way to come to an end leaves it
without one. -/

namespace GraphQLClient.Subscription

variable {ε ρ : Type}

/-! ## One poll -/

/-- The payloads that a poll goes on with, unless the subscription is closed
or has let them go. -/
def source? (s : Subscription ε ρ) (t : Timeline) : Option ε :=
  if s.isClosed t then none else s.events

/-- What a poll makes of the answer of its source. -/
def receive (s : Subscription ε ρ) :
    Poll (Option Item) × ε × Timeline →
      Poll (Option (Except Failure ρ)) × Subscription ε ρ × Timeline
  | (.waiting w, e, t) => (.waiting w, { s with events := some e }, t)
  | (.ready none, _, t) => (.ready none, { s with events := none }, t)
  | (.ready (some item), e, t) =>
    if s.isClosed t then (.ready none, { s with events := none }, t)
    else
      match decodeItem s.decode item with
      | .ok v => (.ready (some (.ok v)), { s with events := some e }, t)
      | .error f => (.ready (some (.error f)), { s with events := none }, t)

/-- **A poll asks its source once or not at all**, and not at all if the
subscription is closed or has let its payloads go. -/
theorem poll_eq (source : ε → Timeline → Poll (Option Item) × ε × Timeline)
    (s : Subscription ε ρ) (t : Timeline) :
    s.poll source t =
      match s.source? t with
      | none => (.ready none, { s with events := none }, t)
      | some e => s.receive (source e t) := by
  unfold poll source?
  by_cases hc : s.isClosed t = true
  · simp [hc]
  · simp only [hc, if_false, Bool.false_eq_true]
    cases he : s.events with
    | none => cases s; simp_all
    | some e =>
      rcases source e t with ⟨(_ | item) | w, e', t'⟩ <;> rfl

/-! ## Acts and what comes of them -/

inductive Act where
  | poll
  | close
  /-- Closing through a copy of the stream's closer. -/
  | closeElsewhere
  /-- Firing the handle that the caller has kept. -/
  | cancel
  /-- Time passes, and alarms that are due fire. -/
  | elapse (ms : Nat)

/-- The timeline behind an act other than a poll. -/
def Act.after (a : Act) (s : Subscription ε ρ) (t : Timeline) : Timeline :=
  match a with
  | .poll => t
  | .close => s.close t
  | .closeElsewhere => closeHandle s.handle t
  | .cancel => (t.fire s.handle).2
  | .elapse ms => t.moveTo (t.now + ms)

def Act.Closes : Act → Prop
  | .close | .closeElsewhere | .cancel => True
  | .poll | .elapse _ => False

/-- What an act brings: when the source was asked and its answer, the answer
to the consumer, and whether the handle had fired before and behind it. -/
structure Moment (ρ : Type) where
  act : Act
  firedBefore : Bool
  asked : Option (Timeline × Poll (Option Item)) := none
  answer : Option (Poll (Option (Except Failure ρ))) := none
  firedAfter : Bool

namespace Moment

/-- No output but the end of the stream. -/
def OnlyEnd (m : Moment ρ) : Prop := ∀ p, m.answer = some p → p = .ready none

def item? (m : Moment ρ) : Option Item :=
  match m.asked with
  | some (_, .ready item?) => item?
  | _ => none

def value? (m : Moment ρ) : Option ρ :=
  match m.answer with
  | some (.ready (some (.ok v))) => some v
  | _ => none

theorem OnlyEnd.value?_eq_none {m : Moment ρ} (h : m.OnlyEnd) : m.value? = none := by
  unfold value?
  split
  · next ha => simpa using h _ ha
  · rfl

/-- The ways to come to an end. -/
inductive Last (m : Moment ρ) : Prop
  | failed {f : Failure} (h : m.answer = some (.ready (some (.error f))))
  | ended (h : m.answer = some (.ready none))
  | sourceEnded {t : Timeline} (h : m.asked = some (t, .ready none))
  | sourceFailed {t : Timeline} {f : Failure} (h : m.asked = some (t, .ready (some (.error f))))
  | fired (h : m.firedAfter = true)

end Moment

section

variable (source : ε → Timeline → Poll (Option Item) × ε × Timeline)

def perform (a : Act) (s : Subscription ε ρ) (t : Timeline) :
    Moment ρ × Subscription ε ρ × Timeline :=
  match a with
  | .poll =>
    let r := s.poll source t
    ({ act := a, firedBefore := s.isClosed t, firedAfter := s.isClosed r.2.2,
       asked := (s.source? t).map fun e => (t, (source e t).1), answer := some r.1 }, r.2)
  | a =>
    ({ act := a, firedBefore := s.isClosed t, firedAfter := s.isClosed (a.after s t) },
      s, a.after s t)

def history : List Act → Subscription ε ρ → Timeline → List (Moment ρ)
  | [], _, _ => []
  | a :: acts, s, t =>
    let r := perform source a s t
    r.1 :: history acts r.2.1 r.2.2

/-- The answers of a source asked at some times, one behind the other. -/
def answers : ε → List Timeline → List (Poll (Option Item))
  | _, [] => []
  | e, t :: times => (source e t).1 :: answers (source e t).2.1 times

/-- What holds of every history of a stream over a source that begins in `e`. -/
structure Orderly (e : ε) (decode : Json.Decoder ρ) (ms : List (Moment ρ)) : Prop where
  /-- The source is asked from its beginning on, each time where it stopped. -/
  threaded : answers source e (ms.filterMap fun m => m.asked.map (·.1)) =
    ms.filterMap fun m => m.asked.map (·.2)
  /-- The items that it hands over come out decoded and in order, but perhaps the last. -/
  decoded : ∃ kept rest, ms.filterMap Moment.item? = kept ++ rest ∧ rest.length ≤ 1 ∧
    kept.map (decodeItem decode) = (ms.filterMap Moment.value?).map .ok
  closes : ∀ m ∈ ms, m.act.Closes → m.firedAfter = true
  sticky : ms.Pairwise fun p q => p.firedAfter = true → q.firedBefore = true
  /-- Once the handle has fired only the end comes, and the source is left alone. -/
  fired : ∀ m ∈ ms, m.firedBefore = true → m.OnlyEnd ∧ m.asked = none
  /-- A poll in which the handle fires has no output either. -/
  firedMeanwhile : ∀ m ∈ ms, m.firedAfter = true → ∀ o, m.answer ≠ some (.ready (some o))
  /-- Behind a failure, the end, or the source's end or failure only the end comes, and the
  source is left alone. -/
  final : ms.Pairwise fun p q => p.Last → q.OnlyEnd ∧ q.asked = none

variable {source} {s : Subscription ε ρ} {t : Timeline}

theorem source?_of_isClosed (h : s.isClosed t = true) : s.source? t = none := if_pos h

theorem source?_none {t' : Timeline} (hk : s.isClosed t = true → s.isClosed t' = true)
    (h : s.source? t = none) : s.source? t' = none := by
  unfold source? at h ⊢
  split_ifs with hc
  · rfl
  · rwa [if_neg fun hp => hc (hk hp)] at h

@[simp]
theorem isFired_closeHandle (h h' : Handle) (t : Timeline) :
    (closeHandle h t).isFired h' = (h' == h || t.isFired h') := by
  have hf : (t.fire h).2.isFired h' = (h' == h || t.isFired h') := Timeline.isFired_fire
  unfold closeHandle
  rcases hr : t.fire h with ⟨_ | _, t'⟩ <;> simpa [hr] using hf

theorem isClosed_after (a : Act) (h : s.isClosed t = true) : s.isClosed (a.after s t) = true := by
  unfold isClosed at h ⊢
  cases a with
  | elapse ms => exact Timeline.isFired_moveTo h _
  | _ => simp [Act.after, close, h]

theorem isClosed_of_closes {a : Act} (h : a.Closes) : s.isClosed (a.after s t) = true := by
  cases a with
  | poll | elapse ms => exact h.elim
  | _ => simp [Act.after, close, isClosed]

/-! ## One act -/

/-- The moment of a poll that asked its source in state `e`. -/
def asking (source : ε → Timeline → Poll (Option Item) × ε × Timeline) (s : Subscription ε ρ)
    (t : Timeline) (e : ε) (answer : Poll (Option (Except Failure ρ))) (t' : Timeline) :
    Moment ρ where
  act := .poll
  firedBefore := s.isClosed t
  asked := some (t, (source e t).1)
  answer := some answer
  firedAfter := s.isClosed t'

theorem item?_asking {e e' : ε} {item? : Option Item} {t₀ t' : Timeline}
    {answer : Poll (Option (Except Failure ρ))} (hs : source e t = (.ready item?, e', t₀)) :
    (asking source s t e answer t').item? = item? := by
  simp only [Moment.item?, asking, hs]

variable (source s t) in
/-- All that an act can come to. -/
inductive Comes : Act → Moment ρ × Subscription ε ρ × Timeline → Prop
  | idle {a : Act} (ha : a ≠ .poll) :
      Comes a ({ act := a, firedBefore := s.isClosed t, firedAfter := s.isClosed (a.after s t) },
        s, a.after s t)
  | gone (h : s.source? t = none) :
      Comes .poll ({ act := .poll, firedBefore := s.isClosed t, answer := some (.ready none),
                     firedAfter := s.isClosed t }, { s with events := none }, t)
  | waiting {e e' : ε} {w : Wait} {t' : Timeline} (h : s.source? t = some e)
      (hs : source e t = (.waiting w, e', t')) :
      Comes .poll (asking source s t e (.waiting w) t', { s with events := some e' }, t')
  | ended {e e' : ε} {t' : Timeline} (h : s.source? t = some e)
      (hs : source e t = (.ready none, e', t')) :
      Comes .poll (asking source s t e (.ready none) t', { s with events := none }, t')
  | closed {e e' : ε} {item : Item} {t' : Timeline} (h : s.source? t = some e)
      (hs : source e t = (.ready (some item), e', t')) (hc : s.isClosed t' = true) :
      Comes .poll (asking source s t e (.ready none) t', { s with events := none }, t')
  | value {e e' : ε} {item : Item} {v : ρ} {t' : Timeline} (h : s.source? t = some e)
      (hs : source e t = (.ready (some item), e', t')) (hc : s.isClosed t' = false)
      (hd : decodeItem s.decode item = .ok v) :
      Comes .poll (asking source s t e (.ready (some (.ok v))) t', { s with events := some e' }, t')
  | failed {e e' : ε} {item : Item} {f : Failure} {t' : Timeline} (h : s.source? t = some e)
      (hs : source e t = (.ready (some item), e', t')) (hc : s.isClosed t' = false)
      (hd : decodeItem s.decode item = .error f) :
      Comes .poll (asking source s t e (.ready (some (.error f))) t', { s with events := none }, t')

theorem perform_comes (a : Act) : Comes source s t a (perform source a s t) := by
  cases a with
  | poll =>
    simp only [perform, poll_eq]
    cases h : s.source? t with
    | none => exact .gone h
    | some e =>
      rcases hs : source e t with ⟨(_ | item) | w, e', t'⟩
      · simpa only [asking, hs, receive, Option.map_some] using Comes.ended h hs
      · cases hc : s.isClosed t' with
        | true =>
          have hm := Comes.closed h hs hc
          simpa only [asking, hs, receive, Option.map_some, hc, if_true] using hm
        | false =>
          simp only [receive, hs, Option.map_some, hc, Bool.false_eq_true, if_false]
          cases hd : decodeItem s.decode item with
          | ok v => simpa only [asking, hs, hc] using Comes.value h hs hc hd
          | error f => simpa only [asking, hs, hc] using Comes.failed h hs hc hd
      · simpa only [asking, hs, receive, Option.map_some] using Comes.waiting h hs
  | close | closeElsewhere | cancel | elapse ms => exact .idle (by simp)

namespace Comes

variable {a : Act} {m : Moment ρ} {s' : Subscription ε ρ} {t' : Timeline}

theorem kept (h : Comes source s t a (m, s', t')) :
    s'.handle = s.handle ∧ s'.decode = s.decode := by
  cases h <;> exact ⟨rfl, rfl⟩

theorem firedBefore (h : Comes source s t a (m, s', t')) : m.firedBefore = s.isClosed t := by
  cases h <;> rfl

theorem firedAfter (h : Comes source s t a (m, s', t')) : m.firedAfter = s'.isClosed t' := by
  cases h <;> rfl

theorem isClosed (h : Comes source s t a (m, s', t')) (hc : s.isClosed t = true) :
    s'.isClosed t' = true := by
  have hn := source?_of_isClosed hc
  cases h with
  | idle ha => exact isClosed_after a hc
  | gone => exact hc
  | _ h => simp [hn] at h

theorem closes (h : Comes source s t a (m, s', t')) (ha : m.act.Closes) : m.firedAfter = true := by
  cases h with
  | idle => exact isClosed_of_closes ha
  | _ => exact ha.elim

theorem firedMeanwhile (h : Comes source s t a (m, s', t')) (hf : m.firedAfter = true)
    (o : Except Failure ρ) : m.answer ≠ some (.ready (some o)) := by
  cases h with
  | value _ _ hc | failed _ _ hc => simp [asking, hc] at hf
  | _ => simp [asking]

/-- **Without a source to ask, only the end comes, and there is none again.** -/
theorem quiet (h : Comes source s t a (m, s', t')) (hn : s.source? t = none) :
    (m.OnlyEnd ∧ m.asked = none) ∧ s'.source? t' = none := by
  cases h with
  | idle => exact ⟨⟨by simp [Moment.OnlyEnd], rfl⟩, source?_none (isClosed_after a) hn⟩
  | gone => exact ⟨⟨by simp [Moment.OnlyEnd], rfl⟩, by simp [source?]⟩
  | _ h => simp [hn] at h

/-- **Every way to come to an end leaves no source to ask.** -/
theorem source?_of_last (h : Comes source s t a (m, s', t')) (hl : m.Last) :
    s'.source? t' = none := by
  cases h with
  | gone | ended | closed | failed => simp [source?]
  | idle => rcases hl with h | h | h | h | hf <;> first | exact source?_of_isClosed hf | cases h
  | waiting _ hs =>
    rcases hl with h | h | h | h | hf <;>
      first | exact source?_of_isClosed hf | simp [asking, hs] at h
  | @value _ _ item _ _ _ hs _ hd =>
    rcases hl with h | h | h | @⟨_, f, h⟩ | hf
    · simp [asking] at h
    · simp [asking] at h
    · simp [asking, hs] at h
    · -- The source has failed, so there was nothing to decode.
      obtain ⟨-, rfl⟩ : t = _ ∧ item = .error f := by simpa [asking, hs] using h
      simp [decodeItem] at hd
    · exact source?_of_isClosed hf

/-- What an act asks of the source, and where it leaves it. -/
theorem asked (h : Comes source s t a (m, s', t')) :
    (m.asked = none ∧ ∀ e, s'.source? t' = some e → s.source? t = some e) ∨
      ∃ e, s.source? t = some e ∧ m.asked = some (t, (source e t).1) ∧
        ∀ e', s'.source? t' = some e' → e' = (source e t).2.1 := by
  cases h with
  | idle =>
    refine .inl ⟨rfl, fun e he => ?_⟩
    cases hn : s.source? t with
    | none => rw [source?_none (isClosed_after a) hn] at he; cases he
    | some e₀ =>
      simp only [source?, Option.ite_none_left_eq_some] at hn he
      rw [← hn.2, he.2]
  | gone h => exact .inl ⟨rfl, by simp [source?]⟩
  | waiting h hs | value h hs =>
    exact .inr ⟨_, h, rfl, by simp [source?, hs]⟩
  | _ h => exact .inr ⟨_, h, rfl, by simp [source?]⟩

/-- What an act takes from the source, and what it hands on. -/
theorem decoded (h : Comes source s t a (m, s', t')) :
    (m.item? = none ∧ m.value? = none) ∨
      (∃ item v, m.item? = some item ∧ m.value? = some v ∧ decodeItem s.decode item = .ok v) ∨
      ∃ item, m.item? = some item ∧ m.value? = none ∧ s'.source? t' = none := by
  cases h with
  | idle | gone => exact .inl ⟨rfl, rfl⟩
  | waiting _ hs => exact .inl ⟨by simp only [asking, Moment.item?, hs], rfl⟩
  | ended _ hs => exact .inl ⟨item?_asking hs, rfl⟩
  | value _ hs _ hd => exact .inr (.inl ⟨_, _, item?_asking hs, rfl, hd⟩)
  | closed _ hs | failed _ hs => exact .inr (.inr ⟨_, item?_asking hs, rfl, by simp [source?]⟩)

end Comes

/-! ## Histories -/

variable (source) in
theorem history_cons (a : Act) (acts : List Act) (s : Subscription ε ρ) (t : Timeline) :
    ∃ m s' t', Comes source s t a (m, s', t') ∧
      history source (a :: acts) s t = m :: history source acts s' t' :=
  ⟨_, _, _, perform_comes a, rfl⟩

/-- What an act shows that keeps `I`, every act of a history shows. -/
theorem forall_history {I : Subscription ε ρ → Timeline → Prop} {Q : Moment ρ → Prop}
    (keep : ∀ {a s t m s' t'}, Comes source s t a (m, s', t') → I s t → Q m ∧ I s' t')
    (acts : List Act) (h : I s t) : ∀ m ∈ history source acts s t, Q m := by
  induction acts generalizing s t with
  | nil => simp [history]
  | cons a acts ih =>
    obtain ⟨m, s', t', hm, he⟩ := history_cons source a acts s t
    obtain ⟨hq, hi⟩ := keep hm h
    rw [he, List.forall_mem_cons]
    exact ⟨hq, ih hi⟩

/-- What brings about `I` decides all that comes behind it. -/
theorem pairwise_history {I : Subscription ε ρ → Timeline → Prop} {P Q : Moment ρ → Prop}
    (enter : ∀ {a s t m s' t'}, Comes source s t a (m, s', t') → P m → I s' t')
    (keep : ∀ {a s t m s' t'}, Comes source s t a (m, s', t') → I s t → Q m ∧ I s' t')
    (acts : List Act) (s : Subscription ε ρ) (t : Timeline) :
    (history source acts s t).Pairwise fun p q => P p → Q q := by
  induction acts generalizing s t with
  | nil => exact .nil
  | cons a acts ih =>
    obtain ⟨m, s', t', hm, he⟩ := history_cons source a acts s t
    rw [he]
    exact .cons (fun q hq hp => forall_history keep acts (enter hm hp) q hq) (ih s' t')

theorem history_quiet (acts : List Act) (hn : s.source? t = none) :
    ∀ m ∈ history source acts s t, m.OnlyEnd ∧ m.asked = none :=
  forall_history (I := fun s t => s.source? t = none) (fun h => h.quiet) acts hn

theorem history_threaded {e : ε} (acts : List Act) (he : ∀ e', s.source? t = some e' → e' = e) :
    answers source e ((history source acts s t).filterMap fun m => m.asked.map (·.1)) =
      (history source acts s t).filterMap fun m => m.asked.map (·.2) := by
  induction acts generalizing s t e with
  | nil => rfl
  | cons a acts ih =>
    obtain ⟨m, s', t', hm, hc⟩ := history_cons source a acts s t
    rw [hc]
    rcases hm.asked with ⟨ha, hs⟩ | ⟨e₀, hs, ha, hn⟩
    · simpa [ha] using ih fun e' h => he e' (hs e' h)
    · obtain rfl := he e₀ hs
      simpa [ha, answers] using ih hn

theorem history_decoded (acts : List Act) (s : Subscription ε ρ) (t : Timeline) :
    ∃ kept rest, (history source acts s t).filterMap Moment.item? = kept ++ rest ∧
      rest.length ≤ 1 ∧
      kept.map (decodeItem s.decode) =
        ((history source acts s t).filterMap Moment.value?).map .ok := by
  induction acts generalizing s t with
  | nil => exact ⟨[], [], rfl, by simp, rfl⟩
  | cons a acts ih =>
    obtain ⟨m, s', t', hm, hc⟩ := history_cons source a acts s t
    rw [hc]
    obtain ⟨kept, rest, hi, hl, hv⟩ := ih s' t'
    rw [hm.kept.2] at hv
    rcases hm.decoded with ⟨hi', hv'⟩ | ⟨item, v, hi', hv', hd⟩ | ⟨item, hi', hv', hn⟩
    · exact ⟨kept, rest, by simpa [hi'] using hi, hl, by simpa [hv'] using hv⟩
    · exact ⟨item :: kept, rest, by simpa [hi'] using hi, hl, by simpa [hv', hd] using hv⟩
    · -- Nothing comes any more, so the item is the one that is not handed on.
      have hq : ∀ q ∈ history source acts s' t', q.OnlyEnd ∧ q.asked = none :=
        history_quiet acts hn
      have hitems : (history source acts s' t').filterMap Moment.item? = [] :=
        List.filterMap_eq_nil_iff.2 fun q hq' => by simp [Moment.item?, (hq q hq').2]
      have hvalues : (history source acts s' t').filterMap Moment.value? = [] :=
        List.filterMap_eq_nil_iff.2 fun q hq' => (hq q hq').1.value?_eq_none
      exact ⟨[], [item], by simp [hi', hitems], by simp, by simp [hv', hvalues]⟩

/-- **Every history of a subscription is orderly**, whatever its source does, also to the
handle and while it is asked. -/
theorem history_orderly (source : ε → Timeline → Poll (Option Item) × ε × Timeline)
    (acts : List Act) (e : ε) (handle : Handle) (decode : Json.Decoder ρ) (closeOnDrop : Bool)
    (t : Timeline) :
    Orderly source e decode
      (history source acts { events := some e, handle, decode, closeOnDrop } t) where
  threaded := history_threaded acts (by simp [source?])
  decoded := history_decoded acts _ t
  closes := forall_history (I := fun _ _ => True) (fun h _ => ⟨h.closes, trivial⟩) acts trivial
  sticky := pairwise_history (I := fun s t => s.isClosed t = true)
    (fun h hp => h.firedAfter ▸ hp) (fun h hc => ⟨h.firedBefore.trans hc, h.isClosed hc⟩) acts _ t
  fired := forall_history (I := fun _ _ => True)
    (fun h _ => ⟨fun hf => (h.quiet (source?_of_isClosed (h.firedBefore ▸ hf))).1, trivial⟩)
    acts trivial
  firedMeanwhile := forall_history (I := fun _ _ => True)
    (fun h _ => ⟨h.firedMeanwhile, trivial⟩) acts trivial
  final := pairwise_history (I := fun s t => s.source? t = none)
    (fun h hl => h.source?_of_last hl) (fun h hn => h.quiet hn) acts _ t

end

end GraphQLClient.Subscription
