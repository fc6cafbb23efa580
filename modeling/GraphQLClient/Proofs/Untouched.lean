import GraphQLClient.Proofs.Future
import GraphQLClient.Response.Reading

/-! # Handles that nobody fires

A handle fires by an alarm when its time has come, or because somebody fires it.
`Untouched` says that nobody has: as far as the handle is concerned, one timeline
is another at the same or a later time. Work that nowhere fires a handle
(`Spares`) leaves it untouched, however it is polled and wherever it is given up. -/

namespace GraphQLClient

variable {σ α β : Type}

namespace Timeline

variable {h : Handle} {t t' t'' : Timeline}

/-- The same clock, the same alarms for a handle, and the handle has fired in both or in neither.
There may be new handles in the second. -/
structure Agree (h : Handle) (t t' : Timeline) : Prop where
  now : t'.now = t.now
  isFired : t'.isFired h = t.isFired h
  alarms : ∀ a, a.handle = h → (a ∈ t'.alarms ↔ a ∈ t.alarms)
  fresh : t.fresh ≤ t'.fresh

/-- **Nothing but time has passed** for a handle. -/
def Untouched (h : Handle) (t t' : Timeline) : Prop :=
  Agree h t t' ∨ ∃ time, Agree h (t.moveTo time) t'

theorem Agree.refl (t : Timeline) : Agree h t t := ⟨rfl, rfl, fun _ _ => .rfl, Nat.le_refl _⟩

theorem Agree.trans (h₁ : Agree h t t') (h₂ : Agree h t' t'') : Agree h t t'' :=
  ⟨h₂.now.trans h₁.now, h₂.isFired.trans h₁.isFired,
    fun a ha => (h₂.alarms a ha).trans (h₁.alarms a ha), Nat.le_trans h₁.fresh h₂.fresh⟩

theorem mem_alarms_moveTo {time : Nat} {a : Alarm} :
    a ∈ (t.moveTo time).alarms ↔ a ∈ t.alarms ∧ max t.now time < a.time := by
  simp [moveTo]

theorem Agree.moveTo (hh : Agree h t t') (time : Nat) :
    Agree h (t.moveTo time) (t'.moveTo time) where
  now := by simp only [Timeline.moveTo, hh.now]
  isFired := by
    rw [Bool.eq_iff_iff, isFired_moveTo_iff, isFired_moveTo_iff, hh.isFired, hh.now]
    refine or_congr_right (exists_congr fun a => ?_)
    constructor
    · rintro ⟨ha, hah, ht⟩
      exact ⟨(hh.alarms a hah).1 ha, hah, ht⟩
    · rintro ⟨ha, hah, ht⟩
      exact ⟨(hh.alarms a hah).2 ha, hah, ht⟩
  alarms a ha := by rw [mem_alarms_moveTo, mem_alarms_moveTo, hh.alarms a ha, hh.now]
  fresh := hh.fresh

/-- Two moves are one, to the later of the two times. -/
theorem agree_moveTo_moveTo (t : Timeline) (time time' : Nat) :
    Agree h (t.moveTo (max time time')) ((t.moveTo time).moveTo time') where
  now := by simp only [moveTo]; omega
  isFired := by
    rw [Bool.eq_iff_iff, isFired_moveTo_iff, isFired_moveTo_iff, isFired_moveTo_iff]
    simp only [mem_alarms_moveTo]
    have hnow : (t.moveTo time).now = max t.now time := rfl
    constructor
    · rintro ((hf | ⟨a, ha, hah, ht⟩) | ⟨a, ⟨ha, -⟩, hah, ht⟩)
      · exact .inl hf
      · exact .inr ⟨a, ha, hah, by omega⟩
      · exact .inr ⟨a, ha, hah, by omega⟩
    · rintro (hf | ⟨a, ha, hah, ht⟩)
      · exact .inl (.inl hf)
      · by_cases hdue : a.time ≤ max t.now time
        · exact .inl (.inr ⟨a, ha, hah, hdue⟩)
        · exact .inr ⟨a, ⟨ha, by omega⟩, hah, by omega⟩
  alarms a _ := by
    have hnow : (t.moveTo time).now = max t.now time := rfl
    simp only [mem_alarms_moveTo, hnow]
    constructor
    · rintro ⟨⟨ha, -⟩, ht⟩
      exact ⟨ha, by omega⟩
    · rintro ⟨ha, ht⟩
      exact ⟨⟨ha, by omega⟩, by omega⟩
  fresh := Nat.le_refl _

theorem Agree.untouched (hh : Agree h t t') : Untouched h t t' := .inl hh

theorem Untouched.refl (t : Timeline) : Untouched h t t := .inl (.refl t)

theorem untouched_moveTo (t : Timeline) (time : Nat) : Untouched h t (t.moveTo time) :=
  .inr ⟨time, .refl _⟩

theorem Untouched.trans (h₁ : Untouched h t t') (h₂ : Untouched h t' t'') :
    Untouched h t t'' := by
  rcases h₁ with h₁ | ⟨time, h₁⟩ <;> rcases h₂ with h₂ | ⟨time', h₂⟩
  · exact .inl (h₁.trans h₂)
  · exact .inr ⟨time', (h₁.moveTo time').trans h₂⟩
  · exact .inr ⟨time, h₁.trans h₂⟩
  · exact .inr ⟨max time time',
      ((agree_moveTo_moveTo t time time').trans (h₁.moveTo time')).trans h₂⟩

theorem Untouched.fresh (hh : Untouched h t t') : t.fresh ≤ t'.fresh := by
  rcases hh with hh | ⟨time, hh⟩ <;> exact hh.fresh

/-- A handle that has fired in the meantime had an alarm that was due. -/
theorem Untouched.isFired (hh : Untouched h t t') (hf : t'.isFired h = true) :
    t.isFired h = true ∨ ∃ a ∈ t.alarms, a.handle = h ∧ a.time ≤ t'.now := by
  rcases hh with hh | ⟨time, hh⟩
  · exact .inl (hh.isFired ▸ hf)
  · rw [hh.now]
    exact isFired_moveTo_iff.1 (hh.isFired ▸ hf)

theorem agree_report (ns : List Notice) : Agree h t (t.report ns) :=
  ⟨rfl, rfl, fun _ _ => .rfl, Nat.le_refl _⟩

theorem agree_record (e : Event) : Agree h t (t.record e) :=
  ⟨rfl, rfl, fun _ _ => .rfl, Nat.le_refl _⟩

theorem agree_fire {h' : Handle} (hne : h' ≠ h) : Agree h t (t.fire h').2 := by
  have hf : (t.fire h').2.isFired h = t.isFired h := by simp [hne.symm]
  refine ⟨now_fire, hf, ?_, ?_⟩ <;> unfold fire <;> split <;> simp

theorem agree_newHandle : Agree h t t.newHandle.2 :=
  ⟨rfl, rfl, fun _ _ => .rfl, Nat.le_succ _⟩

end Timeline

open Timeline (Untouched)

namespace Future

variable {h : Handle}

/-- The work nowhere fires a handle that is there already. -/
def Spares (h : Handle) : Future σ α → Prop
  | .done _ => True
  | .read k => ∀ s, (k s).Spares h
  | .write _ k => k.Spares h
  | .clock k => ∀ n, (k n).Spares h
  | .isFired _ k => ∀ b, (k b).Spares h
  | .fire h' k => h' ≠ h ∧ ∀ b, (k b).Spares h
  | .newHandle k => ∀ h', h' ≠ h → (k h').Spares h
  | .report _ k => k.Spares h
  | .wait _ k => k.Spares h

/-- **Work that spares a handle leaves it to its alarms.** -/
theorem Spares.untouched {f : Future σ α} (hf : f.Spares h) (s : Session σ)
    (hs : h.id < s.timeline.fresh) : Untouched h s.timeline (f.complete s).2.timeline := by
  induction f generalizing s with
  | done v => exact .refl _
  | read k ih | clock k ih | isFired h' k ih => exact ih _ (hf _) s hs
  | write state k ih => exact ih hf { s with state } hs
  | report n k ih =>
    exact (Timeline.agree_report [n]).untouched.trans
      (ih hf { s with timeline := s.timeline.report [n] } hs)
  | fire h' k ih =>
    have hh := Timeline.agree_fire (t := s.timeline) hf.1
    exact hh.untouched.trans (ih _ (hf.2 _) { s with timeline := (s.timeline.fire h').2 }
      (Nat.lt_of_lt_of_le hs hh.fresh))
  | newHandle k ih =>
    have hnew : s.timeline.newHandle.1 ≠ h := by
      rintro rfl
      exact absurd hs (Nat.lt_irrefl _)
    have hh := Timeline.agree_newHandle (h := h) (t := s.timeline)
    exact hh.untouched.trans (ih _ (hf _ hnew) { s with timeline := s.timeline.newHandle.2 }
      (Nat.lt_of_lt_of_le hs hh.fresh))
  | wait w k ih =>
    unfold complete
    cases hw : s.afterWait? w with
    | none => exact .refl _
    | some s' =>
      obtain ⟨t, ht, -, rfl⟩ := Session.afterWait?_eq_some_iff.1 hw
      obtain ⟨time, -, rfl⟩ := Option.map_eq_some_iff.1 ht
      have hh : Untouched h s.timeline (s.timeline.moveTo time) := Timeline.untouched_moveTo _ _
      exact hh.trans (ih hf { s with timeline := s.timeline.moveTo time }
        (Nat.lt_of_lt_of_le hs hh.fresh))

theorem Spares.bind {f : Future σ α} {g : α → Future σ β} (hf : f.Spares h)
    (hg : ∀ v, (g v).Spares h) : (f.bind g).Spares h := by
  induction f with
  | done v => exact hg v
  | read k ih | clock k ih | isFired h' k ih => exact fun x => ih x (hf x)
  | write state k ih | report n k ih | wait w k ih => exact ih hf
  | fire h' k ih => exact ⟨hf.1, fun b => ih b (hf.2 b)⟩
  | newHandle k ih => exact fun h' hne => ih h' (hf h' hne)

theorem Spares.guarded {f : Future σ α} (hf : f.Spares h) (h₀ : Handle) :
    (f.guarded h₀).Spares h := by
  induction f with
  | done v => trivial
  | read k ih | clock k ih | isFired h' k ih => exact fun x => ih x (hf x)
  | write state k ih | report n k ih => exact ih hf
  | fire h' k ih => exact ⟨hf.1, fun b => ih b (hf.2 b)⟩
  | newHandle k ih => exact fun h' hne => ih h' (hf h' hne)
  | wait w k ih =>
    intro b
    cases b with
    | true => trivial
    | false => exact ih hf

/-- Giving work up fires nothing. -/
theorem Spares.untilFired {f : Future σ α} (hf : f.Spares h) (h₀ : Handle) :
    (f.untilFired h₀).Spares h := by
  intro b
  cases b with
  | true => trivial
  | false => exact hf.guarded h₀

theorem spares_sleep (ms : Nat) : (sleep ms : Future σ Unit).Spares h := by
  unfold sleep
  split
  · trivial
  · exact fun _ => trivial

end Future

/-! ## Bodies -/

/-- Reading the body fires no such handle. -/
def Arrivals.Spares (h : Handle) (a : Arrivals) : Prop := ∀ arrival ∈ a.pending, arrival ≠ .firing h

def Body.Spares (h : Handle) (b : Body) : Prop := b.arrivals.Spares h

theorem Body.spares_collectFrom {h : Handle} {staysOpen : Bool} {arrivals : List Arrival}
    (ha : ∀ arrival ∈ arrivals, arrival ≠ .firing h) (seen : Bytes) :
    (collectFrom staysOpen arrivals seen : Future σ _).Spares h := by
  induction arrivals generalizing seen with
  | nil =>
    unfold collectFrom
    split <;> trivial
  | cons arrival rest ih =>
    obtain ⟨hne, hr⟩ := List.forall_mem_cons.1 ha
    cases arrival with
    | data b => exact ih hr _
    | fault f => trivial
    | firing h' => exact ⟨fun he => hne (he ▸ rfl), fun _ => ih hr seen⟩
    | delay ms => exact (Future.spares_sleep ms).bind fun _ => ih hr seen
    | due time => exact ih hr seen

theorem Body.spares_collect {h : Handle} {b : Body} (hb : b.Spares h) :
    (b.collect : Future σ _).Spares h := by
  cases b with
  | buffered b => trivial
  | streamed a => exact spares_collectFrom hb []

end GraphQLClient
