import GraphQLClient.Timeline
import Mathlib.Data.List.Basic

/-! # What the timeline keeps

Firing a handle fires that handle and no other, reporting changes nothing but
the history, and a handle that has fired stays fired when time passes. -/

namespace GraphQLClient.Timeline

variable {t : Timeline} {h h' : Handle}

@[simp]
theorem now_report (ns : List Notice) : (t.report ns).now = t.now := rfl

@[simp]
theorem isFired_report (ns : List Notice) : (t.report ns).isFired h = t.isFired h := rfl

@[simp]
theorem report_nil (t : Timeline) : t.report [] = t := by
  simp [report]

@[simp]
theorem now_fire : (t.fire h).2.now = t.now := by
  unfold fire; split <;> rfl

theorem events_fire (t : Timeline) (h : Handle) : (t.fire h).2.events = t.events := by
  unfold fire; split <;> rfl

@[simp]
theorem isFired_fire : (t.fire h).2.isFired h' = (h' == h || t.isFired h') := by
  unfold fire
  by_cases hf : t.isFired h = true
  · by_cases he : h' = h <;> simp_all
  · rw [if_neg hf]
    simp only [isFired, List.contains_cons]

/-- Firing alarms that are due fires their handles. -/
theorem mem_foldl_due (due : List Alarm) (fired : List Handle) :
    h ∈ due.foldl (fun f a => if f.contains a.handle then f else a.handle :: f) fired ↔
      h ∈ fired ∨ ∃ a ∈ due, a.handle = h := by
  induction due generalizing fired with
  | nil => simp
  | cons a due ih =>
    rw [List.foldl_cons, ih]
    by_cases hc : fired.contains a.handle = true
    · have hm : a.handle ∈ fired := List.contains_iff_mem.1 hc
      rw [if_pos hc]
      constructor
      · exact Or.imp_right fun ⟨b, hb, he⟩ => ⟨b, List.mem_cons_of_mem _ hb, he⟩
      · rintro (hf | ⟨b, hb, rfl⟩)
        · exact .inl hf
        · rcases List.mem_cons.1 hb with rfl | hb
          · exact .inl hm
          · exact .inr ⟨b, hb, rfl⟩
    · rw [if_neg hc]
      constructor
      · rintro (hf | ⟨b, hb, rfl⟩)
        · rcases List.mem_cons.1 hf with rfl | hf
          · exact .inr ⟨a, List.mem_cons_self, rfl⟩
          · exact .inl hf
        · exact .inr ⟨b, List.mem_cons_of_mem _ hb, rfl⟩
      · rintro (hf | ⟨b, hb, rfl⟩)
        · exact .inl (List.mem_cons_of_mem _ hf)
        · rcases List.mem_cons.1 hb with rfl | hb
          · exact .inl List.mem_cons_self
          · exact .inr ⟨b, hb, rfl⟩

/-- Time fires the handles whose alarms are due, and no others. -/
theorem isFired_moveTo_iff {time : Nat} :
    (t.moveTo time).isFired h = true ↔
      t.isFired h = true ∨ ∃ a ∈ t.alarms, a.handle = h ∧ a.time ≤ max t.now time := by
  rw [isFired, isFired, List.contains_iff_mem, List.contains_iff_mem]
  refine (mem_foldl_due _ _).trans (or_congr_right (exists_congr fun a => ?_))
  rw [List.mem_filter, decide_eq_true_eq, and_assoc, and_comm (a := a.handle = h)]

theorem isFired_moveTo (hf : t.isFired h = true) (time : Nat) :
    (t.moveTo time).isFired h = true := isFired_moveTo_iff.2 (.inl hf)

theorem isFired_moveTo_mono {time time' : Nat} (hle : max t.now time ≤ max t.now time')
    (hf : (t.moveTo time).isFired h = true) : (t.moveTo time').isFired h = true := by
  rcases isFired_moveTo_iff.1 hf with hf | ⟨a, ha, hh, ht⟩
  · exact isFired_moveTo hf time'
  · exact isFired_moveTo_iff.2 (.inr ⟨a, ha, hh, by omega⟩)

/-! ## Waiting also for a handle -/

theorem isOver_orFiring (w : Wait) : t.isOver (w.orFiring h) = (t.isFired h || t.isOver w) := by
  simp [isOver, Wait.orFiring, Bool.or_assoc]

/-- A handle adds the times of its alarms to those at which a wait can end. -/
theorem mem_wakeTimes_orFiring {w : Wait} {time : Nat} :
    time ∈ t.wakeTimes (w.orFiring h) ↔
      time ∈ t.wakeTimes w ∨ ∃ a ∈ t.alarms, a.handle = h ∧ a.time = time := by
  simp only [wakeTimes, Wait.orFiring, List.mem_append, List.mem_map, List.mem_filter,
    List.contains_cons, Bool.or_eq_true, beq_iff_eq]
  constructor
  · rintro (hd | ⟨a, ⟨ha, hh | hw⟩, ht⟩)
    · exact .inl (.inl hd)
    · exact .inr ⟨a, ha, hh, ht⟩
    · exact .inl (.inr ⟨a, ⟨ha, hw⟩, ht⟩)
  · rintro ((hd | ⟨a, ⟨ha, hw⟩, ht⟩) | ⟨a, ha, hh, ht⟩)
    · exact .inl hd
    · exact .inr ⟨a, ⟨ha, .inr hw⟩, ht⟩
    · exact .inr ⟨a, ⟨ha, .inl hh⟩, ht⟩

/-- **What ends a wait that a handle can cut short**: its end, or the handle. -/
theorem afterWait?_orFiring {w : Wait} {t' : Timeline}
    (ha : t.afterWait? (w.orFiring h) = some t') :
    t'.isFired h = true ∨ t.afterWait? w = some t' := by
  obtain ⟨time, hw, rfl⟩ := Option.map_eq_some_iff.1 ha
  unfold wakeTime? at hw
  rw [isOver_orFiring] at hw
  by_cases hf : t.isFired h = true
  · exact .inl (isFired_moveTo hf time)
  · rw [eq_false_of_ne_true hf, Bool.false_or] at hw
    split_ifs at hw with ho
    · right
      rw [afterWait?, wakeTime?, if_pos ho, hw, Option.map_some]
    · obtain ⟨hm, hle⟩ := List.min?_eq_some_iff.1 hw
      rcases mem_wakeTimes_orFiring.1 hm with hm | ⟨a, ha, hh, ht⟩
      · have hmin : (t.wakeTimes w).min? = some time :=
          List.min?_eq_some_iff.2 ⟨hm, fun b hb => hle b (mem_wakeTimes_orFiring.2 (.inl hb))⟩
        right
        rw [afterWait?, wakeTime?, if_neg ho, hmin, Option.map_some]
      · exact .inl (isFired_moveTo_iff.2 (.inr ⟨a, ha, hh, by omega⟩))

/-- A handle can only make a wait shorter. -/
theorem exists_afterWait?_orFiring {w : Wait} {t' : Timeline} (ha : t.afterWait? w = some t') :
    ∃ time time', max t.now time ≤ max t.now time' ∧
      t.afterWait? (w.orFiring h) = some (t.moveTo time) ∧ t' = t.moveTo time' := by
  obtain ⟨time', hw, rfl⟩ := Option.map_eq_some_iff.1 ha
  by_cases ho : t.isOver (w.orFiring h) = true
  · refine ⟨t.now, time', by omega, ?_, rfl⟩
    rw [afterWait?, wakeTime?, if_pos ho, Option.map_some]
  · have hn : t.isOver w ≠ true := fun hw => ho (by rw [isOver_orFiring, hw, Bool.or_true])
    rw [wakeTime?, if_neg hn] at hw
    have hm : time' ∈ t.wakeTimes (w.orFiring h) :=
      mem_wakeTimes_orFiring.2 (.inl (List.min?_eq_some_iff.1 hw).1)
    obtain ⟨time, ht⟩ : ∃ time, (t.wakeTimes (w.orFiring h)).min? = some time := by
      cases hmin : (t.wakeTimes (w.orFiring h)).min? with
      | none =>
        rw [List.min?_eq_none_iff.1 hmin] at hm
        cases hm
      | some time => exact ⟨time, rfl⟩
    have hle : time ≤ time' := (List.min?_eq_some_iff.1 ht).2 time' hm
    refine ⟨time, time', by omega, ?_, rfl⟩
    rw [afterWait?, wakeTime?, if_neg ho, ht, Option.map_some]

end GraphQLClient.Timeline
