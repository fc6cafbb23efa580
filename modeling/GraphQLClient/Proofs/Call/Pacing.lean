import GraphQLClient.Proofs.Call.Attempts
import GraphQLClient.Proofs.Retry.Backoff

/-! # How many attempts backoff makes

A call under backoff makes as many attempts as it takes to come to one that
backoff has nothing to do for, and no more than its limit leaves (`calls_paced`).
They are counted from one. Only the largest word is no limit: no number of an
attempt is above it, so a call that keeps failing starts to count again behind it
and never ends (`relentless_restarts`). -/

namespace GraphQLClient

variable {κ σ ρ α : Type}

namespace Executor

/-- Attempts that backoff has paced, at most `fuel` of them, and the outcome of their call. -/
structure Paced (b : Backoff) (fuel : ℕ) (o : Outcome α) (tries : List (Try σ α)) : Prop where
  /-- What would have become of further attempts does not matter. -/
  counted : ∀ outcomes : ℕ → Outcome α,
    (∀ i (h : i < tries.length), tries[i].outcome = outcomes i) →
      tries.length = min (fuel : ℕ∞) (min (b.firstStop outcomes) b.limit) ∧
        (o = .outOfAttempts ↔ (fuel : ℕ∞) < min (b.firstStop outcomes) b.limit)
  retried : ∀ i (h : i + 1 < tries.length), b.Passes tries[i].outcome
  numbered : b.maxRetries ≠ 0xFFFFFFFF ∨ tries.length < 2 ^ 32 →
    tries.map (·.number.toNat) = List.range' 1 tries.length

section

variable {b : Backoff} {policy : RetryPolicy κ σ} {info : CallInfo κ} {run : UInt32 → Run σ α}
  {a : Try σ α} {tries : List (Try σ α)} {fuel : ℕ} {s : Session σ} {r : Outcome α × Session σ}

namespace Try

theorem Ends.not_goesOn {op : Operation} (h : a.Ends op r) : ¬∃ s, a.GoesOn s := by
  rintro ⟨s, f, ho, hf, hv⟩
  cases h <;> simp_all

theorem Ends.ne_outOfAttempts {op : Operation} (h : a.Ends op r) : r.1 ≠ .outOfAttempts := by
  cases h <;> simp

namespace Happened

theorem deadline_finish (ha : a.Happened policy info run)
    (hrun : (run a.number).Takes (Within a.number) AnyWork) :
    a.finish.deadline = a.start.deadline :=
  deadline_of_steps (ha.steps hrun)

/-- **Backoff goes on** behind the failures that pass its test, up to its limit. -/
theorem goesOn_iff (ha : a.Happened policy info run) (hb : b.Governs policy)
    (hd : a.finish.deadline = none) :
    (∃ s, a.GoesOn s) ↔ b.Passes a.outcome ∧ a.number ≤ b.maxRetries := by
  have hasked := ha.asked
  rw [Backoff.passes_iff]
  constructor
  · rintro ⟨s, f, ho, hf, hv⟩
    obtain ⟨s', hc⟩ := hb.exists_complete info a.number f (s := asking info a.number f a.finish) hd
    rw [hv] at hasked
    simp only [ho, hf, hc, Bool.false_eq_true, if_false, Option.some.injEq, Prod.mk.injEq,
      Bool.true_eq, Backoff.accepts, Bool.and_eq_true, decide_eq_true_eq] at hasked
    exact ⟨⟨f, ho, hf, hasked.1.2⟩, hasked.1.1⟩
  · rintro ⟨⟨f, ho, hf, htest⟩, hn⟩
    obtain ⟨s', hc⟩ := hb.exists_complete info a.number f (s := asking info a.number f a.finish) hd
    refine ⟨s', f, ho, hf, ?_⟩
    simpa [ho, hf, hc, Backoff.accepts, htest, hn] using hasked

end Happened

end Try

namespace History

variable (hist : History policy info run 1 fuel s r tries)

include hist

/-- All attempts start under the deadline of the call. -/
theorem deadline_start (hrun : ∀ n, (run n).Takes (Within n) AnyWork) (i : ℕ)
    (h : i < tries.length) : tries[i].start.deadline = s.deadline := by
  induction i with
  | zero => rw [hist.begins _ (by simp [List.head?_eq_getElem?])]
  | succ i ih =>
    have hgoes : tries[i].GoesOn tries[i + 1].start := List.isChain_iff_getElem.1 hist.goesOn i h
    have ha := hist.happened tries[i] (List.getElem_mem _)
    have hbehind := ha.steps_behind (W := AnyWork) (fun _ _ => trivial) (.inl hgoes)
    rw [deadline_of_steps hbehind, ha.deadline_finish (hrun _), ih]

theorem number_eq (i : ℕ) (h : i < tries.length) : tries[i].number = UInt32.ofNat (i + 1) := by
  have hnumber := congrArg (fun numbers => numbers[i]?) hist.numbers
  simpa [h, Nat.add_comm] using hnumber

theorem goesOn_iff (hb : b.Governs policy) (hrun : ∀ n, (run n).Takes (Within n) AnyWork)
    (unlimited : s.deadline = none) (i : ℕ) (h : i < tries.length) :
    (∃ s, tries[i].GoesOn s) ↔
      b.Passes tries[i].outcome ∧ UInt32.ofNat (i + 1) ≤ b.maxRetries := by
  have ha := hist.happened tries[i] (List.getElem_mem h)
  have hd : tries[i].finish.deadline = none := by
    rw [ha.deadline_finish (hrun _), hist.deadline_start hrun i h, unlimited]
  rw [ha.goesOn_iff hb hd, hist.number_eq i h]

/-- **The attempts of a call under backoff.** -/
theorem paced (hb : b.Governs policy) (hrun : ∀ n, (run n).Takes (Within n) AnyWork)
    (unlimited : s.deadline = none) (hlength : tries.length ≤ fuel) : Paced b fuel r.1 tries := by
  have hgoes := hist.goesOn_iff hb hrun unlimited
  have hbefore (i : ℕ) (h : i + 1 < tries.length) :
      b.Passes tries[i].outcome ∧ UInt32.ofNat (i + 1) ≤ b.maxRetries :=
    (hgoes i (Nat.lt_of_succ_lt h)).1 ⟨_, List.isChain_iff_getElem.1 hist.goesOn i h⟩
  refine ⟨fun outcomes houtcomes => ?_, fun i h => (hbefore i h).1, fun hshort => ?_⟩
  · have hle : (tries.length : ℕ∞) ≤ min (b.firstStop outcomes) b.limit :=
      Backoff.le_stop_limit_iff.2 fun i h => houtcomes i (Nat.lt_of_succ_lt h) ▸ hbefore i h
    rcases hist.ends with ⟨a, ha, hend⟩ | ⟨ho, hl, hall⟩
    · -- Behind the last attempt there would be another if backoff had something to do for it.
      have hlast : ¬((tries.length + 1 : ℕ) : ℕ∞) ≤ min (b.firstStop outcomes) b.limit := by
        intro hmore
        rw [List.getLast?_eq_getElem?] at ha
        obtain ⟨h, rfl⟩ := List.getElem?_eq_some_iff.1 ha
        refine hend.not_goesOn ((hgoes _ h).2 ?_)
        rw [houtcomes _ h]
        exact Backoff.le_stop_limit_iff.1 hmore _ (by omega)
      have heq : min (b.firstStop outcomes) b.limit = tries.length := by
        refine le_antisymm ?_ hle
        rw [Nat.cast_add, Nat.cast_one, not_le] at hlast
        exact (ENat.lt_add_one_iff (ENat.natCast_ne_top _)).1 hlast
      rw [heq, min_eq_right (Nat.cast_le.2 hlength)]
      exact ⟨rfl, iff_of_false hend.ne_outOfAttempts (not_lt.2 (Nat.cast_le.2 hlength))⟩
    · have hmore : ((fuel + 1 : ℕ) : ℕ∞) ≤ min (b.firstStop outcomes) b.limit :=
        Backoff.le_stop_limit_iff.2 fun i h => by
          have hi : i < tries.length := by omega
          exact houtcomes i hi ▸ (hgoes i hi).1 (hall _ (List.getElem_mem hi))
      have hlt : (fuel : ℕ∞) < min (b.firstStop outcomes) b.limit :=
        (Nat.cast_lt.2 (Nat.lt_succ_self fuel)).trans_le hmore
      rw [min_eq_left hlt.le, hl]
      exact ⟨rfl, iff_of_true ho hlt⟩
  · have hlimit : (tries.length : ℕ∞) ≤ b.limit :=
      Backoff.le_limit_iff.2 fun i h => (hbefore i h).2
    have hlt : tries.length < 2 ^ 32 := hshort.elim (Backoff.lt_of_le_limit · hlimit) id
    have hnumbers := congrArg (List.map UInt32.toNat) hist.numbers
    rw [List.map_map, List.map_map] at hnumbers
    refine hnumbers.trans ((List.map_congr_left fun n hn => ?_).trans (List.map_id _))
    rw [List.mem_range'_1] at hn
    exact UInt32.toNat_ofNat_of_lt' (by rw [UInt32.size]; omega)

end History

theorem attempts_paced (hb : b.Governs policy) (hrun : ∀ n, (run n).Takes (Within n) AnyWork)
    (unlimited : s.deadline = none) (fuel : ℕ) :
    ∃ tries, History policy info run 1 fuel s (attempts policy info run fuel 1 s) tries ∧
      Paced b fuel (attempts policy info run fuel 1 s).1 tries := by
  obtain ⟨tries, hist, hlength, -⟩ : ∃ tries, History policy info run 1 fuel s
      (attempts policy info run fuel 1 s) tries ∧ tries.length ≤ fuel ∧ _ :=
    attempts_resumes (fun n => (hrun n).local .notice) fuel 1 s
  exact ⟨tries, hist, hist.paced hb hrun unlimited hlength⟩

end

/-! ## Calls -/

/-- **Calls of both families are paced by backoff**, if it is their policy: an attempt that is not
the last has failed in a way that the test accepts, and their number is that of the first one that
has not, or what the limit leaves, whatever the test and whatever comes of the attempts. -/
theorem calls_paced (e : Executor κ σ ρ) (b : Backoff) (fuel : ℕ) (op : Operation)
    (decode : Json.Decoder ρ) (inputs : Data) (settings : CallSettings) (handle : Handle)
    (s : Session σ) (unlimited : s.deadline = none) :
    match inputs.encode with
    | .error fault =>
      e.execute fuel op decode inputs settings s =
          (.failure (.serialization (.encoding fault)), s) ∧
        e.subscribe fuel op decode inputs settings handle s =
          (.failure (.serialization (.encoding fault)), s)
    | .ok v =>
      (b.Governs e.retry →
        ∃ tries, History e.retry ⟨e.client, ⟨op, v⟩, settings⟩
          (fun n => e.attempt decode ⟨e.client, settings, n, settings.cancellation⟩ ⟨op, v⟩)
          1 fuel s (e.execute fuel op decode inputs settings s) tries ∧
          Paced b fuel (e.execute fuel op decode inputs settings s).1 tries) ∧
      (b.Governs e.subscriptionRetry →
        ∃ tries, History e.subscriptionRetry ⟨e.client, ⟨op, v⟩, settings⟩
          (fun n =>
            e.attemptSubscription decode handle ⟨e.client, settings, n, some handle⟩ ⟨op, v⟩)
          1 fuel s (e.subscribe fuel op decode inputs settings handle s) tries ∧
          Paced b fuel (e.subscribe fuel op decode inputs settings handle s).1 tries) := by
  rw [execute_eq_attempts, subscribe_eq_attempts]
  cases inputs.encode with
  | error fault => exact ⟨rfl, rfl⟩
  | ok v =>
    exact ⟨fun hb => attempts_paced hb
        (fun n => (e.admits_any e.stages e.retry).attempt decode _ _) unlimited fuel,
      fun hb => attempts_paced hb
        (fun n => (e.admits_any _ e.subscriptionRetry).attemptSubscription decode _ handle _)
        unlimited fuel⟩

/-- A client whose line is down, under backoff. -/
def lineDown (b : Backoff) : Executor Unit Unit Json where
  client := ()
  transport := fun _ calls => (.done (.error (.transport "connection reset")), calls)
  retry := b.policy (.ofNat 1)

/-- Tests nothing, waits for nothing, and allows as many retries as a word can tell. -/
def relentless : Backoff :=
  { maxRetries := 0xFFFFFFFF, initialDelay := ⟨0⟩, jitter := false, test := fun _ => true }

def ping : Operation := ⟨"Ping", "query Ping \x7b ping \x7d", .query⟩

/-- A call of `ping`, in these attempts. -/
def PingedBy (e : Executor Unit Unit Json) (fuel : ℕ) (tries : List (Try Unit (Completed Json))) :
    Prop :=
  History e.retry ⟨e.client, ⟨ping, .null⟩, {}⟩
    (fun n => e.attempt .value ⟨e.client, {}, n, none⟩ ⟨ping, .null⟩) 1 fuel { state := () }
    (e.execute fuel ping .value .unit {} { state := () }) tries

theorem outcome_of_lineDown {b : Backoff} {fuel : ℕ} {tries : List (Try Unit (Completed Json))}
    (h : PingedBy (lineDown b) fuel tries) :
    ∀ a ∈ tries, a.outcome = .failure (.transport "connection reset") :=
  fun a ha => (congrArg Prod.fst (h.happened a ha).ran).symm

theorem Paced.length_of_passes {b : Backoff} {fuel : ℕ} {o o' : Outcome α}
    {tries : List (Try σ α)} (h : Paced b fuel o tries) (hall : ∀ a ∈ tries, a.outcome = o')
    (ho : b.Passes o') : tries.length = min (fuel : ℕ∞) b.limit := by
  have hcount := (h.counted (fun _ => o') fun i hi => hall _ (List.getElem_mem hi)).1
  rwa [Backoff.firstStop_eq_top fun _ => ho, min_eq_right le_top] at hcount

theorem lineDown_paced :
    ∃ tries, PingedBy (lineDown {}) 10 tries ∧ tries.length = 4 := by
  obtain ⟨tries, hist, hpaced⟩ := (calls_paced (lineDown {}) {} 10 ping .value .unit {} ⟨0⟩
    { state := () } rfl).1 fun _ _ _ => ⟨_, rfl⟩
  have hcount := hpaced.length_of_passes (outcome_of_lineDown hist) ⟨rfl, rfl⟩
  have hlimit : Backoff.limit {} = (4 : ℕ) := if_neg (by decide)
  rw [hlimit, min_eq_right (Nat.cast_le.2 (by decide)), Nat.cast_inj] at hcount
  exact ⟨tries, hist, hcount⟩

/-- However many attempts it is allowed, they all fail and are all met by another. -/
theorem relentless_goesOn (fuel : ℕ) :
    ∃ tries, PingedBy (lineDown relentless) fuel tries ∧
      (∀ a ∈ tries, relentless.Passes a.outcome) ∧ tries.length = fuel := by
  obtain ⟨tries, hist, hpaced⟩ : ∃ tries, PingedBy (lineDown relentless) fuel tries ∧
      Paced relentless fuel
        ((lineDown relentless).execute fuel ping .value .unit {} { state := () }).1 tries :=
    attempts_paced (fun _ _ _ => ⟨_, rfl⟩)
      (fun n => ((lineDown relentless).admits_any _ (lineDown relentless).retry).attempt _ _ _) rfl
      fuel
  have hcount := hpaced.length_of_passes (outcome_of_lineDown hist) ⟨rfl, rfl⟩
  have hlimit : relentless.limit = ⊤ := if_pos rfl
  rw [hlimit, min_eq_left le_top, Nat.cast_inj] at hcount
  exact ⟨tries, hist, fun a ha => outcome_of_lineDown hist a ha ▸ ⟨rfl, rfl⟩, hcount⟩

/-- **Backoff with the largest limit has none**: it makes more attempts than one and as many retries
as it allows, and begins to count again. -/
theorem relentless_restarts :
    ∃ tries, PingedBy (lineDown relentless) (2 ^ 32 + 1) tries ∧
      (∀ a ∈ tries, relentless.Passes a.outcome) ∧
      tries.length = relentless.maxRetries.toNat + 2 ∧
      ∃ a ∈ tries, a.number = 0 := by
  obtain ⟨tries, hist, hpasses, hlength⟩ := relentless_goesOn (2 ^ 32 + 1)
  have hmax : relentless.maxRetries.toNat = 2 ^ 32 - 1 := rfl
  have h : 2 ^ 32 - 1 < tries.length := by omega
  refine ⟨tries, hist, hpasses, by omega, tries[2 ^ 32 - 1], List.getElem_mem h, ?_⟩
  rw [History.number_eq hist _ h]
  rfl

end Executor

end GraphQLClient
