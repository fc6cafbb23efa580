import Mathlib.Data.ENat.Lattice
import GraphQLClient.Call.Run
import GraphQLClient.Proofs.Future
import GraphQLClient.Retry.Backoff

/-! # How long backoff goes on

Backoff answers as its test and its limit say (`exists_complete_policy`). So
attempts that are counted from one go on up to the first outcome that it has
nothing to do for (`firstStop`) or up to its limit. The counter is a word, and no
word is above the largest one: backoff that allows as many retries as a word can
tell allows any number of them (`limit`). -/

namespace GraphQLClient

variable {κ σ α : Type}

/-! ## The answer -/

theorem Future.exists_complete_sleep {s : Session σ} (hd : s.deadline = none) (ms : Nat) :
    ∃ s', (sleep ms).complete s = (some (), s') := by
  unfold sleep
  split_ifs
  · exact ⟨s, rfl⟩
  · obtain ⟨s', hs⟩ := Session.exists_afterWait?_upTo hd (s.timeline.now + ms)
    exact ⟨s', by simp only [complete, hs]⟩

theorem Future.exists_complete_pause {s : Session σ} (hd : s.deadline = none) (n : Notice)
    (ms : Nat) :
    ∃ s', ((Future.report n ((sleep ms).bind fun _ => .done true)).complete s) =
      (some true, s') := by
  obtain ⟨s', hs⟩ := exists_complete_sleep (s := { s with timeline := s.timeline.report [n] }) hd ms
  exact ⟨s', by simp only [complete, complete_bind, hs]⟩

namespace Backoff

variable (b : Backoff)

/-- Backoff answers as its test and its limit say, after its pause. -/
theorem exists_complete_policy (factor : Binary64) (info : CallInfo κ) (attempt : UInt32)
    (f : Failure) {s : Session σ} (hd : s.deadline = none) :
    ∃ s', (b.policy factor info attempt f).complete s = (some (b.accepts attempt f), s') := by
  unfold policy
  cases b.accepts attempt f with
  | false => exact ⟨s, rfl⟩
  | true => exact Future.exists_complete_pause hd _ _

/-- The policy is backoff, whatever jitter draws each time. -/
def Governs (policy : RetryPolicy κ σ) : Prop :=
  ∀ info n f, ∃ factor, policy info n f = b.policy factor info n f

variable {b}

theorem Governs.exists_complete {policy : RetryPolicy κ σ} (h : b.Governs policy)
    (info : CallInfo κ) (n : UInt32) (f : Failure) {s : Session σ} (hd : s.deadline = none) :
    ∃ s', (policy info n f).complete s = (some (b.accepts n f), s') := by
  obtain ⟨factor, hp⟩ := h info n f
  rw [hp]
  exact b.exists_complete_policy factor info n f hd

/-! ## The count -/

variable (b)

/-- An outcome behind which backoff would try again: a failure that policies are asked about, and
that passes its test. -/
def Passes : Outcome α → Prop
  | .failure f => f.isFinal = false ∧ b.test f = true
  | _ => False

/-- The number of the first attempt that is the last for its outcome, if there is one. -/
noncomputable def firstStop (outcomes : ℕ → Outcome α) : ℕ∞ :=
  ⨅ (i : ℕ) (_ : ¬b.Passes (outcomes i)), ((i + 1 : ℕ) : ℕ∞)

/-- How many attempts the limit on retries leaves. -/
noncomputable def limit : ℕ∞ :=
  if b.maxRetries = 0xFFFFFFFF then ⊤ else ((b.maxRetries.toNat + 1 : ℕ) : ℕ∞)

variable {b}

theorem passes_iff {o : Outcome α} :
    b.Passes o ↔ ∃ f, o = .failure f ∧ f.isFinal = false ∧ b.test f = true := by
  cases o <;> simp [Passes]

theorem le_firstStop_iff {outcomes : ℕ → Outcome α} {n : ℕ} :
    (n : ℕ∞) ≤ b.firstStop outcomes ↔ ∀ i, i + 1 < n → b.Passes (outcomes i) := by
  simp only [firstStop, le_iInf_iff, Nat.cast_le]
  refine forall_congr' fun i => ?_
  rw [← not_lt, not_imp_not]

theorem firstStop_eq_top {outcomes : ℕ → Outcome α} (h : ∀ i, b.Passes (outcomes i)) :
    b.firstStop outcomes = ⊤ := by
  simp [firstStop, h]

/-- **The limit is met by counting**, as long as the counter can be above it. -/
theorem le_limit_iff {n : ℕ} :
    (n : ℕ∞) ≤ b.limit ↔ ∀ i, i + 1 < n → UInt32.ofNat (i + 1) ≤ b.maxRetries := by
  have hle (i : ℕ) : UInt32.ofNat (i + 1) ≤ b.maxRetries ↔
      (i + 1) % 2 ^ 32 ≤ b.maxRetries.toNat := by
    rw [UInt32.le_iff_toNat_le, UInt32.toNat_ofNat']
  have hlt := b.maxRetries.toNat_lt
  unfold limit
  simp only [hle]
  split_ifs with hmax
  · have hnat : b.maxRetries.toNat = 2 ^ 32 - 1 := by rw [hmax]; rfl
    exact iff_of_true le_top fun i _ => by omega
  · have hnat : b.maxRetries.toNat ≠ 2 ^ 32 - 1 := fun h => hmax (UInt32.toNat_inj.1 h)
    rw [Nat.cast_le]
    constructor
    · intro hn i hi
      omega
    · intro hall
      by_contra hn
      -- The attempt behind the last retry that is allowed has a number above the limit.
      have habove := hall b.maxRetries.toNat (by omega)
      rw [Nat.mod_eq_of_lt (by omega)] at habove
      omega

theorem lt_of_le_limit {n : ℕ} (hmax : b.maxRetries ≠ 0xFFFFFFFF) (hn : (n : ℕ∞) ≤ b.limit) :
    n < 2 ^ 32 := by
  have hlt := b.maxRetries.toNat_lt
  have hnat : b.maxRetries.toNat ≠ 2 ^ 32 - 1 := fun h => hmax (UInt32.toNat_inj.1 h)
  rw [limit, if_neg hmax, Nat.cast_le] at hn
  omega

/-- **How many attempts there can be**: each but the last is met by another. -/
theorem le_stop_limit_iff {outcomes : ℕ → Outcome α} {n : ℕ} :
    (n : ℕ∞) ≤ min (b.firstStop outcomes) b.limit ↔
      ∀ i, i + 1 < n → b.Passes (outcomes i) ∧ UInt32.ofNat (i + 1) ≤ b.maxRetries := by
  rw [le_min_iff, le_firstStop_iff, le_limit_iff]
  exact ⟨fun h i hi => ⟨h.1 i hi, h.2 i hi⟩,
    fun h => ⟨fun i hi => (h i hi).1, fun i hi => (h i hi).2⟩⟩

end Backoff

end GraphQLClient
