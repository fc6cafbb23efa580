import GraphQLClient.Text.Blank
import GraphQLClient.Text.Utf8
import Mathlib.Data.List.DropRight

/-! # ASCII bytes in any byte string

A byte below 0x80 is a character of its own wherever it stands: it ends a
malformed run and never is part of a longer sequence. So a byte string can be
cut in front of such a byte before it is decoded (`pieces_append_ascii`), and
a carriage return at the end of a decoded text comes from a byte 0x0D at the
end of the bytes (`getLast?_of_pieces_cr`). -/

namespace GraphQLClient.Text.Utf8

theorem lead?_bounds {a : Nat} {l : Lead} (h : lead? a = some l) :
    0xC2 ≤ a ∧ 0x80 ≤ l.low ∧ l.high ≤ 0xBF ∧ 1 ≤ l.followers ∧ l.followers ≤ 3 := by
  unfold lead? at h
  split_ifs at h <;> cases h <;> simp <;> omega

theorem isFollower_ascii {b : Nat} (hb : b < 0x80) : isFollower b = false := by
  simp [isFollower]; omega

/-- **Bytes may be cut in front of an ASCII byte.** Each case is one way in
which a sequence can go on or break off; the byte never fits into it. -/
theorem pieces_append_ascii (bs : Bytes) {b : UInt8} (hb : b.toNat < 0x80) (rest : Bytes) :
    pieces (bs ++ b :: rest) = pieces bs ++ pieces (b :: rest) := by
  have hf := isFollower_ascii hb
  have hs : ∀ {a l}, lead? a = some l → ¬ (l.low ≤ b.toNat ∧ b.toNat ≤ l.high) := by
    intro a l h; have := lead?_bounds h; omega
  fun_induction pieces bs with
  | case1 => rfl
  | case2 a r ha ih => rw [List.cons_append, pieces, ih]; simp [ha]
  | case3 a r ha hl ih => rw [List.cons_append, pieces, ih]; simp [ha, hl]
  | case4 a ha l hl => rw [List.cons_append, pieces]; simp [ha, hl, hs hl]
  | case5 a ha l hl b' r hb' hl1 ih =>
    rw [List.cons_append, pieces]; simp [ha, hl, hb', hl1, ih]
  | case6 a ha l hl b' hb' h1 => rw [List.cons_append, pieces]; simp [ha, hl, hb', h1, hf]
  | case7 a ha l hl b' hb' h1 c r hc h2 ih =>
    rw [List.cons_append, pieces]; simp [ha, hl, hb', h2, hc, ih]
  | case8 a ha l hl b' hb' h1 c hc h2 =>
    rw [List.cons_append, pieces]; simp [ha, hl, hb', h1, h2, hc, hf]
  | case9 a ha l hl b' hb' h1 c hc h2 d r hd ih =>
    rw [List.cons_append, pieces]; simp [ha, hl, hb', h1, h2, hc, hd, ih]
  | case10 a ha l hl b' hb' h1 c hc h2 d r hd ih =>
    rw [List.cons_append] at ih
    rw [List.cons_append, pieces]; simp [ha, hl, hb', h1, h2, hc, hd, ih]
  | case11 a ha l hl b' hb' h1 c r hc ih =>
    rw [List.cons_append] at ih
    rw [List.cons_append, pieces]; simp [ha, hl, hb', h1, hc, ih]
  | case12 a ha l hl b' r hb' ih =>
    rw [List.cons_append] at ih
    rw [List.cons_append, pieces]
    simp only [ha, hl, List.cons_append, if_false, if_neg hb', ih]

theorem pieces_eq_nil {bs : Bytes} (h : pieces bs = []) : bs = [] := by
  revert h
  fun_cases pieces bs <;> simp

/-! ## Carriage returns at the end -/

theorem ofNat_eq_iff {n : Nat} {c : Char} (hc : c.toNat ≠ 0) :
    Char.ofNat n = c ↔ n = c.toNat := by
  constructor
  · rintro rfl
    by_cases hv : n.isValidChar
    · have hn : Char.ofNat n = Char.ofNatAux n hv := dif_pos hv
      rw [hn]
      rfl
    · have hn : Char.ofNat n = Char.ofNat 0 := dif_neg hv
      rw [hn] at hc
      exact absurd rfl hc
  · rintro rfl
    exact Char.ofNat_toNat c

/-- A longer sequence never spells a carriage return. -/
theorem join_ne_cr {a b c d : Nat} {l : Lead} (h : lead? a = some l)
    (hb : l.low ≤ b ∧ b ≤ l.high) :
    (l.followers = 1 → join2 a b ≠ '\r') ∧ (l.followers = 2 → join3 a b c ≠ '\r') ∧
      (l.followers = 3 → join4 a b c d ≠ '\r') := by
  unfold lead? at h
  simp only [join2, join3, join4, ne_eq, ofNat_eq_iff (c := '\r') (by decide),
    show '\r'.toNat = 13 from rfl]
  split_ifs at h <;> cases h <;> simp at hb ⊢ <;> omega

theorem getLast?_of_cons {α : Type} {x y : α} {l : List α} (hx : x ≠ y)
    (h : (x :: l).getLast? = some y) : l.getLast? = some y := by
  rw [List.getLast?_cons, Option.some.injEq] at h
  cases hl : l.getLast? with
  | none => rw [hl] at h; exact absurd h hx
  | some z => rw [hl] at h; exact congrArg some h

theorem getLast?_of_pieces_cr (bs : Bytes) (h : (pieces bs).getLast? = some (some '\r')) :
    bs.getLast? = some 0x0D := by
  fun_induction pieces bs with
  | case1 => simp at h
  | case2 a r ha ih =>
    by_cases hc : Char.ofNat a.toNat = '\r'
    · have ha : a = 0x0D := UInt8.toNat_inj.mp ((ofNat_eq_iff (by decide)).mp hc)
      cases hr : (pieces r).getLast? with
      | none => simp [pieces_eq_nil (List.getLast?_eq_none_iff.mp hr), ha]
      | some p =>
        rw [List.getLast?_cons, hr] at h
        simp [List.getLast?_cons, ih (hr.trans h)]
    · simp [List.getLast?_cons, ih (getLast?_of_cons (by simpa using hc) h)]
  | case3 a r ha hl ih => simp [List.getLast?_cons, ih (getLast?_of_cons (by simp) h)]
  | case4 a ha l hl => simp at h
  | case5 a ha l hl b r hb h1 ih =>
    have hj := (join_ne_cr (c := 0) (d := 0) hl hb).1 h1
    simp [List.getLast?_cons, ih (getLast?_of_cons (by simpa using hj) h)]
  | case6 a ha l hl b hb h1 => simp at h
  | case7 a ha l hl b hb h1 c r hc h2 ih =>
    have hj := (join_ne_cr (c := c.toNat) (d := 0) hl hb).2.1 h2
    simp [List.getLast?_cons, ih (getLast?_of_cons (by simpa using hj) h)]
  | case8 a ha l hl b hb h1 c hc h2 => simp at h
  | case9 a ha l hl b hb h1 c hc h2 d r hd ih =>
    have h3 : l.followers = 3 := by have := lead?_bounds hl; omega
    have hj := (join_ne_cr (c := c.toNat) (d := d.toNat) hl hb).2.2 h3
    simp [List.getLast?_cons, ih (getLast?_of_cons (by simpa using hj) h)]
  | case10 a ha l hl b hb h1 c hc h2 d r hd ih => simpa using ih (getLast?_of_cons (by simp) h)
  | case11 a ha l hl b hb h1 c r hc ih => simpa using ih (getLast?_of_cons (by simp) h)
  | case12 a ha l hl b r hb ih => simpa using ih (getLast?_of_cons (by simp) h)

theorem pieces_cr (bs : Bytes) : pieces (bs ++ [0x0D]) = pieces bs ++ [some '\r'] :=
  pieces_append_ascii bs (b := 0x0D) (by decide) []

/-- **Trimming carriage returns off a decoded text trims them off its bytes.** -/
theorem trimEnd_decodeLossy (bs : Bytes) :
    trimEnd (· = '\r') (decodeLossy bs).toList =
      (decodeLossy (bs.rdropWhile (· = 0x0D))).toList := by
  change ((decodeLossy bs).toList).rdropWhile (· = '\r') = _
  simp only [decodeLossy, String.toList_ofList]
  induction bs using List.reverseRecOn with
  | nil => rfl
  | append_singleton bs b ih =>
    by_cases hb : b = 0x0D
    · subst hb
      rw [pieces_cr, List.map_append, List.map_singleton, List.rdropWhile_concat_pos _ _ _ (by rfl),
        List.rdropWhile_concat_pos _ _ _ (by rfl), ih]
    · rw [List.rdropWhile_concat_neg _ _ _ (by simpa using hb), List.rdropWhile_eq_self_iff]
      intro hne hlast
      have hl : ((pieces (bs ++ [b])).map (·.getD '\uFFFD')).getLast? = some '\r' := by
        rw [List.getLast?_eq_some_getLast hne]; exact congrArg some (by simpa using hlast)
      rw [List.getLast?_map, Option.map_eq_some_iff] at hl
      obtain ⟨p, hp, hr⟩ := hl
      have hp : (pieces (bs ++ [b])).getLast? = some (some '\r') := by
        cases p with
        | none => exact absurd hr (by decide)
        | some c => rw [hp]; exact congrArg (some ∘ some) hr
      have := getLast?_of_pieces_cr _ hp
      simp [hb] at this

end GraphQLClient.Text.Utf8
