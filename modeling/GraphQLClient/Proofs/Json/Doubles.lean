import Mathlib.Data.List.Infix
import GraphQLClient.Proofs.Json.Values

/-! # Doubles in a text

Whether a double survives printing and reading is a matter of rounding. It does
not depend on what stands around it, though: the scanner of numbers gives the
same number and stops at the same place whatever may follow a value
(`stable_scanNumber`). So a double that is read back from a text of its own is
read back from inside any other (`restored_float`). -/

namespace GraphQLClient.Json

open Text.Utf8

/-! ## Scanning in front of something else -/

/-- The scanner leaves what it does not read, and does the same in front of the end of a value. -/
def Stable (scan : Bytes → Scan Number) : Prop :=
  ∀ input n r, scan input = .ok (n, r) → r <:+ input ∧
    ∀ rest, Delimited rest → scan (input ++ rest) = .ok (n, r ++ rest)

variable {rest : Bytes}

theorem takeDigits_suffix (significand taken : Nat) (input : Bytes) :
    (takeDigits significand taken input).2.2 <:+ input := by
  induction input generalizing significand taken with
  | nil => exact List.suffix_refl []
  | cons b input ih =>
    unfold takeDigits
    split_ifs
    · exact (ih _ _).trans (List.suffix_cons b input)
    · exact List.suffix_refl _

theorem takeDigits_append (h : Delimited rest) (significand taken : Nat) (input : Bytes) :
    takeDigits significand taken (input ++ rest) =
      ((takeDigits significand taken input).1, (takeDigits significand taken input).2.1,
        (takeDigits significand taken input).2.2 ++ rest) := by
  induction input generalizing significand taken with
  | nil => exact h.takeDigits significand taken
  | cons b input ih =>
    rw [List.cons_append, takeDigits, takeDigits]
    split_ifs
    · exact ih _ _
    · rfl

theorem dropWhile_append (h : Delimited rest) (input : Bytes) :
    (input ++ rest).dropWhile isDigitByte = input.dropWhile isDigitByte ++ rest := by
  induction input with
  | nil => exact h.takeWhile.2
  | cons b input ih =>
    rw [List.cons_append, List.dropWhile_cons, List.dropWhile_cons]
    split_ifs
    · exact ih
    · rfl

theorem takeWhile_append (h : Delimited rest) (input : Bytes) :
    (input ++ rest).takeWhile isDigitByte = input.takeWhile isDigitByte := by
  induction input with
  | nil => exact h.takeWhile.1
  | cons b input ih =>
    rw [List.cons_append, List.takeWhile_cons, List.takeWhile_cons, ih]

theorem stable_floatNumber (negative : Bool) (significand : Nat) (exponent : Int) :
    Stable (floatNumber negative significand exponent) := by
  intro input n r h
  unfold floatNumber at h ⊢
  cases hx : floatOfParts negative significand exponent with
  | error fault => simp [hx, Except.map] at h
  | ok x =>
    simp only [hx, Except.map, Except.ok.injEq, Prod.mk.injEq] at h ⊢
    obtain ⟨rfl, rfl⟩ := h
    exact ⟨List.suffix_refl _, fun rest _ => ⟨rfl, rfl⟩⟩

/-- What is scanned behind some digits is stable if it is so without them. -/
theorem Stable.behind {scan : Bytes → Scan Number} (h : Stable scan) {input tail r : Bytes}
    {n : Number} (htail : tail <:+ input) (hscan : scan tail = .ok (n, r)) :
    r <:+ input ∧ ∀ rest, Delimited rest → scan (tail ++ rest) = .ok (n, r ++ rest) := by
  obtain ⟨hr, hrest⟩ := h tail n r hscan
  exact ⟨hr.trans htail, hrest⟩

theorem stable_scanExponentDigits (negative : Bool) (significand : Nat) (start : Int)
    (down : Bool) : Stable (scanExponentDigits negative significand start down) := by
  intro input n r h
  have hdrop : input.dropWhile isDigitByte <:+ input := List.dropWhile_suffix _
  unfold scanExponentDigits at h ⊢
  by_cases hsmall :
      (input.takeWhile isDigitByte).foldl (fun n b => 10 * n + digitOf b) 0 < 0x80000000
  · simp only [if_pos hsmall] at h
    obtain ⟨hr, hrest⟩ := (stable_floatNumber _ _ _).behind hdrop h
    refine ⟨hr, fun rest hd => ?_⟩
    simp only [takeWhile_append hd, dropWhile_append hd, if_pos hsmall]
    exact hrest rest hd
  · simp only [if_neg hsmall] at h
    by_cases hlarge : (significand ≠ 0 && !down) = true
    · rw [if_pos hlarge] at h
      cases h
    · rw [if_neg hlarge] at h
      obtain ⟨hr, hrest⟩ := (stable_floatNumber _ _ _).behind hdrop h
      refine ⟨hr, fun rest hd => ?_⟩
      simp only [takeWhile_append hd, dropWhile_append hd, if_neg hsmall, if_neg hlarge]
      exact hrest rest hd

/-- What follows the sign of an exponent. -/
def scanSigned (negative : Bool) (significand : Nat) (start : Int) (down : Bool) :
    Bytes → Scan Number
  | [] => malformed .endInValue
  | b :: r =>
    if isDigitByte b then scanExponentDigits negative significand start down (b :: r)
    else malformed .invalidNumber

theorem scanExponent_cons (negative : Bool) (significand : Nat) (start : Int) (b : UInt8)
    (r : Bytes) :
    scanExponent negative significand start (b :: r) =
      if b = 0x2B then scanSigned negative significand start false r
      else if b = 0x2D then scanSigned negative significand start true r
      else scanSigned negative significand start false (b :: r) := by
  by_cases hplus : b = 0x2B
  · subst hplus
    cases r <;> rfl
  by_cases hminus : b = 0x2D
  · subst hminus
    cases r <;> rfl
  rw [if_neg hplus, if_neg hminus]
  simp [scanExponent, scanSigned, hplus, hminus]

theorem stable_scanSigned (negative : Bool) (significand : Nat) (start : Int) (down : Bool) :
    Stable (scanSigned negative significand start down) := by
  intro input n r h
  cases input with
  | nil => cases h
  | cons b input =>
    simp only [scanSigned] at h
    split_ifs at h with hb
    · obtain ⟨hr, hrest⟩ := stable_scanExponentDigits _ _ _ _ _ n r h
      refine ⟨hr, fun rest hd => ?_⟩
      rw [← hrest rest hd, List.cons_append, scanSigned, if_pos hb]
    · cases h

theorem stable_scanExponent (negative : Bool) (significand : Nat) (start : Int) :
    Stable (scanExponent negative significand start) := by
  intro input n r h
  cases input with
  | nil => cases h
  | cons b input =>
    rw [scanExponent_cons] at h
    simp only [List.cons_append, scanExponent_cons]
    split_ifs at h ⊢
    · exact (stable_scanSigned _ _ _ _).behind (List.suffix_cons b input) h
    · exact (stable_scanSigned _ _ _ _).behind (List.suffix_cons b input) h
    · exact stable_scanSigned _ _ _ _ _ n r h

theorem Delimited.scanFloatEnd (h : Delimited rest) (negative : Bool) (significand : Nat)
    (exponent : Int) :
    scanFloatEnd negative significand exponent rest =
      floatNumber negative significand exponent rest := by
  cases rest with
  | nil => rfl
  | cons b rest => rcases h b rfl with rfl | rfl | rfl <;> rfl

theorem stable_scanFloatEnd (negative : Bool) (significand : Nat) (exponent : Int) :
    Stable (scanFloatEnd negative significand exponent) := by
  intro input n r h
  cases input with
  | nil =>
    obtain ⟨hr, hrest⟩ := stable_floatNumber negative significand exponent [] n r h
    refine ⟨hr, fun rest hd => ?_⟩
    rw [List.nil_append, hd.scanFloatEnd]
    exact hrest rest hd
  | cons b input =>
    simp only [List.cons_append, scanFloatEnd] at h ⊢
    split_ifs at h ⊢
    · exact (stable_scanExponent _ _ _).behind (List.suffix_cons b input) h
    · exact stable_floatNumber _ _ _ _ n r h

theorem stable_scanFraction (negative : Bool) (significand : Nat) (exponent : Int) :
    Stable (scanFraction negative significand exponent) := by
  intro input n r h
  cases input with
  | nil => cases h
  | cons b input =>
    simp only [scanFraction] at h
    split_ifs at h with hb
    · have htail := (List.dropWhile_suffix isDigitByte).trans
        (takeDigits_suffix significand 0 (b :: input))
      obtain ⟨hr, hrest⟩ := (stable_scanFloatEnd _ _ _).behind htail h
      refine ⟨hr, fun rest hd => ?_⟩
      rw [← hrest rest hd, List.cons_append, scanFraction, if_pos hb, ← List.cons_append,
        takeDigits_append hd]
      simp only [dropWhile_append hd]
    · cases h

theorem stable_wholeNumber (negative : Bool) (significand : Nat) :
    Stable (wholeNumber negative significand) := by
  intro input n r h
  unfold wholeNumber at h ⊢
  by_cases hzero : (negative && significand = 0) = true
  · simp only [if_pos hzero] at h ⊢
    exact stable_floatNumber _ _ _ _ n r h
  · simp only [if_neg hzero] at h ⊢
    cases hn : Integer64.ofInt? (if negative then -(significand : Int) else significand) with
    | none =>
      simp only [hn] at h ⊢
      exact stable_floatNumber _ _ _ _ n r h
    | some whole =>
      simp only [hn, Except.ok.injEq, Prod.mk.injEq] at h ⊢
      obtain ⟨rfl, rfl⟩ := h
      exact ⟨List.suffix_refl _, fun rest _ => ⟨rfl, rfl⟩⟩

theorem scanNumberEnd_cons (negative : Bool) (significand shift : Nat) (b : UInt8) (r : Bytes) :
    scanNumberEnd negative significand shift (b :: r) =
      if b = 0x2E then scanFraction negative significand shift r
      else if b = 0x65 || b = 0x45 || 0 < shift then
        scanFloatEnd negative significand shift (b :: r)
      else wholeNumber negative significand (b :: r) := by
  by_cases hpoint : b = 0x2E
  · subst hpoint
    rfl
  · rw [if_neg hpoint]
    simp [scanNumberEnd, hpoint]

theorem scanNumberEnd_nil (negative : Bool) (significand shift : Nat) :
    scanNumberEnd negative significand shift [] =
      if 0 < shift then scanFloatEnd negative significand shift []
      else wholeNumber negative significand [] := rfl

theorem Delimited.scanNumberEnd_shift (h : Delimited rest) (negative : Bool)
    (significand shift : Nat) :
    Json.scanNumberEnd negative significand shift rest =
      if 0 < shift then Json.scanFloatEnd negative significand shift rest
      else wholeNumber negative significand rest := by
  cases rest with
  | nil => rfl
  | cons b rest => rcases h b rfl with rfl | rfl | rfl <;> simp [scanNumberEnd_cons]

theorem stable_scanNumberEnd (negative : Bool) (significand shift : Nat) :
    Stable (scanNumberEnd negative significand shift) := by
  intro input n r h
  cases input with
  | nil =>
    rw [scanNumberEnd_nil] at h
    refine ⟨?_, fun rest hd => ?_⟩
    · split_ifs at h
      · exact (stable_scanFloatEnd _ _ _ _ n r h).1
      · exact (stable_wholeNumber _ _ _ n r h).1
    · rw [List.nil_append, hd.scanNumberEnd_shift]
      split_ifs at h ⊢
      · exact (stable_scanFloatEnd _ _ _ _ n r h).2 rest hd
      · exact (stable_wholeNumber _ _ _ n r h).2 rest hd
  | cons b input =>
    rw [scanNumberEnd_cons] at h
    simp only [List.cons_append, scanNumberEnd_cons]
    split_ifs at h ⊢
    · exact (stable_scanFraction _ _ _).behind (List.suffix_cons b input) h
    · exact stable_scanFloatEnd _ _ _ _ n r h
    · exact stable_wholeNumber _ _ _ n r h

/-- **A number is scanned alike in front of anything that may follow it.** -/
theorem stable_scanNumber (negative : Bool) : Stable (scanNumber negative) := by
  intro input n r h
  cases input with
  | nil => cases h
  | cons b input =>
    simp only [scanNumber] at h
    split_ifs at h with hzero hdigit hd
    · cases h
    · obtain ⟨hr, hrest⟩ := (stable_scanNumberEnd _ _ _).behind (List.suffix_cons b input) h
      refine ⟨hr, fun rest hrestd => ?_⟩
      have hnext : ((input ++ rest).head?.map isDigitByte).getD false = false := by
        cases input with
        | nil => exact hrestd.not_digit
        | cons c input => simpa using hdigit
      rw [← hrest rest hrestd, List.cons_append, scanNumber, if_pos hzero, hnext]
      rfl
    · have htail := (List.dropWhile_suffix isDigitByte).trans (takeDigits_suffix 0 0 (b :: input))
      obtain ⟨hr, hrest⟩ := (stable_scanNumberEnd _ _ _).behind htail h
      refine ⟨hr, fun rest hrestd => ?_⟩
      rw [← hrest rest hrestd, List.cons_append, scanNumber, if_neg hzero, if_pos hd,
        ← List.cons_append, takeDigits_append hrestd]
      simp only [dropWhile_append hrestd, takeWhile_append hrestd]
    · cases h

/-! ## The text of a double -/

/-- There is no blank in the text. -/
def Solid (text : String) : Prop := ∀ c ∈ text.toList, 0x20 < c.toNat

theorem solid_of_all {text : String} (h : (text.toList.all fun c => 0x20 < c.toNat) = true) :
    Solid text := fun c hc => of_decide_eq_true (List.all_eq_true.1 h c hc)

theorem Solid.append {s t : String} (hs : Solid s) (ht : Solid t) : Solid (s ++ t) := by
  intro c hc
  rw [String.toList_append] at hc
  exact (List.mem_append.1 hc).elim (hs c) (ht c)

theorem solid_toString (n : Nat) : Solid (toString n) := by
  intro c hc
  rw [Nat.toString_eq_ofList_toDigits, String.toList_ofList] at hc
  have hdigit : c.isDigit = true := Nat.isDigit_of_mem_toDigits (by decide) (by decide) hc
  have hlow : 48 ≤ c.toNat := by
    simp only [Char.isDigit, Bool.and_eq_true, decide_eq_true_eq, UInt32.le_iff_toNat_le] at hdigit
    exact hdigit.1
  omega

theorem solid_zeros (n : Int) : Solid (Binary64.zeros n) := by
  intro c hc
  rw [Binary64.zeros, String.toList_ofList] at hc
  rw [(List.mem_replicate.1 hc).2]
  decide

theorem solid_exponentText (n : Int) : Solid (Binary64.exponentText n) := by
  unfold Binary64.exponentText
  split_ifs
  · exact .append (solid_of_all rfl) (solid_toString _)
  · exact .append (solid_of_all rfl) (solid_toString _)

theorem Solid.ofList {s : String} (h : Solid s) {cs : List Char} (hcs : ∀ c ∈ cs, c ∈ s.toList) :
    Solid (String.ofList cs) := by
  intro c hc
  rw [String.toList_ofList] at hc
  exact h c (hcs c hc)

theorem solid_positive (l : Binary64.Layout) (d : Binary64.Decimal) : Solid (l.positive d) := by
  have hdigits := solid_toString d.digits
  unfold Binary64.Layout.positive
  simp only []
  split_ifs
  · exact .append (.append (hdigits.ofList fun c hc => hc) (solid_zeros _)) (solid_of_all rfl)
  · refine .append (.append (hdigits.ofList fun c hc => ?_) (solid_of_all rfl))
      (hdigits.ofList fun c hc => ?_)
    · exact List.mem_of_mem_take hc
    · exact List.mem_of_mem_drop hc
  · exact .append (.append (solid_of_all rfl) (solid_zeros _)) (hdigits.ofList fun c hc => hc)
  · split
    · exact solid_of_all rfl
    · next c hc =>
      exact .append (hdigits.ofList fun x hx => by rwa [hc]) (solid_exponentText _)
    · next c cs hne hc =>
      refine .append (fun x hx => ?_) (solid_exponentText _)
      rw [String.toList_ofList] at hx
      rcases List.mem_cons.1 hx with rfl | hx
      · exact hdigits _ (by rw [hc]; exact List.mem_cons_self)
      rcases List.mem_cons.1 hx with rfl | hx
      · decide
      · exact hdigits x (by rw [hc]; exact List.mem_cons_of_mem _ hx)

theorem solid_render (l : Binary64.Layout) (x : Binary64) : Solid (l.render x) := by
  unfold Binary64.Layout.render
  refine .append ?_ ?_
  · split_ifs <;> exact solid_of_all rfl
  · split_ifs
    · exact solid_of_all rfl
    · exact solid_positive l _

theorem Solid.not_blank {s : String} (h : Solid s) {b : UInt8} (hb : b ∈ encodeChars s.toList) :
    isBlankByte b = false := by
  by_contra hblank
  simp only [isBlankByte, Bool.not_eq_false, Bool.or_eq_true, decide_eq_true_eq] at hblank
  have hlow : b.toNat ≤ 0x20 := by
    rcases hblank with ((rfl | rfl) | rfl) | rfl <;> decide
  obtain ⟨c, hc, he⟩ := exists_of_mem_encodeChars (by omega) hb
  have := h c hc
  omega

/-! ## Reading it -/

/-- The number is read back from a text of its own. -/
def ReadsBack (n : Number) : Prop := parse (Text.Utf8.encode n.text) = .ok (.number n)

instance (n : Number) : Decidable (ReadsBack n) :=
  match h : parse (Text.Utf8.encode n.text) with
  | .ok (.number m) => decidable_of_iff (m = n) (by simp [ReadsBack, h])
  | .ok .null | .ok (.bool _) | .ok (.string _) | .ok (.array _) | .ok (.object _) | .error _ =>
    isFalse (by simp [ReadsBack, h])

theorem skipBlanks_of_not_blank {bytes : Bytes} (h : ∀ b ∈ bytes, isBlankByte b = false) :
    skipBlanks bytes = bytes := by
  cases bytes with
  | nil => rfl
  | cons b r => exact skipBlanks_cons (h b List.mem_cons_self) r

/-- A text of its own is read as a value and nothing behind it but blanks. -/
theorem read_of_parse {bytes : Bytes} {v : Json} (h : parse bytes = .ok v) :
    ∃ r, readValueFrom (fuelFor bytes) nestingLimit bytes = .ok (v, r) ∧ skipBlanks r = [] := by
  rw [parse, Reader.run, Reader.value] at h
  cases hread : readValueFrom (fuelFor bytes) nestingLimit bytes with
  | error fault => simp [hread] at h
  | ok read =>
    obtain ⟨w, r⟩ := read
    simp only [hread] at h
    obtain ⟨u, hend, rfl⟩ := map_eq_ok_iff.1 h
    refine ⟨r, rfl, ?_⟩
    unfold endText at hend
    split_ifs at hend with hempty
    · exact List.isEmpty_iff.1 hempty
    · cases hend

/-- **A double that is read back from a text of its own is read back from inside any other.** -/
theorem restored_float {x : Finite64} (h : ReadsBack (.float x)) : Restored (.float x) := by
  obtain ⟨left, hread, hleft⟩ := read_of_parse h
  have hsolid : ∀ b ∈ encodeChars (Number.float x).text.toList, isBlankByte b = false :=
    fun b hb => (solid_render Number.floatLayout x.val).not_blank hb
  have hskip : skipBlanks (encodeChars (Number.float x).text.toList) =
      encodeChars (Number.float x).text.toList := skipBlanks_of_not_blank hsolid
  -- What is left over is a piece of the text and all blank, so there is nothing left.
  have hnil (hsuffix : left <:+ encodeChars (Number.float x).text.toList) : left = [] := by
    rwa [skipBlanks_of_not_blank fun b hb => hsolid b (hsuffix.subset hb)] at hleft
  rw [Text.Utf8.encode, fuelFor] at hread
  cases valueStep hread with
  | @negative t _ _ hinput hscan =>
    have hbytes := hskip.symm.trans hinput
    obtain ⟨hsuffix, hrest⟩ := stable_scanNumber true _ _ _ hscan
    obtain rfl := hnil (hbytes ▸ hsuffix.trans (List.suffix_cons _ _))
    refine ⟨⟨0x2D, t, hbytes, .inl rfl⟩, fun fuel room rest hd => ?_⟩
    rw [hbytes, List.cons_append]
    change (scanNumber true (t ++ rest)).map _ = _
    rw [hrest rest hd]
    rfl
  | @digit b t _ _ hinput hb hscan =>
    have hbytes := hskip.symm.trans hinput
    obtain ⟨hsuffix, hrest⟩ := stable_scanNumber false _ _ _ hscan
    obtain rfl := hnil (hbytes ▸ hsuffix)
    refine ⟨⟨b, t, hbytes, .inr hb⟩, fun fuel room rest hd => ?_⟩
    rw [hbytes, List.cons_append, readValueFrom_digit hb, ← List.cons_append, hrest rest hd]
    rfl

end GraphQLClient.Json
