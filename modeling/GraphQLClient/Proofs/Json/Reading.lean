import GraphQLClient.Json.Reader
import GraphQLClient.Proofs.Text.Encoding

/-! # Reading what was printed

A printed string is scanned back to the string it was printed from
(`scanString_escaped`), whatever characters it holds; and so is a printed whole
number (`scanNumber_decimal`), if nothing behind it could belong to a number.
Each says what is left of the input, so that reading can go on from there: the
last section puts together what the reader makes of a list from what it makes of
the first item and of the others, and likewise for an object. -/

namespace GraphQLClient.Json

open Text.Utf8

/-! ## Strings -/

variable (acc input : Bytes)

theorem scanStringFrom_copy {bytes : Bytes}
    (h : ∀ b ∈ bytes, b ≠ 0x22 ∧ b ≠ 0x5C ∧ ¬ b < 0x20) :
    scanStringFrom .plain acc (bytes ++ input) =
      scanStringFrom .plain (bytes.reverse ++ acc) input := by
  induction bytes generalizing acc with
  | nil => rfl
  | cons b bytes ih =>
    obtain ⟨⟨hq, hs, hc⟩, h⟩ := List.forall_mem_cons.1 h
    rw [List.cons_append, scanStringFrom]
    simp only [if_neg hq, if_neg hs, if_neg hc]
    rw [ih _ h, List.reverse_cons, List.append_assoc, List.singleton_append]

theorem scanStringFrom_letter {b c : UInt8} (h : escaped? b = some c) :
    scanStringFrom .plain acc (0x5C :: b :: input) = scanStringFrom .plain (c :: acc) input := by
  have hu : b ≠ 0x75 := by
    rintro rfl
    cases h
  simp [scanStringFrom, hu, h]

/-- The byte of a hexadecimal digit. -/
def hexByte (n : Nat) : UInt8 := UInt8.ofNat (Text.Hex.digit n).toNat

theorem hexUnit?_control : ∀ n < 0x20,
    hexUnit? [hexByte (n % 16), hexByte (n / 16), 0x30, 0x30] = some n := by decide

theorem encodeChars_control : ∀ n < 0x20,
    encodeChars ['\\', 'u', '0', '0', Text.Hex.digit (n / 16), Text.Hex.digit (n % 16)] =
      [0x5C, 0x75, 0x30, 0x30, hexByte (n / 16), hexByte (n % 16)] := by decide

theorem closeUnit_control {n : Nat} (h : n < 0x20) :
    closeUnit none [hexByte (n % 16), hexByte (n / 16), 0x30, 0x30] =
      .ok (String.utf8EncodeChar (Char.ofNat n), .plain) := by
  have ht : isTrailing n = false := by simp [isTrailing]; omega
  have hl : isLeading n = false := by simp [isLeading]; omega
  simp [closeUnit, hexUnit?_control n h, ht, hl]

theorem scanStringFrom_control {c : Char} (h : c.toNat < 0x20) :
    scanStringFrom .plain acc
        (encodeChars ['\\', 'u', '0', '0', Text.Hex.digit (c.toNat / 16),
          Text.Hex.digit (c.toNat % 16)] ++ input) =
      scanStringFrom .plain ((String.utf8EncodeChar c).reverse ++ acc) input := by
  rw [encodeChars_control _ h]
  simp [scanStringFrom, closeUnit_control h]

/-- **An escaped character is scanned as its bytes.** -/
theorem scanStringFrom_escapeChar (c : Char) :
    scanStringFrom .plain acc (encodeChars (escapeChar c) ++ input) =
      scanStringFrom .plain ((String.utf8EncodeChar c).reverse ++ acc) input := by
  unfold escapeChar
  split_ifs with hq hs hb ht hn hf hr hc
  · subst hq; exact scanStringFrom_letter acc input (b := 0x22) rfl
  · subst hs; exact scanStringFrom_letter acc input (b := 0x5C) rfl
  · subst hb; exact scanStringFrom_letter acc input (b := 0x62) rfl
  · subst ht; exact scanStringFrom_letter acc input (b := 0x74) rfl
  · subst hn; exact scanStringFrom_letter acc input (b := 0x6E) rfl
  · subst hf; exact scanStringFrom_letter acc input (b := 0x66) rfl
  · subst hr; exact scanStringFrom_letter acc input (b := 0x72) rfl
  · exact scanStringFrom_control acc input hc
  · rw [encodeChars_cons, encodeChars_nil, List.append_nil]
    refine scanStringFrom_copy acc input fun b hb => ?_
    have hcode := mem_utf8EncodeChar hb
    have hq : c.toNat ≠ 0x22 := fun h => hq (Char.toNat_inj.1 h)
    have hs : c.toNat ≠ 0x5C := fun h => hs (Char.toNat_inj.1 h)
    rw [ne_eq, ne_eq, ← UInt8.toNat_inj, ← UInt8.toNat_inj, UInt8.lt_iff_toNat_lt]
    change b.toNat ≠ 0x22 ∧ b.toNat ≠ 0x5C ∧ ¬ b.toNat < 0x20
    omega

theorem scanStringFrom_escaped (cs : List Char) :
    scanStringFrom .plain acc (encodeChars (cs.flatMap escapeChar) ++ input) =
      scanStringFrom .plain ((encodeChars cs).reverse ++ acc) input := by
  induction cs generalizing acc with
  | nil => rfl
  | cons c cs ih =>
    rw [List.flatMap_cons, encodeChars_append, List.append_assoc, scanStringFrom_escapeChar, ih,
      encodeChars_cons, List.reverse_append, List.append_assoc]

/-- **A printed string is scanned back**, from behind its opening quote. -/
theorem scanString_escaped (s : String) (rest : Bytes) :
    scanString (encodeChars (s.toList.flatMap escapeChar) ++ 0x22 :: rest) = .ok (s, rest) := by
  simp [scanString, scanStringFrom_escaped, scanStringFrom, decode?_encodeChars]

theorem encodeChars_stringChars (s : String) :
    encodeChars (stringChars s) =
      0x22 :: (encodeChars (s.toList.flatMap escapeChar) ++ [0x22]) := by
  rw [stringChars, encodeChars_cons, encodeChars_append]
  rfl

/-! ## Whole numbers -/

/-- The digits of a number. -/
def decimal (n : Nat) : Bytes := encodeChars (Nat.toDigits 10 n)

def digitByte (d : Nat) : UInt8 := UInt8.ofNat (0x30 + d)

theorem encodeChars_digitChar : ∀ d < 10, encodeChars [Nat.digitChar d] = [digitByte d] := by
  decide

theorem isDigitByte_digitByte : ∀ d < 10, isDigitByte (digitByte d) = true := by decide

theorem eq_zero_of_digitByte : ∀ d < 10, digitByte d = 0x30 → d = 0 := by decide

theorem digitOf_digitByte : ∀ d < 10, digitOf (digitByte d) = d := by decide

/-- The last digit stands behind the others. -/
theorem decimal_snoc (n : Nat) :
    decimal n = (if n < 10 then [] else decimal (n / 10)) ++ [digitByte (n % 10)] := by
  have hlast := encodeChars_digitChar (n % 10) (Nat.mod_lt _ (by omega))
  unfold decimal
  rw [Nat.toDigits_eq_if (by omega)]
  split_ifs with h
  · rw [Nat.mod_eq_of_lt h] at hlast ⊢
    exact hlast
  · rw [encodeChars_append, hlast]

theorem exists_decimal (n : Nat) :
    ∃ b r, decimal n = b :: r ∧ isDigitByte b = true ∧ (b = 0x30 → n = 0) := by
  induction n using Nat.strongRecOn with
  | ind n ih =>
    rw [decimal_snoc]
    have hlast : n % 10 < 10 := Nat.mod_lt _ (by omega)
    split_ifs with h
    · rw [Nat.mod_eq_of_lt h]
      exact ⟨digitByte n, [], rfl, isDigitByte_digitByte n h, eq_zero_of_digitByte n h⟩
    · obtain ⟨b, r, hb, hd, h0⟩ := ih (n / 10) (by omega)
      exact ⟨b, r ++ [digitByte (n % 10)], by rw [hb]; rfl, hd, fun he => by have := h0 he; omega⟩

/-- **All digits are taken**, as long as their number fits. -/
theorem takeDigits_decimal {n : Nat} (h : n < 0x10000000000000000) (taken : Nat) :
    takeDigits 0 taken (decimal n ++ input) =
      takeDigits n (taken + (decimal n).length) input := by
  induction n using Nat.strongRecOn generalizing input with
  | ind n ih =>
    have hlast : n % 10 < 10 := Nat.mod_lt _ (by omega)
    have hstep (m t : Nat) (hm : 10 * m + n % 10 = n) :
        takeDigits m t (digitByte (n % 10) :: input) = takeDigits n (t + 1) input := by
      rw [takeDigits, isDigitByte_digitByte _ hlast, digitOf_digitByte _ hlast, hm]
      simp [h]
    rw [decimal_snoc]
    split_ifs with hn
    · exact hstep 0 taken (by omega)
    · rw [List.append_assoc, List.singleton_append, ih (n / 10) (by omega) _ (by omega),
        hstep _ _ (by omega), List.length_append, Nat.add_assoc]
      rfl

/-- Nothing follows, or what may follow an item or a member. -/
def Delimited (rest : Bytes) : Prop := ∀ b ∈ rest.head?, b = 0x2C ∨ b = 0x5D ∨ b = 0x7D

variable {rest : Bytes}

theorem Delimited.not_digit (h : Delimited rest) :
    (rest.head?.map isDigitByte).getD false = false := by
  cases rest with
  | nil => rfl
  | cons b rest => rcases h b rfl with rfl | rfl | rfl <;> rfl

theorem Delimited.takeDigits (h : Delimited rest) (significand taken : Nat) :
    takeDigits significand taken rest = (significand, taken, rest) := by
  cases rest with
  | nil => rfl
  | cons b rest => rcases h b rfl with rfl | rfl | rfl <;> rfl

theorem Delimited.takeWhile (h : Delimited rest) :
    rest.takeWhile isDigitByte = [] ∧ rest.dropWhile isDigitByte = rest := by
  cases rest with
  | nil => exact ⟨rfl, rfl⟩
  | cons b rest => rcases h b rfl with rfl | rfl | rfl <;> exact ⟨rfl, rfl⟩

theorem Delimited.scanNumberEnd (h : Delimited rest) (negative : Bool) (significand : Nat) :
    scanNumberEnd negative significand 0 rest = wholeNumber negative significand rest := by
  cases rest with
  | nil => rfl
  | cons b rest => rcases h b rfl with rfl | rfl | rfl <;> rfl

/-- **A printed number is scanned back**, from behind its sign. -/
theorem scanNumber_decimal (h : Delimited rest) (negative : Bool) {n : Nat}
    (hn : n < 0x10000000000000000) :
    scanNumber negative (decimal n ++ rest) = wholeNumber negative n rest := by
  obtain ⟨b, r, hb, hd, h0⟩ := exists_decimal n
  by_cases hz : n = 0
  · subst hz
    have hzero : decimal 0 = [0x30] := by decide
    rw [hzero, List.singleton_append, scanNumber, if_pos rfl, h.not_digit]
    exact h.scanNumberEnd negative 0
  · have hb0 : b ≠ 0x30 := fun he => hz (h0 he)
    have htake : takeDigits 0 0 (b :: (r ++ rest)) = (n, 0 + (decimal n).length, rest) := by
      rw [← List.cons_append, ← hb, takeDigits_decimal _ hn, h.takeDigits]
    obtain ⟨ht, hr⟩ := h.takeWhile
    rw [hb, List.cons_append, scanNumber, if_neg hb0, if_pos hd, htake]
    simp only [ht, hr, List.length_nil]
    exact h.scanNumberEnd negative n

/-! ## Values and their parts -/

theorem skipBlanks_cons {b : UInt8} (h : isBlankByte b = false) (r : Bytes) :
    skipBlanks (b :: r) = b :: r := List.dropWhile_cons_of_neg (by simp [h])

theorem digit_ne {b c : UInt8} (hb : isDigitByte b = true) (hc : isDigitByte c = false) :
    b ≠ c := by
  rintro rfl
  simp [hb] at hc

theorem not_blank_of_digit {b : UInt8} (h : isDigitByte b = true) : isBlankByte b = false := by
  simp [isBlankByte, digit_ne h (c := 0x20) rfl, digit_ne h (c := 0x0A) rfl,
    digit_ne h (c := 0x09) rfl, digit_ne h (c := 0x0D) rfl]

theorem readValueFrom_digit {b : UInt8} (h : isDigitByte b = true) (fuel room : Nat) (r : Bytes) :
    readValueFrom (fuel + 1) room (b :: r) =
      (scanNumber false (b :: r)).map fun n => (.number n.1, n.2) := by
  rw [readValueFrom, skipBlanks_cons (not_blank_of_digit h)]
  simp only [if_neg (digit_ne h (c := 0x6E) rfl), if_neg (digit_ne h (c := 0x74) rfl),
    if_neg (digit_ne h (c := 0x66) rfl), if_neg (digit_ne h (c := 0x2D) rfl), if_pos h]

/-- A number that is read back from its text. -/
structure Restored (n : Number) : Prop where
  starts : ∃ b r, encodeChars n.text.toList = b :: r ∧ (b = 0x2D ∨ isDigitByte b = true)
  reads : ∀ fuel room rest, Delimited rest →
    readValueFrom (fuel + 1) room (encodeChars n.text.toList ++ rest) = .ok (.number n, rest)

theorem encodeChars_repr (m : Nat) : encodeChars m.repr.toList = decimal m := by
  rw [Nat.repr_eq_ofList_toDigits, String.toList_ofList, decimal]

theorem encodeChars_whole {n : Integer64} {m : Nat} (hn : n.val = m) :
    encodeChars (Number.integer n).text.toList = decimal m := by
  rw [Number.text, hn]
  exact encodeChars_repr m

theorem encodeChars_negSucc (m : Nat) :
    encodeChars (toString (Int.negSucc m)).toList = 0x2D :: decimal (m + 1) := by
  have htext : toString (Int.negSucc m) = "-" ++ (m + 1).repr := rfl
  rw [htext, String.toList_append, encodeChars_append, encodeChars_repr]
  rfl

theorem wholeNumber_eq {negative : Bool} {m : Nat} (n : Integer64)
    (hn : n.val = if negative then -(m : Int) else m) (hz : ¬ (negative = true ∧ m = 0))
    (rest : Bytes) : wholeNumber negative m rest = .ok (.integer n, rest) := by
  have hofInt : Integer64.ofInt? n.val = some n := dif_pos n.property
  rw [wholeNumber, if_neg (by simpa using hz), ← hn, hofInt]

/-- **Whole numbers are read back.** -/
theorem restored_integer (n : Integer64) : Restored (.integer n) := by
  obtain ⟨hlow, hhigh⟩ := n.property
  cases hn : n.val with
  | ofNat m =>
    have htext : encodeChars (Number.integer n).text.toList = decimal m := encodeChars_whole hn
    obtain ⟨b, r, hb, hd, -⟩ := exists_decimal m
    have hm : m < 0x10000000000000000 := by
      rw [hn] at hhigh
      exact Int.ofNat_lt.1 hhigh
    refine ⟨⟨b, r, htext.trans hb, .inr hd⟩, fun fuel room rest h => ?_⟩
    have hscan : scanNumber false (decimal m ++ rest) = .ok (.integer n, rest) := by
      rw [scanNumber_decimal h false hm]
      exact wholeNumber_eq n (by simpa using hn) (by simp) rest
    rw [htext]
    rw [hb, List.cons_append] at hscan ⊢
    rw [readValueFrom_digit hd, hscan]
    rfl
  | negSucc m =>
    have htext : encodeChars (Number.integer n).text.toList = 0x2D :: decimal (m + 1) := by
      rw [Number.text, hn]
      exact encodeChars_negSucc m
    rw [hn] at hlow
    refine ⟨⟨0x2D, _, htext, .inl rfl⟩, fun fuel room rest h => ?_⟩
    have hscan : scanNumber true (decimal (m + 1) ++ rest) = .ok (.integer n, rest) := by
      rw [scanNumber_decimal h true (by omega)]
      exact wholeNumber_eq n (by rw [hn]; rfl) (by simp) rest
    rw [htext, List.cons_append]
    change (scanNumber true _).map _ = _
    rw [hscan]
    rfl

/-! An item is read where the reader finds one, and the others behind it. -/

theorem nextElement?_first {b : UInt8} (h : isBlankByte b = false) (hb : b ≠ 0x5D) (r : Bytes) :
    nextElement? true (b :: r) = .ok (some (b :: r)) := by
  simp [nextElement?, skipBlanks_cons h, hb]

theorem nextElement?_comma {b : UInt8} (h : isBlankByte b = false) (hb : b ≠ 0x5D) (r : Bytes) :
    nextElement? false (0x2C :: b :: r) = .ok (some (b :: r)) := by
  simp [nextElement?, skipBlanks_cons h, skipBlanks_cons (b := 0x2C) rfl, hb]

theorem readItems_cons {fuel room : Nat} {first : Bool} {input r r' : Bytes} {v : Json}
    {vs : List Json} (hnext : nextElement? first input = .ok (some r))
    (hv : readValueFrom fuel room r = .ok (v, r'))
    (hvs : readItems fuel room false r' = .ok (vs, rest)) :
    readItems (fuel + 1) room first input = .ok (v :: vs, rest) := by
  simp only [readItems, hnext, hv, hvs]
  rfl

/-- A printed key from behind its opening quote, the colon, and what follows. -/
def keyThen (k : String) (rest : Bytes) : Bytes :=
  encodeChars (k.toList.flatMap escapeChar) ++ 0x22 :: 0x3A :: rest

theorem keyThen_append (k : String) (bytes rest : Bytes) :
    keyThen k bytes ++ rest = keyThen k (bytes ++ rest) := by
  simp [keyThen]

theorem encodeChars_key (k : String) (cs : List Char) :
    encodeChars (stringChars k ++ ':' :: cs) = 0x22 :: keyThen k (encodeChars cs) := by
  have hcolon : encodeChars [':'] = [0x3A] := rfl
  rw [← List.singleton_append, encodeChars_append, encodeChars_append, hcolon,
    encodeChars_stringChars]
  simp [keyThen]

theorem length_le_keyThen (k : String) (rest : Bytes) :
    rest.length ≤ (keyThen k rest).length := by
  simp [keyThen]
  omega

theorem readMembers_cons {fuel room : Nat} {first : Bool} {acc ms : List (String × Json)}
    {input r r' : Bytes} {k : String} {v : Json}
    (hnext : nextKey? first input = .ok (some (keyThen k r)))
    (hv : readValueFrom fuel room r = .ok (v, r'))
    (hms : readMembers fuel room false (insertMember k v acc) r' = .ok (ms, rest)) :
    readMembers (fuel + 1) room first acc input = .ok (ms, rest) := by
  have hcolon : (colon (0x3A :: r)).bind (readValueFrom fuel room) = .ok (v, r') := hv
  simp only [readMembers, hnext, keyThen, scanString_escaped, hcolon, hms]

end GraphQLClient.Json
