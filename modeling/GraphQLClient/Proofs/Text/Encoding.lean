import GraphQLClient.Proofs.Text.Utf8

/-! # Encoding and decoding

A character is encoded as one ASCII byte or as a sequence of bytes above these
that announces its own length, so the cut into pieces finds exactly the
characters that were encoded, in any surroundings
(`pieces_utf8EncodeChar_append`). -/

namespace GraphQLClient.Text.Utf8

/-- The code of a character is no half of a pair of surrogates. -/
theorem toNat_bounds (c : Char) : c.toNat < 0xD800 ∨ 0xDFFF < c.toNat ∧ c.toNat < 0x110000 :=
  c.valid

theorem pieces_two {a b : UInt8} {l : Lead} (hl : lead? a.toNat = some l)
    (hf : l.followers = 1) (hb : l.low ≤ b.toNat ∧ b.toNat ≤ l.high) (rest : Bytes) :
    pieces (a :: b :: rest) = some (join2 a.toNat b.toNat) :: pieces rest := by
  have ha : ¬ a.toNat < 0x80 := by have := lead?_bounds hl; omega
  rw [pieces]
  simp only [if_neg ha, hl, if_pos hb, if_pos hf]

theorem pieces_three {a b c : UInt8} {l : Lead} (hl : lead? a.toNat = some l)
    (hf : l.followers = 2) (hb : l.low ≤ b.toNat ∧ b.toNat ≤ l.high)
    (hc : isFollower c.toNat = true) (rest : Bytes) :
    pieces (a :: b :: c :: rest) = some (join3 a.toNat b.toNat c.toNat) :: pieces rest := by
  have ha : ¬ a.toNat < 0x80 := by have := lead?_bounds hl; omega
  have h1 : ¬ l.followers = 1 := by omega
  rw [pieces]
  simp only [if_neg ha, hl, if_pos hb, if_neg h1, if_pos hc, if_pos hf]

theorem pieces_four {a b c d : UInt8} {l : Lead} (hl : lead? a.toNat = some l)
    (hf : l.followers = 3) (hb : l.low ≤ b.toNat ∧ b.toNat ≤ l.high)
    (hc : isFollower c.toNat = true) (hd : isFollower d.toNat = true) (rest : Bytes) :
    pieces (a :: b :: c :: d :: rest) =
      some (join4 a.toNat b.toNat c.toNat d.toNat) :: pieces rest := by
  have ha : ¬ a.toNat < 0x80 := by have := lead?_bounds hl; omega
  have h1 : ¬ l.followers = 1 := by omega
  have h2 : ¬ l.followers = 2 := by omega
  rw [pieces]
  simp only [if_neg ha, hl, if_pos hb, if_neg h1, if_neg h2, if_pos hc, if_pos hd]

theorem isFollower_of_lt {n : Nat} (h : n < 0x40) : isFollower (n + 0x80) = true := by
  simp [isFollower]
  omega

/-! The lead byte of a character allows the byte that follows it. -/

theorem lead?_two {n : Nat} (h : 0x80 ≤ n) (h' : n ≤ 0x7FF) :
    lead? (n / 64 % 32 + 192) = some ⟨1, 0x80, 0xBF⟩ := if_pos (by omega)

theorem exists_lead?_three {n : Nat} (h : 0x800 ≤ n) (h' : n ≤ 0xFFFF)
    (hn : n < 0xD800 ∨ 0xDFFF < n) :
    ∃ l, lead? (n / 4096 % 16 + 224) = some l ∧ l.followers = 2 ∧
      l.low ≤ n / 64 % 64 + 128 ∧ n / 64 % 64 + 128 ≤ l.high := by
  by_cases hlow : n / 4096 % 16 + 224 = 0xE0
  · exact ⟨⟨2, 0xA0, 0xBF⟩, by rw [hlow]; rfl, rfl, by dsimp only; omega⟩
  by_cases hhigh : n / 4096 % 16 + 224 = 0xED
  · exact ⟨⟨2, 0x80, 0x9F⟩, by rw [hhigh]; rfl, rfl, by dsimp only; omega⟩
  refine ⟨⟨2, 0x80, 0xBF⟩, ?_, rfl, by dsimp only; omega⟩
  rw [lead?, if_neg (by omega), if_neg hlow, if_neg hhigh, if_pos (by omega)]

theorem exists_lead?_four {n : Nat} (h : 0xFFFF < n) (h' : n < 0x110000) :
    ∃ l, lead? (n / 262144 % 8 + 240) = some l ∧ l.followers = 3 ∧
      l.low ≤ n / 4096 % 64 + 128 ∧ n / 4096 % 64 + 128 ≤ l.high := by
  by_cases hlow : n / 262144 % 8 + 240 = 0xF0
  · exact ⟨⟨3, 0x90, 0xBF⟩, by rw [hlow]; rfl, rfl, by dsimp only; omega⟩
  by_cases hhigh : n / 262144 % 8 + 240 = 0xF4
  · exact ⟨⟨3, 0x80, 0x8F⟩, by rw [hhigh]; rfl, rfl, by dsimp only; omega⟩
  refine ⟨⟨3, 0x80, 0xBF⟩, ?_, rfl, by dsimp only; omega⟩
  rw [lead?, if_neg (by omega), if_neg (by omega), if_neg (by omega), if_neg (by omega),
    if_neg hlow, if_pos (by omega)]

/-- **An encoded character is one piece**, whatever follows it. -/
theorem pieces_utf8EncodeChar_append (c : Char) (rest : Bytes) :
    pieces (String.utf8EncodeChar c ++ rest) = some c :: pieces rest := by
  have hc := toNat_bounds c
  have hself : Char.ofNat c.toNat = c := Char.ofNat_toNat c
  have hv : c.val.toNat = c.toNat := rfl
  simp only [String.utf8EncodeChar, hv]
  generalize c.toNat = n at hc hself ⊢
  have hbyte {m : Nat} (hm : m < 0x100) : (UInt8.ofNat m).toNat = m := UInt8.toNat_ofNat_of_lt hm
  have hfollower (m : Nat) : isFollower (UInt8.ofNat (m % 64 + 128)).toNat = true := by
    rw [hbyte (by omega)]
    exact isFollower_of_lt (Nat.mod_lt _ (by omega))
  split_ifs with h1 h2 h3
  · rw [List.singleton_append, pieces, hbyte (by omega), if_pos (by omega), hself]
  · have hl := lead?_two (n := n) (by omega) h2
    rw [← hbyte (m := n / 64 % 32 + 192) (by omega)] at hl
    rw [List.cons_append, List.singleton_append, pieces_two hl rfl, hbyte (by omega),
      hbyte (by omega), join2]
    · rw [← hself]
      congr 3
      omega
    · rw [hbyte (by omega)]
      dsimp only
      omega
  · obtain ⟨l, hl, hf, hb⟩ := exists_lead?_three (n := n) (by omega) h3 (by omega)
    rw [← hbyte (m := n / 4096 % 16 + 224) (by omega)] at hl
    rw [← hbyte (m := n / 64 % 64 + 128) (by omega)] at hb
    simp only [List.cons_append, List.nil_append]
    rw [pieces_three hl hf hb (hfollower n), hbyte (by omega), hbyte (by omega),
      hbyte (by omega), join3, ← hself]
    congr 3
    omega
  · obtain ⟨l, hl, hf, hb⟩ := exists_lead?_four (n := n) (by omega) (by omega)
    rw [← hbyte (m := n / 262144 % 8 + 240) (by omega)] at hl
    rw [← hbyte (m := n / 4096 % 64 + 128) (by omega)] at hb
    simp only [List.cons_append, List.nil_append]
    rw [pieces_four hl hf hb (hfollower _) (hfollower n), hbyte (by omega), hbyte (by omega),
      hbyte (by omega), hbyte (by omega), join4, ← hself]
    congr 3
    omega

/-- The bytes of a character are its code, or all above ASCII. -/
theorem mem_utf8EncodeChar {c : Char} {b : UInt8} (h : b ∈ String.utf8EncodeChar c) :
    b.toNat = c.toNat ∨ 0x80 ≤ b.toNat := by
  have hv : c.val.toNat = c.toNat := rfl
  have hc := toNat_bounds c
  simp only [String.utf8EncodeChar, hv] at h
  generalize c.toNat = n at hc h ⊢
  split_ifs at h <;> simp only [List.mem_cons, List.not_mem_nil, or_false] at h
  all_goals
    rcases h with rfl | rfl | rfl | rfl <;> rw [UInt8.toNat_ofNat'] <;> omega

theorem encodeChars_nil : encodeChars [] = [] := rfl

theorem encodeChars_cons (c : Char) (cs : List Char) :
    encodeChars (c :: cs) = String.utf8EncodeChar c ++ encodeChars cs := List.flatMap_cons

theorem encodeChars_append (cs ds : List Char) :
    encodeChars (cs ++ ds) = encodeChars cs ++ encodeChars ds := List.flatMap_append

theorem pieces_encodeChars (cs : List Char) : pieces (encodeChars cs) = cs.map some := by
  induction cs with
  | nil => rfl
  | cons c cs ih => rw [encodeChars_cons, pieces_utf8EncodeChar_append, ih, List.map_cons]

/-- An ASCII byte is the code of a character. -/
theorem exists_of_mem_encodeChars {b : UInt8} {cs : List Char} (hb : b.toNat < 0x80)
    (h : b ∈ encodeChars cs) : ∃ c ∈ cs, c.toNat = b.toNat := by
  obtain ⟨c, hc, hm⟩ := List.mem_flatMap.1 h
  rcases mem_utf8EncodeChar hm with he | he
  · exact ⟨c, hc, he.symm⟩
  · omega

theorem decodeLossy_encodeChars (cs : List Char) :
    decodeLossy (encodeChars cs) = String.ofList cs := by
  rw [decodeLossy, pieces_encodeChars, List.map_map]
  exact congrArg String.ofList (List.map_id cs)

/-- **What was encoded is decoded again.** -/
theorem decode?_encodeChars (cs : List Char) :
    decode? (encodeChars cs) = some (String.ofList cs) := by
  have hall : (cs.map some).mapM id = some cs := by
    induction cs with
    | nil => rfl
    | cons c cs ih => simp [ih]
  rw [decode?, pieces_encodeChars, hall]
  rfl

end GraphQLClient.Text.Utf8
