import GraphQLClient.Proofs.Json.AsVariable

/-! # Typed readers

A typed reader takes a text for a value of its own type. What it can make of any
text is said by `Yields`, and that it makes the right thing of the text of a
variable by `Reads`; for both there is one lemma for each way in which readers
are put together, so that a reader of records is understood from its fields. -/

namespace GraphQLClient.Json.Reader

open Text.Utf8
open Variable (itemTail memberTail delimited_itemTail delimited_memberTail)

variable {α σ : Type} {room : Nat}

/-! ## What a reader yields -/

/-- Whatever the reader makes of a text meets the condition. -/
def Yields (reader : Reader α) (room : Nat) (P : α → Prop) : Prop :=
  ∀ input a rest, reader room input = .ok (a, rest) → P a

theorem Yields.imp {reader : Reader α} {P Q : α → Prop} (h : Yields reader room P)
    (hPQ : ∀ a, P a → Q a) : Yields reader room Q :=
  fun input a rest ha => hPQ a (h input a rest ha)

theorem Yields.run {reader : Reader α} {P : α → Prop} (h : Yields reader nestingLimit P)
    {input : Bytes} {a : α} (ha : reader.run input = .ok a) : P a := by
  unfold Reader.run at ha
  cases hread : reader nestingLimit input with
  | error fault => simp [hread] at ha
  | ok read =>
    obtain ⟨b, rest⟩ := read
    simp only [hread] at ha
    obtain ⟨u, -, rfl⟩ := map_eq_ok_iff.1 ha
    exact h input b rest hread

/-- A value of the wrong type is never accepted. -/
theorem wrongType_ne_ok (expected : String) (input : Bytes) (a : α) :
    wrongType expected input ≠ .ok a := by
  intro h
  unfold wrongType at h
  cases input with
  | nil => cases h
  | cons b r =>
    simp only [] at h
    split_ifs at h
    all_goals
      first
      | cases h
      | (obtain ⟨x, -, hx⟩ := bind_eq_ok_iff.1 h
         cases hx)

theorem yields_value : Yields value room (Canonical room) :=
  fun _ _ _ h => canonical_of_readValueFrom h

theorem yields_optional {item : Reader α} {P : α → Prop} (h : Yields item room P) :
    Yields (optional item) room fun o => ∀ a ∈ o, P a := by
  intro input o rest ho
  unfold optional at ho
  cases hinput : skipBlanks input with
  | nil => simp [hinput, malformed] at ho
  | cons b r =>
    simp only [hinput] at ho
    split_ifs at ho with hb
    · obtain ⟨r, -, he⟩ := map_eq_ok_iff.1 ho
      cases he
      simp
    · obtain ⟨v, hv, he⟩ := map_eq_ok_iff.1 ho
      cases he
      intro a ha
      cases ha
      exact h _ _ _ hv

/-- An optional value is none where it could be null. -/
theorem yields_optional_value :
    Yields (optional value) room fun o => ∀ x ∈ o, x ≠ .null ∧ Canonical room x := by
  intro input o rest ho x hx
  refine ⟨?_, yields_optional yields_value input o rest ho x hx⟩
  unfold optional at ho
  cases hinput : skipBlanks input with
  | nil => simp [hinput, malformed] at ho
  | cons b r =>
    have hskip : skipBlanks (b :: r) = b :: r := by
      rw [← hinput]
      exact List.dropWhile_idempotent isBlankByte input
    simp only [hinput] at ho
    split_ifs at ho with hb
    · obtain ⟨r, -, he⟩ := map_eq_ok_iff.1 ho
      cases he
      cases hx
    · obtain ⟨⟨v, r'⟩, hv, he⟩ := map_eq_ok_iff.1 ho
      cases he
      cases hx
      rintro rfl
      cases valueStep hv with
      | null h =>
        rw [hskip] at h
        exact hb (List.cons.inj h).1

theorem yields_listFrom {item : Reader α} {P : α → Prop} (h : Yields item room P) {fuel : Nat}
    {first : Bool} {input rest : Bytes} {items : List α}
    (hitems : listFrom item room fuel first input = .ok (items, rest)) : ∀ a ∈ items, P a := by
  induction fuel generalizing first input items with
  | zero => cases hitems
  | succ fuel ih =>
    simp only [listFrom] at hitems
    split at hitems
    · cases hitems
    · obtain ⟨r, -, he⟩ := map_eq_ok_iff.1 hitems
      cases he
      simp
    · split at hitems
      · cases hitems
      · next a r ha =>
        obtain ⟨⟨others, r⟩, hothers, he⟩ := map_eq_ok_iff.1 hitems
        cases he
        exact List.forall_mem_cons.2 ⟨h _ _ _ ha, ih hothers⟩

theorem yields_list {item : Reader α} {P : α → Prop} (h : Yields item room P) :
    Yields (list item) (room + 1) fun items => ∀ a ∈ items, P a := by
  intro input items rest hitems
  unfold list at hitems
  cases hinput : skipBlanks input with
  | nil => simp [hinput, malformed] at hitems
  | cons b r =>
    simp only [hinput] at hitems
    split_ifs at hitems with hb
    · exact yields_listFrom h hitems
    · exact absurd hitems (wrongType_ne_ok _ _ _)

/-- A condition on unfinished records that reading one more field keeps up. -/
structure Keeps (shape : Shape σ α) (room : Nat) (I : σ → Prop) : Prop where
  start : I shape.start
  fields : ∀ f ∈ shape.fields, ∀ s, I s → Yields (f.read s) room I

theorem yields_field {item : Reader α} {name : String} {required : Bool} {get : σ → Option α}
    {set : σ → α → σ} {P : α → Prop} {I : σ → Prop} {s : σ} (h : Yields item room P)
    (hset : ∀ a, P a → I (set s a)) :
    Yields ((Field.of name required item get set).read s) room I := by
  intro input t rest ht
  obtain ⟨⟨a, r⟩, ha, he⟩ := map_eq_ok_iff.1 ht
  cases he
  exact hset a (h _ _ _ ha)

section Records

variable {shape : Shape σ α} {I : σ → Prop}

theorem Keeps.elementsFrom (h : Keeps shape room I) {fields : List (Field σ)}
    (hfields : ∀ f ∈ fields, f ∈ shape.fields) {first : Bool} {index : Nat} {s t : σ}
    {input rest : Bytes} (hs : I s)
    (ht : elementsFrom shape room fields first index s input = .ok (t, rest)) : I t := by
  induction fields generalizing first index s input with
  | nil =>
    cases ht
    exact hs
  | cons f fields ih =>
    obtain ⟨hf, hfields⟩ := List.forall_mem_cons.1 hfields
    simp only [Reader.elementsFrom] at ht
    split at ht
    · cases ht
    · split_ifs at ht
      exact ih hfields hs ht
    · split at ht
      · cases ht
      · next s' r hs' => exact ih hfields (h.fields f hf s hs _ _ _ hs') ht

theorem Keeps.membersFrom (h : Keeps shape room I) {fuel : Nat} {first : Bool} {s t : σ}
    {input rest : Bytes} (hs : I s)
    (ht : membersFrom shape room fuel first s input = .ok (t, rest)) : I t := by
  induction fuel generalizing first s input with
  | zero => cases ht
  | succ fuel ih =>
    simp only [Reader.membersFrom] at ht
    split at ht
    · cases ht
    · cases ht
      exact hs
    · split at ht
      · cases ht
      · split at ht
        · obtain ⟨r, -, ht⟩ := bind_eq_ok_iff.1 ht
          exact ih hs ht
        · next f hf =>
          split_ifs at ht
          split at ht
          · cases ht
          · next s' r hs' =>
            obtain ⟨r', -, hs'⟩ := bind_eq_ok_iff.1 hs'
            exact ih (h.fields f (List.mem_of_find?_eq_some hf) s hs _ _ _ hs') ht

theorem complete_eq_ok {close : Bytes → Except Fault Bytes} {read : σ × Bytes} {a : α}
    {rest : Bytes} (h : shape.complete close read = .ok (a, rest)) :
    shape.finish read.1 = .ok a := by
  unfold Shape.complete at h
  cases hs : shape.finish read.1 with
  | error e => simp [hs] at h
  | ok b =>
    simp only [hs] at h
    obtain ⟨r, -, he⟩ := map_eq_ok_iff.1 h
    cases he
    rfl

/-- **What a record may be** follows from what its fields keep up. -/
theorem yields_record (h : Keeps shape room I) {P : α → Prop}
    (hfinish : ∀ s a, I s → shape.finish s = .ok a → P a) :
    Yields (record shape) (room + 1) P := by
  intro input a rest ha
  unfold record at ha
  cases hinput : skipBlanks input with
  | nil => simp [hinput, malformed] at ha
  | cons b r =>
    simp only [hinput] at ha
    split_ifs at ha with hb hbrace
    · obtain ⟨⟨s, r'⟩, hs, ha⟩ := bind_eq_ok_iff.1 ha
      exact hfinish s a (h.elementsFrom (fun f hf => hf) h.start hs) (complete_eq_ok ha)
    · obtain ⟨⟨s, r'⟩, hs, ha⟩ := bind_eq_ok_iff.1 ha
      exact hfinish s a (h.membersFrom h.start hs) (complete_eq_ok ha)
    · exact absurd ha (wrongType_ne_ok _ _ _)

end Records

/-! ## Reading what was printed -/

/-- The text of the variable is read as this, in front of anything that may follow it. -/
def Reads (reader : Reader α) (room : Nat) (v : Variable) (a : α) : Prop :=
  ∀ rest, Delimited rest → reader room (v.bytes ++ rest) = .ok (a, rest)

theorem Reads.run_text {reader : Reader α} {v : Variable} {a : α}
    (h : Reads reader nestingLimit v a) : reader.run (Text.Utf8.encode v.text) = .ok a := by
  have hbytes : Text.Utf8.encode v.text = v.bytes := by
    rw [Text.Utf8.encode, Variable.text, String.toList_ofList]
    rfl
  have hread := h [] (by simp [Delimited])
  rw [List.append_nil] at hread
  rw [hbytes, Reader.run, hread]
  rfl

theorem reads_value {v : Variable} (h : v.Legible) (hroom : v.nesting ≤ room) :
    Reads value room v v.spelled := by
  intro rest hd
  refine Variable.readValueFrom_bytes h ?_ hroom hd
  rw [fuelFor, List.length_append]
  omega

theorem reads_string (s : String) : Reads string room (.string s) s := by
  intro rest _
  have hbytes : (Variable.string s).bytes ++ rest =
      0x22 :: (encodeChars (s.toList.flatMap escapeChar) ++ 0x22 :: rest) := by
    rw [Variable.bytes, Variable.chars, encodeChars_stringChars]
    simp
  rw [hbytes]
  exact scanString_escaped s rest

/-- A word as a whole number. -/
def wordInteger (w : UInt32) : Integer64 := ⟨w.toNat, by have := w.toNat_lt; omega⟩

theorem word32Of_wordInteger (w : UInt32) : word32Of (.integer (wordInteger w)) = .ok w := by
  have hlt := w.toNat_lt
  have hbounds : (0 : Int) ≤ w.toNat ∧ (w.toNat : Int) < 0x100000000 := by omega
  simp [word32Of, wordInteger, hbounds]

theorem scanNumber_wordInteger (w : UInt32) {rest : Bytes} (hd : Delimited rest) :
    scanNumber false (decimal w.toNat ++ rest) = .ok (.integer (wordInteger w), rest) := by
  have hlt : w.toNat < 0x10000000000000000 := Nat.lt_trans w.toNat_lt (by decide)
  rw [scanNumber_decimal hd false hlt]
  exact wholeNumber_eq (wordInteger w) rfl (by simp) rest

theorem word32_of_scanNumber {b : UInt8} {r rest : Bytes} {n : Number} {w : UInt32}
    (hb : isDigitByte b = true) (h : scanNumber false (b :: r) = .ok (n, rest))
    (hw : word32Of n = .ok w) : word32 room (b :: r) = .ok (w, rest) := by
  rw [word32, skipBlanks_cons (not_blank_of_digit hb)]
  simp only [if_neg (digit_ne hb (c := 0x2D) rfl), if_pos hb, h, Except.bind, hw]

theorem reads_word32 (w : UInt32) :
    Reads word32 room (.number (.integer (wordInteger w))) w := by
  intro rest hd
  have hbytes : (Variable.number (.integer (wordInteger w))).bytes = decimal w.toNat :=
    encodeChars_whole rfl
  have hscan := scanNumber_wordInteger w hd
  obtain ⟨b, r, hb, hdigit, -⟩ := exists_decimal w.toNat
  rw [hbytes]
  rw [hb, List.cons_append] at hscan ⊢
  exact word32_of_scanNumber hdigit hscan (word32Of_wordInteger w)

theorem reads_optional {item : Reader α} {v : Variable} {a : α} (hv : v.Legible)
    (hnull : v ≠ .null) (h : Reads item room v a) : Reads (optional item) room v (some a) := by
  intro rest hd
  obtain ⟨b, r, hb, hblank, hn⟩ := hv.exists_bytes_of_ne_null hnull
  have hitem := h rest hd
  rw [hb, List.cons_append] at hitem ⊢
  rw [optional, skipBlanks_cons hblank]
  simp only [if_neg hn, hitem]
  rfl

/-- The items of a list, each as the text of its variable. -/
abbrev ReadsEach (item : Reader α) (room : Nat) : List Variable → List α → Prop :=
  List.Forall₂ fun v a => v.Legible ∧ Reads item room v a

theorem listFrom_cons {item : Reader α} {fuel : Nat} {first : Bool} {input r r' rest : Bytes}
    {a : α} {items : List α} (hnext : nextElement? first input = .ok (some r))
    (ha : item room r = .ok (a, r'))
    (hitems : listFrom item room fuel false r' = .ok (items, rest)) :
    listFrom item room (fuel + 1) first input = .ok (a :: items, rest) := by
  simp only [listFrom, hnext, ha, hitems]
  rfl

theorem listFrom_itemTail {item : Reader α} {vs : List Variable} {items : List α}
    (h : ReadsEach item room vs items) {fuel : Nat} {rest : Bytes}
    (hf : (itemTail vs).length ≤ fuel) :
    listFrom item room fuel false (itemTail vs ++ rest) = .ok (items, rest) := by
  induction h generalizing fuel with
  | nil =>
    obtain ⟨fuel, rfl⟩ := Nat.exists_eq_add_one.2 (Nat.lt_of_lt_of_le Nat.one_pos hf)
    rfl
  | @cons v a vs items hv _ ih =>
    rw [itemTail, List.length_cons, List.length_append] at hf
    obtain ⟨fuel, rfl⟩ := Nat.exists_eq_add_one.2 (show 0 < fuel by omega)
    rw [itemTail, List.cons_append, List.append_assoc]
    exact listFrom_cons (Variable.nextElement?_comma_bytes hv.1 _)
      (hv.2 _ (delimited_itemTail vs rest)) (ih (by omega))

theorem reads_list {item : Reader α} {vs : List Variable} {items : List α}
    (h : ReadsEach item room vs items) : Reads (list item) (room + 1) (.list vs) items := by
  intro rest _
  cases h with
  | nil => rfl
  | @cons v a vs items hv hvs =>
    rw [Variable.bytes_list_cons, List.cons_append, List.append_assoc]
    refine listFrom_cons (Variable.nextElement?_bytes hv.1 _)
      (hv.2 _ (delimited_itemTail vs rest)) (listFrom_itemTail hvs ?_)
    rw [List.length_append, List.length_append]
    omega

/-! ### Records -/

/-- Members that complete an unfinished record, each with a field of its own. -/
inductive Fills (shape : Shape σ α) (room : Nat) : σ → List (String × Variable) → σ → Prop
  | nil (s : σ) : Fills shape room s [] s
  | cons {s s' t : σ} {k : String} {v : Variable} {members : List (String × Variable)} {f : Field σ}
      (field : shape.fields.find? (·.name = k) = some f) (unset : f.isSet s = false)
      (reads : Reads (f.read s) room v s') (rest : Fills shape room s' members t) :
      Fills shape room s ((k, v) :: members) t

section Fills

variable {shape : Shape σ α} {s t u : σ} {members others : List (String × Variable)}

theorem Fills.append (h : Fills shape room s members t) (h' : Fills shape room t others u) :
    Fills shape room s (members ++ others) u := by
  induction h with
  | nil => exact h'
  | cons field unset reads _ ih => exact .cons field unset reads (ih h')

theorem reads_field {item : Reader α} {name : String} {required : Bool} {get : σ → Option α}
    {set : σ → α → σ} {v : Variable} {a : α} (h : Reads item room v a) (s : σ) :
    Reads ((Field.of name required item get set).read s) room v (set s a) := by
  intro rest hd
  exact map_eq_ok_iff.2 ⟨(a, rest), h rest hd, rfl⟩

theorem membersFrom_cons {fuel : Nat} {first : Bool} {input r r' : Bytes} {k : String}
    {f : Field σ} {s' : σ} (hnext : nextKey? first input = .ok (some (keyThen k r)))
    (field : shape.fields.find? (·.name = k) = some f) (unset : f.isSet s = false)
    (hread : f.read s room r = .ok (s', r')) :
    membersFrom shape room (fuel + 1) first s input = membersFrom shape room fuel false s' r' := by
  have hcolon : (colon (0x3A :: r)).bind (f.read s room) = .ok (s', r') := hread
  simp only [membersFrom, hnext, keyThen, scanString_escaped, field, unset, hcolon]
  rfl

theorem Fills.membersFrom (h : Fills shape room s members t) {fuel : Nat} {rest : Bytes}
    (hf : (memberTail members).length ≤ fuel) :
    membersFrom shape room fuel false s (memberTail members ++ rest) = .ok (t, 0x7D :: rest) := by
  induction h generalizing fuel with
  | nil =>
    obtain ⟨fuel, rfl⟩ := Nat.exists_eq_add_one.2 (Nat.lt_of_lt_of_le Nat.one_pos hf)
    rfl
  | @cons s s' t k v members f field unset reads _ ih =>
    have hlen := length_le_keyThen k (v.bytes ++ memberTail members)
    rw [memberTail, List.length_cons, List.length_cons] at hf
    rw [List.length_append] at hlen
    obtain ⟨fuel, rfl⟩ := Nat.exists_eq_add_one.2 (show 0 < fuel by omega)
    rw [memberTail, List.cons_append, List.cons_append, keyThen_append, List.append_assoc,
      membersFrom_cons rfl field unset (reads _ (delimited_memberTail members rest))]
    exact ih (by omega)

/-- **A record is read from members that complete it.** -/
theorem reads_record {a : α} (h : Fills shape room shape.start members t)
    (hfinish : shape.finish t = .ok a) :
    Reads (record shape) (room + 1) (.object members) a := by
  intro rest _
  have hclose : shape.complete endObject (t, 0x7D :: rest) = .ok (a, rest) := by
    simp only [Shape.complete, hfinish]
    rfl
  cases h with
  | nil => exact hclose
  | @cons _ s' t k v members f field unset reads hrest =>
    rw [Variable.bytes_object_cons, List.cons_append, List.cons_append, keyThen_append,
      List.append_assoc]
    have hlen := length_le_keyThen k (v.bytes ++ (memberTail members ++ rest))
    have hmembers : membersFrom shape room
        (fuelFor (0x22 :: keyThen k (v.bytes ++ (memberTail members ++ rest)))) true shape.start
        (0x22 :: keyThen k (v.bytes ++ (memberTail members ++ rest))) = .ok (t, 0x7D :: rest) := by
      rw [List.length_append, List.length_append] at hlen
      rw [fuelFor, membersFrom_cons rfl field unset (reads _ (delimited_memberTail members rest))]
      refine hrest.membersFrom ?_
      rw [List.length_cons]
      omega
    change (membersFrom shape room _ true shape.start _).bind (shape.complete endObject) = _
    rw [hmembers]
    exact hclose

end Fills

end GraphQLClient.Json.Reader
