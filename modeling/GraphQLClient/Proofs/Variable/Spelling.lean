import GraphQLClient.Proofs.Json.Reading
import GraphQLClient.Proofs.Variable.Searches
import GraphQLClient.Variable.Printer

/-! # Reading the text of a variable

The text of a variable is compact JSON. Where the variable holds no upload and
only numbers that are read back as they were printed, the reader finds in it the
value that `spelled` gives (`readValueFrom_bytes`), as long as not more lists and
objects are open than it allows. -/

namespace GraphQLClient

open Json Text.Utf8

namespace Variable

mutual

/-- How many lists and objects are open at once. -/
def nesting : Variable → Nat
  | .list items => itemNesting items + 1
  | .object members => memberNesting members + 1
  | _ => 0

def itemNesting : List Variable → Nat
  | [] => 0
  | v :: rest => max v.nesting (itemNesting rest)

def memberNesting : List (String × Variable) → Nat
  | [] => 0
  | (_, v) :: rest => max v.nesting (memberNesting rest)

end

theorem itemNesting_le {items : List Variable} {room : Nat} (h : ∀ v ∈ items, v.nesting ≤ room) :
    itemNesting items ≤ room := by
  induction items with
  | nil => exact Nat.zero_le room
  | cons v rest ih =>
    obtain ⟨hv, hrest⟩ := List.forall_mem_cons.1 h
    exact Nat.max_le.2 ⟨hv, ih hrest⟩

theorem memberNesting_le {members : List (String × Variable)} {room : Nat}
    (h : ∀ m ∈ members, m.2.nesting ≤ room) : memberNesting members ≤ room := by
  induction members with
  | nil => exact Nat.zero_le room
  | cons m rest ih =>
    obtain ⟨hm, hrest⟩ := List.forall_mem_cons.1 h
    exact Nat.max_le.2 ⟨hm, ih hrest⟩

mutual

/-- The JSON value that the text of a variable without uploads spells. -/
def spelled : Variable → Json
  | .null | .upload _ => .null
  | .bool b => .bool b
  | .number n => .number n
  | .string s => .string s
  | .list items => .array (spelledItems items)
  | .object members => Json.ofMembers (spelledMembers members)

def spelledItems : List Variable → List Json
  | [] => []
  | v :: rest => v.spelled :: spelledItems rest

def spelledMembers : List (String × Variable) → List (String × Json)
  | [] => []
  | (k, v) :: rest => (k, v.spelled) :: spelledMembers rest

end

/-- No upload, and if a number one that is read back from its text. -/
def Plain : Variable → Prop
  | .number n => Restored n
  | .upload _ => False
  | _ => True

/-- There is no upload, and every number is read back from its text. -/
def Legible (v : Variable) : Prop := ∀ p w, v.at? p = some w → w.Plain

namespace Legible

variable {v w : Variable} {items : List Variable} {members : List (String × Variable)}

theorem child (h : v.Legible) {s : Step} (hs : v.child? s = some w) : w.Legible :=
  fun p x hx => h (s :: p) x (by rw [at?, hs]; exact hx)

theorem item (h : (list items).Legible) : ∀ v ∈ items, v.Legible := by
  intro v hv
  obtain ⟨i, hi, rfl⟩ := List.getElem_of_mem hv
  exact h.child (s := .item i) (List.getElem?_eq_getElem hi)

theorem member (h : (object members).Legible) : ∀ m ∈ members, m.2.Legible := by
  intro m hm
  obtain ⟨i, hi, rfl⟩ := List.getElem_of_mem hm
  exact h.child (s := .member i members[i].1) (by simp [child?, hi, Option.filter])

theorem node (own : v.Plain) (below : ∀ s w, (s, w) ∈ v.children → w.Legible) :
    v.Legible := by
  rintro (_ | ⟨s, p⟩) w hw
  · cases hw
    exact own
  · obtain ⟨c, hs, hw⟩ := Option.bind_eq_some_iff.1 hw
    exact below s c (mem_children.2 hs) p w hw

theorem leaf (h : v.children = []) (own : v.Plain) : v.Legible := .node own (by simp [h])

theorem string (s : String) : (Variable.string s).Legible := .leaf rfl trivial

theorem list (h : ∀ v ∈ items, v.Legible) : (Variable.list items).Legible := by
  refine .node trivial fun s w hw => ?_
  obtain ⟨i, hi, he⟩ := List.mem_mapIdx.1 hw
  cases he
  exact h _ (List.getElem_mem hi)

theorem object (h : ∀ m ∈ members, m.2.Legible) : (Variable.object members).Legible := by
  refine .node trivial fun s w hw => ?_
  obtain ⟨i, hi, he⟩ := List.mem_mapIdx.1 hw
  cases he
  exact h _ (List.getElem_mem hi)

end Legible

/-- There is a double somewhere in the variable. -/
def HoldsFloat (v : Variable) : Prop := ∃ p x, v.at? p = some (.number (.float x))

theorem holdsFloat_iff {v : Variable} :
    v.HoldsFloat ↔ (∃ x, v = .number (.float x)) ∨ ∃ c ∈ v.children, c.2.HoldsFloat := by
  constructor
  · rintro ⟨_ | ⟨s, p⟩, x, hx⟩
    · exact .inl ⟨x, Option.some.inj hx⟩
    · obtain ⟨w, hs, hw⟩ := Option.bind_eq_some_iff.1 hx
      exact .inr ⟨(s, w), mem_children.2 hs, p, x, hw⟩
  · rintro (⟨x, rfl⟩ | ⟨⟨s, w⟩, hs, p, x, hx⟩)
    · exact ⟨[], x, rfl⟩
    · exact ⟨s :: p, x, by rw [at?, mem_children.1 hs]; exact hx⟩

/-- Without uploads, whole numbers suffice. -/
theorem legible_of_whole {v : Variable} (hu : ¬ v.HoldsUpload) (hf : ¬ v.HoldsFloat) :
    v.Legible := by
  intro p w hw
  cases w with
  | number n =>
    cases n with
    | integer n => exact restored_integer n
    | float x => exact absurd ⟨p, x, hw⟩ hf
  | upload u => exact hu ⟨p, u, hw⟩
  | _ => trivial

/-! ## The bytes of the text -/

def bytes (v : Variable) : Bytes := encodeChars v.chars

/-- The rest of a list behind an item, with the closing bracket. -/
def itemTail : List Variable → Bytes
  | [] => [0x5D]
  | v :: rest => 0x2C :: (v.bytes ++ itemTail rest)

/-- The rest of an object behind a member, with the closing brace. -/
def memberTail : List (String × Variable) → Bytes
  | [] => [0x7D]
  | (k, v) :: rest => 0x2C :: 0x22 :: keyThen k (v.bytes ++ memberTail rest)

theorem encodeChars_itemChars_cons (v : Variable) (rest : List Variable) :
    encodeChars (itemChars (v :: rest)) ++ [0x5D] = v.bytes ++ itemTail rest := by
  induction rest generalizing v with
  | nil => rfl
  | cons w rest ih =>
    rw [itemChars, encodeChars_append, encodeChars_cons, itemTail, ← ih w, List.append_assoc,
      List.append_assoc]
    · rfl
    · simp

theorem encodeChars_memberChars_cons (m : String × Variable) (rest : List (String × Variable)) :
    encodeChars (memberChars (m :: rest)) ++ [0x7D] =
      0x22 :: keyThen m.1 (m.2.bytes ++ memberTail rest) := by
  induction rest generalizing m with
  | nil =>
    rw [memberChars, encodeChars_key, List.cons_append, keyThen_append]
    rfl
  | cons n rest ih =>
    rw [memberChars, encodeChars_key, List.cons_append, keyThen_append, encodeChars_append,
      encodeChars_cons, memberTail, ← ih n, List.append_assoc, List.append_assoc]
    · rfl
    · simp

theorem bytes_list_cons (v : Variable) (rest : List Variable) :
    (list (v :: rest)).bytes = 0x5B :: (v.bytes ++ itemTail rest) := by
  rw [← encodeChars_itemChars_cons, bytes, chars, encodeChars_cons, encodeChars_append]
  rfl

theorem bytes_object_cons (m : String × Variable) (rest : List (String × Variable)) :
    (object (m :: rest)).bytes = 0x7B :: 0x22 :: keyThen m.1 (m.2.bytes ++ memberTail rest) := by
  rw [← encodeChars_memberChars_cons, bytes, chars, encodeChars_cons, encodeChars_append]
  rfl

theorem delimited_itemTail (items : List Variable) (rest : Bytes) :
    Delimited (itemTail items ++ rest) := by
  cases items <;> simp [Delimited, itemTail]

theorem delimited_memberTail (members : List (String × Variable)) (rest : Bytes) :
    Delimited (memberTail members ++ rest) := by
  cases members <;> simp [Delimited, memberTail]

/-- The text of a variable starts with no blank and no closing bracket. -/
theorem Legible.exists_bytes {v : Variable} (h : v.Legible) :
    ∃ b r, v.bytes = b :: r ∧ isBlankByte b = false ∧ b ≠ 0x5D := by
  cases v with
  | number n =>
    obtain ⟨b, r, hb, rfl | hd⟩ := (h [] _ rfl : Restored n).starts
    · exact ⟨_, r, hb, rfl, by decide⟩
    · exact ⟨b, r, hb, not_blank_of_digit hd, digit_ne hd rfl⟩
  | upload u => exact absurd (h [] _ rfl) id
  | bool b => cases b <;> exact ⟨_, _, rfl, rfl, by decide⟩
  | _ => exact ⟨_, _, rfl, rfl, by decide⟩

/-- Only the text of null starts as that of null. -/
theorem Legible.exists_bytes_of_ne_null {v : Variable} (h : v.Legible) (hv : v ≠ .null) :
    ∃ b r, v.bytes = b :: r ∧ isBlankByte b = false ∧ b ≠ 0x6E := by
  cases v with
  | null => exact absurd rfl hv
  | number n =>
    obtain ⟨b, r, hb, rfl | hd⟩ := (h [] _ rfl : Restored n).starts
    · exact ⟨_, r, hb, rfl, by decide⟩
    · exact ⟨b, r, hb, not_blank_of_digit hd, digit_ne hd rfl⟩
  | upload u => exact absurd (h [] _ rfl) id
  | bool b => cases b <;> exact ⟨_, _, rfl, rfl, by decide⟩
  | _ => exact ⟨_, _, rfl, rfl, by decide⟩

/-! ## Reading -/

theorem nextElement?_bytes {v : Variable} (h : v.Legible) (r : Bytes) :
    nextElement? true (v.bytes ++ r) = .ok (some (v.bytes ++ r)) := by
  obtain ⟨b, r', hb, hblank, hclose⟩ := h.exists_bytes
  rw [hb]
  exact nextElement?_first hblank hclose _

theorem nextElement?_comma_bytes {v : Variable} (h : v.Legible) (r : Bytes) :
    nextElement? false (0x2C :: (v.bytes ++ r)) = .ok (some (v.bytes ++ r)) := by
  obtain ⟨b, r', hb, hblank, hclose⟩ := h.exists_bytes
  rw [hb]
  exact nextElement?_comma hblank hclose _

mutual

/-- **The text of a variable is read as the value it spells**, and no further. -/
theorem readValueFrom_bytes {v : Variable} (h : v.Legible) {fuel room : Nat} {rest : Bytes}
    (hf : 2 * v.bytes.length ≤ fuel) (hr : v.nesting ≤ room) (hd : Delimited rest) :
    readValueFrom fuel room (v.bytes ++ rest) = .ok (v.spelled, rest) := by
  obtain ⟨fuel, rfl⟩ : ∃ n, fuel = n + 2 := by
    obtain ⟨b, r, hb, -⟩ := h.exists_bytes
    rw [hb, List.length_cons] at hf
    exact ⟨fuel - 2, by omega⟩
  cases v with
  | null => rfl
  | bool b => cases b <;> rfl
  | number n => exact (h [] _ rfl : Restored n).reads (fuel + 1) room rest hd
  | string s =>
    have hbytes : (string s).bytes ++ rest =
        0x22 :: (encodeChars (s.toList.flatMap escapeChar) ++ 0x22 :: rest) := by
      rw [bytes, chars, encodeChars_stringChars]
      simp
    rw [hbytes]
    change (scanString _).map _ = _
    rw [scanString_escaped]
    rfl
  | list items =>
    obtain ⟨room, rfl⟩ := Nat.exists_eq_add_one.2 (Nat.zero_lt_of_lt hr)
    have hr : itemNesting items ≤ room := Nat.le_of_succ_le_succ hr
    cases items with
    | nil => rfl
    | cons v items =>
      obtain ⟨hv, hitems⟩ := List.forall_mem_cons.1 h.item
      rw [itemNesting] at hr
      rw [bytes_list_cons, List.length_cons, List.length_append] at hf
      rw [bytes_list_cons, List.cons_append, List.append_assoc]
      change (readItems (fuel + 1) room true _).map _ = _
      rw [readItems_cons (nextElement?_bytes hv _)
        (readValueFrom_bytes hv (by omega) (by omega) (delimited_itemTail items rest))
        (readItems_itemTail hitems (by omega) (by omega))]
      rfl
  | object members =>
    obtain ⟨room, rfl⟩ := Nat.exists_eq_add_one.2 (Nat.zero_lt_of_lt hr)
    have hr : memberNesting members ≤ room := Nat.le_of_succ_le_succ hr
    cases members with
    | nil => rfl
    | cons m members =>
      obtain ⟨hm, hmembers⟩ := List.forall_mem_cons.1 h.member
      have hlen := length_le_keyThen m.1 (m.2.bytes ++ memberTail members)
      rw [memberNesting] at hr
      rw [bytes_object_cons, List.length_cons, List.length_cons] at hf
      rw [List.length_append] at hlen
      rw [bytes_object_cons, List.cons_append, List.cons_append, keyThen_append, List.append_assoc]
      change (readMembers (fuel + 1) room true [] _).map _ = _
      rw [readMembers_cons rfl
        (readValueFrom_bytes hm (by omega) (by omega) (delimited_memberTail members rest))
        (readMembers_memberTail hmembers (by omega) (by omega))]
      rfl
  | upload u => exact absurd (h [] _ rfl) id
termination_by structural v

theorem readItems_itemTail {items : List Variable} (h : ∀ v ∈ items, v.Legible) {fuel room : Nat}
    {rest : Bytes} (hf : 2 * (itemTail items).length ≤ fuel) (hr : itemNesting items ≤ room) :
    readItems fuel room false (itemTail items ++ rest) = .ok (spelledItems items, rest) := by
  cases items with
  | nil =>
    obtain ⟨fuel, rfl⟩ := Nat.exists_eq_add_one.2 (Nat.lt_of_lt_of_le Nat.two_pos hf)
    rfl
  | cons v items =>
    obtain ⟨hv, hitems⟩ := List.forall_mem_cons.1 h
    rw [itemNesting] at hr
    rw [itemTail, List.length_cons, List.length_append] at hf
    obtain ⟨fuel, rfl⟩ := Nat.exists_eq_add_one.2 (show 0 < fuel by omega)
    rw [itemTail, List.cons_append, List.append_assoc]
    exact readItems_cons (nextElement?_comma_bytes hv _)
      (readValueFrom_bytes hv (by omega) (by omega) (delimited_itemTail items rest))
      (readItems_itemTail hitems (by omega) (by omega))
termination_by structural items

theorem readMembers_memberTail {members : List (String × Variable)}
    (h : ∀ m ∈ members, m.2.Legible) {fuel room : Nat} {acc : List (String × Json)} {rest : Bytes}
    (hf : 2 * (memberTail members).length ≤ fuel) (hr : memberNesting members ≤ room) :
    readMembers fuel room false acc (memberTail members ++ rest) =
      .ok ((spelledMembers members).foldl (fun acc m => insertMember m.1 m.2 acc) acc, rest) := by
  cases members with
  | nil =>
    obtain ⟨fuel, rfl⟩ := Nat.exists_eq_add_one.2 (Nat.lt_of_lt_of_le Nat.two_pos hf)
    rfl
  | cons m members =>
    obtain ⟨hm, hmembers⟩ := List.forall_mem_cons.1 h
    have hlen := length_le_keyThen m.1 (m.2.bytes ++ memberTail members)
    rw [memberNesting] at hr
    rw [memberTail, List.length_cons, List.length_cons] at hf
    rw [List.length_append] at hlen
    obtain ⟨fuel, rfl⟩ := Nat.exists_eq_add_one.2 (show 0 < fuel by omega)
    rw [memberTail, List.cons_append, List.cons_append, keyThen_append, List.append_assoc]
    exact readMembers_cons rfl
      (readValueFrom_bytes hm (by omega) (by omega) (delimited_memberTail members rest))
      (readMembers_memberTail hmembers (by omega) (by omega))
termination_by structural members

end

end Variable

end GraphQLClient
