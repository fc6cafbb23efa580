import GraphQLClient.Proofs.Results
import GraphQLClient.Proofs.Variable.FromJson

/-! # Values as they are read

What the reader makes of a text is no arbitrary value: it nests no more deeply
than there was room for, and every object has its names in order and each name
once (`canonical_of_readValueFrom`). The reader looks at the first byte of a
value and goes one of seven ways (`ValueStep`). -/

namespace GraphQLClient.Json

/-- One value, by its first byte. -/
inductive ValueStep (fuel room : Nat) (input : Bytes) : Json → Bytes → Prop
  | null {t r : Bytes} (hinput : skipBlanks input = 0x6E :: t) : ValueStep fuel room input .null r
  | bool (b : Bool) (r : Bytes) : ValueStep fuel room input (.bool b) r
  | negative {t r : Bytes} {n : Number} (hinput : skipBlanks input = 0x2D :: t)
      (h : scanNumber true t = .ok (n, r)) : ValueStep fuel room input (.number n) r
  | digit {b : UInt8} {t r : Bytes} {n : Number} (hinput : skipBlanks input = b :: t)
      (hb : isDigitByte b = true) (h : scanNumber false (b :: t) = .ok (n, r)) :
      ValueStep fuel room input (.number n) r
  | string (s : String) (r : Bytes) : ValueStep fuel room input (.string s) r
  | array {inner : Nat} {t r : Bytes} {items : List Json} (hroom : room = inner + 1)
      (h : readItems fuel inner true t = .ok (items, r)) : ValueStep fuel room input (.array items) r
  | object {inner : Nat} {t r : Bytes} {members : List (String × Json)} (hroom : room = inner + 1)
      (h : readMembers fuel inner true [] t = .ok (members, r)) :
      ValueStep fuel room input (.object members) r

section

variable {fuel room : Nat} {input r : Bytes} {v : Json}

theorem valueStep (h : readValueFrom (fuel + 1) room input = .ok (v, r)) :
    ValueStep fuel room input v r := by
  rw [readValueFrom] at h
  cases hinput : skipBlanks input with
  | nil => simp [hinput, malformed] at h
  | cons b t =>
    simp only [hinput] at h
    split_ifs at h with hnull htrue hfalse hminus hdigit hquote hbracket hbrace
    · obtain ⟨r, -, he⟩ := map_eq_ok_iff.1 h
      cases he
      exact .null (hinput.trans (by rw [hnull]))
    · obtain ⟨r, -, he⟩ := map_eq_ok_iff.1 h
      cases he
      exact .bool true _
    · obtain ⟨r, -, he⟩ := map_eq_ok_iff.1 h
      cases he
      exact .bool false _
    · obtain ⟨n, hn, he⟩ := map_eq_ok_iff.1 h
      cases he
      exact .negative (hinput.trans (by rw [hminus])) hn
    · obtain ⟨n, hn, he⟩ := map_eq_ok_iff.1 h
      cases he
      exact .digit hinput hdigit hn
    · obtain ⟨s, -, he⟩ := map_eq_ok_iff.1 h
      cases he
      exact .string _ _
    · cases room with
      | zero => cases h
      | succ inner =>
        obtain ⟨items, hitems, he⟩ := map_eq_ok_iff.1 h
        cases he
        exact .array rfl hitems
    · cases room with
      | zero => cases h
      | succ inner =>
        obtain ⟨members, hmembers, he⟩ := map_eq_ok_iff.1 h
        cases he
        exact .object rfl hmembers
    · cases h

end

/-- At most `room` containers are open at once, and names increase in all objects. -/
inductive Canonical : Nat → Json → Prop
  | null (room : Nat) : Canonical room .null
  | bool (room : Nat) (b : Bool) : Canonical room (.bool b)
  | number (room : Nat) (n : Number) : Canonical room (.number n)
  | string (room : Nat) (s : String) : Canonical room (.string s)
  | array {room : Nat} {items : List Json} (h : ∀ v ∈ items, Canonical room v) :
      Canonical (room + 1) (.array items)
  | object {room : Nat} {members : List (String × Json)} (sorted : Sorted members)
      (h : ∀ m ∈ members, Canonical room m.2) : Canonical (room + 1) (.object members)

mutual

/-- **What is read is canonical.** -/
theorem canonical_of_readValueFrom {fuel room : Nat} {input r : Bytes} {v : Json}
    (h : readValueFrom fuel room input = .ok (v, r)) : Canonical room v := by
  cases fuel with
  | zero => cases h
  | succ fuel =>
    cases valueStep h with
    | null => exact .null room
    | bool b => exact .bool room b
    | negative | digit => exact .number room _
    | string s => exact .string room s
    | array hroom hitems =>
      subst hroom
      exact .array (canonical_of_readItems hitems)
    | object hroom hmembers =>
      subst hroom
      obtain ⟨hsorted, hmembers⟩ := canonical_of_readMembers .nil (by simp) hmembers
      exact .object hsorted hmembers
termination_by fuel

theorem canonical_of_readItems {fuel room : Nat} {first : Bool} {input r : Bytes}
    {vs : List Json} (h : readItems fuel room first input = .ok (vs, r)) :
    ∀ v ∈ vs, Canonical room v := by
  cases fuel with
  | zero => cases h
  | succ fuel =>
    simp only [readItems] at h
    split at h
    · cases h
    · obtain ⟨r, -, he⟩ := map_eq_ok_iff.1 h
      cases he
      simp
    · split at h
      · cases h
      · next v r hv =>
        obtain ⟨⟨rest, r⟩, hrest, he⟩ := map_eq_ok_iff.1 h
        cases he
        exact List.forall_mem_cons.2
          ⟨canonical_of_readValueFrom hv, canonical_of_readItems hrest⟩
termination_by fuel

theorem canonical_of_readMembers {fuel room : Nat} {first : Bool} {acc ms : List (String × Json)}
    {input r : Bytes} (hsorted : Sorted acc) (hacc : ∀ m ∈ acc, Canonical room m.2)
    (h : readMembers fuel room first acc input = .ok (ms, r)) :
    Sorted ms ∧ ∀ m ∈ ms, Canonical room m.2 := by
  cases fuel with
  | zero => cases h
  | succ fuel =>
    simp only [readMembers] at h
    split at h
    · cases h
    · obtain ⟨r, -, he⟩ := map_eq_ok_iff.1 h
      cases he
      exact ⟨hsorted, hacc⟩
    · split at h
      · cases h
      · next key r hkey =>
        split at h
        · cases h
        · next v r' hv =>
          obtain ⟨r'', -, hv⟩ := bind_eq_ok_iff.1 hv
          refine canonical_of_readMembers (hsorted.insertMember key v) (fun m hm => ?_) h
          rcases mem_of_mem_insertMember hm with rfl | hm
          · exact canonical_of_readValueFrom hv
          · exact hacc m hm
termination_by fuel

end

end GraphQLClient.Json
