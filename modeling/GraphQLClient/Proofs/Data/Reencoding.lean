import GraphQLClient.Proofs.Data.Encoding
import GraphQLClient.Proofs.Variable.Built

/-! # Encoding again

A variable describes itself as data: an upload as a record of the reserved name,
an object as a map of its members. Encoding that gives the variable back as it
was, members in their order and uploads with all they carry, just if its objects
come about by insertion and removal (`encode_ofVariable_iff`). -/

namespace GraphQLClient.Data

open Variable (childInduction)

/-- **An upload is encoded as itself**, an absent text staying absent. -/
theorem encode_ofUpload (u : Upload) : (ofUpload u).encode = .ok (.upload u) := by
  obtain ⟨bytes, filename, contentType⟩ := u
  cases filename <;> cases contentType <;> rfl

theorem encode_ofNumber (n : Number) : (ofNumber n).encode = .ok (.number n) := by
  cases n with
  | integer n => rfl
  | float x => exact congrArg Except.ok (floatVariable_of_finite x.property)

theorem ofItems_eq_map (items : List Variable) : ofItems items = items.map ofVariable := by
  induction items with
  | nil => rfl
  | cons v rest ih => rw [ofItems, ih, List.map_cons]

theorem callMembers?_ofMembers (members : VariableMap) :
    callMembers? keyName? Option.none (ofMembers members) =
      Option.some (members.map fun m => (m.1, ofVariable m.2)) := by
  induction members with
  | nil => rfl
  | cons m rest ih => simp [ofMembers, callMembers?, keyName?, ih]

/-- A variable without a repeated key comes back from its description. -/
theorem encode_ofVariable {v : Variable} (h : v.WellKeyed) : (ofVariable v).encode = .ok v := by
  induction v using childInduction with
  | node v ih =>
    have hchild : ∀ s w, (s, w) ∈ v.children → (ofVariable w).encode = .ok w :=
      fun s w hw => ih s w hw (h.child hw)
    cases v with
    | null | bool b | string s => rfl
    | number n => exact encode_ofNumber n
    | upload u => exact encode_ofUpload u
    | list items =>
      have hitems : encodeItems (ofItems items) = .ok items := by
        rw [ofItems_eq_map, encodeItems_eq_ok_iff, List.forall₂_map_left_iff, List.forall₂_same]
        intro v hv
        obtain ⟨s, hs⟩ := Variable.exists_child_of_item hv
        exact hchild s v hs
      exact map_eq_ok_iff.2 ⟨items, hitems, rfl⟩
    | object members =>
      have hmembers : MembersEncode (members.map fun m => (m.1, ofVariable m.2)) members := by
        rw [MembersEncode, List.forall₂_map_left_iff, List.forall₂_same]
        intro m hm
        obtain ⟨s, hs⟩ := Variable.exists_child_of_member hm
        exact ⟨rfl, hchild s m.2 hs⟩
      have hcalls : encodeCalls Option.none [] (ofMembers members) = .ok members :=
        encodeCalls_eq_ok_iff.2 ⟨_, callMembers?_ofMembers members, members, hmembers,
          (VariableMap.ofPairs_of_nodup h.own).symm⟩
      exact map_eq_ok_iff.2 ⟨members, hcalls, rfl⟩

/-- **Encoding a variable again gives it back unchanged**, at every depth, just if it was built by
inserting and removing members. -/
theorem encode_ofVariable_iff {v : Variable} : (ofVariable v).encode = .ok v ↔ v.Built :=
  ⟨fun h => (encode_wellKeyed h).built, fun h => encode_ofVariable h.wellKeyed⟩

end GraphQLClient.Data
