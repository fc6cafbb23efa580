import GraphQLClient.Proofs.Variable.Equality
import GraphQLClient.Proofs.Variable.Searches
import GraphQLClient.Proofs.Variable.Spelling

/-! # Variables from JSON

A JSON object has its members in the order of their names, a variable in the
order of their insertion. Where no name occurs twice the one is a permutation of
the other (`perm_foldl_insertMember`), and equality of variables does not see the
difference: what a variable spells in JSON gives back an equal variable
(`ofJson_spelled_eqv`). -/

namespace GraphQLClient

namespace Json

/-- The names of the members increase. -/
def Sorted (members : List (String × Json)) : Prop := members.Pairwise fun a b => a.1 < b.1

theorem mem_of_mem_insertMember {name : String} {value : Json} {members : List (String × Json)}
    {x : String × Json} (h : x ∈ insertMember name value members) :
    x = (name, value) ∨ x ∈ members := by
  induction members with
  | nil => exact .inl (List.mem_singleton.1 h)
  | cons m rest ih =>
    unfold insertMember at h
    split_ifs at h with he hlt
    · exact (List.mem_cons.1 h).imp_right (List.mem_cons_of_mem _)
    · exact List.mem_cons.1 h
    · rcases List.mem_cons.1 h with rfl | h
      · exact .inr List.mem_cons_self
      · exact (ih h).imp_right (List.mem_cons_of_mem _)

theorem lt_of_not_lt {a b : String} (hne : a ≠ b) (h : ¬ a < b) : b < a := by
  by_contra hba
  exact hne (String.le_antisymm (String.not_lt.1 hba) (String.not_lt.1 h))

namespace Sorted

variable {members : List (String × Json)}

theorem nodup (h : Sorted members) : (members.map (·.1)).Nodup :=
  List.pairwise_map.2 (h.imp String.ne_of_lt)

theorem insertMember (h : Sorted members) (name : String) (value : Json) :
    Sorted (insertMember name value members) := by
  induction members with
  | nil => exact List.pairwise_singleton _ _
  | cons m rest ih =>
    obtain ⟨hm, hrest⟩ := List.pairwise_cons.1 h
    unfold Json.insertMember
    split_ifs with he hlt
    · exact List.pairwise_cons.2 ⟨he ▸ hm, hrest⟩
    · refine List.pairwise_cons.2 ⟨fun x hx => ?_, h⟩
      rcases List.mem_cons.1 hx with rfl | hx
      · exact hlt
      · exact String.lt_trans hlt (hm x hx)
    · refine List.pairwise_cons.2 ⟨fun x hx => ?_, ih hrest⟩
      rcases mem_of_mem_insertMember hx with rfl | hx
      · exact lt_of_not_lt he hlt
      · exact hm x hx

/-- Sorting a member in puts it in the place of that of its name. -/
theorem perm_insertMember (h : Sorted members) (name : String) (value : Json) :
    (Json.insertMember name value members).Perm
      ((name, value) :: members.filter (·.1 ≠ name)) := by
  induction members with
  | nil => rfl
  | cons m rest ih =>
    obtain ⟨hm, hrest⟩ := List.pairwise_cons.1 h
    unfold Json.insertMember
    split_ifs with he hlt
    · subst he
      rw [List.filter_cons_of_neg (by simp), filter_ne_of_notMem (List.nodup_cons.1 h.nodup).1]
    · have hall : name ∉ (m :: rest).map (·.1) := by
        intro hname
        obtain ⟨x, hx, hxe⟩ := List.mem_map.1 hname
        rcases List.mem_cons.1 hx with rfl | hx
        · exact String.ne_of_lt hlt hxe.symm
        · exact String.ne_of_lt (String.lt_trans hlt (hm x hx)) hxe.symm
      rw [filter_ne_of_notMem hall]
    · rw [List.filter_cons_of_pos (by simpa using Ne.symm he)]
      exact ((ih hrest).cons _).trans (.swap _ _ _)

end Sorted

end Json

namespace Variable

theorem ofItems_eq_map (items : List Json) : ofItems items = items.map ofJson := by
  induction items with
  | nil => rfl
  | cons v rest ih => rw [ofItems, ih, List.map_cons]

theorem ofMembers_eq_map (members : List (String × Json)) :
    ofMembers members = members.map fun m => (m.1, ofJson m.2) := by
  induction members with
  | nil => rfl
  | cons m rest ih => rw [ofMembers, ih, List.map_cons]

theorem spelledItems_eq_map (items : List Variable) : spelledItems items = items.map spelled := by
  induction items with
  | nil => rfl
  | cons v rest ih => rw [spelledItems, ih, List.map_cons]

theorem spelledMembers_eq_map (members : List (String × Variable)) :
    spelledMembers members = members.map fun m => (m.1, m.2.spelled) := by
  induction members with
  | nil => rfl
  | cons m rest ih => rw [spelledMembers, ih, List.map_cons]

theorem not_holdsUpload_child {v w : Variable} {s : Step} (h : ¬ v.HoldsUpload)
    (hw : (s, w) ∈ v.children) : ¬ w.HoldsUpload := by
  rintro ⟨p, u, hp⟩
  exact h ⟨s :: p, u, by rw [at?, mem_children.1 hw]; exact hp⟩

theorem perm_foldl_insertMember (members : List (String × Json)) {acc : List (String × Json)}
    {m : VariableMap} (hs : Json.Sorted acc) (hp : (ofMembers acc).Perm m) :
    let sorted := members.foldl (fun acc m => Json.insertMember m.1 m.2 acc) acc
    Json.Sorted sorted ∧ (ofMembers sorted).Perm
      ((ofMembers members).foldl (fun m x => VariableMap.insert x.1 x.2 m) m) := by
  induction members generalizing acc m with
  | nil => exact ⟨hs, hp⟩
  | cons x members ih =>
    have hkeys : (m.map (·.1)).Nodup := by
      rw [← (hp.map _).nodup_iff, ofMembers_eq_map, List.map_map]
      exact hs.nodup
    refine ih (hs.insertMember x.1 x.2) ?_
    have hfilter : ofMembers (acc.filter (·.1 ≠ x.1)) = (ofMembers acc).filter (·.1 ≠ x.1) := by
      rw [ofMembers_eq_map, ofMembers_eq_map, List.filter_map]
      rfl
    have hsorted := (hs.perm_insertMember x.1 x.2).map fun m => (m.1, ofJson m.2)
    rw [← ofMembers_eq_map, ← ofMembers_eq_map, ofMembers, hfilter] at hsorted
    exact (hsorted.trans ((hp.filter _).cons _)).trans (VariableMap.perm_insert hkeys _ _).symm

/-- **A JSON object has the members of the map that insertion makes**, in another order. -/
theorem ofJson_ofMembers (members : List (String × Json)) :
    ∃ sorted : VariableMap, ofJson (Json.ofMembers members) = .object sorted ∧
      (sorted.map (·.1)).Nodup ∧ sorted.Perm (VariableMap.ofPairs (ofMembers members)) := by
  obtain ⟨hs, hp⟩ := perm_foldl_insertMember members (m := []) List.Pairwise.nil .nil
  have hkeys : ((ofMembers (members.foldl (fun acc m => Json.insertMember m.1 m.2 acc) [])).map
      (·.1)).Nodup := by
    rw [ofMembers_eq_map, List.map_map]
    exact hs.nodup
  refine ⟨_, ?_, hkeys, hp⟩
  rw [Json.ofMembers, ofJson, VariableMap.ofPairs_of_nodup hkeys]

/-- **What a variable spells in JSON gives back an equal variable.** -/
theorem ofJson_spelled_eqv {v : Variable} (hk : v.WellKeyed) (hu : ¬ v.HoldsUpload) :
    (ofJson v.spelled).eqv v = true := by
  induction v using childInduction with
  | node v ih =>
    have hchild : ∀ s w, (s, w) ∈ v.children → (ofJson w.spelled).eqv w = true :=
      fun s w hw => ih s w hw (hk.child hw) (not_holdsUpload_child hu hw)
    cases v with
    | null => rfl
    | bool b => exact decide_eq_true rfl
    | number n => exact n.eqv_refl
    | string s => exact decide_eq_true rfl
    | upload u => exact absurd ⟨[], u, rfl⟩ hu
    | list items =>
      rw [spelled, ofJson, ofItems_eq_map, spelledItems_eq_map, List.map_map, eqv, eqvItems_iff,
        List.forall₂_map_left_iff, List.forall₂_same]
      intro v hv
      obtain ⟨s, hs⟩ := exists_child_of_item hv
      exact hchild s v hs
    | object members =>
      have hmembers : ofMembers (spelledMembers members) =
          members.map fun m => (m.1, ofJson m.2.spelled) := by
        rw [ofMembers_eq_map, spelledMembers_eq_map, List.map_map]
        rfl
      have hkeys : ((ofMembers (spelledMembers members)).map (·.1)).Nodup := by
        rw [hmembers, List.map_map]
        exact hk.own
      obtain ⟨sorted, hsorted, -, hperm⟩ := ofJson_ofMembers (spelledMembers members)
      rw [VariableMap.ofPairs_of_nodup hkeys, hmembers] at hperm
      rw [spelled, hsorted]
      refine eqv_object_iff.2 ⟨?_, fun m hm => ?_⟩
      · rw [hperm.length_eq, List.length_map]
      · obtain ⟨x, hx, rfl⟩ := List.mem_map.1 (hperm.subset hm)
        obtain ⟨s, hs⟩ := exists_child_of_member hx
        exact ⟨_, VariableMap.find?_of_mem hk.own hx, hchild s x.2 hs⟩

end Variable

end GraphQLClient
