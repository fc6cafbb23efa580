import GraphQLClient.Proofs.Json.Doubles
import GraphQLClient.Proofs.Variable.Printer

/-! # JSON values as variables

A value that was read from a text is, as a variable, still the same value: it
spells itself, its text is the same and it nests no more deeply. So what is
known of reading the text of a variable holds of its text, as long as the doubles
in it are read back (`Canonical.legible`). -/

namespace GraphQLClient

namespace Json

open Variable (ofJson Legible)

mutual

/-- The doubles in a value, in the order of its text. -/
def doubles : Json → List Finite64
  | .number (.float x) => [x]
  | .array items => itemDoubles items
  | .object members => memberDoubles members
  | _ => []

def itemDoubles : List Json → List Finite64
  | [] => []
  | v :: rest => v.doubles ++ itemDoubles rest

def memberDoubles : List (String × Json) → List Finite64
  | [] => []
  | (_, v) :: rest => v.doubles ++ memberDoubles rest

end

theorem itemDoubles_eq (items : List Json) : itemDoubles items = items.flatMap doubles := by
  induction items with
  | nil => rfl
  | cons v rest ih => rw [itemDoubles, ih, List.flatMap_cons]

theorem memberDoubles_eq (members : List (String × Json)) :
    memberDoubles members = members.flatMap fun m => m.2.doubles := by
  induction members with
  | nil => rfl
  | cons m rest ih => rw [memberDoubles, ih, List.flatMap_cons]

/-! ## Members in order -/

theorem insertMember_of_lt {name : String} {value : Json} {members : List (String × Json)}
    (h : ∀ m ∈ members, m.1 < name) :
    insertMember name value members = members ++ [(name, value)] := by
  induction members with
  | nil => rfl
  | cons m rest ih =>
    obtain ⟨hm, hrest⟩ := List.forall_mem_cons.1 h
    have hne : name ≠ m.1 := (String.ne_of_lt hm).symm
    have hge : ¬ name < m.1 := String.lt_asymm hm
    rw [insertMember, if_neg hne, if_neg hge, ih hrest, List.cons_append]

theorem foldl_insertMember_of_sorted {acc members : List (String × Json)}
    (h : Sorted (acc ++ members)) :
    members.foldl (fun acc m => insertMember m.1 m.2 acc) acc = acc ++ members := by
  induction members generalizing acc with
  | nil => exact (List.append_nil acc).symm
  | cons m rest ih =>
    have hlt : ∀ x ∈ acc, x.1 < m.1 := fun x hx =>
      (List.pairwise_append.1 h).2.2 x hx m List.mem_cons_self
    have hsplit : acc ++ m :: rest = (acc ++ [m]) ++ rest := by simp
    rw [hsplit] at h ⊢
    rw [List.foldl_cons, insertMember_of_lt hlt, ih h]

/-- Members in order are the object that is made of them. -/
theorem ofMembers_of_sorted {members : List (String × Json)} (h : Sorted members) :
    ofMembers members = .object members := congrArg Json.object (foldl_insertMember_of_sorted h)

theorem ofJson_object {members : List (String × Json)} (h : Sorted members) :
    ofJson (.object members) = .object (members.map fun m => (m.1, ofJson m.2)) := by
  rw [ofJson, Variable.ofMembers_eq_map, VariableMap.ofPairs_of_nodup]
  rw [List.map_map]
  exact h.nodup

theorem ofJson_array (items : List Json) : ofJson (.array items) = .list (items.map ofJson) := by
  rw [ofJson, Variable.ofItems_eq_map]

/-! ## Text -/

theorem itemChars_eq (items : List Json) :
    itemChars items = [','].intercalate (items.map chars) := by
  induction items with
  | nil => rfl
  | cons v rest ih =>
    cases rest with
    | nil => simp [itemChars]
    | cons w rest => simp [itemChars, ih, List.intercalate_cons_cons]

theorem memberChars_eq (members : List (String × Json)) :
    memberChars members =
      [','].intercalate (members.map fun m => stringChars m.1 ++ ':' :: m.2.chars) := by
  induction members with
  | nil => rfl
  | cons m rest ih =>
    cases rest with
    | nil => simp [memberChars]
    | cons n rest => simp [memberChars, ih, List.intercalate_cons_cons]

namespace Canonical

variable {room : Nat} {x : Json}

theorem chars_ofJson (h : Canonical room x) : (ofJson x).chars = x.chars := by
  induction h with
  | array _ ih =>
    rw [ofJson_array, Variable.chars, Variable.itemChars_eq, chars, itemChars_eq, List.map_map]
    congr 3
    exact List.map_congr_left ih
  | object sorted _ ih =>
    rw [ofJson_object sorted, Variable.chars, Variable.memberChars_eq, chars, memberChars_eq,
      List.map_map]
    congr 3
    refine List.map_congr_left fun m hm => ?_
    simp [ih m hm]
  | _ => rfl

theorem text_ofJson (h : Canonical room x) : (ofJson x).text = x.text :=
  congrArg String.ofList h.chars_ofJson

theorem nesting_ofJson (h : Canonical room x) : (ofJson x).nesting ≤ room := by
  induction h with
  | array _ ih =>
    rw [ofJson_array]
    exact Nat.succ_le_succ (Variable.itemNesting_le fun v hv => by
      obtain ⟨w, hw, rfl⟩ := List.mem_map.1 hv
      exact ih w hw)
  | object sorted _ ih =>
    rw [ofJson_object sorted]
    exact Nat.succ_le_succ (Variable.memberNesting_le fun m hm => by
      obtain ⟨w, hw, rfl⟩ := List.mem_map.1 hm
      exact ih w hw)
  | _ => exact Nat.zero_le _

theorem spelled_ofJson (h : Canonical room x) : (ofJson x).spelled = x := by
  induction h with
  | array _ ih =>
    rw [ofJson_array, Variable.spelled, Variable.spelledItems_eq_map, List.map_map]
    exact congrArg Json.array (List.map_congr_left ih |>.trans (List.map_id _))
  | @object room members sorted _ ih =>
    have hmembers : Variable.spelledMembers (members.map fun m => (m.1, ofJson m.2)) = members := by
      rw [Variable.spelledMembers_eq_map, List.map_map]
      refine (List.map_congr_left fun m hm => ?_).trans (List.map_id _)
      simp [ih m hm]
    rw [ofJson_object sorted, Variable.spelled, hmembers, ofMembers_of_sorted sorted]
  | _ => rfl

/-- **Only its doubles decide** whether a value is read back from its text. -/
theorem legible (h : Canonical room x) (hd : ∀ y ∈ x.doubles, ReadsBack (.float y)) :
    (ofJson x).Legible := by
  induction h with
  | null | bool | string => exact .leaf rfl trivial
  | number _ n =>
    cases n with
    | integer n => exact .leaf rfl (restored_integer n)
    | float y => exact .leaf rfl (restored_float (hd y List.mem_cons_self))
  | array _ ih =>
    rw [doubles, itemDoubles_eq] at hd
    rw [ofJson_array]
    refine .list fun v hv => ?_
    obtain ⟨w, hw, rfl⟩ := List.mem_map.1 hv
    exact ih w hw fun y hy => hd y (List.mem_flatMap.2 ⟨w, hw, hy⟩)
  | object sorted _ ih =>
    rw [doubles, memberDoubles_eq] at hd
    rw [ofJson_object sorted]
    refine .object fun m hm => ?_
    obtain ⟨w, hw, rfl⟩ := List.mem_map.1 hm
    exact ih w hw fun y hy => hd y (List.mem_flatMap.2 ⟨w, hw, hy⟩)

end Canonical

end Json

end GraphQLClient
