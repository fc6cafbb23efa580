import GraphQLClient.Proofs.Variable.Keys

/-! # Variables built by inserting and removing

`VariableMap` is only ever filled by inserting into an empty map and removing
from it. The variables whose objects come about so, at every depth, are exactly
those without a repeated key (`Variable.Built.wellKeyed`, `Variable.WellKeyed.built`). -/

namespace GraphQLClient

namespace VariableMap

theorem remove_sublist (key : String) (m : VariableMap) : (remove key m).Sublist m := by
  induction m with
  | nil => exact .slnil
  | cons x rest ih =>
    unfold remove
    split_ifs with hk
    · exact List.sublist_cons_self _ _
    · exact ih.cons_cons _

end VariableMap

namespace Variable

/-- The objects in the variable come from empty ones by insertions and removals. -/
inductive Built : Variable → Prop
  | null : Built .null
  | bool (b : Bool) : Built (.bool b)
  | number (n : Number) : Built (.number n)
  | string (s : String) : Built (.string s)
  | upload (u : Upload) : Built (.upload u)
  | list {items : List Variable} (h : ∀ v ∈ items, Built v) : Built (.list items)
  | empty : Built (.object [])
  | insert {m : VariableMap} (hm : Built (.object m)) (key : String) {v : Variable}
      (hv : Built v) : Built (.object (VariableMap.insert key v m))
  | remove {m : VariableMap} (hm : Built (.object m)) (key : String) :
      Built (.object (VariableMap.remove key m))

/-- A map made of pairs is one made by insertions. -/
theorem Built.insertAll {m pairs : VariableMap} (hm : (Variable.object m).Built)
    (h : ∀ p ∈ pairs, p.2.Built) :
    (Variable.object (pairs.foldl (fun m p => VariableMap.insert p.1 p.2 m) m)).Built := by
  induction pairs generalizing m with
  | nil => exact hm
  | cons p pairs ih =>
    obtain ⟨hp, hpairs⟩ := List.forall_mem_cons.1 h
    exact ih (hm.insert p.1 hp) hpairs

theorem WellKeyed.remove {m : VariableMap} (hm : (Variable.object m).WellKeyed) (key : String) :
    (Variable.object (VariableMap.remove key m)).WellKeyed := by
  have hsub := VariableMap.remove_sublist key m
  exact .object (hm.own.sublist (hsub.map _)) fun x hx => hm.member (hsub.subset hx)

theorem Built.wellKeyed {v : Variable} (h : v.Built) : v.WellKeyed := by
  induction h with
  | list _ ih => exact .list ih
  | empty => exact .empty
  | insert _ key _ ihm ihv => exact ihm.insert key ihv
  | remove _ key ih => exact ih.remove key
  | _ => exact .leaf rfl (by simp)

theorem WellKeyed.built {v : Variable} (h : v.WellKeyed) : v.Built := by
  induction v using childInduction with
  | node v ih =>
    cases v with
    | null => exact .null
    | bool b => exact .bool b
    | number n => exact .number n
    | string s => exact .string s
    | upload u => exact .upload u
    | list items =>
      refine .list fun v hv => ?_
      obtain ⟨s, hs⟩ := exists_child_of_item hv
      exact ih s v hs (h.child hs)
    | object members =>
      have hmembers : ∀ m ∈ members, m.2.Built := by
        intro m hm
        obtain ⟨s, hs⟩ := exists_child_of_member hm
        exact ih s m.2 hs (h.child hs)
      rw [← VariableMap.ofPairs_of_nodup h.own]
      exact Built.insertAll .empty hmembers

end Variable

end GraphQLClient
