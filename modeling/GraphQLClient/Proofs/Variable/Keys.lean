import GraphQLClient.Data.Encoding
import GraphQLClient.Proofs.Variable.Positions

/-! # Distinct keys

Insertion replaces the value where the key stands or appends a member, so a map
that is built by insertion never has a key twice. `Variable.WellKeyed` says this
of all objects in a variable, and `encode_wellKeyed` that encoding builds no
others. -/

namespace GraphQLClient

theorem filter_ne_of_notMem {α : Type} {key : String} {members : List (String × α)}
    (h : key ∉ members.map (·.1)) : members.filter (·.1 ≠ key) = members := by
  refine List.filter_eq_self.2 fun x hx => decide_eq_true ?_
  rintro rfl
  exact h (List.mem_map_of_mem hx)

namespace VariableMap

theorem keys_insert (key : String) (value : Variable) (m : VariableMap) :
    (insert key value m).map (·.1) =
      if key ∈ m.map (·.1) then m.map (·.1) else m.map (·.1) ++ [key] := by
  induction m with
  | nil => rfl
  | cons x rest ih =>
    obtain ⟨k, v⟩ := x
    by_cases hk : k = key
    · simp [insert, hk]
    · rw [insert, if_neg hk, List.map_cons, ih, List.map_cons]
      have hmem : key ∈ k :: rest.map (·.1) ↔ key ∈ rest.map (·.1) := by
        rw [List.mem_cons, or_iff_right (Ne.symm hk)]
      simp only [hmem]
      split_ifs <;> rfl

theorem nodup_keys_insert {m : VariableMap} (hm : (m.map (·.1)).Nodup) (key : String)
    (value : Variable) : ((insert key value m).map (·.1)).Nodup := by
  rw [keys_insert]
  split_ifs with hk
  · exact hm
  · refine List.nodup_append.2 ⟨hm, List.pairwise_singleton _ _, fun k hk' k' hk'' he => hk ?_⟩
    rwa [← List.mem_singleton.1 hk'', ← he]

theorem mem_of_mem_insert {m : VariableMap} {key : String} {value : Variable}
    {x : String × Variable} (h : x ∈ insert key value m) : x = (key, value) ∨ x ∈ m := by
  induction m with
  | nil => exact .inl (List.mem_singleton.1 h)
  | cons y rest ih =>
    obtain ⟨k, v⟩ := y
    unfold insert at h
    split_ifs at h with hk
    · rcases List.mem_cons.1 h with rfl | h
      · exact .inl (by rw [hk])
      · exact .inr (List.mem_cons_of_mem _ h)
    · rcases List.mem_cons.1 h with rfl | h
      · exact .inr List.mem_cons_self
      · exact (ih h).imp_right (List.mem_cons_of_mem _)

theorem insert_of_notMem {key : String} {m : VariableMap} (h : key ∉ m.map (·.1))
    (value : Variable) : insert key value m = m ++ [(key, value)] := by
  induction m with
  | nil => rfl
  | cons x rest ih =>
    obtain ⟨hne, hrest⟩ := not_or.1 (List.mem_cons.not.1 h)
    rw [insert, if_neg (Ne.symm hne), ih hrest, List.cons_append]

/-- Inserting puts the member in the place of those of its key. -/
theorem perm_insert {m : VariableMap} (hm : (m.map (·.1)).Nodup) (key : String)
    (value : Variable) : (insert key value m).Perm ((key, value) :: m.filter (·.1 ≠ key)) := by
  induction m with
  | nil => rfl
  | cons x rest ih =>
    obtain ⟨k, v⟩ := x
    obtain ⟨hk, hrest⟩ := List.nodup_cons.1 hm
    unfold insert
    split_ifs with he
    · subst he
      rw [List.filter_cons_of_neg (by simp), filter_ne_of_notMem hk]
    · rw [List.filter_cons_of_pos (by simpa using he)]
      exact ((ih hrest).cons _).trans (.swap _ _ _)

theorem foldl_insert_of_nodup {m pairs : VariableMap} (h : ((m ++ pairs).map (·.1)).Nodup) :
    pairs.foldl (fun m p => insert p.1 p.2 m) m = m ++ pairs := by
  induction pairs generalizing m with
  | nil => exact (List.append_nil m).symm
  | cons p pairs ih =>
    have hmid : (((p :: (m ++ pairs)) : VariableMap).map (·.1)).Nodup :=
      (List.perm_middle.map _).nodup_iff.1 h
    have hp : p.1 ∉ m.map (·.1) := fun hm =>
      (List.nodup_cons.1 hmid).1 (List.map_subset _ (List.subset_append_left m pairs) hm)
    rw [List.foldl_cons, insert_of_notMem hp, ih (by simpa using h), List.append_assoc]
    rfl

/-- Pairs of distinct keys are the map they are inserted into. -/
theorem ofPairs_of_nodup {pairs : VariableMap} (h : (pairs.map (·.1)).Nodup) :
    ofPairs pairs = pairs := foldl_insert_of_nodup h

theorem find?_of_mem {m : VariableMap} (hm : (m.map (·.1)).Nodup) {key : String} {v : Variable}
    (h : (key, v) ∈ m) : find? key m = some v := by
  induction m with
  | nil => cases h
  | cons x rest ih =>
    obtain ⟨hx, hrest⟩ := List.nodup_cons.1 hm
    rcases List.mem_cons.1 h with rfl | h
    · exact if_pos rfl
    · have hne : x.1 ≠ key := by
        rintro rfl
        exact hx (List.mem_map.2 ⟨_, h, rfl⟩)
      rw [find?, if_neg hne, ih hrest h]

theorem mem_of_find? {m : VariableMap} {key : String} {v : Variable}
    (h : find? key m = some v) : (key, v) ∈ m := by
  induction m with
  | nil => cases h
  | cons x rest ih =>
    unfold find? at h
    by_cases hk : x.1 = key
    · rw [if_pos hk, Option.some.injEq] at h
      rw [← hk, ← h]
      exact List.mem_cons_self
    · rw [if_neg hk] at h
      exact List.mem_cons_of_mem _ (ih h)

theorem find?_eq_none_iff {m : VariableMap} {key : String} :
    find? key m = none ↔ key ∉ m.map (·.1) := by
  induction m with
  | nil => simp [find?]
  | cons x rest ih =>
    by_cases hk : x.1 = key
    · simp [find?, hk]
    · simp [find?, hk, ih, Ne.symm hk]

end VariableMap

namespace Variable

/-- No object in the variable has a key twice. -/
inductive WellKeyed : Variable → Prop
  | node {v : Variable} (own : ∀ members, v = .object members → (members.map (·.1)).Nodup)
      (below : ∀ s w, (s, w) ∈ v.children → WellKeyed w) : WellKeyed v

namespace WellKeyed

theorem own {members : List (String × Variable)} (h : (object members).WellKeyed) :
    (members.map (·.1)).Nodup := by
  obtain ⟨hown, -⟩ := h
  exact hown members rfl

theorem child {v w : Variable} {s : Step} (h : v.WellKeyed) (hw : (s, w) ∈ v.children) :
    w.WellKeyed := by
  obtain ⟨-, hbelow⟩ := h
  exact hbelow s w hw

theorem leaf {v : Variable} (h : v.children = []) (ho : ∀ members, v ≠ .object members) :
    v.WellKeyed :=
  .node (fun members hv => absurd hv (ho members)) (by simp [h])

theorem list {items : List Variable} (h : ∀ v ∈ items, v.WellKeyed) :
    (Variable.list items).WellKeyed := by
  refine .node (fun members hv => by cases hv) fun s w hw => ?_
  obtain ⟨i, hi, he⟩ := List.mem_mapIdx.1 hw
  cases he
  exact h _ (List.getElem_mem hi)

theorem object {members : List (String × Variable)} (hown : (members.map (·.1)).Nodup)
    (h : ∀ m ∈ members, m.2.WellKeyed) : (Variable.object members).WellKeyed := by
  refine .node (fun members' hv => by cases hv; exact hown) fun s w hw => ?_
  obtain ⟨i, hi, he⟩ := List.mem_mapIdx.1 hw
  cases he
  exact h _ (List.getElem_mem hi)

theorem member {members : List (String × Variable)} (h : (Variable.object members).WellKeyed)
    {m : String × Variable} (hm : m ∈ members) : m.2.WellKeyed := by
  obtain ⟨s, hs⟩ := exists_child_of_member hm
  exact h.child hs

theorem item {items : List Variable} (h : (Variable.list items).WellKeyed) {v : Variable}
    (hv : v ∈ items) : v.WellKeyed := by
  obtain ⟨s, hs⟩ := exists_child_of_item hv
  exact h.child hs

theorem empty : (Variable.object []).WellKeyed := .object (by simp) (by simp)

theorem singleton {v : Variable} (h : v.WellKeyed) (key : String) :
    (Variable.object [(key, v)]).WellKeyed := .object (by simp) (by simpa using h)

/-- **Insertion keeps keys distinct**, at every depth. -/
theorem insert {m : VariableMap} (hm : (Variable.object m).WellKeyed) (key : String) {v : Variable}
    (hv : v.WellKeyed) : (Variable.object (VariableMap.insert key v m)).WellKeyed := by
  refine .object (VariableMap.nodup_keys_insert hm.own key v) fun x hx => ?_
  rcases VariableMap.mem_of_mem_insert hx with rfl | hx
  · exact hv
  · exact hm.member hx

end WellKeyed

end Variable

namespace Data

open Variable (WellKeyed)

theorem wellKeyed_floatVariable (x : Binary64) : (floatVariable x).WellKeyed := by
  unfold floatVariable
  split <;> exact .leaf rfl (by simp)

theorem wellKeyed_uploadOfFields {fields : VariableMap} {v : Variable}
    (h : uploadOfFields fields = .ok v) : v.WellKeyed := by
  unfold uploadOfFields at h
  split at h
  · cases h
    exact .leaf rfl (by simp)
  · cases h

/-- What is made of a result is well keyed if it is so whenever there is a result. -/
theorem wellKeyed_of_map {α : Type} {r : Except EncodingFault α} {f : α → Variable} {v : Variable}
    (h : r.map f = .ok v) (hr : ∀ x, r = .ok x → (f x).WellKeyed) : v.WellKeyed := by
  cases r with
  | error e => cases h
  | ok x =>
    cases h
    exact hr x rfl

mutual

/-- **Encoding builds no object with a key twice.** -/
theorem encode_wellKeyed {d : Data} {v : Variable} (h : d.encode = .ok v) : v.WellKeyed := by
  cases d with
  | wideInteger | failing => cases h
  | float x =>
    cases h
    exact wellKeyed_floatVariable x
  | single x =>
    cases h
    exact wellKeyed_floatVariable x.toSingle
  | some d | newtypeStruct d => exact encode_wellKeyed (d := d) h
  | newtypeVariant variant d =>
    exact wellKeyed_of_map h fun v hv => (encode_wellKeyed hv).singleton variant
  | sequence items => exact wellKeyed_of_map h fun vs hvs => .list (encodeItems_wellKeyed hvs)
  | tupleVariant variant items =>
    exact wellKeyed_of_map h fun vs hvs =>
      (WellKeyed.list (encodeItems_wellKeyed hvs)).singleton variant
  | map calls => exact wellKeyed_of_map h fun m hm => encodeCalls_wellKeyed .empty hm
  | record name fields =>
    simp only [encode] at h
    split at h
    · cases h
    · next m hm =>
      split at h
      · exact wellKeyed_uploadOfFields h
      · cases h
        exact encodeFields_wellKeyed .empty hm
  | recordVariant variant fields =>
    exact wellKeyed_of_map h fun m hm => (encodeFields_wellKeyed .empty hm).singleton variant
  | _ =>
    cases h
    exact .leaf rfl (by simp)
termination_by structural d

theorem encodeItems_wellKeyed {items : List Data} {vs : List Variable}
    (h : encodeItems items = .ok vs) : ∀ v ∈ vs, v.WellKeyed := by
  cases items with
  | nil =>
    cases h
    simp
  | cons d rest =>
    simp only [encodeItems] at h
    split at h
    · cases h
    · next v hv =>
      cases hr : encodeItems rest with
      | error e => simp [hr, Except.map] at h
      | ok vs =>
        simp only [hr, Except.map, Except.ok.injEq] at h
        subst h
        exact List.forall_mem_cons.2 ⟨encode_wellKeyed hv, encodeItems_wellKeyed hr⟩
termination_by structural items

theorem encodeCalls_wellKeyed {pending : Option String} {acc m : VariableMap}
    {calls : List MapCall} (hacc : (Variable.object acc).WellKeyed)
    (h : encodeCalls pending acc calls = .ok m) : (Variable.object m).WellKeyed := by
  cases calls with
  | nil =>
    cases h
    exact hacc
  | cons call rest =>
    cases call with
    | key k =>
      simp only [encodeCalls] at h
      split at h
      · cases h
      · split at h
        · cases h
        · exact encodeCalls_wellKeyed hacc h
    | value d =>
      simp only [encodeCalls] at h
      split at h
      · cases h
      · next key =>
        split at h
        · cases h
        · next v hv => exact encodeCalls_wellKeyed (hacc.insert key (encode_wellKeyed hv)) h
termination_by structural calls

theorem encodeFields_wellKeyed {acc m : VariableMap} {fields : List (String × Option Data)}
    (hacc : (Variable.object acc).WellKeyed) (h : encodeFields acc fields = .ok m) :
    (Variable.object m).WellKeyed := by
  cases fields with
  | nil =>
    cases h
    exact hacc
  | cons field rest =>
    obtain ⟨name, _ | d⟩ := field
    · have hrest : encodeFields acc rest = .ok m := h
      exact encodeFields_wellKeyed hacc hrest
    · simp only [encodeFields] at h
      split at h
      · cases h
      · next v hv => exact encodeFields_wellKeyed (hacc.insert name (encode_wellKeyed hv)) h
termination_by structural fields

end

end Data

end GraphQLClient
