import GraphQLClient.Proofs.Data.Members
import GraphQLClient.Proofs.Results

/-! # Encoding by members

`encode` walks through items, calls and fields in three recursions. Here each is
said once by what it makes: a list has its items encoded one by one, a map or a
record inserts its encoded members in order (`BuildsMap`). Later proofs use
these equivalences and do not open the recursions again. -/

namespace GraphQLClient.Data

/-! ## Members -/

/-- Members with what their values are encoded as. -/
def MembersEncode : List (String × Data) → VariableMap → Prop :=
  List.Forall₂ fun m x => m.1 = x.1 ∧ m.2.encode = .ok x.2

/-- Inserting the encoded members one after another makes the map. -/
def BuildsMap (acc : VariableMap) (members : List (String × Data)) (m : VariableMap) : Prop :=
  ∃ xs, MembersEncode members xs ∧ m = xs.foldl (fun m x => VariableMap.insert x.1 x.2 m) acc

theorem buildsMap_nil {acc m : VariableMap} : BuildsMap acc [] m ↔ m = acc := by
  simp [BuildsMap, MembersEncode]

theorem buildsMap_cons {acc m : VariableMap} {name : String} {d : Data}
    {members : List (String × Data)} :
    BuildsMap acc ((name, d) :: members) m ↔
      ∃ v, d.encode = .ok v ∧ BuildsMap (VariableMap.insert name v acc) members m := by
  constructor
  · rintro ⟨xs, hxs, rfl⟩
    obtain ⟨x, rest, ⟨rfl, hv⟩, hrest, rfl⟩ := List.forall₂_cons_left_iff.1 hxs
    exact ⟨x.2, hv, rest, hrest, rfl⟩
  · rintro ⟨v, hv, xs, hxs, rfl⟩
    exact ⟨(name, v) :: xs, .cons ⟨rfl, hv⟩ hxs, rfl⟩

/-! ## Keys -/

theorem floatVariable_of_finite {x : Binary64} (h : x.isFinite = true) :
    floatVariable x = .number (.float ⟨x, h⟩) := by
  simp [floatVariable, Finite64.ofBinary64?, h]

theorem keyText_floatVariable {x : Binary64} {name : String} :
    ((Finite64.ofBinary64? x).map fun x => (Number.float x).text) = Option.some name ↔
      keyText (floatVariable x) = .ok name := by
  unfold floatVariable
  cases Finite64.ofBinary64? x <;> simp [keyText]

theorem exists_upload_of_uploadOfFields {m : VariableMap} {v : Variable}
    (h : uploadOfFields m = .ok v) : ∃ u, v = .upload u := by
  unfold uploadOfFields at h
  split at h
  · cases h
    exact ⟨_, rfl⟩
  · cases h

theorem keyText_uploadOfFields {m : VariableMap} {name : String} :
    (uploadOfFields m).bind keyText ≠ .ok name := by
  intro h
  obtain ⟨v, hv, hname⟩ := bind_eq_ok_iff.1 h
  obtain ⟨u, rfl⟩ := exists_upload_of_uploadOfFields hv
  cases hname

/-- **A key becomes its text**, and only data with such a text can be a key. -/
theorem keyName?_eq_some_iff {k : Data} {name : String} :
    k.keyName? = Option.some name ↔ k.encode.bind keyText = .ok name := by
  induction k using partInduction with
  | node k ih =>
    cases k with
    | some d | newtypeStruct d => exact ih d List.mem_cons_self
    | float x => exact keyText_floatVariable
    | single x => exact keyText_floatVariable
    | newtypeVariant variant d | sequence items | tupleVariant variant items | map calls
    | recordVariant variant fields =>
      simp only [keyName?, encode, bind_eq_ok_iff, map_eq_ok_iff, reduceCtorEq, false_iff]
      rintro ⟨v, ⟨w, -, rfl⟩, hv⟩
      cases hv
    | record n fields =>
      simp only [keyName?, reduceCtorEq, false_iff, encode]
      cases encodeFields [] fields with
      | error e => simp [Except.bind]
      | ok m =>
        by_cases hn : n = uploadName
        · simpa only [hn, if_true] using keyText_uploadOfFields
        · simp [hn, Except.bind, keyText]
    | _ => simp [keyName?, encode, keyText, Except.bind, Number.text]

/-! ## Items, calls and fields -/

theorem encodeItems_eq_ok_iff {items : List Data} {vs : List Variable} :
    encodeItems items = .ok vs ↔ List.Forall₂ (fun d v => d.encode = .ok v) items vs := by
  induction items generalizing vs with
  | nil => simp [encodeItems, eq_comm]
  | cons d rest ih =>
    rw [List.forall₂_cons_left_iff, encodeItems]
    cases hd : d.encode with
    | error e => simp
    | ok v => simp [map_eq_ok_iff, ih, eq_comm (a := vs)]

theorem encodeCalls_key {pending : Option String} {acc : VariableMap} {k : Data}
    {rest : List MapCall} :
    encodeCalls pending acc (.key k :: rest) =
      (k.encode.bind keyText).bind fun name => encodeCalls (Option.some name) acc rest := by
  rw [encodeCalls]
  cases k.encode with
  | error e => rfl
  | ok v =>
    simp only [Except.bind]
    cases keyText v <;> rfl

theorem encodeCalls_eq_ok_iff {pending : Option String} {acc m : VariableMap}
    {calls : List MapCall} :
    encodeCalls pending acc calls = .ok m ↔
      ∃ members, callMembers? keyName? pending calls = Option.some members ∧
        BuildsMap acc members m := by
  induction calls generalizing pending acc with
  | nil => simp [encodeCalls, callMembers?, buildsMap_nil, eq_comm]
  | cons call rest ih =>
    cases call with
    | key k =>
      simp only [encodeCalls_key, bind_eq_ok_iff, ih, callMembers?, Option.bind_eq_some_iff,
        keyName?_eq_some_iff]
      constructor
      · rintro ⟨name, hname, members, hmembers, hm⟩
        exact ⟨members, ⟨name, hname, hmembers⟩, hm⟩
      · rintro ⟨members, ⟨name, hname, hmembers⟩, hm⟩
        exact ⟨name, hname, members, hmembers, hm⟩
    | value d =>
      cases pending with
      | none => simp [encodeCalls, callMembers?]
      | some name =>
        simp only [callMembers?, Option.bind_some, Option.map_eq_some_iff, exists_exists_and_eq_and,
          buildsMap_cons, encodeCalls]
        cases hd : d.encode with
        | error e => simp
        | ok v => simp [ih]

theorem encodeFields_eq_ok_iff {acc m : VariableMap} {fields : List (String × Option Data)} :
    encodeFields acc fields = .ok m ↔ BuildsMap acc (fieldMembers fields) m := by
  induction fields generalizing acc with
  | nil => simp [encodeFields, fieldMembers, buildsMap_nil, eq_comm]
  | cons field rest ih =>
    obtain ⟨name, _ | d⟩ := field
    · exact ih
    · have hcons : fieldMembers ((name, Option.some d) :: rest) =
          (name, d) :: fieldMembers rest := rfl
      rw [hcons, buildsMap_cons, encodeFields]
      cases hd : d.encode with
      | error e => simp
      | ok v => simp [ih]

end GraphQLClient.Data
