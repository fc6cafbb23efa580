import Mathlib.Logic.Relation
import GraphQLClient.Failure
import GraphQLClient.Proofs.Data.Encoding
import GraphQLClient.Proofs.Variable.History

/-! # The objects that encoding makes

Every object in encoded data, at whatever depth, comes of the members that some
part of the data describes, put in one after another (`objects_encode`). So it
is as the history of these insertions says: of members whose keys have one text,
the first gives the place and the last the value. -/

namespace GraphQLClient

namespace Variable

/-- A condition on every object in a variable. -/
def Objects (P : VariableMap → Prop) (v : Variable) : Prop :=
  ∀ p m, v.at? p = some (.object m) → P m

namespace Objects

variable {P Q : VariableMap → Prop}

theorem imp {v : Variable} (h : v.Objects P) (hPQ : ∀ m, P m → Q m) : v.Objects Q :=
  fun p m hm => hPQ m (h p m hm)

/-- The objects are those of the children, and the variable itself if it is one. -/
theorem node {v : Variable} (own : ∀ m, v = .object m → P m)
    (below : ∀ s w, (s, w) ∈ v.children → w.Objects P) : v.Objects P := by
  intro p m hm
  cases p with
  | nil => exact own m (Option.some.inj hm)
  | cons s p =>
    obtain ⟨w, hw, hm⟩ := Option.bind_eq_some_iff.1 hm
    exact below s w (mem_children.2 hw) p m hm

theorem leaf {v : Variable} (h : v.children = []) (ho : ∀ m, v ≠ .object m) : v.Objects P :=
  .node (fun m hm => absurd hm (ho m)) (by simp [h])

theorem list {items : List Variable} (h : ∀ v ∈ items, v.Objects P) :
    (Variable.list items).Objects P := by
  refine .node (fun m hm => by cases hm) fun s w hw => ?_
  obtain ⟨i, hi, he⟩ := List.mem_mapIdx.1 hw
  cases he
  exact h _ (List.getElem_mem hi)

theorem object {m : VariableMap} (hm : P m) (h : ∀ x ∈ m, x.2.Objects P) :
    (Variable.object m).Objects P := by
  refine .node (fun m' he => by cases he; exact hm) fun s w hw => ?_
  obtain ⟨i, hi, he⟩ := List.mem_mapIdx.1 hw
  cases he
  exact h _ (List.getElem_mem hi)

end Objects

end Variable

namespace Data

open Variable (Objects)
open VariableMap (Told Edit)

/-- A part of the data, at whatever depth. -/
def Within (q d : Data) : Prop := Relation.ReflTransGen (fun d q => q ∈ d.parts) d q

/-- The members that data gives for an object, repetitions included. A variant with fields gives
two objects, its own and that of the fields. -/
inductive Describes : Data → List (String × Data) → Prop
  | map {calls : List MapCall} {members : List (String × Data)}
      (h : callMembers? keyName? Option.none calls = Option.some members) :
      Describes (.map calls) members
  | record (name : String) (fields : List (String × Option Data)) :
      Describes (.record name fields) (fieldMembers fields)
  | newtypeVariant (variant : String) (d : Data) :
      Describes (.newtypeVariant variant d) [(variant, d)]
  | tupleVariant (variant : String) (items : List Data) :
      Describes (.tupleVariant variant items) [(variant, .sequence items)]
  | recordVariant (variant : String) (fields : List (String × Option Data)) :
      Describes (.recordVariant variant fields) [(variant, .record "" fields)]
  | variantFields (variant : String) (fields : List (String × Option Data)) :
      Describes (.recordVariant variant fields) (fieldMembers fields)

/-- The map is that of the encoded members, as they are inserted one after another. -/
def Collects (members : List (String × Data)) (m : VariableMap) : Prop :=
  ∃ xs, MembersEncode members xs ∧ Told (xs.map fun x => Edit.insert x.1 x.2) m

/-- The map collects what some part of the data describes. -/
def Source (d : Data) (m : VariableMap) : Prop :=
  ∃ (q : Data) (members : List (String × Data)), q.Within d ∧ q.Describes members ∧ Collects members m

theorem collects_iff {members : List (String × Data)} {m : VariableMap} :
    Collects members m ↔ BuildsMap [] members m := by
  refine exists_congr fun xs => and_congr_right fun _ => ?_
  rw [VariableMap.told_iff, VariableMap.run, List.foldl_map]
  rfl

theorem collects_singleton {name : String} {d : Data} {v : Variable} (h : d.encode = .ok v) :
    Collects [(name, d)] [(name, v)] := by
  rw [collects_iff, buildsMap_cons]
  exact ⟨v, h, buildsMap_nil.2 rfl⟩

theorem Describes.source {d : Data} {members : List (String × Data)} {m : VariableMap}
    (h : d.Describes members) (hm : Collects members m) : d.Source m :=
  ⟨d, members, .refl, h, hm⟩

theorem Source.of_part {d p : Data} {m : VariableMap} (hp : p ∈ d.parts) (h : p.Source m) :
    d.Source m := by
  obtain ⟨q, members, hq, h⟩ := h
  exact ⟨q, members, hq.head hp, h⟩

theorem mem_of_mem_foldl_insert {acc xs : VariableMap} {x : String × Variable}
    (h : x ∈ xs.foldl (fun m x => VariableMap.insert x.1 x.2 m) acc) : x ∈ acc ∨ x ∈ xs := by
  induction xs generalizing acc with
  | nil => exact .inl h
  | cons y xs ih =>
    rcases ih h with h | h
    · rcases VariableMap.mem_of_mem_insert h with rfl | h
      · exact .inr List.mem_cons_self
      · exact .inl h
    · exact .inr (List.mem_cons_of_mem _ h)

/-- What stands in the map is the encoding of a member. -/
theorem BuildsMap.exists_member {members : List (String × Data)} {m : VariableMap}
    (h : BuildsMap [] members m) {x : String × Variable} (hx : x ∈ m) :
    ∃ y ∈ members, y.2.encode = .ok x.2 := by
  obtain ⟨xs, hxs, rfl⟩ := h
  have hx := (mem_of_mem_foldl_insert hx).resolve_left List.not_mem_nil
  obtain ⟨y, hy, -, he⟩ := exists_of_mem_forall₂ hxs.flip hx
  exact ⟨y, hy, he⟩

theorem objects_floatVariable {P : VariableMap → Prop} (x : Binary64) :
    (floatVariable x).Objects P := by
  unfold floatVariable
  split <;> exact .leaf rfl (by simp)

section Compounds

variable {d : Data} {P : VariableMap → Prop}

/-- An object of members whose values are encoded from parts of the data. -/
theorem objects_of_buildsMap {members : List (String × Data)} {m : VariableMap}
    (ih : ∀ p ∈ d.parts, ∀ v, p.encode = .ok v → v.Objects P)
    (hparts : ∀ y ∈ members, y.2 ∈ d.parts) (hm : BuildsMap [] members m) (hP : P m) :
    (Variable.object m).Objects P := by
  refine .object hP fun x hx => ?_
  obtain ⟨y, hy, he⟩ := hm.exists_member hx
  exact ih y.2 (hparts y hy) x.2 he

theorem objects_of_encodeItems {items : List Data} {vs : List Variable}
    (ih : ∀ p ∈ items, ∀ v, p.encode = .ok v → v.Objects P)
    (hvs : encodeItems items = .ok vs) : (Variable.list vs).Objects P := by
  refine .list fun v hv => ?_
  obtain ⟨p, hp, he⟩ := exists_of_mem_forall₂ (encodeItems_eq_ok_iff.1 hvs).flip hv
  exact ih p hp v he

/-- The object of a variant has one member. -/
theorem objects_singleton {name : String} {v : Variable} (hP : P [(name, v)])
    (hv : v.Objects P) : (Variable.object [(name, v)]).Objects P :=
  .object hP fun x hx => by rwa [List.mem_singleton.1 hx]

end Compounds

/-- The object of a map collects the members that the calls give. -/
theorem collects_of_map {calls : List MapCall} {v : Variable}
    (h : (map calls).encode = .ok v) :
    ∃ members m, callMembers? keyName? Option.none calls = Option.some members ∧
      v = .object m ∧ Collects members m := by
  obtain ⟨m, hm, rfl⟩ := map_eq_ok_iff.1 h
  obtain ⟨members, hmembers, hm⟩ := encodeCalls_eq_ok_iff.1 hm
  exact ⟨members, m, hmembers, rfl, collects_iff.2 hm⟩

/-- **Every object comes of members that a part of the data describes**, first ones giving the
places and last ones the values. -/
theorem objects_encode {d : Data} {v : Variable} (h : d.encode = .ok v) :
    v.Objects d.Source := by
  induction d using partInduction generalizing v with
  | node d ih =>
    have hpart : ∀ p ∈ d.parts, ∀ w, p.encode = .ok w → w.Objects d.Source :=
      fun p hp w hw => (ih p hp hw).imp fun m hm => hm.of_part hp
    cases d with
    | wideInteger | failing => cases h
    | float x =>
      cases h
      exact objects_floatVariable x
    | single x =>
      cases h
      exact objects_floatVariable x.toSingle
    | some d | newtypeStruct d => exact hpart d List.mem_cons_self v h
    | newtypeVariant variant d =>
      obtain ⟨w, hw, rfl⟩ := map_eq_ok_iff.1 h
      exact objects_singleton ((Describes.newtypeVariant variant d).source (collects_singleton hw))
        (hpart d List.mem_cons_self w hw)
    | sequence items =>
      obtain ⟨vs, hvs, rfl⟩ := map_eq_ok_iff.1 h
      exact objects_of_encodeItems hpart hvs
    | tupleVariant variant items =>
      obtain ⟨vs, hvs, rfl⟩ := map_eq_ok_iff.1 h
      have hlist : (sequence items).encode = .ok (.list vs) := map_eq_ok_iff.2 ⟨vs, hvs, rfl⟩
      exact objects_singleton
        ((Describes.tupleVariant variant items).source (collects_singleton hlist))
        (objects_of_encodeItems hpart hvs)
    | map calls =>
      obtain ⟨members, m, hmembers, rfl, hm⟩ := collects_of_map h
      exact objects_of_buildsMap hpart (fun y hy => mem_parts_of_mem_callMembers? hmembers hy)
        (collects_iff.1 hm) ((Describes.map hmembers).source hm)
    | record name fields =>
      simp only [encode] at h
      split at h
      · cases h
      · next m hm =>
        have hm := encodeFields_eq_ok_iff.1 hm
        split at h
        · obtain ⟨u, rfl⟩ := exists_upload_of_uploadOfFields h
          exact .leaf rfl (by simp)
        · cases h
          exact objects_of_buildsMap hpart (fun y hy => mem_parts_of_mem_fieldMembers hy) hm
            ((Describes.record name fields).source (collects_iff.2 hm))
    | recordVariant variant fields =>
      obtain ⟨m, hm, rfl⟩ := map_eq_ok_iff.1 h
      -- The fields are encoded as those of a record without a reserved name.
      have hrecord : (record "" fields).encode = .ok (.object m) := by
        rw [encode, hm]
        exact if_neg (by decide)
      have hm := encodeFields_eq_ok_iff.1 hm
      exact objects_singleton
        ((Describes.recordVariant variant fields).source (collects_singleton hrecord))
        (objects_of_buildsMap hpart (fun y hy => mem_parts_of_mem_fieldMembers hy) hm
          ((Describes.variantFields variant fields).source (collects_iff.2 hm)))
    | _ =>
      cases h
      exact .leaf rfl (by simp)

end Data

theorem Data.encode_of_toVariables {d : Data} {v : Variable} (h : d.toVariables = .ok v) :
    d.encode = .ok v := by
  unfold toVariables at h
  cases hd : d.encode with
  | error fault => simp [hd, Except.mapError] at h
  | ok w => simpa [hd, Except.mapError] using h

/-- **Maps keep the order of insertion**, whatever is done to them, and so do all the objects that
encoding makes of the members of data. -/
theorem insertionOrdered :
    (∀ acts, VariableMap.Orderly acts) ∧
      (∀ calls v, Data.toVariables (.map calls) = .ok v →
        ∃ members m, Data.callMembers? Data.keyName? none calls = some members ∧
          v = .object m ∧ Data.Collects members m) ∧
      ∀ d v, Data.toVariables d = .ok v → v.Objects d.Source :=
  ⟨VariableMap.orderly, fun _ _ h => Data.collects_of_map (Data.encode_of_toVariables h),
    fun _ _ h => Data.objects_encode (Data.encode_of_toVariables h)⟩

/-- The key `true` and its text are one key: it keeps its place and has the later value. -/
theorem insertionOrdered_colliding :
    ∃ m, Data.toVariables (.entries [(.bool true, .unit), (.string "a", .bool false),
        (.string "true", .string "last")]) = .ok (.object m) ∧
      m = [("true", .string "last"), ("a", .bool false)] ∧
      Data.Collects [("true", .unit), ("a", .bool false), ("true", .string "last")] m := by
  obtain ⟨members, m, hmembers, hv, hm⟩ := insertionOrdered.2.1 _ _ (rfl :
    Data.toVariables (.entries [(.bool true, .unit), (.string "a", .bool false),
        (.string "true", .string "last")]) =
      .ok (.object [("true", .string "last"), ("a", .bool false)]))
  cases hv
  cases hmembers
  exact ⟨_, rfl, rfl, hm⟩

end GraphQLClient
