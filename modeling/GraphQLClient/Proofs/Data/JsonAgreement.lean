import GraphQLClient.Proofs.Data.JsonImage
import GraphQLClient.Proofs.Data.Reencoding
import GraphQLClient.Proofs.Variable.FromJson

/-! # Data and its JSON image

What has a JSON image is encoded, and as a variable that equals the image
(`encode_json`). Two things stand apart: files, which JSON has no place for, and
keys of single precision, which the image writes with the fewest digits that give
back the single and encoding with those of the double that it widens to. -/

namespace GraphQLClient

/-! ## Equal members -/

namespace Variable

/-- Two members of one name with equal values. -/
def SameMember (x y : String × Variable) : Prop := x.1 = y.1 ∧ x.2.eqv y.2 = true

theorem eqv_variant {v w : Variable} (h : v.eqv w = true) (variant : String) :
    (object [(variant, v)]).eqv (object [(variant, w)]) = true := by
  simp [eqv, eqvMembers, VariableMap.find?, h]

theorem forall₂_insert {xs ys : VariableMap} {x y : String × Variable}
    (h : List.Forall₂ SameMember xs ys) (hxy : SameMember x y) :
    List.Forall₂ SameMember (VariableMap.insert x.1 x.2 xs) (VariableMap.insert y.1 y.2 ys) := by
  induction h with
  | nil => exact .cons hxy .nil
  | @cons a b as bs hab hrest ih =>
    unfold VariableMap.insert
    by_cases he : a.1 = x.1
    · rw [if_pos he, if_pos (hab.1.symm.trans (he.trans hxy.1))]
      exact .cons ⟨hab.1, hxy.2⟩ hrest
    · have hne : b.1 ≠ y.1 := by
        rw [← hab.1, ← hxy.1]
        exact he
      rw [if_neg he, if_neg hne]
      exact .cons hab ih

/-- **Inserting members and sorting them into a JSON object come to the same**, if the members are
the same. -/
theorem ofPairs_eqv_ofJson {xs : VariableMap} {members : List (String × Json)}
    (h : List.Forall₂ SameMember xs (ofMembers members)) :
    (object (VariableMap.ofPairs xs)).eqv (ofJson (Json.ofMembers members)) = true := by
  have hpairs : List.Forall₂ SameMember (VariableMap.ofPairs xs)
      (VariableMap.ofPairs (ofMembers members)) :=
    List.rel_foldl (P := List.Forall₂ SameMember) (R := SameMember)
      (fun _ _ hm _ _ hxy => forall₂_insert hm hxy) .nil h
  obtain ⟨sorted, hsorted, hkeys, hperm⟩ := ofJson_ofMembers members
  rw [hsorted]
  refine eqv_object_iff.2 ⟨?_, fun x hx => ?_⟩
  · rw [hpairs.length_eq, hperm.length_eq]
  · obtain ⟨y, hy, hxy⟩ := exists_of_mem_forall₂ hpairs hx
    refine ⟨y.2, VariableMap.find?_of_mem hkeys ?_, hxy.2⟩
    rw [hxy.1]
    exact hperm.symm.subset hy

end Variable

namespace Data

/-! ## Plain data -/

/-- The data is neither a file nor outside of what JSON is made of. -/
def Plain : Data → Prop
  | .bytes _ | .wideInteger _ | .failing _ => False
  | .record name _ => name ≠ uploadName
  | _ => True

/-- The number of single precision that a key is. -/
def singleKey? : Data → Option Finite64
  | .single x => Finite64.ofBinary64? x.toSingle
  | .newtypeStruct d => d.singleKey?
  | _ => Option.none

/-- The text of the double that a number of single precision widens to. -/
def widenedText (x : Finite64) : String := (Number.float x).text

/-- Keys of single precision are written as the doubles they widen to. -/
def KeysWiden (single : Finite64 → String) : Data → Prop
  | .map calls =>
    ∀ k, .key k ∈ calls → ∀ x, k.singleKey? = Option.some x → single x = widenedText x
  | _ => True

/-! ## Keys -/

variable {single : Finite64 → String}

theorem keyName?_of_jsonKey? {k : Data} {name : String}
    (hwiden : ∀ x, k.singleKey? = Option.some x → single x = widenedText x)
    (h : k.jsonKey? single = Option.some name) : k.keyName? = Option.some name := by
  induction k using partInduction with
  | node k ih =>
    cases k with
    | newtypeStruct d => exact ih d List.mem_cons_self hwiden h
    | single x =>
      obtain ⟨y, hy, rfl⟩ := Option.map_eq_some_iff.1 h
      exact Option.map_eq_some_iff.2 ⟨y, hy, (hwiden y hy).symm⟩
    | bool | integer | float | char | string | unitVariant => exact h
    | _ => cases h

theorem callMembers?_of_keys {f g : Data → Option String} {pending : Option String}
    {calls : List MapCall} {members : List (String × Data)}
    (hkeys : ∀ k name, .key k ∈ calls → f k = Option.some name → g k = Option.some name)
    (h : callMembers? f pending calls = Option.some members) :
    callMembers? g pending calls = Option.some members := by
  induction calls generalizing pending members with
  | nil => exact h
  | cons call rest ih =>
    have hrest := fun k name hk => hkeys k name (List.mem_cons_of_mem call hk)
    cases call with
    | key k =>
      obtain ⟨name, hname, hmembers⟩ := Option.bind_eq_some_iff.1 h
      exact Option.bind_eq_some_iff.2
        ⟨name, hkeys k name List.mem_cons_self hname, ih hrest hmembers⟩
    | value d =>
      obtain ⟨name, hname, h⟩ := Option.bind_eq_some_iff.1 h
      obtain ⟨behind, hbehind, rfl⟩ := Option.map_eq_some_iff.1 h
      exact Option.bind_eq_some_iff.2
        ⟨name, hname, Option.map_eq_some_iff.2 ⟨behind, ih hrest hbehind, rfl⟩⟩

/-! ## Encoding -/

/-- The data is encoded as a variable that equals the JSON value. -/
def EncodesAs (d : Data) (j : Json) : Prop :=
  ∃ v, d.encode = .ok v ∧ v.eqv (Variable.ofJson j) = true

theorem encodes_items {items : List Data} {js : List Json}
    (h : itemsJson? single items = Option.some js)
    (hp : ∀ p ∈ items, ∀ j, p.json? single = Option.some j → p.EncodesAs j) :
    ∃ vs, encodeItems items = .ok vs ∧
      (Variable.list vs).eqv (Variable.ofJson (.array js)) = true := by
  obtain ⟨vs, hvs, heqv⟩ := forall₂_between (itemsJson?_eq_some_iff.1 h) hp
  refine ⟨vs, encodeItems_eq_ok_iff.2 hvs, ?_⟩
  rw [Variable.ofJson, Variable.eqv, Variable.ofItems_eq_map]
  exact Variable.eqvItems_iff.2 (List.forall₂_map_right_iff.2 heqv)

theorem encodes_members {members : List (String × Data)} {js : List (String × Json)}
    (h : MembersImage single members js)
    (hp : ∀ m ∈ members, ∀ j, m.2.json? single = Option.some j → m.2.EncodesAs j) :
    ∃ m, BuildsMap [] members m ∧
      (Variable.object m).eqv (Variable.ofJson (Json.ofMembers js)) = true := by
  have hbetween : ∀ m ∈ members, ∀ x : String × Json,
      m.1 = x.1 ∧ m.2.json? single = Option.some x.2 →
      ∃ y : String × Variable, (m.1 = y.1 ∧ m.2.encode = .ok y.2) ∧
        Variable.SameMember y (x.1, Variable.ofJson x.2) := by
    rintro m hm x ⟨hname, hj⟩
    obtain ⟨v, hv, heqv⟩ := hp m hm x.2 hj
    exact ⟨(m.1, v), ⟨rfl, hv⟩, hname, heqv⟩
  obtain ⟨xs, hxs, hsame⟩ := forall₂_between h hbetween
  refine ⟨VariableMap.ofPairs xs, ⟨xs, hxs, rfl⟩, Variable.ofPairs_eqv_ofJson ?_⟩
  rw [Variable.ofMembers_eq_map]
  exact List.forall₂_map_right_iff.2 hsame

theorem encodes_fields {fields : List (String × Option Data)} {js : List (String × Json)}
    (h : fieldsJson? single fields = Option.some js)
    (hp : ∀ p ∈ fields.filterMap (·.2), ∀ j, p.json? single = Option.some j → p.EncodesAs j) :
    ∃ m, encodeFields [] fields = .ok m ∧
      (Variable.object m).eqv (Variable.ofJson (Json.ofMembers js)) = true := by
  obtain ⟨m, hm, heqv⟩ := encodes_members (fieldsJson?_eq_some_iff.1 h) fun x hx =>
    hp x.2 (mem_parts_of_mem_fieldMembers hx)
  exact ⟨m, encodeFields_eq_ok_iff.2 hm, heqv⟩

theorem encodes_calls {calls : List MapCall} {js : List (String × Json)}
    (h : callsJson? single Option.none calls = Option.some js)
    (hwiden : KeysWiden single (.map calls))
    (hp : ∀ p ∈ calls.map MapCall.data, ∀ j, p.json? single = Option.some j → p.EncodesAs j) :
    ∃ m, encodeCalls Option.none [] calls = .ok m ∧
      (Variable.object m).eqv (Variable.ofJson (Json.ofMembers js)) = true := by
  obtain ⟨members, hmembers, himage⟩ := callsJson?_eq_some_iff.1 h
  have hkeys : callMembers? keyName? Option.none calls = Option.some members :=
    callMembers?_of_keys (fun k name hk => keyName?_of_jsonKey? (hwiden k hk)) hmembers
  obtain ⟨m, hm, heqv⟩ := encodes_members himage fun x hx =>
    hp x.2 (mem_parts_of_mem_callMembers? hmembers hx)
  exact ⟨m, encodeCalls_eq_ok_iff.2 ⟨members, hkeys, hm⟩, heqv⟩

theorem floatVariable_eqv (x : Binary64) :
    (floatVariable x).eqv (Variable.ofJson (floatJson x)) = true := by
  unfold floatVariable floatJson
  cases Finite64.ofBinary64? x with
  | none => rfl
  | some x => exact Number.eqv_refl (.float x)

theorem EncodesAs.variant {d : Data} {j : Json} (h : d.EncodesAs j) (variant : String) :
    (newtypeVariant variant d).EncodesAs (.object [(variant, j)]) := by
  obtain ⟨v, hv, heqv⟩ := h
  exact ⟨_, map_eq_ok_iff.2 ⟨v, hv, rfl⟩, Variable.eqv_variant heqv variant⟩

/-- Plain data with a JSON image is encoded as a variable that equals it. -/
theorem encodesAs_of_json? {d : Data} {j : Json} (hplain : d.Throughout Plain)
    (hwiden : d.Throughout (KeysWiden single)) (h : d.json? single = Option.some j) :
    d.EncodesAs j := by
  induction d using partInduction generalizing j with
  | node d ih =>
    have hpart : ∀ p ∈ d.parts, ∀ j, p.json? single = Option.some j → p.EncodesAs j :=
      fun p hp j hj => ih p hp (hplain.part hp) (hwiden.part hp) hj
    cases d with
    | bytes | wideInteger | failing => exact hplain.here.elim
    | bool | char | string | unitVariant =>
      cases h
      exact ⟨_, rfl, decide_eq_true rfl⟩
    | none | unit | unitStruct =>
      cases h
      exact ⟨_, rfl, rfl⟩
    | integer n =>
      cases h
      exact ⟨_, rfl, Number.eqv_refl (.integer n)⟩
    | float x | single x =>
      cases h
      exact ⟨_, rfl, floatVariable_eqv _⟩
    | some d | newtypeStruct d => exact hpart d List.mem_cons_self j h
    | newtypeVariant variant d =>
      obtain ⟨i, hi, rfl⟩ := Option.map_eq_some_iff.1 h
      exact (hpart d List.mem_cons_self i hi).variant variant
    | sequence items =>
      obtain ⟨js, hjs, rfl⟩ := Option.map_eq_some_iff.1 h
      obtain ⟨vs, hvs, heqv⟩ := encodes_items hjs hpart
      exact ⟨_, map_eq_ok_iff.2 ⟨vs, hvs, rfl⟩, heqv⟩
    | tupleVariant variant items =>
      obtain ⟨js, hjs, rfl⟩ := Option.map_eq_some_iff.1 h
      obtain ⟨vs, hvs, heqv⟩ := encodes_items hjs hpart
      exact ⟨_, map_eq_ok_iff.2 ⟨vs, hvs, rfl⟩, Variable.eqv_variant heqv variant⟩
    | map calls =>
      obtain ⟨js, hjs, rfl⟩ := Option.map_eq_some_iff.1 h
      obtain ⟨m, hm, heqv⟩ := encodes_calls hjs hwiden.here hpart
      exact ⟨_, map_eq_ok_iff.2 ⟨m, hm, rfl⟩, heqv⟩
    | record name fields =>
      obtain ⟨js, hjs, rfl⟩ := Option.map_eq_some_iff.1 h
      obtain ⟨m, hm, heqv⟩ := encodes_fields hjs hpart
      refine ⟨.object m, ?_, heqv⟩
      rw [encode, hm]
      exact if_neg hplain.here
    | recordVariant variant fields =>
      obtain ⟨js, hjs, rfl⟩ := Option.map_eq_some_iff.1 h
      obtain ⟨m, hm, heqv⟩ := encodes_fields hjs hpart
      exact ⟨_, map_eq_ok_iff.2 ⟨m, hm, rfl⟩, Variable.eqv_variant heqv variant⟩

/-! ## JSON values -/

mutual

/-- A JSON value describes itself. -/
def ofJson : Json → Data
  | .null => .unit
  | .bool b => .bool b
  | .number n => ofNumber n
  | .string s => .string s
  | .array items => .sequence (ofJsonItems items)
  | .object members => .map (ofJsonMembers members)

def ofJsonItems : List Json → List Data
  | [] => []
  | j :: rest => ofJson j :: ofJsonItems rest

def ofJsonMembers : List (String × Json) → List MapCall
  | [] => []
  | (name, j) :: rest => .key (.string name) :: .value (ofJson j) :: ofJsonMembers rest

end

mutual

/-- A JSON value is encoded as the variable it is. -/
theorem encode_ofJson : ∀ j : Json, (ofJson j).encode = .ok (Variable.ofJson j)
  | .null | .bool _ | .string _ => rfl
  | .number n => encode_ofNumber n
  | .array items => map_eq_ok_iff.2 ⟨_, encodeItems_ofJsonItems items, rfl⟩
  | .object members => map_eq_ok_iff.2 ⟨_, encodeCalls_ofJsonMembers members [], rfl⟩

theorem encodeItems_ofJsonItems : ∀ items : List Json,
    encodeItems (ofJsonItems items) = .ok (Variable.ofItems items)
  | [] => rfl
  | j :: rest => by
    rw [ofJsonItems, encodeItems, encode_ofJson j, encodeItems_ofJsonItems rest]
    rfl

theorem encodeCalls_ofJsonMembers : ∀ (members : List (String × Json)) (m : VariableMap),
    encodeCalls Option.none m (ofJsonMembers members) =
      .ok ((Variable.ofMembers members).foldl (fun m x => VariableMap.insert x.1 x.2 m) m)
  | [], _ => rfl
  | (name, j) :: rest, m => by
    show encodeCalls (Option.some name) m (.value (ofJson j) :: ofJsonMembers rest) = _
    rw [encodeCalls, encode_ofJson j]
    exact encodeCalls_ofJsonMembers rest (VariableMap.insert name (Variable.ofJson j) m)

end

/-! ## The image and the variable -/

theorem keysWiden_widenedText (d : Data) : d.Throughout (KeysWiden widenedText) := by
  refine .of_forall (fun d => ?_) d
  cases d with
  | map calls => exact fun _ _ _ _ => rfl
  | _ => trivial

/-- **What has a JSON image is encoded**, as a variable that equals the image in which keys of
single precision are written as the doubles they widen to; this is the image itself if no such key
is written differently. And any JSON value is encoded as the variable it is. -/
theorem encode_json (single : Finite64 → String) :
    (∀ (d : Data) (j : Json), d.Throughout Plain → d.json? single = Option.some j →
      ∃ v, d.encode = .ok v ∧
        (∃ widened, d.json? widenedText = Option.some widened ∧
          v.eqv (Variable.ofJson widened) = true) ∧
        (d.Throughout (KeysWiden single) → v.eqv (Variable.ofJson j) = true)) ∧
    ∀ j : Json, (ofJson j).encode = .ok (Variable.ofJson j) := by
  refine ⟨?_, encode_ofJson⟩
  intro d j hplain h
  obtain ⟨widened, hwidened⟩ := exists_json? widenedText h
  obtain ⟨v, hv, heqv⟩ := encodesAs_of_json? hplain (keysWiden_widenedText d) hwidened
  refine ⟨v, hv, ⟨widened, hwidened, heqv⟩, ?_⟩
  intro hwiden
  obtain ⟨w, hw, heqv⟩ := encodesAs_of_json? hplain hwiden h
  rw [hv] at hw
  cases hw
  exact heqv

/-! ## Keys of single precision -/

/-- The numbers that round to a number of single precision. -/
def singleInterval (x : Binary64) : Binary64.Interval :=
  let step := max (x.scaled.log2 - 23) 925
  let m := x.scaled >>> step
  let below := if m = 0x800000 && 925 < step then 1 else 2
  { low := (4 * m - below) <<< step
    middle := (4 * m) <<< step
    high := (4 * m + 2) <<< step
    den := 4 * Binary64.one
    closed := m % 2 = 0 }

/-- The fewest digits that give back a number of single precision. -/
def singleText (x : Finite64) : String :=
  let start : Int := ((x.val.scaled.log2 : Int) - 1073) * 30103 / 100000 + 1
  (if x.val.isNegative then "-" else "") ++
    if x.val.isZero then "0.0"
    else Number.floatLayout.positive ((singleInterval x.val).search 24 start)

theorem ofBinary64?_val (x : Finite64) : Finite64.ofBinary64? x.val = Option.some x :=
  dif_pos x.property

/-- One half, which is written alike in single and in double precision. -/
def half : Finite64 := ⟨⟨0x3fe0000000000000⟩, by decide⟩

/-- A record with a variant, an option, a skipped field and a map from one half. -/
def sampleWeights : Data :=
  .record "Sample" [
    ("weights", Option.some (.map [.key (.single half.val), .value (.bool true)])),
    ("owner", Option.none),
    ("shape", Option.some (.newtypeVariant "Grid" (.sequence [.some (.string "a"), .none])))]

def sampleWeightsJson : Json :=
  .object [("shape", .object [("Grid", .array [.string "a", .null])]),
    ("weights", .object [("0.5", .bool true)])]

theorem sampleWeights_encodes :
    (sampleWeights.Throughout Plain ∧
      sampleWeights.json? singleText = Option.some sampleWeightsJson ∧
      sampleWeights.Throughout (KeysWiden singleText)) ∧
      ∃ v, sampleWeights.encode = .ok v ∧ v.eqv (Variable.ofJson sampleWeightsJson) = true := by
  have hsingle : half.val.toSingle = half.val := by decide +kernel
  have htext : singleText half = "0.5" := by decide +kernel
  have hwidened : widenedText half = "0.5" := by decide +kernel
  have hplain : sampleWeights.Throughout Plain := by
    have hname : "Sample" ≠ uploadName := by decide
    simp [sampleWeights, MapCall.data, Plain, hname]
  have himage : sampleWeights.json? singleText = Option.some sampleWeightsJson := by
    simp only [sampleWeights, json?, fieldsJson?, callsJson?, itemsJson?, jsonKey?, hsingle,
      ofBinary64?_val, htext, Option.map_some, Option.bind_some]
    rfl
  have hwiden : sampleWeights.Throughout (KeysWiden singleText) := by
    simp [sampleWeights, MapCall.data, KeysWiden, singleKey?, hsingle, ofBinary64?_val, htext,
      hwidened]
  obtain ⟨v, hv, -, heqv⟩ :=
    (encode_json singleText).1 sampleWeights sampleWeightsJson hplain himage
  exact ⟨⟨hplain, himage, hwiden⟩, v, hv, heqv hwiden⟩

/-- The number of single precision nearest one tenth. -/
def singleTenth : Finite64 := ⟨⟨0x3fb99999a0000000⟩, by decide⟩

/-- A map from a number of single precision. -/
def singleKeyed (x : Finite64) : Data := .map [.key (.single x.val), .value (.bool true)]

section SingleKeyed

variable {x : Finite64} (hx : x.val.toSingle = x.val)
include hx

theorem json?_singleKeyed :
    (singleKeyed x).json? single = Option.some (.object [(single x, .bool true)]) := by
  simp [singleKeyed, json?, callsJson?, jsonKey?, hx, ofBinary64?_val, Json.ofMembers,
    Json.insertMember]

theorem encode_singleKeyed :
    (singleKeyed x).encode = .ok (.object [(widenedText x, .bool true)]) := by
  simp [singleKeyed, encode, encodeCalls, hx, floatVariable, ofBinary64?_val, keyText,
    VariableMap.insert, Except.map, widenedText]

end SingleKeyed

/-- One tenth in single precision is written 0.1, and the double it widens to with more digits. -/
theorem singleTenth_differs :
    (singleKeyed singleTenth).Throughout Plain ∧
      ∃ j v, (singleKeyed singleTenth).json? singleText = Option.some j ∧
        (singleKeyed singleTenth).encode = .ok v ∧ v.eqv (Variable.ofJson j) = false := by
  have hsingle : singleTenth.val.toSingle = singleTenth.val := by decide +kernel
  have htext : singleText singleTenth = "0.1" := by decide +kernel
  have hwidened : widenedText singleTenth = "0.10000000149011612" := by decide +kernel
  have hplain : (singleKeyed singleTenth).Throughout Plain := by
    simp [singleKeyed, MapCall.data, Plain]
  refine ⟨hplain, _, _, json?_singleKeyed hsingle, encode_singleKeyed hsingle, ?_⟩
  rw [htext, hwidened]
  rfl

end Data

end GraphQLClient
