import GraphQLClient.Proofs.Data.Members
import GraphQLClient.Proofs.Results

/-! # The JSON image of data

The usual image of data in JSON (`Data.json?`): whole numbers and floats become
numbers, a variant becomes an object with the variant's name as its one member,
and maps and records become objects, which keep their members sorted. A key of a
map is written as text (`jsonKey?`); how a key of single precision is written is
left open, and whether data has an image does not depend on it (`exists_json?`). -/

namespace GraphQLClient

namespace Data

/-! ## The image -/

/-- A double in JSON. -/
def floatJson (x : Binary64) : Json :=
  match Finite64.ofBinary64? x with
  | Option.some x => .number (.float x)
  | Option.none => .null

/-- The text of a key in JSON, none for data that cannot be one. `single` writes a number of single
precision. -/
def jsonKey? (single : Finite64 → String) : Data → Option String
  | .bool b => Option.some (Json.boolText b)
  | .integer n => Option.some (Number.integer n).text
  | .float x => (Finite64.ofBinary64? x).map fun x => (Number.float x).text
  | .single x => (Finite64.ofBinary64? x.toSingle).map single
  | .char c => Option.some (String.singleton c)
  | .string s | .unitVariant s => Option.some s
  | .newtypeStruct d => d.jsonKey? single
  | _ => Option.none

section Image

variable (single : Finite64 → String)

mutual

/-- The JSON image of data, none if it has none: whole numbers are those of 64 bits, a float that is
not finite is null, a variant is an object with the variant's name as its one member, and of several
members of one name the last counts. -/
def json? : Data → Option Json
  | .bool b => Option.some (.bool b)
  | .integer n => Option.some (.number (.integer n))
  | .float x => Option.some (floatJson x)
  | .single x => Option.some (floatJson x.toSingle)
  | .char c => Option.some (.string (String.singleton c))
  | .string s | .unitVariant s => Option.some (.string s)
  | .bytes b => Option.some (.array (b.map fun byte => .number (.ofUInt64 byte.toUInt64)))
  | .none | .unit | .unitStruct => Option.some .null
  | .some d | .newtypeStruct d => json? d
  | .newtypeVariant variant d => (json? d).map fun j => .object [(variant, j)]
  | .sequence items => (itemsJson? items).map .array
  | .tupleVariant variant items =>
    (itemsJson? items).map fun js => .object [(variant, .array js)]
  | .map calls => (callsJson? Option.none calls).map Json.ofMembers
  | .record _ fields => (fieldsJson? fields).map Json.ofMembers
  | .recordVariant variant fields =>
    (fieldsJson? fields).map fun members => .object [(variant, Json.ofMembers members)]
  | .wideInteger _ | .failing _ => Option.none

def itemsJson? : List Data → Option (List Json)
  | [] => Option.some []
  | d :: rest => (json? d).bind fun j => (itemsJson? rest).map (j :: ·)

/-- The members that calls give, `pending` being the key that waits for its value. -/
def callsJson? (pending : Option String) : List MapCall → Option (List (String × Json))
  | [] => Option.some []
  | .key k :: rest => (k.jsonKey? single).bind fun name => callsJson? (Option.some name) rest
  | .value d :: rest =>
    pending.bind fun name =>
      (json? d).bind fun j => (callsJson? Option.none rest).map ((name, j) :: ·)

def fieldsJson? : List (String × Option Data) → Option (List (String × Json))
  | [] => Option.some []
  | (_, Option.none) :: rest => fieldsJson? rest
  | (name, Option.some d) :: rest =>
    (json? d).bind fun j => (fieldsJson? rest).map ((name, j) :: ·)

end

end Image

/-! ## What has an image -/

variable {single : Finite64 → String}

/-- Members with the images of their values. -/
def MembersImage (single : Finite64 → String) :
    List (String × Data) → List (String × Json) → Prop :=
  List.Forall₂ fun m x => m.1 = x.1 ∧ m.2.json? single = Option.some x.2

theorem itemsJson?_eq_some_iff {items : List Data} {js : List Json} :
    itemsJson? single items = Option.some js ↔
      List.Forall₂ (fun d j => d.json? single = Option.some j) items js := by
  induction items generalizing js with
  | nil => simp [itemsJson?, eq_comm]
  | cons d rest ih =>
    rw [List.forall₂_cons_left_iff, itemsJson?]
    simp [Option.bind_eq_some_iff, Option.map_eq_some_iff, ih, eq_comm (a := js)]

theorem membersImage_cons {name : String} {d : Data} {members : List (String × Data)}
    {js : List (String × Json)} :
    MembersImage single ((name, d) :: members) js ↔ ∃ j, d.json? single = Option.some j ∧
      ∃ rest, MembersImage single members rest ∧ (name, j) :: rest = js := by
  rw [MembersImage, List.forall₂_cons_left_iff]
  constructor
  · rintro ⟨⟨_, j⟩, rest, ⟨rfl, hj⟩, hrest, rfl⟩
    exact ⟨j, hj, rest, hrest, rfl⟩
  · rintro ⟨j, hj, rest, hrest, rfl⟩
    exact ⟨(name, j), rest, ⟨rfl, hj⟩, hrest, rfl⟩

theorem fieldsJson?_eq_some_iff {fields : List (String × Option Data)}
    {js : List (String × Json)} :
    fieldsJson? single fields = Option.some js ↔ MembersImage single (fieldMembers fields) js := by
  induction fields generalizing js with
  | nil => simp [fieldsJson?, fieldMembers, MembersImage, eq_comm]
  | cons field rest ih =>
    obtain ⟨name, _ | d⟩ := field
    · exact ih
    · have hcons : fieldMembers ((name, Option.some d) :: rest) =
          (name, d) :: fieldMembers rest := rfl
      rw [hcons, membersImage_cons, fieldsJson?]
      simp [Option.bind_eq_some_iff, Option.map_eq_some_iff, ih]

theorem callsJson?_eq_some_iff {pending : Option String} {calls : List MapCall}
    {js : List (String × Json)} :
    callsJson? single pending calls = Option.some js ↔
      ∃ members, callMembers? (jsonKey? single) pending calls = Option.some members ∧
        MembersImage single members js := by
  induction calls generalizing pending js with
  | nil => simp [callsJson?, callMembers?, MembersImage, eq_comm]
  | cons call rest ih =>
    cases call with
    | key k =>
      simp only [callsJson?, callMembers?, Option.bind_eq_some_iff, ih]
      constructor
      · rintro ⟨name, hname, members, hmembers, hjs⟩
        exact ⟨members, ⟨name, hname, hmembers⟩, hjs⟩
      · rintro ⟨members, ⟨name, hname, hmembers⟩, hjs⟩
        exact ⟨name, hname, members, hmembers, hjs⟩
    | value d =>
      cases pending with
      | none => simp [callsJson?, callMembers?]
      | some name =>
        simp only [callsJson?, callMembers?, Option.bind_some, Option.bind_eq_some_iff,
          Option.map_eq_some_iff, ih, exists_exists_and_eq_and, membersImage_cons]
        constructor
        · rintro ⟨j, hj, behind, ⟨members, hmembers, hbehind⟩, rfl⟩
          exact ⟨members, hmembers, j, hj, behind, hbehind, rfl⟩
        · rintro ⟨members, hmembers, j, hj, behind, hbehind, rfl⟩
          exact ⟨j, hj, behind, ⟨members, hmembers, hbehind⟩, rfl⟩

/-! ## Whatever the text of keys of single precision -/

section OtherText

variable (other : Finite64 → String)

theorem exists_jsonKey? {k : Data} {name : String} (h : k.jsonKey? single = Option.some name) :
    ∃ name, k.jsonKey? other = Option.some name := by
  induction k using partInduction with
  | node k ih =>
    cases k with
    | newtypeStruct d => exact ih d List.mem_cons_self h
    | single x =>
      obtain ⟨y, hy, -⟩ := Option.map_eq_some_iff.1 h
      exact ⟨other y, Option.map_eq_some_iff.2 ⟨y, hy, rfl⟩⟩
    | bool | integer | float | char | string | unitVariant => exact ⟨name, h⟩
    | _ => cases h

theorem exists_itemsJson? {items : List Data} {js : List Json}
    (h : itemsJson? single items = Option.some js)
    (hp : ∀ p ∈ items, ∀ j, p.json? single = Option.some j → ∃ j, p.json? other = Option.some j) :
    ∃ js, itemsJson? other items = Option.some js := by
  obtain ⟨js, hjs, -⟩ := forall₂_between (T := fun _ _ => True) (itemsJson?_eq_some_iff.1 h)
    fun p hmem j hj => (hp p hmem j hj).imp fun _ hj => ⟨hj, trivial⟩
  exact ⟨js, itemsJson?_eq_some_iff.2 hjs⟩

theorem exists_fieldsJson? {fields : List (String × Option Data)} {js : List (String × Json)}
    (h : fieldsJson? single fields = Option.some js)
    (hp : ∀ p ∈ fields.filterMap (·.2), ∀ j, p.json? single = Option.some j →
      ∃ j, p.json? other = Option.some j) :
    ∃ js, fieldsJson? other fields = Option.some js := by
  have hbetween : ∀ m ∈ fieldMembers fields, ∀ x : String × Json,
      m.1 = x.1 ∧ m.2.json? single = Option.some x.2 →
      ∃ y : String × Json, (m.1 = y.1 ∧ m.2.json? other = Option.some y.2) ∧ x.1 = y.1 := by
    rintro m hm x ⟨hname, hj⟩
    obtain ⟨j, hj⟩ := hp m.2 (mem_parts_of_mem_fieldMembers hm) x.2 hj
    exact ⟨(m.1, j), ⟨rfl, hj⟩, hname.symm⟩
  obtain ⟨js, hjs, -⟩ := forall₂_between (fieldsJson?_eq_some_iff.1 h) hbetween
  exact ⟨js, fieldsJson?_eq_some_iff.2 hjs⟩

theorem exists_callsJson? {pending pending' : Option String} {calls : List MapCall}
    {js : List (String × Json)} (h : callsJson? single pending calls = Option.some js)
    (hpending : pending.isSome → pending'.isSome)
    (hp : ∀ p ∈ calls.map MapCall.data, ∀ j, p.json? single = Option.some j →
      ∃ j, p.json? other = Option.some j) :
    ∃ js, callsJson? other pending' calls = Option.some js := by
  induction calls generalizing pending pending' js with
  | nil => exact ⟨[], rfl⟩
  | cons call rest ih =>
    obtain ⟨hcall, hrest⟩ := List.forall_mem_cons.1 hp
    cases call with
    | key k =>
      obtain ⟨name, hname, h⟩ := Option.bind_eq_some_iff.1 h
      obtain ⟨name', hname'⟩ := exists_jsonKey? other hname
      have hsome : (Option.some name).isSome → (Option.some name').isSome := fun _ => rfl
      obtain ⟨js, hjs⟩ := ih h hsome hrest
      exact ⟨js, Option.bind_eq_some_iff.2 ⟨name', hname', hjs⟩⟩
    | value d =>
      obtain ⟨name, hname, h⟩ := Option.bind_eq_some_iff.1 h
      obtain ⟨j, hj, h⟩ := Option.bind_eq_some_iff.1 h
      obtain ⟨behind, hbehind, -⟩ := Option.map_eq_some_iff.1 h
      obtain ⟨name', hname'⟩ := Option.isSome_iff_exists.1 (hpending (hname ▸ rfl))
      obtain ⟨j', hj'⟩ : ∃ j, d.json? other = Option.some j := hcall j hj
      obtain ⟨js, hjs⟩ := ih hbehind id hrest
      exact ⟨(name', j') :: js, by simp [callsJson?, hname', hj', hjs]⟩

/-- Whether data has an image does not depend on how keys of single precision are written. -/
theorem exists_json? {d : Data} {j : Json} (h : d.json? single = Option.some j) :
    ∃ j, d.json? other = Option.some j := by
  induction d using partInduction generalizing j with
  | node d ih =>
    cases d with
    | some d | newtypeStruct d => exact ih d List.mem_cons_self h
    | newtypeVariant variant d =>
      obtain ⟨i, hi, -⟩ := Option.map_eq_some_iff.1 h
      obtain ⟨i, hi⟩ := ih d List.mem_cons_self hi
      exact ⟨_, Option.map_eq_some_iff.2 ⟨i, hi, rfl⟩⟩
    | sequence items | tupleVariant variant items =>
      obtain ⟨js, hjs, -⟩ := Option.map_eq_some_iff.1 h
      obtain ⟨js, hjs⟩ := exists_itemsJson? other hjs ih
      exact ⟨_, Option.map_eq_some_iff.2 ⟨js, hjs, rfl⟩⟩
    | map calls =>
      obtain ⟨js, hjs, -⟩ := Option.map_eq_some_iff.1 h
      obtain ⟨js, hjs⟩ := exists_callsJson? other hjs id ih
      exact ⟨_, Option.map_eq_some_iff.2 ⟨js, hjs, rfl⟩⟩
    | record name fields | recordVariant variant fields =>
      obtain ⟨js, hjs, -⟩ := Option.map_eq_some_iff.1 h
      obtain ⟨js, hjs⟩ := exists_fieldsJson? other hjs ih
      exact ⟨_, Option.map_eq_some_iff.2 ⟨js, hjs, rfl⟩⟩
    | wideInteger | failing => cases h
    | _ => exact ⟨j, h⟩

end OtherText

end Data

end GraphQLClient
