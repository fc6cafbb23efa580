import Mathlib.Data.List.Forall2
import GraphQLClient.Data.Encoding

/-! # What data is made of

The parts of a value of data are the values directly under it, the keys of a
map among them; what holds of data if it holds of its parts holds of all data
(`Data.partInduction`). Maps and records alike come down to named members: the
calls of a map are read as members by `callMembers?`, which takes a key for its
text (`keyName?`), and the fields of a record by `fieldMembers`. -/

namespace GraphQLClient

def MapCall.data : MapCall → Data
  | .key d | .value d => d

namespace Data

/-! ## Parts -/

/-- What a value of data is made of, in the order in which it is described. -/
def parts : Data → List Data
  | .some d | .newtypeStruct d | .newtypeVariant _ d => [d]
  | .sequence items | .tupleVariant _ items => items
  | .map calls => calls.map MapCall.data
  | .record _ fields | .recordVariant _ fields => fields.filterMap (·.2)
  | _ => []

theorem sizeOf_lt_of_mem_calls {calls : List MapCall} {p : Data}
    (h : p ∈ calls.map MapCall.data) : sizeOf p < sizeOf calls := by
  obtain ⟨call, hcall, rfl⟩ := List.mem_map.1 h
  have hsize := List.sizeOf_lt_of_mem hcall
  cases call with
  | key d | value d =>
    simp only [MapCall.data, MapCall.key.sizeOf_spec, MapCall.value.sizeOf_spec] at hsize ⊢
    omega

theorem sizeOf_lt_of_mem_fields {fields : List (String × Option Data)} {p : Data}
    (h : p ∈ fields.filterMap (·.2)) : sizeOf p < sizeOf fields := by
  obtain ⟨⟨name, value⟩, hfield, hvalue⟩ := List.mem_filterMap.1 h
  have hsize := List.sizeOf_lt_of_mem hfield
  have hvalue : value = Option.some p := hvalue
  simp only [hvalue, Prod.mk.sizeOf_spec, Option.some.sizeOf_spec] at hsize
  omega

theorem sizeOf_lt_of_mem_parts {d p : Data} (h : p ∈ d.parts) : sizeOf p < sizeOf d := by
  cases d with
  | some d | newtypeStruct d | newtypeVariant variant d =>
    rw [List.mem_singleton.1 h]
    simp only [some.sizeOf_spec, newtypeStruct.sizeOf_spec, newtypeVariant.sizeOf_spec]
    omega
  | sequence items | tupleVariant variant items =>
    have hsize := List.sizeOf_lt_of_mem (show p ∈ items from h)
    simp only [sequence.sizeOf_spec, tupleVariant.sizeOf_spec]
    omega
  | map calls =>
    have hsize := sizeOf_lt_of_mem_calls h
    simp only [map.sizeOf_spec]
    omega
  | record name fields | recordVariant name fields =>
    have hsize := sizeOf_lt_of_mem_fields h
    simp only [record.sizeOf_spec, recordVariant.sizeOf_spec]
    omega
  | _ => cases h

/-- What holds of data if it holds of all its parts holds of all data. -/
theorem partInduction {motive : Data → Prop} (node : ∀ d, (∀ p ∈ d.parts, motive p) → motive d)
    (d : Data) : motive d :=
  node d fun p _part => partInduction node p
termination_by sizeOf d
decreasing_by exact sizeOf_lt_of_mem_parts _part

/-- A condition on data and on everything in it. -/
inductive Throughout (P : Data → Prop) : Data → Prop
  | intro {d : Data} (here : P d) (below : ∀ p ∈ d.parts, Throughout P p) : Throughout P d

namespace Throughout

variable {P : Data → Prop} {d p : Data}

theorem here (h : d.Throughout P) : P d := by
  obtain ⟨hhere, -⟩ := h
  exact hhere

theorem part (h : d.Throughout P) (hp : p ∈ d.parts) : p.Throughout P := by
  obtain ⟨-, hbelow⟩ := h
  exact hbelow p hp

theorem of_forall (h : ∀ d, P d) (d : Data) : d.Throughout P := by
  induction d using partInduction with
  | node d ih => exact .intro (h d) ih

end Throughout

section Kinds

variable {P : Data → Prop}

theorem throughout_iff {d : Data} : d.Throughout P ↔ P d ∧ ∀ p ∈ d.parts, p.Throughout P :=
  ⟨fun h => ⟨h.here, fun _ hp => h.part hp⟩, fun h => .intro h.1 h.2⟩

theorem throughout_leaf {d : Data} (h : d.parts = []) : d.Throughout P ↔ P d := by
  rw [throughout_iff, h, and_iff_left (List.forall_mem_nil _)]

@[simp]
theorem throughout_bool {b : Bool} : (bool b).Throughout P ↔ P (bool b) := throughout_leaf rfl

@[simp]
theorem throughout_single {x : Binary64} : (single x).Throughout P ↔ P (single x) :=
  throughout_leaf rfl

@[simp]
theorem throughout_none : Data.none.Throughout P ↔ P .none := throughout_leaf rfl

@[simp]
theorem throughout_string {s : String} : (string s).Throughout P ↔ P (string s) :=
  throughout_leaf rfl

@[simp]
theorem throughout_bytes {b : Bytes} : (bytes b).Throughout P ↔ P (bytes b) := throughout_leaf rfl

@[simp]
theorem throughout_some {d : Data} : d.some.Throughout P ↔ P d.some ∧ d.Throughout P := by
  rw [throughout_iff, parts, List.forall_mem_singleton]

@[simp]
theorem throughout_newtypeVariant {variant : String} {d : Data} :
    (newtypeVariant variant d).Throughout P ↔ P (newtypeVariant variant d) ∧ d.Throughout P := by
  rw [throughout_iff, parts, List.forall_mem_singleton]

@[simp]
theorem throughout_sequence {items : List Data} :
    (sequence items).Throughout P ↔ P (sequence items) ∧ ∀ d ∈ items, d.Throughout P :=
  throughout_iff

@[simp]
theorem throughout_map {calls : List MapCall} :
    (map calls).Throughout P ↔ P (map calls) ∧ ∀ c ∈ calls, c.data.Throughout P := by
  rw [throughout_iff, parts, List.forall_mem_map]

@[simp]
theorem throughout_record {name : String} {fields : List (String × Option Data)} :
    (record name fields).Throughout P ↔
      P (record name fields) ∧ ∀ d ∈ fields.filterMap (·.2), d.Throughout P :=
  throughout_iff

end Kinds

/-! ## Members -/

/-- The text of a key, none for data that cannot be one. -/
def keyName? : Data → Option String
  | .bool b => Option.some (Json.boolText b)
  | .integer n => Option.some (Number.integer n).text
  | .float x => (Finite64.ofBinary64? x).map fun x => (Number.float x).text
  | .single x => (Finite64.ofBinary64? x.toSingle).map fun x => (Number.float x).text
  | .char c => Option.some (String.singleton c)
  | .string s | .unitVariant s => Option.some s
  | .some d | .newtypeStruct d => d.keyName?
  | _ => Option.none

/-- The members that the calls of a map give, none if a key has no text or a value no key. `text?`
is how a key is written and `pending` the key that waits for its value. -/
def callMembers? (text? : Data → Option String) (pending : Option String) :
    List MapCall → Option (List (String × Data))
  | [] => Option.some []
  | .key k :: rest => (text? k).bind fun name => callMembers? text? (Option.some name) rest
  | .value d :: rest =>
    pending.bind fun name => (callMembers? text? Option.none rest).map ((name, d) :: ·)

/-- The fields of a record that have a value. -/
def fieldMembers (fields : List (String × Option Data)) : List (String × Data) :=
  fields.filterMap fun f => f.2.map (f.1, ·)

theorem mem_parts_of_mem_callMembers? {text? : Data → Option String} {pending : Option String}
    {calls : List MapCall} {members : List (String × Data)} {m : String × Data}
    (h : callMembers? text? pending calls = Option.some members) (hm : m ∈ members) :
    m.2 ∈ calls.map MapCall.data := by
  induction calls generalizing pending members with
  | nil =>
    cases h
    cases hm
  | cons call rest ih =>
    cases call with
    | key k =>
      obtain ⟨name, -, hrest⟩ := Option.bind_eq_some_iff.1 h
      exact List.mem_cons_of_mem _ (ih hrest hm)
    | value d =>
      obtain ⟨name, -, hrest⟩ := Option.bind_eq_some_iff.1 h
      obtain ⟨members, hmembers, rfl⟩ := Option.map_eq_some_iff.1 hrest
      rcases List.mem_cons.1 hm with rfl | hm
      · exact List.mem_cons_self
      · exact List.mem_cons_of_mem _ (ih hmembers hm)

theorem mem_parts_of_mem_fieldMembers {fields : List (String × Option Data)} {m : String × Data}
    (hm : m ∈ fieldMembers fields) : m.2 ∈ fields.filterMap (·.2) := by
  obtain ⟨field, hfield, hvalue⟩ := List.mem_filterMap.1 hm
  obtain ⟨d, hd, rfl⟩ := Option.map_eq_some_iff.1 hvalue
  exact List.mem_filterMap.2 ⟨field, hfield, hd⟩

end Data

end GraphQLClient
