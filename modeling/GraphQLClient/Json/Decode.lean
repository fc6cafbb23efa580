import GraphQLClient.Json.Reader

/-!
Decoding a JSON value as a value of some type. A record comes from an object, whose members are
taken in the order of their names and passed over where unknown, or from an array that holds exactly
its fields in order. The first mismatch met is the one reported; a missing field comes after those.
-/

namespace GraphQLClient.Json

def Decoder (α : Type) := Json → Except Mismatch α

namespace Decoder

variable {α σ : Type}

def wrongType (expected : String) (v : Json) : Except Mismatch α :=
  .error (.invalidType (found v) expected)

def value : Decoder Json := fun v => .ok v

def unit : Decoder Unit
  | .null => .ok ()
  | v => wrongType "unit" v

def string : Decoder String
  | .string s => .ok s
  | v => wrongType "a string" v

def word32 : Decoder UInt32
  | .number n => Reader.word32Of n
  | v => wrongType "u32" v

def optional (item : Decoder α) : Decoder (Option α)
  | .null => .ok none
  | v => (item v).map some

/-- A field of a record under construction. -/
structure Field (σ : Type) where
  name : String
  decode : σ → Decoder σ

def Field.of (name : String) (item : Decoder α) (set : σ → α → σ) : Field σ :=
  ⟨name, fun s v => (item v).map (set s)⟩

structure Shape (σ α : Type) where
  name : String
  start : σ
  fields : List (Field σ)
  finish : σ → Except Mismatch α

def Shape.lengthText (shape : Shape σ α) : String :=
  "struct " ++ shape.name ++ " with " ++ toString shape.fields.length ++
    if shape.fields.length = 1 then " element" else " elements"

/-- The fields in order; what is left of the items is given back. -/
def elementsFrom (shape : Shape σ α) :
    List (Field σ) → Nat → σ → List Json → Except Mismatch (σ × List Json)
  | [], _, s, items => .ok (s, items)
  | _ :: _, index, _, [] => .error (.invalidLength index shape.lengthText)
  | f :: rest, index, s, v :: items =>
    match f.decode s v with
    | .error e => .error e
    | .ok s => elementsFrom shape rest (index + 1) s items

def membersFrom (shape : Shape σ α) : σ → List (String × Json) → Except Mismatch σ
  | s, [] => .ok s
  | s, (name, v) :: rest =>
    match shape.fields.find? (·.name = name) with
    | none => membersFrom shape s rest
    | some f =>
      match f.decode s v with
      | .error e => .error e
      | .ok s => membersFrom shape s rest

def record (shape : Shape σ α) : Decoder α
  | .array items =>
    match elementsFrom shape shape.fields 0 shape.start items with
    | .error e => .error e
    | .ok (s, []) => shape.finish s
    | .ok (_, _ :: _) => .error (.invalidLength items.length "fewer elements in array")
  | .object members => (membersFrom shape shape.start members).bind shape.finish
  | v => wrongType ("struct " ++ shape.name) v

/-- A record of one field; without one, an object holds `absent` if there is such a value. -/
def oneField (record field : String) (item : Decoder α) (absent : Option α) : Decoder α :=
  Decoder.record
    { name := record
      start := absent
      fields := [.of field item fun _ v => some v]
      finish := fun s =>
        match s with
        | some v => .ok v
        | none => .error (.missingField field) }

end Decoder

end GraphQLClient.Json
