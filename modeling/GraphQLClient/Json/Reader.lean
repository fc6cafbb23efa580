import GraphQLClient.Json.Scanner

/-!
Reading JSON text into a value of some type in one pass. A reader stops at the first fault it meets,
so content that does not fit is reported before text that is malformed further on. At most
`nestingLimit` arrays and objects may be open at once; members that are passed over do not count.

A record is read from an object, whose unknown members are passed over, or from an array that
holds its fields in order; the fields at the end may be left out if they have a default.

Every step into or along a container is paid for by at least every other byte, so twice the length
of the input bounds the recursion.
-/

namespace GraphQLClient.Json

def nestingLimit : Nat := 127

def fuelFor (input : Bytes) : Nat := 2 * input.length + 2

/-! ## Steps through containers -/

/-- Finds the next element of an array, or the closing bracket, which it leaves. -/
def nextElement? (first : Bool) (input : Bytes) : Except Fault (Option Bytes) :=
  match skipBlanks input with
  | [] => malformed .endInList
  | b :: r =>
    if b = 0x5D then .ok none
    else if first then .ok (some (b :: r))
    else if b = 0x2C then
      match skipBlanks r with
      | [] => malformed .endInValue
      | c :: r => if c = 0x5D then malformed .trailingComma else .ok (some (c :: r))
    else malformed .expectedListEnd

/-- A key's opening quote. -/
def openKey (input : Bytes) : Except Fault (Option Bytes) :=
  match input with
  | [] => malformed .endInValue
  | b :: r =>
    if b = 0x22 then .ok (some r)
    else if b = 0x7D then malformed .trailingComma
    else malformed .keyNotString

/-- Finds an object's next key, past its opening quote, or the closing brace, which it leaves. -/
def nextKey? (first : Bool) (input : Bytes) : Except Fault (Option Bytes) :=
  match skipBlanks input with
  | [] => malformed .endInObject
  | b :: r =>
    if b = 0x7D then .ok none
    else if first then openKey (b :: r)
    else if b = 0x2C then openKey (skipBlanks r)
    else malformed .expectedObjectEnd

def colon (input : Bytes) : Except Fault Bytes :=
  match skipBlanks input with
  | [] => malformed .endInObject
  | b :: r => if b = 0x3A then .ok r else malformed .expectedColon

def endArray (input : Bytes) : Except Fault Bytes :=
  match skipBlanks input with
  | [] => malformed .endInList
  | b :: r =>
    if b = 0x5D then .ok r
    else if b = 0x2C && (skipBlanks r).head? = some 0x5D then malformed .trailingComma
    else malformed .trailingCharacters

def endObject (input : Bytes) : Except Fault Bytes :=
  match skipBlanks input with
  | [] => malformed .endInObject
  | b :: r =>
    if b = 0x7D then .ok r
    else if b = 0x2C then malformed .trailingComma
    else malformed .trailingCharacters

def endText (input : Bytes) : Except Fault Unit :=
  if (skipBlanks input).isEmpty then .ok () else malformed .trailingCharacters

/-! ## Passing over a value -/

def scanNull (input : Bytes) : Except Fault Bytes := scanWord [0x75, 0x6C, 0x6C] input
def scanTrue (input : Bytes) : Except Fault Bytes := scanWord [0x72, 0x75, 0x65] input
def scanFalse (input : Bytes) : Except Fault Bytes := scanWord [0x61, 0x6C, 0x73, 0x65] input

mutual

def passValue : Nat → Bytes → Except Fault Bytes
  | 0, _ => malformed .endInValue
  | fuel + 1, input =>
    match skipBlanks input with
    | [] => malformed .endInValue
    | b :: r =>
      if b = 0x6E then scanNull r
      else if b = 0x74 then scanTrue r
      else if b = 0x66 then scanFalse r
      else if b = 0x2D then passNumber r
      else if isDigitByte b then passNumber (b :: r)
      else if b = 0x22 then passString r
      else if b = 0x5B then passItems fuel true r
      else if b = 0x7B then passMembers fuel true r
      else malformed .expectedValue

def passItems : Nat → Bool → Bytes → Except Fault Bytes
  | 0, _, _ => malformed .endInValue
  | fuel + 1, first, input =>
    match skipBlanks input with
    | [] => malformed .endInList
    | b :: r =>
      if b = 0x5D then .ok r
      else if first then (passValue fuel (b :: r)).bind (passItems fuel false)
      else if b = 0x2C then (passValue fuel r).bind (passItems fuel false)
      else malformed .expectedListEnd

def passMembers : Nat → Bool → Bytes → Except Fault Bytes
  | 0, _, _ => malformed .endInValue
  | fuel + 1, first, input =>
    match skipBlanks input with
    | [] => malformed .endInObject
    | b :: r =>
      if b = 0x7D then .ok r
      else if first || b = 0x2C then
        match (if first then b :: r else skipBlanks r) with
        | [] => malformed .endInObject
        | k :: r =>
          if k = 0x22 then
            ((passString r).bind colon).bind fun r =>
              (passValue fuel r).bind (passMembers fuel false)
          else malformed .keyNotString
      else malformed .expectedObjectEnd

end

/-! ## Values -/

mutual

/-- A value, `room` more containers being allowed to open. -/
def readValueFrom : Nat → Nat → Bytes → Scan Json
  | 0, _, _ => malformed .endInValue
  | fuel + 1, room, input =>
    match skipBlanks input with
    | [] => malformed .endInValue
    | b :: r =>
      if b = 0x6E then (scanNull r).map fun r => (.null, r)
      else if b = 0x74 then (scanTrue r).map fun r => (.bool true, r)
      else if b = 0x66 then (scanFalse r).map fun r => (.bool false, r)
      else if b = 0x2D then (scanNumber true r).map fun n => (.number n.1, n.2)
      else if isDigitByte b then (scanNumber false (b :: r)).map fun n => (.number n.1, n.2)
      else if b = 0x22 then (scanString r).map fun s => (.string s.1, s.2)
      else if b = 0x5B then
        match room with
        | 0 => malformed .nestedTooDeep
        | room + 1 => (readItems fuel room true r).map fun v => (.array v.1, v.2)
      else if b = 0x7B then
        match room with
        | 0 => malformed .nestedTooDeep
        | room + 1 => (readMembers fuel room true [] r).map fun v => (.object v.1, v.2)
      else malformed .expectedValue

def readItems : Nat → Nat → Bool → Bytes → Scan (List Json)
  | 0, _, _, _ => malformed .endInValue
  | fuel + 1, room, first, input =>
    match nextElement? first input with
    | .error e => .error e
    | .ok none => (endArray input).map fun r => ([], r)
    | .ok (some r) =>
      match readValueFrom fuel room r with
      | .error e => .error e
      | .ok (v, r) => (readItems fuel room false r).map fun vs => (v :: vs.1, vs.2)

/-- Members are inserted as they come, so the last of several of one name stays. -/
def readMembers : Nat → Nat → Bool → List (String × Json) → Bytes → Scan (List (String × Json))
  | 0, _, _, _, _ => malformed .endInValue
  | fuel + 1, room, first, acc, input =>
    match nextKey? first input with
    | .error e => .error e
    | .ok none => (endObject input).map fun r => (acc, r)
    | .ok (some r) =>
      match scanString r with
      | .error e => .error e
      | .ok (key, r) =>
        match (colon r).bind (readValueFrom fuel room) with
        | .error e => .error e
        | .ok (v, r) => readMembers fuel room false (insertMember key v acc) r

end

/-! ## Typed readers -/

/-- Reads a value of type `α` at the front of the input, `room` more containers being allowed. -/
def Reader (α : Type) := (room : Nat) → Bytes → Scan α

namespace Reader

variable {α σ : Type}

def value : Reader Json := fun room input => readValueFrom (fuelFor input) room input

/-- The fault of a value of the wrong type, read only as far as needed to name it. -/
def wrongType (expected : String) (input : Bytes) : Except Fault α :=
  let mistaken (f : Found) : Except Fault α := .error (.mismatch (.invalidType f expected))
  match input with
  | [] => malformed .endInValue
  | b :: r =>
    if b = 0x6E then (scanNull r).bind fun _ => mistaken .null
    else if b = 0x74 then (scanTrue r).bind fun _ => mistaken (.boolean true)
    else if b = 0x66 then (scanFalse r).bind fun _ => mistaken (.boolean false)
    else if b = 0x2D then (scanNumber true r).bind fun n => mistaken (.number n.1)
    else if isDigitByte b then (scanNumber false (b :: r)).bind fun n => mistaken (.number n.1)
    else if b = 0x22 then (scanString r).bind fun s => mistaken (.string s.1)
    else if b = 0x5B then mistaken .sequence
    else if b = 0x7B then mistaken .map
    else malformed .expectedValue

def string : Reader String := fun _ input =>
  match skipBlanks input with
  | b :: r => if b = 0x22 then scanString r else wrongType "a string" (b :: r)
  | [] => malformed .endInValue

/-- A number as a whole number below `2³²`. -/
def word32Of (n : Number) : Except Mismatch UInt32 :=
  match n with
  | .integer i =>
    if 0 ≤ i.val ∧ i.val < 0x100000000 then .ok (UInt32.ofNat i.val.toNat)
    else .error (.invalidValue (.number n) "u32")
  | .float _ => .error (.invalidType (.number n) "u32")

def word32 : Reader UInt32 := fun _ input =>
  let accept (n : Number × Bytes) : Scan UInt32 :=
    match word32Of n.1 with
    | .ok w => .ok (w, n.2)
    | .error e => .error (.mismatch e)
  match skipBlanks input with
  | b :: r =>
    if b = 0x2D then (scanNumber true r).bind accept
    else if isDigitByte b then (scanNumber false (b :: r)).bind accept
    else wrongType "u32" (b :: r)
  | [] => malformed .endInValue

def optional (item : Reader α) : Reader (Option α) := fun room input =>
  match skipBlanks input with
  | b :: r =>
    if b = 0x6E then (scanNull r).map fun r => (none, r)
    else (item room (b :: r)).map fun v => (some v.1, v.2)
  | [] => malformed .endInValue

def listFrom (item : Reader α) (room : Nat) : Nat → Bool → Bytes → Scan (List α)
  | 0, _, _ => malformed .endInValue
  | fuel + 1, first, input =>
    match nextElement? first input with
    | .error e => .error e
    | .ok none => (endArray input).map fun r => ([], r)
    | .ok (some r) =>
      match item room r with
      | .error e => .error e
      | .ok (v, r) => (listFrom item room fuel false r).map fun vs => (v :: vs.1, vs.2)

def list (item : Reader α) : Reader (List α) := fun room input =>
  match skipBlanks input with
  | b :: r =>
    if b = 0x5B then
      match room with
      | 0 => malformed .nestedTooDeep
      | room + 1 => listFrom item room (fuelFor r) true r
    else wrongType "a sequence" (b :: r)
  | [] => malformed .endInValue

/-! ### Records -/

/-- A field of a record under construction: whether it is there, and how it is read. -/
structure Field (σ : Type) where
  name : String
  required : Bool
  isSet : σ → Bool
  read : σ → Reader σ

/-- A field that is kept as an optional value until the record is complete. -/
def Field.of (name : String) (required : Bool) (item : Reader α) (get : σ → Option α)
    (set : σ → α → σ) : Field σ :=
  { name, required
    isSet := fun s => (get s).isSome
    read := fun s room input => (item room input).map fun v => (set s v.1, v.2) }

structure Shape (σ α : Type) where
  name : String
  start : σ
  fields : List (Field σ)
  finish : σ → Except Mismatch α

def Shape.lengthText (shape : Shape σ α) : String :=
  "struct " ++ shape.name ++ " with " ++ toString shape.fields.length ++
    if shape.fields.length = 1 then " element" else " elements"

/-- The fields in order, from an array after its opening bracket. -/
def elementsFrom (shape : Shape σ α) (room : Nat) :
    List (Field σ) → Bool → Nat → σ → Bytes → Scan σ
  | [], _, _, s, input => .ok (s, input)
  | f :: rest, first, index, s, input =>
    match nextElement? first input with
    | .error e => .error e
    | .ok none =>
      if f.required then .error (.mismatch (.invalidLength index shape.lengthText))
      else elementsFrom shape room rest first (index + 1) s input
    | .ok (some r) =>
      match f.read s room r with
      | .error e => .error e
      | .ok (s, r) => elementsFrom shape room rest false (index + 1) s r

/-- The members in any order, from an object after its opening brace. -/
def membersFrom (shape : Shape σ α) (room : Nat) : Nat → Bool → σ → Bytes → Scan σ
  | 0, _, _, _ => malformed .endInValue
  | fuel + 1, first, s, input =>
    match nextKey? first input with
    | .error e => .error e
    | .ok none => .ok (s, input)
    | .ok (some r) =>
      match scanString r with
      | .error e => .error e
      | .ok (key, r) =>
        match shape.fields.find? (·.name = key) with
        | none =>
          ((colon r).bind fun r => passValue (fuelFor r) r).bind
            (membersFrom shape room fuel false s)
        | some f =>
          if f.isSet s then .error (.mismatch (.duplicateField key))
          else
            match (colon r).bind (f.read s room) with
            | .error e => .error e
            | .ok (s, r) => membersFrom shape room fuel false s r

def Shape.complete (shape : Shape σ α) (close : Bytes → Except Fault Bytes) :
    σ × Bytes → Scan α
  | (s, r) =>
    match shape.finish s with
    | .error e => .error (.mismatch e)
    | .ok v => (close r).map fun r => (v, r)

def record (shape : Shape σ α) : Reader α := fun room input =>
  match skipBlanks input with
  | [] => malformed .endInValue
  | b :: r =>
    if b = 0x5B then
      match room with
      | 0 => malformed .nestedTooDeep
      | room + 1 =>
        (elementsFrom shape room shape.fields true 0 shape.start r).bind (shape.complete endArray)
    else if b = 0x7B then
      match room with
      | 0 => malformed .nestedTooDeep
      | room + 1 =>
        (membersFrom shape room (fuelFor r) true shape.start r).bind (shape.complete endObject)
    else wrongType ("struct " ++ shape.name) (b :: r)

/-- A whole text. -/
def run (reader : Reader α) (input : Bytes) : Except Fault α :=
  match reader nestingLimit input with
  | .error e => .error e
  | .ok (v, rest) => (endText rest).map fun _ => v

end Reader

/-- The value that a text spells. -/
def parse (input : Bytes) : Except Fault Json := Reader.value.run input

end GraphQLClient.Json
