import GraphQLClient.Data.Basic
import GraphQLClient.Variable.Printer

/-!
Encoding data as variables. Byte strings become uploads; a variant becomes an object with the
variant's name as its one member; floats that are not finite become null; a repeated key keeps its
first place and its last value. A record of the reserved name becomes the upload that its fields
describe. Encoding stops at the first fault in the order in which the data is described.
-/

namespace GraphQLClient

inductive EncodingFault where
  | wideInteger (signed : Bool)
  | keyNotScalar (key : Variable)
  | valueWithoutKey
  | uploadWithoutBytes
  | failing (message : String)

def EncodingFault.message : EncodingFault → String
  | .wideInteger signed => (if signed then "i128" else "u128") ++ " is not supported"
  | .keyNotScalar k => "map keys must be strings or numbers, got " ++ k.debugText
  | .valueWithoutKey => "map value serialized before its key"
  | .uploadWithoutBytes => "upload is missing its bytes"
  | .failing m => m

namespace Data

def keyText : Variable → Except EncodingFault String
  | .string s => .ok s
  | .number n => .ok n.text
  | .bool b => .ok (Json.boolText b)
  | v => .error (.keyNotScalar v)

def floatVariable (x : Binary64) : Variable :=
  match Finite64.ofBinary64? x with
  | Option.some x => .number (.float x)
  | Option.none => .null

/-- The text of a field, if it is there as a string. -/
def textField? (name : String) (fields : VariableMap) : Option String :=
  match VariableMap.find? name fields with
  | Option.some (.string s) => Option.some s
  | _ => Option.none

/-- The upload that a record of the reserved name stands for. -/
def uploadOfFields (fields : VariableMap) : Except EncodingFault Variable :=
  match VariableMap.find? "bytes" fields with
  | Option.some (.upload u) =>
    .ok (.upload
      { bytes := u.bytes
        filename := (textField? "filename" fields).or u.filename
        contentType := (textField? "content_type" fields).or u.contentType })
  | _ => .error .uploadWithoutBytes

mutual

def encode : Data → Except EncodingFault Variable
  | .bool b => .ok (.bool b)
  | .integer n => .ok (.number (.integer n))
  | .wideInteger signed => .error (.wideInteger signed)
  | .float x => .ok (floatVariable x)
  | .single x => .ok (floatVariable x.toSingle)
  | .char c => .ok (.string (String.singleton c))
  | .string s => .ok (.string s)
  | .bytes b => .ok (.upload { bytes := b })
  | .none => .ok .null
  | .some v => encode v
  | .unit => .ok .null
  | .unitStruct => .ok .null
  | .unitVariant variant => .ok (.string variant)
  | .newtypeStruct v => encode v
  | .newtypeVariant variant v => (encode v).map fun v => .object [(variant, v)]
  | .sequence items => (encodeItems items).map .list
  | .tupleVariant variant items => (encodeItems items).map fun vs => .object [(variant, .list vs)]
  | .map calls => (encodeCalls Option.none [] calls).map .object
  | .record name fields =>
    match encodeFields [] fields with
    | .error e => .error e
    | .ok m => if name = uploadName then uploadOfFields m else .ok (.object m)
  | .recordVariant variant fields =>
    (encodeFields [] fields).map fun m => .object [(variant, .object m)]
  | .failing message => .error (.failing message)

def encodeItems : List Data → Except EncodingFault (List Variable)
  | [] => .ok []
  | d :: rest =>
    match encode d with
    | .error e => .error e
    | .ok v => (encodeItems rest).map (v :: ·)

/-- The map after some calls, `pending` being the key that waits for its value. -/
def encodeCalls (pending : Option String) (acc : VariableMap) :
    List MapCall → Except EncodingFault VariableMap
  | [] => .ok acc
  | .key k :: rest =>
    match encode k with
    | .error e => .error e
    | .ok v =>
      match keyText v with
      | .error e => .error e
      | .ok key => encodeCalls (Option.some key) acc rest
  | .value v :: rest =>
    match pending with
    | Option.none => .error .valueWithoutKey
    | Option.some key =>
      match encode v with
      | .error e => .error e
      | .ok v => encodeCalls Option.none (VariableMap.insert key v acc) rest

def encodeFields (acc : VariableMap) :
    List (String × Option Data) → Except EncodingFault VariableMap
  | [] => .ok acc
  | (_, Option.none) :: rest => encodeFields acc rest
  | (name, Option.some d) :: rest =>
    match encode d with
    | .error e => .error e
    | .ok v => encodeFields (VariableMap.insert name v acc) rest

end

end Data

end GraphQLClient
