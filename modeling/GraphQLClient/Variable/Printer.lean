import GraphQLClient.Json.Printer
import GraphQLClient.Text.Quoted
import GraphQLClient.Variable.Basic

/-!
Two texts of a variable: compact JSON with the members in their own order, an upload standing as an
object of its byte values, filename and content type; and the form used in messages, which names
every kind of value.
-/

namespace GraphQLClient

def Upload.chars (u : Upload) : List Char :=
  let text? : Option String → List Char
    | none => "null".toList
    | some s => Json.stringChars s
  let numbers := ",".intercalate (u.bytes.map fun b => toString b.toNat)
  "\x7b\"bytes\":[".toList ++ numbers.toList ++ "],\"filename\":".toList ++ text? u.filename ++
    ",\"content_type\":".toList ++ text? u.contentType ++ ['\x7d']

/-- `Name \x7b field: value, … \x7d`, as messages show a record. -/
def recordText (name : String) (fields : List (String × String)) : String :=
  name ++ " \x7b " ++ ", ".intercalate (fields.map fun f => f.1 ++ ": " ++ f.2) ++ " \x7d"

/-- The message form of an upload gives the number of its bytes, not the bytes. -/
def Upload.debugText (u : Upload) : String :=
  recordText "Upload" [("len", toString u.bytes.length), ("filename", Text.quoted? u.filename),
    ("content_type", Text.quoted? u.contentType)]

namespace Variable

mutual

def chars : Variable → List Char
  | .null => "null".toList
  | .bool b => (Json.boolText b).toList
  | .number n => n.text.toList
  | .string s => Json.stringChars s
  | .list items => '[' :: (itemChars items ++ [']'])
  | .object members => '\x7b' :: (memberChars members ++ ['\x7d'])
  | .upload u => u.chars

def itemChars : List Variable → List Char
  | [] => []
  | [v] => v.chars
  | v :: rest => v.chars ++ ',' :: itemChars rest

def memberChars : List (String × Variable) → List Char
  | [] => []
  | [(k, v)] => Json.stringChars k ++ ':' :: v.chars
  | (k, v) :: rest => Json.stringChars k ++ ':' :: (v.chars ++ ',' :: memberChars rest)

end

/-- Compact JSON. -/
def text (v : Variable) : String := String.ofList v.chars

mutual

def debugText : Variable → String
  | .null => "Null"
  | .bool b => "Bool(" ++ Json.boolText b ++ ")"
  | .number n => "Number(Number(" ++ n.text ++ "))"
  | .string s => "String(" ++ Text.quoted s ++ ")"
  | .list items => "List([" ++ ", ".intercalate (debugItems items) ++ "])"
  | .object members =>
    "Object(VariableMap \x7b entries: [" ++ ", ".intercalate (debugMembers members) ++ "] \x7d)"
  | .upload u => "Upload(" ++ u.debugText ++ ")"

def debugItems : List Variable → List String
  | [] => []
  | v :: rest => v.debugText :: debugItems rest

def debugMembers : List (String × Variable) → List String
  | [] => []
  | (k, v) :: rest => ("(" ++ Text.quoted k ++ ", " ++ v.debugText ++ ")") :: debugMembers rest

end

end Variable

end GraphQLClient
