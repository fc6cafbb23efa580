import GraphQLClient.Json.Basic
import GraphQLClient.Text.Utf8

/-!
The variables of an operation: JSON values with a further leaf, the upload, and with objects whose
members stay in the order in which they were first inserted. Equality ignores that order.
-/

namespace GraphQLClient

/-- A file to send along, with the name and the media type that its part will carry. -/
structure Upload where
  bytes : Bytes
  filename : Option String := none
  contentType : Option String := none
  deriving DecidableEq

inductive Variable where
  | null
  | bool (value : Bool)
  | number (value : Number)
  | string (value : String)
  | list (items : List Variable)
  | object (members : List (String × Variable))
  | upload (file : Upload)

/-- The members of an object, first inserted first. -/
abbrev VariableMap := List (String × Variable)

namespace VariableMap

def find? (key : String) : VariableMap → Option Variable
  | [] => none
  | (k, v) :: rest => if k = key then some v else find? key rest

/-- Replaces the value where the key stands, or appends a member. -/
def insert (key : String) (value : Variable) : VariableMap → VariableMap
  | [] => [(key, value)]
  | (k, v) :: rest => if k = key then (k, value) :: rest else (k, v) :: insert key value rest

def remove (key : String) : VariableMap → VariableMap
  | [] => []
  | (k, v) :: rest => if k = key then rest else (k, v) :: remove key rest

/-- Inserts, and gives back the value that the key had. -/
def put (key : String) (value : Variable) : VariableMap → Option Variable × VariableMap
  | [] => (none, [(key, value)])
  | (k, v) :: rest =>
    if k = key then (some v, (k, value) :: rest)
    else
      match put key value rest with
      | (held, rest) => (held, (k, v) :: rest)

/-- Removes, and gives back the value that the key had. -/
def takeOut (key : String) : VariableMap → Option Variable × VariableMap
  | [] => (none, [])
  | (k, v) :: rest =>
    if k = key then (some v, rest)
    else
      match takeOut key rest with
      | (held, rest) => (held, (k, v) :: rest)

def values (m : VariableMap) : List Variable := m.map (·.2)

/-- The map built by inserting some pairs in order. -/
def ofPairs (pairs : List (String × Variable)) : VariableMap :=
  pairs.foldl (fun m p => insert p.1 p.2 m) []

end VariableMap

namespace Variable

instance : Inhabited Variable := ⟨.null⟩

mutual

def eqv : Variable → Variable → Bool
  | .null, .null => true
  | .bool a, .bool b => a = b
  | .number a, .number b => a.eqv b
  | .string a, .string b => a = b
  | .list a, .list b => eqvItems a b
  | .object a, .object b => a.length = b.length && eqvMembers a b
  | .upload a, .upload b => a = b
  | _, _ => false
termination_by structural a => a

def eqvItems : List Variable → List Variable → Bool
  | [], [] => true
  | a :: as, b :: bs => a.eqv b && eqvItems as bs
  | _, _ => false
termination_by structural a => a

/-- Every member on the left has an equal one on the right. -/
def eqvMembers : List (String × Variable) → VariableMap → Bool
  | [], _ => true
  | (k, v) :: rest, other =>
    (match VariableMap.find? k other with
      | some w => v.eqv w
      | none => false) && eqvMembers rest other
termination_by structural a => a

end

mutual

/-- A JSON value as a variable; the members come in the order of their names. -/
def ofJson : Json → Variable
  | .null => .null
  | .bool b => .bool b
  | .number n => .number n
  | .string s => .string s
  | .array items => .list (ofItems items)
  | .object members => .object (VariableMap.ofPairs (ofMembers members))

def ofItems : List Json → List Variable
  | [] => []
  | v :: rest => ofJson v :: ofItems rest

def ofMembers : List (String × Json) → List (String × Variable)
  | [] => []
  | (k, v) :: rest => (k, ofJson v) :: ofMembers rest

end

end Variable

/-- Equality of maps: as many members, and each on the left with an equal one on the right. -/
def VariableMap.eqv (a b : VariableMap) : Bool := a.length = b.length && Variable.eqvMembers a b

end GraphQLClient
