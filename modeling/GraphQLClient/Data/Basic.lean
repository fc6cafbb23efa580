import GraphQLClient.Variable.Basic

/-!
Values that a client can send, in the shape in which a typed program describes them: sums, records,
tuples, options and maps beside the plain values. A map is a sequence of calls that give a key or a
value; `Data.entries` is the usual alternation.
-/

namespace GraphQLClient

mutual

inductive Data where
  | bool (value : Bool)
  | integer (value : Integer64)
  /-- A whole number of 128 bits, of whatever value. -/
  | wideInteger (signed : Bool)
  | float (value : Binary64)
  /-- A float of single precision, the one nearest the value. -/
  | single (value : Binary64)
  | char (value : Char)
  | string (value : String)
  | bytes (value : Bytes)
  | none
  | some (value : Data)
  | unit
  | unitStruct
  | unitVariant (variant : String)
  | newtypeStruct (value : Data)
  | newtypeVariant (variant : String) (value : Data)
  /-- A sequence, a tuple or a tuple with a name. -/
  | sequence (items : List Data)
  | tupleVariant (variant : String) (items : List Data)
  | map (calls : List MapCall)
  /-- A record; a field without a value is skipped. -/
  | record (name : String) (fields : List (String × Option Data))
  | recordVariant (variant : String) (fields : List (String × Option Data))
  /-- A value that cannot describe itself. -/
  | failing (message : String)

inductive MapCall where
  | key (key : Data)
  | value (value : Data)

end

namespace Data

instance : Inhabited Data := ⟨.unit⟩

def entries (pairs : List (Data × Data)) : Data :=
  .map (pairs.flatMap fun p => [.key p.1, .value p.2])

/-- The record name that is reserved for uploads. -/
def uploadName : String := "$gql_client::Upload"

def ofText? : Option String → Data
  | Option.none => .none
  | Option.some s => .some (.string s)

/-- An upload describes itself as a record of the reserved name. -/
def ofUpload (u : Upload) : Data :=
  .record uploadName [("bytes", Option.some (.bytes u.bytes)),
    ("filename", Option.some (ofText? u.filename)),
    ("content_type", Option.some (ofText? u.contentType))]

def ofNumber : Number → Data
  | .integer n => .integer n
  | .float x => .float x.val

mutual

def ofVariable : Variable → Data
  | .null => .unit
  | .bool b => .bool b
  | .number n => ofNumber n
  | .string s => .string s
  | .list items => .sequence (ofItems items)
  | .object members => .map (ofMembers members)
  | .upload u => ofUpload u

def ofItems : List Variable → List Data
  | [] => []
  | v :: rest => ofVariable v :: ofItems rest

def ofMembers : List (String × Variable) → List MapCall
  | [] => []
  | (k, v) :: rest => .key (.string k) :: .value (ofVariable v) :: ofMembers rest

end

end Data

end GraphQLClient
