import GraphQLClient.Json.Reader

/-!
The errors that a server reports: how they are read, shown and written back as JSON. Members that a
list of locations, a path or extensions would leave empty are not written.
-/

namespace GraphQLClient

inductive PathSegment where
  | field (name : String)
  | index (position : UInt64)
  deriving DecidableEq

structure Location where
  line : UInt32
  column : UInt32
  deriving DecidableEq

structure GraphQLError where
  message : String
  locations : List Location := []
  path : Option (List PathSegment) := none
  extensions : Option Json := none

/-! ## Text -/

/-- Fields after the first segment follow a dot, indices stand in brackets. -/
def PathSegment.displayText (first : Bool) : PathSegment → String
  | .field name => if first then name else "." ++ name
  | .index i => "[" ++ toString i.toNat ++ "]"

def pathText : List PathSegment → String
  | [] => ""
  | s :: rest => s.displayText true ++ String.join (rest.map (·.displayText false))

def GraphQLError.displayText (e : GraphQLError) : String :=
  match e.path with
  | none => e.message
  | some p => e.message ++ " (at " ++ pathText p ++ ")"

namespace Json

/-- An object with its members in the order given. -/
def objectText (members : List (String × String)) : String :=
  "\x7b" ++ ",".intercalate (members.map fun m => stringText m.1 ++ ":" ++ m.2) ++ "\x7d"

def arrayText (items : List String) : String := "[" ++ ",".intercalate items ++ "]"

end Json

def PathSegment.json : PathSegment → String
  | .field name => Json.stringText name
  | .index i => toString i.toNat

def Location.json (l : Location) : String :=
  Json.objectText [("line", toString l.line.toNat), ("column", toString l.column.toNat)]

namespace GraphQLError

def json (e : GraphQLError) : String :=
  Json.objectText
    ([("message", Json.stringText e.message)] ++
      (if e.locations.isEmpty then []
        else [("locations", Json.arrayText (e.locations.map (·.json)))]) ++
      (match e.path with
        | none => []
        | some p => [("path", Json.arrayText (p.map (·.json)))]) ++
      match e.extensions with
      | none => []
      | some x => [("extensions", x.text)])

def listJson (errors : List GraphQLError) : String := Json.arrayText (errors.map json)

end GraphQLError

/-! ## Reading -/

open Json (Reader Mismatch)

/-- A text is a field and a whole number that fits a word an index; nothing else is a segment. -/
def PathSegment.ofJson? : Json → Option PathSegment
  | .string s => some (.field s)
  | .number (.integer n) =>
    if 0 ≤ n.val then some (.index (UInt64.ofNat n.val.toNat)) else none
  | _ => none

def PathSegment.reader : Reader PathSegment := fun room input =>
  match Reader.value room input with
  | .error e => .error e
  | .ok (v, rest) =>
    match ofJson? v with
    | some s => .ok (s, rest)
    | none => .error (.mismatch (.noAlternative "PathSegment"))

/-- The value of a field that must be there. -/
def need {α : Type} (name : String) : Option α → Except Mismatch α
  | some v => .ok v
  | none => .error (.missingField name)

namespace Location

structure Draft where
  line : Option UInt32 := none
  column : Option UInt32 := none

def shape : Reader.Shape Draft Location where
  name := "GraphQLLocation"
  start := {}
  fields :=
    [.of "line" true Reader.word32 (·.line) fun d v => { d with line := some v },
      .of "column" true Reader.word32 (·.column) fun d v => { d with column := some v }]
  finish d :=
    match need "line" d.line, need "column" d.column with
    | .ok line, .ok column => .ok { line, column }
    | .error e, _ => .error e
    | _, .error e => .error e

end Location

namespace GraphQLError

structure Draft where
  message : Option String := none
  locations : Option (List Location) := none
  path : Option (Option (List PathSegment)) := none
  extensions : Option (Option Json) := none

def shape : Reader.Shape Draft GraphQLError where
  name := "GraphQLError"
  start := {}
  fields :=
    [.of "message" true Reader.string (·.message) fun d v => { d with message := some v },
      .of "locations" false (Reader.list (Reader.record Location.shape)) (·.locations)
        fun d v => { d with locations := some v },
      .of "path" false (Reader.optional (Reader.list PathSegment.reader)) (·.path)
        fun d v => { d with path := some v },
      .of "extensions" false (Reader.optional Reader.value) (·.extensions)
        fun d v => { d with extensions := some v }]
  finish d :=
    (need "message" d.message).map fun message =>
      { message
        locations := d.locations.getD []
        path := d.path.getD none
        extensions := d.extensions.getD none }

def reader : Reader GraphQLError := Reader.record shape

end GraphQLError

end GraphQLClient
