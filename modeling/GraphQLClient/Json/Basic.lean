import GraphQLClient.Json.Number

/-!
JSON values. An object keeps its members sorted by name, each name once: `insertMember` replaces the
value of a name that is there already. Names are compared by code points, which is also the order of
their UTF-8 bytes.
-/

namespace GraphQLClient

inductive Json where
  | null
  | bool (value : Bool)
  | number (value : Number)
  | string (value : String)
  | array (items : List Json)
  | object (members : List (String × Json))

namespace Json

instance : Inhabited Json := ⟨.null⟩

def insertMember (name : String) (value : Json) : List (String × Json) → List (String × Json)
  | [] => [(name, value)]
  | (n, v) :: rest =>
    if name = n then (name, value) :: rest
    else if name < n then (name, value) :: (n, v) :: rest
    else (n, v) :: insertMember name value rest

/-- The object of some members, the last of several of one name. -/
def ofMembers (members : List (String × Json)) : Json :=
  .object (members.foldl (fun acc m => insertMember m.1 m.2 acc) [])

def isNull : Json → Bool
  | .null => true
  | _ => false

def member? (name : String) : Json → Option Json
  | .object members => members.lookup name
  | _ => none

end Json

end GraphQLClient
