import GraphQLClient.Variable.Basic

/-!
Finding the uploads of a variable. `extract` takes them out in the order of members and items,
leaves null in their places and reports each with the path to its place; it gives nothing for a tree
with a node more than `pathLimit` steps from the root.
-/

namespace GraphQLClient

def pathLimit : Nat := 128

/-- An upload taken out of a variable, and the way to its place. -/
structure Extracted where
  path : List String
  file : Upload

namespace Variable

mutual

def hasUpload : Variable → Bool
  | .upload _ => true
  | .list items => anyItemHasUpload items
  | .object members => anyMemberHasUpload members
  | _ => false

def anyItemHasUpload : List Variable → Bool
  | [] => false
  | v :: rest => v.hasUpload || anyItemHasUpload rest

def anyMemberHasUpload : List (String × Variable) → Bool
  | [] => false
  | (_, v) :: rest => v.hasUpload || anyMemberHasUpload rest

end

/-- A step in front of a dotted path; an empty path leaves the step alone. -/
def joinPath (step rest : String) : String := if rest = "" then step else step ++ "." ++ rest

mutual

/-- The dotted path of the first upload. -/
def firstUploadPath? : Variable → Option String
  | .upload _ => some ""
  | .list items => firstItemPath? 0 items
  | .object members => firstMemberPath? members
  | _ => none

def firstItemPath? (index : Nat) : List Variable → Option String
  | [] => none
  | v :: rest =>
    match v.firstUploadPath? with
    | some p => some (joinPath (toString index) p)
    | none => firstItemPath? (index + 1) rest

def firstMemberPath? : List (String × Variable) → Option String
  | [] => none
  | (k, v) :: rest =>
    match v.firstUploadPath? with
    | some p => some (joinPath k p)
    | none => firstMemberPath? rest

end

mutual

/-- The variable without its uploads, and these in order; `path` leads to the variable. -/
def extractAt (path : List String) : Variable → Option (Variable × List Extracted)
  | .upload u => if pathLimit < path.length then none else some (.null, [⟨path, u⟩])
  | .list items =>
    if pathLimit < path.length then none
    else (extractItems path 0 items).map fun r => (.list r.1, r.2)
  | .object members =>
    if pathLimit < path.length then none
    else (extractMembers path members).map fun r => (.object r.1, r.2)
  | v => if pathLimit < path.length then none else some (v, [])

def extractItems (path : List String) (index : Nat) :
    List Variable → Option (List Variable × List Extracted)
  | [] => some ([], [])
  | v :: rest =>
    match extractAt (path ++ [toString index]) v with
    | none => none
    | some (v, here) =>
      (extractItems path (index + 1) rest).map fun r => (v :: r.1, here ++ r.2)

def extractMembers (path : List String) :
    List (String × Variable) → Option (List (String × Variable) × List Extracted)
  | [] => some ([], [])
  | (k, v) :: rest =>
    match extractAt (path ++ [k]) v with
    | none => none
    | some (v, here) => (extractMembers path rest).map fun r => ((k, v) :: r.1, here ++ r.2)

end

def extract (v : Variable) : Option (Variable × List Extracted) := extractAt [] v

end Variable

end GraphQLClient
