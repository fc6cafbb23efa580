import GraphQLClient.Json.Basic

/-!
Looking into JSON values without checking first: what is absent, or of another type, counts as null
or empty.
-/

namespace GraphQLClient.Json

def get (v : Json) (name : String) : Json := (v.member? name).getD .null

/-- A member by its name, as in `v["name"]`. -/
instance : GetElem Json String Json fun _ _ => True where
  getElem v name _ := v.get name

def list : Json → List Json
  | .array items => items
  | _ => []

def str? : Json → Option String
  | .string s => some s
  | _ => none

def str (v : Json) : String := v.str?.getD ""

/-- A whole number that is not negative. -/
def nat? : Json → Option Nat
  | .number (.integer n) => if 0 ≤ n.val then some n.val.toNat else none
  | _ => none

def nat (v : Json) : Nat := v.nat?.getD 0

def isTrue : Json → Bool
  | .bool b => b
  | _ => false

end GraphQLClient.Json
