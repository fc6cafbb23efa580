import GraphQLClient.Json.Reader
import GraphQLClient.Variable.Printer

/-!
Operations: a document with a name and a kind, and the request that pairs one with its variables.
-/

namespace GraphQLClient

inductive OperationKind where
  | query
  | mutation
  | subscription
  deriving DecidableEq

namespace OperationKind

def isSubscription (k : OperationKind) : Bool := k = .subscription

/-- The name in capitals, as it is sent and shown. -/
def text : OperationKind → String
  | .query => "QUERY"
  | .mutation => "MUTATION"
  | .subscription => "SUBSCRIPTION"

def ofText? (s : String) : Option OperationKind :=
  [query, mutation, subscription].find? (·.text = s)

/-- A null and the closing brace behind it. -/
def endVariant (input : Bytes) : Except Json.Fault Bytes :=
  match Json.skipBlanks input with
  | b :: r =>
    if b = 0x6E then (Json.scanNull r).bind Json.endObject else Json.malformed .expectedValue
  | [] => Json.malformed .endInValue

/-- The name of a kind and what follows it: a string, or the one member, null, of an object. -/
def scanName (input : Bytes) : Json.Scan String :=
  match Json.skipBlanks input with
  | [] => Json.malformed .endInValue
  | b :: r =>
    if b = 0x22 then Json.scanString r
    else if b = 0x7B then
      match Json.skipBlanks r with
      | c :: r =>
        if c = 0x22 then
          (Json.scanString r).bind fun n =>
            ((Json.colon n.2).bind endVariant).map fun rest => (n.1, rest)
        else Json.malformed .expectedValue
      | [] => Json.malformed .endInValue
    else Json.malformed .expectedValue

/-- The kind that a JSON text spells. -/
def ofJsonText? (input : Bytes) : Option OperationKind :=
  match scanName input with
  | .error _ => none
  | .ok (name, rest) =>
    match Json.endText rest with
    | .error _ => none
    | .ok _ => ofText? name

def debugText : OperationKind → String
  | .query => "Query"
  | .mutation => "Mutation"
  | .subscription => "Subscription"

end OperationKind

structure Operation where
  name : String
  document : String
  kind : OperationKind
  deriving DecidableEq

namespace Operation

def withDocument (op : Operation) (document : String) : Operation := { op with document }

/-- A subscription shows only its name, the others their kind too. -/
def debugText (op : Operation) : String :=
  if op.kind.isSubscription then
    recordText "SubscriptionOperation" [("name", Text.quoted op.name)]
  else
    recordText "SyncOperation" [("name", Text.quoted op.name), ("kind", op.kind.debugText)]

end Operation

/-- An operation with the variables to send. -/
structure OperationRequest where
  operation : Operation
  inputs : Variable

end GraphQLClient
