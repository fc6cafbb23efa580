import GraphQLClient.Call.Run
import GraphQLClient.Response.Reading

/-!
Middleware: four lists of stages around encoding and decoding. The stages of a list run in order,
each on what the one before it gave back; the first failure ends the attempt. Whatever the stages
before encoding do to an operation, its kind must be the same behind the last of them.
-/

namespace GraphQLClient

/-- What every stage of an attempt is told. -/
structure AttemptInfo (κ : Type) where
  client : κ
  settings : CallSettings
  attempt : UInt32
  cancellation : Option Handle

/-- What a stage is told behind encoding. -/
structure EncodedInfo (κ : Type) extends AttemptInfo κ where
  operation : OperationRequest

/-- What a stage is told behind the transport. -/
structure AnsweredInfo (κ : Type) extends EncodedInfo κ where
  request : HttpRequest

/-- What a stage is told behind decoding. -/
structure DecodedInfo (κ : Type) extends AnsweredInfo κ where
  response : ResponseHead

/-- A stage that may replace a value, told `ι`. -/
abbrev Stage (ι σ α : Type) := ι → α → Future σ (Except Failure α)

/-- The stages for one family of operations, whose results are of type `α`. -/
structure Stages (κ σ α : Type) where
  beforeEncoding : List (Stage (AttemptInfo κ) σ OperationRequest) := []
  afterEncoding : List (Stage (EncodedInfo κ) σ HttpRequest) := []
  beforeDecoding : List (Stage (AnsweredInfo κ) σ HttpResponse) := []
  afterDecoding : List (Stage (DecodedInfo κ) σ α) := []

namespace Stages

variable {κ σ α ι : Type}

/-- Runs some stages in order up to the first failure. -/
def runAll (info : ι) : List (Stage ι σ α) → α → Run σ α
  | [], v => pure v
  | stage :: rest, v => (Run.awaitOk (stage info v)).bind (runAll info rest)

/-- The stages before encoding, which must not change the kind. -/
def prepare (stages : Stages κ σ α) (info : AttemptInfo κ) (base : OperationRequest) :
    Run σ OperationRequest :=
  (runAll info stages.beforeEncoding base).bind fun request =>
    if request.operation.kind = base.operation.kind then pure request
    else
      .fail (.middleware (.kindChanged base.operation.kind request.operation.kind))

def isEmpty (stages : Stages κ σ α) : Bool :=
  stages.beforeEncoding.isEmpty && stages.afterEncoding.isEmpty &&
    stages.beforeDecoding.isEmpty && stages.afterDecoding.isEmpty

def debugText (stages : Stages κ σ α) : String :=
  recordText "MiddlewareChain"
    [("before_serialization", toString stages.beforeEncoding.length),
      ("after_serialization", toString stages.afterEncoding.length),
      ("before_parsing", toString stages.beforeDecoding.length),
      ("after_parsing", toString stages.afterDecoding.length)]

end Stages

end GraphQLClient
