import GraphQLClient.Request.Basic

/-!
What happens while calls run: the states of attempts, the acts of the executor, and notices about
its work. `Event.record?` is the log: what is written of an event, and nothing for the others.
-/

namespace GraphQLClient

/-- The states of one attempt at a call. -/
inductive AttemptState where
  | pending
  | serializing
  | sending
  | parsing
  | succeeded
  | failed
  deriving DecidableEq

def AttemptState.text : AttemptState → String
  | .pending => "pending"
  | .serializing => "serializing"
  | .sending => "sending"
  | .parsing => "parsing"
  | .succeeded => "succeeded"
  | .failed => "failed"

def AttemptState.all : List AttemptState :=
  [.pending, .serializing, .sending, .parsing, .succeeded, .failed]

inductive Notice where
  | encodingMultipart (operation : String) (files : Nat)
  | partialData (operation : String) (errors : Nat)
  | subscriptionRejected (operation : String) (status : StatusCode) (contentType : Option String)
  | eventLine (line : String)
  | eventStreamFinished (operation : String) (cancelled : Bool)
  | subscriptionClosed
  | backingOff (operation : String) (attempt : UInt32) (delayMs : Nat) (failure : Failure)
  | invalidMediaType (text : String)
  | sendingRequest

inductive Event where
  | started (operation : Operation) (attempt : UInt32)
  /-- An attempt comes to one of its steps. -/
  | entered (attempt : UInt32) (state : AttemptState)
  | succeeded (operation : Operation) (attempt : UInt32)
  | failed (operation : Operation) (attempt : UInt32) (failure : Failure)
  /-- The transport is called. -/
  | invoked (attempt : UInt32) (request : HttpRequest)
  /-- The retry policy is asked. -/
  | consulted (request : OperationRequest) (attempt : UInt32) (failure : Failure)
  | notice (notice : Notice)

/-- The attempt and the state that an event brings it to. -/
def Event.state? : Event → Option (UInt32 × AttemptState)
  | .started _ n => some (n, .pending)
  | .entered n s => some (n, s)
  | .succeeded _ n => some (n, .succeeded)
  | .failed _ n _ => some (n, .failed)
  | _ => none

inductive Level where
  | trace
  | debug
  | warn

def Level.text : Level → String
  | .trace => "TRACE"
  | .debug => "DEBUG"
  | .warn => "WARN"

/-- A line of the log. -/
structure Record where
  level : Level
  target : String
  message : String
  fields : List (String × String) := []

def numberText (n : UInt32) : String := toString n.toNat

def Notice.record : Notice → Record
  | .encodingMultipart op files =>
    ⟨.trace, "gql_client::serializer", "encoding multipart request",
      [("operation", op), ("files", toString files)]⟩
  | .partialData op errors =>
    ⟨.debug, "gql_client::parser", "returning partial data alongside errors",
      [("operation", op), ("errors", toString errors)]⟩
  | .subscriptionRejected op status contentType =>
    ⟨.debug, "gql_client::parser", "subscription rejected",
      [("operation", op), ("status", status.text), ("content_type", contentType.getD "")]⟩
  | .eventLine line => ⟨.trace, "gql_client::sse", "event line", [("line", line)]⟩
  | .eventStreamFinished op cancelled =>
    ⟨.debug, "gql_client::sse", "event stream finished",
      [("operation", op), ("cancelled", Json.boolText cancelled)]⟩
  | .subscriptionClosed => ⟨.debug, "gql_client::stream", "subscription closed", []⟩
  | .backingOff op attempt delayMs failure =>
    ⟨.debug, "gql_client::retry", "backing off before retry",
      [("operation", op), ("attempt", numberText attempt), ("delay_ms", toString delayMs),
        ("error", failure.message)]⟩
  | .invalidMediaType text =>
    ⟨.warn, "gql_client::transport", "Invalid MIME type '" ++ text ++ "': builder error", []⟩
  | .sendingRequest => ⟨.trace, "gql_client::transport", "sending request", []⟩

def Event.record? : Event → Option Record
  | .started op n =>
    some ⟨.debug, "gql_client::executor", "starting attempt",
      [("operation", op.name), ("kind", op.kind.text), ("attempt", numberText n),
        ("state", AttemptState.pending.text)]⟩
  | .entered n s =>
    some ⟨.trace, "gql_client::executor", "attempt state",
      [("attempt", numberText n), ("state", s.text)]⟩
  | .succeeded op n =>
    some ⟨.debug, "gql_client::executor", "attempt finished",
      [("operation", op.name), ("attempt", numberText n),
        ("state", AttemptState.succeeded.text)]⟩
  | .failed op n failure =>
    some ⟨.debug, "gql_client::executor", "attempt finished",
      [("operation", op.name), ("attempt", numberText n), ("state", AttemptState.failed.text),
        ("error", failure.message)]⟩
  | .notice n => some n.record
  | .invoked _ _ => none
  | .consulted _ _ _ => none

end GraphQLClient
