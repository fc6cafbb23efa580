import GraphQLClient.Request.Basic
import GraphQLClient.Variable.Printer

/-!
The JSON form of a request, for variables without uploads, and what both forms have in common: the
text of document and variables, and the header fields with the caller's settings over them.
-/

namespace GraphQLClient

/-- The document and the variables as one JSON object. -/
def operationText (document : String) (inputs : Variable) : String :=
  Json.objectText [("query", Json.stringText document), ("variables", inputs.text)]

/-- The media type that the answer to an operation should have. -/
def OperationKind.accept (k : OperationKind) : String :=
  if k.isSubscription then "text/event-stream" else "application/json"

/-- The caller's fields over some others; a name among them has only the last value they give it. -/
def Headers.overlay (own : Headers) (given : Headers) : Headers :=
  given.foldl (fun h f => h.insert f.1 f.2) own

namespace HttpRequest

/-- A request for an operation with the caller's settings. -/
def assemble (op : Operation) (settings : CallSettings) (own : Headers) (body : RequestBody) :
    HttpRequest :=
  { body
    headers := (own.insert "accept" (Text.Utf8.encode op.kind.accept)).overlay settings.headers
    endpoint := settings.endpoint
    timeout := settings.timeout
    cancellation := settings.cancellation }

/-- The JSON form, which an upload anywhere in the variables rules out. -/
def jsonForm (request : OperationRequest) (settings : CallSettings) :
    Except SerializationCause HttpRequest :=
  match request.inputs.firstUploadPath? with
  | some path => .error (.binaryValue path)
  | none =>
    .ok (assemble request.operation settings
      [("content-type", Text.Utf8.encode "application/json")]
      (.json (operationText request.operation.document request.inputs)))

end HttpRequest

end GraphQLClient
