import GraphQLClient.Data.Encoding
import GraphQLClient.GraphQLError
import GraphQLClient.Http.Status
import GraphQLClient.Operation
import GraphQLClient.Variable.Upload

/-!
Why a call fails: one constructor for each kind of failure, with the cause as data, and the wording
of all of them in `Failure.message`. `isRetryable` says which failures another attempt may not meet.
-/

namespace GraphQLClient

inductive SerializationCause where
  /-- The JSON form has no way to carry the upload at this path. -/
  | binaryValue (path : String)
  | noUploads
  | nestedTooDeep
  | encoding (fault : EncodingFault)
  | headerName
  | headerValue
  | defaultHeaderName
  | defaultHeaderValue
  | other (message : String)

def SerializationCause.message : SerializationCause → String
  | .binaryValue p => "JSON serializer cannot encode binary values, key: \"" ++ p ++ "\""
  | .noUploads => "multipart serializer used for a request without uploads"
  | .nestedTooDeep => "variables nested deeper than " ++ toString pathLimit ++ " levels"
  | .encoding f => f.message
  | .headerName => "invalid header name: invalid HTTP header name"
  | .headerValue => "invalid header value: failed to parse header value"
  | .defaultHeaderName => "invalid header name"
  | .defaultHeaderValue => "invalid header value"
  | .other m => m

/-- Data that is not of the type that the operation promises. -/
inductive ValidationCause where
  | result (operation : String) (mismatch : Json.Mismatch)
  | event (mismatch : Json.Mismatch)
  | other (message : String)

def ValidationCause.message : ValidationCause → String
  | .result op m => op ++ " returned unexpected data: " ++ m.message
  | .event m => m.message
  | .other m => m

/-- A body, or the payload of one event, that cannot be read. -/
inductive BodyCause where
  | response (fault : Json.Fault)
  | event (fault : Json.Fault)
  | other (message : String)

def BodyCause.message : BodyCause → String
  | .response f => f.message
  | .event f => "malformed event payload: " ++ f.message
  | .other m => m

inductive MiddlewareCause where
  | kindChanged (before after : OperationKind)
  | other (message : String)

def MiddlewareCause.message : MiddlewareCause → String
  | .kindChanged before after =>
    "before_serialization changed the operation kind from " ++ before.text ++ " to " ++ after.text
  | .other m => m

inductive Failure where
  | serialization (cause : SerializationCause)
  | transport (message : String)
  | invalidUrl (message : String)
  | timeout
  | httpStatus (status : StatusCode) (body : String)
  | graphQL (errors : List GraphQLError) (data : Option Json)
  | validation (cause : ValidationCause)
  | invalidBody (cause : BodyCause)
  | subscriptionFraming (status : StatusCode) (contentType : Option String) (body : String)
  | middleware (cause : MiddlewareCause)
  | cancelled

namespace Failure

/-- The name of a kind of failure. -/
def kind : Failure → String
  | .serialization _ => "Serialization"
  | .transport _ => "Transport"
  | .invalidUrl _ => "InvalidUrl"
  | .timeout => "Timeout"
  | .httpStatus _ _ => "HttpStatus"
  | .graphQL _ _ => "GraphQL"
  | .validation _ => "Validation"
  | .invalidBody _ => "InvalidBody"
  | .subscriptionFraming _ _ _ => "SubscriptionFraming"
  | .middleware _ => "Middleware"
  | .cancelled => "Cancelled"

def message : Failure → String
  | .serialization c => "serialization error: " ++ c.message
  | .transport m => "transport error: " ++ m
  | .invalidUrl m => "invalid endpoint URL: " ++ m
  | .timeout => "request timed out"
  | .httpStatus s body => "HTTP " ++ toString s.toNat ++ ": " ++ body
  | .graphQL errors _ => "GraphQL errors: " ++ GraphQLError.listJson errors
  | .validation c => "result validation failed: " ++ c.message
  | .invalidBody c => "invalid response body: " ++ c.message
  | .subscriptionFraming s contentType body =>
    "subscription rejected with HTTP " ++ toString s.toNat ++ " (" ++
      contentType.getD "no content type" ++ "): " ++ body
  | .middleware c => "middleware error: " ++ c.message
  | .cancelled => "operation was cancelled"

/-- Lost connections, timeouts and transient statuses. -/
def isRetryable : Failure → Bool
  | .transport _ => true
  | .timeout => true
  | .httpStatus s _ => s.isTransient
  | _ => false

/-- Failures that no retry policy is asked about. -/
def isFinal : Failure → Bool
  | .serialization _ => true
  | .cancelled => true
  | _ => false

end Failure

/-- Data as the variables of a request; a fault in it is a failure of serialization. -/
def Data.toVariables (d : Data) : Except Failure Variable :=
  d.encode.mapError fun fault => .serialization (.encoding fault)

end GraphQLClient
