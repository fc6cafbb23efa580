import GraphQLClient.Request.MultipartForm

/-!
Choosing between the two forms of a request: always one, or by a test of the request, which by
default looks for uploads.
-/

namespace GraphQLClient

inductive Strategy where
  | json
  | multipart
  /-- Multipart for the requests that pass the test. -/
  | select (test : OperationRequest → Bool)

namespace Strategy

def hasUpload (request : OperationRequest) : Bool := request.inputs.hasUpload

/-- Multipart where there are uploads to send. -/
def standard : Strategy := .select hasUpload

def usesMultipart : Strategy → OperationRequest → Bool
  | .json, _ => false
  | .multipart, _ => true
  | .select test, request => test request

def encode (s : Strategy) (request : OperationRequest) (settings : CallSettings) :
    Except SerializationCause HttpRequest :=
  if s.usesMultipart request then HttpRequest.multipartForm request settings
  else HttpRequest.jsonForm request settings

def debugText : Strategy → String
  | .json => "JsonSerializer"
  | .multipart => "MultipartSerializer"
  | .select _ => "SelectingSerializer \x7b .. \x7d"

end Strategy

end GraphQLClient
