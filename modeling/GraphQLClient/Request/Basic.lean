import GraphQLClient.Failure
import GraphQLClient.Handle
import GraphQLClient.Http.Headers

/-!
What a call sends: the caller's settings for it, and the request on the wire with a JSON text or a
multipart form as its body.
-/

namespace GraphQLClient

/-- Settings for one call. Header fields given here replace the client's own of the same name. -/
structure CallSettings where
  headers : Headers := []
  timeout : Option Nat := none
  endpoint : Option String := none
  cancellation : Option Handle := none

namespace CallSettings

/-- Sets a header field, if name and value are allowed. -/
def header (s : CallSettings) (name : String) (value : Bytes) :
    Except SerializationCause CallSettings :=
  match headerName? name with
  | none => .error .headerName
  | some n =>
    if isHeaderValue value then .ok { s with headers := s.headers.insert n value }
    else .error .headerValue

def bearer (s : CallSettings) (token : String) : Except SerializationCause CallSettings :=
  s.header "authorization" (Text.Utf8.encode ("Bearer " ++ token))

end CallSettings

inductive PartContent where
  | text (value : String)
  | file (upload : Upload)
  deriving DecidableEq

structure FormPart where
  name : String
  content : PartContent
  deriving DecidableEq

/-- The parts of a form in the order in which they are sent. -/
abbrev Form := List FormPart

namespace Form

def text (form : Form) (name value : String) : Form := form ++ [⟨name, .text value⟩]
def file (form : Form) (name : String) (upload : Upload) : Form := form ++ [⟨name, .file upload⟩]
def part? (form : Form) (name : String) : Option FormPart := form.find? (·.name = name)

/-- The uploads that a form carries, in order. -/
def files (form : Form) : List Upload :=
  form.filterMap fun p =>
    match p.content with
    | .file u => some u
    | .text _ => none

end Form

inductive RequestBody where
  | json (text : String)
  | multipart (form : Form)
  deriving DecidableEq

structure HttpRequest where
  method : String := "POST"
  headers : Headers := []
  body : RequestBody
  endpoint : Option String := none
  timeout : Option Nat := none
  cancellation : Option Handle := none

end GraphQLClient
