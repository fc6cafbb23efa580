import GraphQLClient.Call.Executor
import GraphQLClient.Transport.MediaType
import GraphQLClient.Url.Parser

/-!
The transport over HTTP up to the point where it connects: its configuration, the checks when it is
built, and the requests that it refuses by themselves. What a connection does with the others is a
parameter.
-/

namespace GraphQLClient

structure HttpConfig where
  timeout : Option Nat := none
  connectTimeout : Option Nat := some 10000
  /-- How many redirects are followed. -/
  maxRedirects : Nat := 10
  cookies : Bool := false
  userAgent : Option String := some "gql-client/1.0.0 (Rust)"
  proxy : Option String := none

/-- A transport that is being set up. -/
structure HttpSetup where
  endpoint : String
  config : HttpConfig := {}
  defaultHeaders : Headers := []

structure HttpTransport where
  endpoint : Url
  config : HttpConfig
  defaultHeaders : Headers

namespace HttpSetup

/-- Sets a header field of every request. -/
def defaultHeader (s : HttpSetup) (name : String) (value : Bytes) :
    Except SerializationCause HttpSetup :=
  match headerName? name with
  | none => .error .defaultHeaderName
  | some n =>
    if isHeaderValue value then
      .ok { s with defaultHeaders := s.defaultHeaders.insert n value }
    else .error .defaultHeaderValue

/-- A proxy is a URL with a host, or is one with a scheme put before it. -/
def isProxy (text : String) : Bool :=
  let withScheme :=
    match Url.parse ("http://" ++ text) with
    | .ok _ => true
    | .error _ => false
  match Url.parse text with
  | .ok u => u.hasHost || withScheme
  | .error .relativeWithoutBase => withScheme
  | .error _ => false

/-- The endpoint is checked first, then the proxy, then the user agent. -/
def build (s : HttpSetup) : Except Failure HttpTransport :=
  match Url.parse s.endpoint with
  | .error f => .error (.invalidUrl f.message)
  | .ok endpoint =>
    if s.config.proxy.any (!isProxy ·) then .error (.invalidUrl "invalid proxy: builder error")
    else if s.config.userAgent.any (fun a => !isHeaderValue (Text.Utf8.encode a)) then
      .error (.transport "builder error")
    else .ok { endpoint, config := s.config, defaultHeaders := s.defaultHeaders }

end HttpSetup

namespace HttpTransport

variable {σ : Type}

/-- The media types of the files in a body that are none; such a file is sent without one. -/
def badMediaTypes : RequestBody → List String
  | .json _ => []
  | .multipart form =>
    form.files.filterMap fun u => u.contentType.filter (!MediaType.isMediaType ·)

def target (t : HttpTransport) (r : HttpRequest) : Except Failure Url :=
  match r.endpoint with
  | none => .ok t.endpoint
  | some text => (Url.parse text).mapError fun f => .invalidUrl f.message

/-- Sends a request; only the schemes of HTTP are connected to. -/
def sendRequest (t : HttpTransport)
    (connect : Url → HttpRequest → Future σ (Except Failure HttpResponse)) (r : HttpRequest) :
    Future σ (Except Failure HttpResponse) :=
  match t.target r with
  | .error f => .done (.error f)
  | .ok url =>
    (Future.reportAll ((badMediaTypes r.body).map .invalidMediaType ++ [.sendingRequest])).bind
      fun _ =>
        if url.scheme = "http" || url.scheme = "https" then connect url r
        else
          .done (.error (.transport
            ("builder error for url (" ++ url.withoutCredentials.text ++ ")")))

/-- The transport: it gives a request up once the request's handle has fired. -/
def transport (t : HttpTransport)
    (connect : Url → HttpRequest → Future σ (Except Failure HttpResponse)) : Transport σ :=
  fun r state =>
    let sent := t.sendRequest connect r
    match r.cancellation with
    | none => (sent, state)
    | some h => ((sent.untilFired h).bind fun a => .done (a.getD (.error .cancelled)), state)

end HttpTransport

end GraphQLClient
