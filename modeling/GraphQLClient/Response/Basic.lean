import GraphQLClient.Failure
import GraphQLClient.Handle
import GraphQLClient.Http.Headers

/-!
Responses: a head that outlives the body, and a body that is there at once or arrives in pieces.
-/

namespace GraphQLClient

structure ResponseHead where
  status : StatusCode
  headers : Headers

/-- What happens next while a body is read. -/
inductive Arrival where
  | data (bytes : Bytes)
  | fault (failure : Failure)
  /-- Reading on fires a handle. -/
  | firing (handle : Handle)
  /-- Nothing arrives for so many milliseconds after the reader has come here. -/
  | delay (ms : Nat)
  /-- Nothing arrives before this time. -/
  | due (time : Nat)

/-- Arrivals in order; a body that stays open never ends behind them. -/
structure Arrivals where
  pending : List Arrival := []
  staysOpen : Bool := false

inductive Body where
  | buffered (bytes : Bytes)
  | streamed (arrivals : Arrivals)

def Body.debugText : Body → String
  | .buffered b => "Buffered(" ++ toString b.length ++ ")"
  | .streamed _ => "Stream"

/-- A body as arrivals; an empty one brings nothing. -/
def Body.arrivals : Body → Arrivals
  | .buffered [] => {}
  | .buffered b => { pending := [.data b] }
  | .streamed a => a

structure HttpResponse where
  head : ResponseHead
  body : Body

namespace HttpResponse

/-- An answer of status 200 with a JSON text. -/
def json (body : Bytes) : HttpResponse :=
  { head := ⟨200, [("content-type", Text.Utf8.encode "application/json")]⟩
    body := .buffered body }

/-- A byte of a header value as messages show it: by its number if it is not visible. -/
def quotedByte (b : UInt8) : List Char :=
  if b = 0x22 then ['\\', '"']
  else if b = 9 || 0x20 ≤ b && b < 0x7F then [Char.ofNat b.toNat]
  else '\\' :: 'x' :: Nat.toDigits 16 b.toNat

def quotedBytes (value : Bytes) : String :=
  String.ofList ('"' :: value.flatMap quotedByte ++ ['"'])

def headersText (h : Headers) : String :=
  "\x7b" ++ ", ".intercalate (h.map fun f => Text.quoted f.1 ++ ": " ++ quotedBytes f.2) ++ "\x7d"

def debugText (r : HttpResponse) : String :=
  recordText "WireResponse" [("status", toString r.head.status.toNat),
    ("headers", headersText r.head.headers), ("body", r.body.debugText)]

end HttpResponse

end GraphQLClient
