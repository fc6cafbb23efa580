import GraphQLClient.Future
import GraphQLClient.Response.Basic
import GraphQLClient.Response.Envelope

/-!
Reading a body to its end, and the answer to a query or mutation that it holds. A failure to decode
the envelope is the status's fault unless that is a success; so is null data under such a status.
-/

namespace GraphQLClient

namespace Body

variable {σ : Type}

/-- The bytes that arrive behind `seen`, up to the end of the body or its first fault. -/
def collectFrom (staysOpen : Bool) : List Arrival → Bytes → Future σ (Except Failure Bytes)
  | [], seen => if staysOpen then .never (.done (.ok seen)) else .done (.ok seen)
  | .data b :: rest, seen => collectFrom staysOpen rest (seen ++ b)
  | .fault f :: _, _ => .done (.error f)
  | .firing h :: rest, seen => .fire h fun _ => collectFrom staysOpen rest seen
  | .delay ms :: rest, seen => (Future.sleep ms).bind fun _ => collectFrom staysOpen rest seen
  | .due time :: rest, seen => .wait (.upTo time) (collectFrom staysOpen rest seen)

def collect : Body → Future σ (Except Failure Bytes)
  | .buffered b => .done (.ok b)
  | .streamed a => collectFrom a.staysOpen a.pending []

/-- All that arrives: pieces and faults. -/
def piecesFrom (staysOpen : Bool) : List Arrival → Future σ (List (Except Failure Bytes))
  | [] => if staysOpen then .never (.done []) else .done []
  | .data b :: rest => (piecesFrom staysOpen rest).bind fun ps => .done (.ok b :: ps)
  | .fault f :: rest => (piecesFrom staysOpen rest).bind fun ps => .done (.error f :: ps)
  | .firing h :: rest => .fire h fun _ => piecesFrom staysOpen rest
  | .delay ms :: rest => (Future.sleep ms).bind fun _ => piecesFrom staysOpen rest
  | .due time :: rest => .wait (.upTo time) (piecesFrom staysOpen rest)

def pieces (b : Body) : Future σ (List (Except Failure Bytes)) :=
  piecesFrom b.arrivals.staysOpen b.arrivals.pending

end Body

namespace HttpResponse

variable {σ : Type}

def bytes (r : HttpResponse) : Future σ (Except Failure Bytes) := r.body.collect

def text (r : HttpResponse) : Future σ (Except Failure String) :=
  r.bytes.bind fun b => .done (b.map Text.Utf8.decodeLossy)

def jsonValue (r : HttpResponse) : Future σ (Except Failure Json) :=
  r.bytes.bind fun b =>
    .done (b.bind fun b => (Json.parse b).mapError fun f => .invalidBody (.response f))

/-- The data of an answer whose whole body is known. -/
def resolve (handler : ErrorHandler) (op : Operation) (status : StatusCode) (body : Bytes) :
    Except Failure Json × List Notice :=
  let refused : Failure := .httpStatus status (Text.Utf8.decodeLossy body)
  match Envelope.read body with
  | .error fault =>
    (.error (if status.isSuccess then .invalidBody (.response fault) else refused), [])
  | .ok e =>
    match e.resolve handler op with
    | (.ok data, notices) =>
      (if data.isNull && !status.isSuccess then .error refused else .ok data, notices)
    | failed => failed

/-- The data that answers a query or mutation. -/
def payload (handler : ErrorHandler) (op : Operation) (r : HttpResponse) :
    Future σ (Except Failure Json) :=
  r.bytes.bind fun b =>
    match b with
    | .error f => .done (.error f)
    | .ok b =>
      let answer := resolve handler op r.head.status b
      (Future.reportAll answer.2).bind fun _ => .done answer.1

end HttpResponse

end GraphQLClient
