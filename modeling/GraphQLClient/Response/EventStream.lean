import GraphQLClient.Response.Reading
import GraphQLClient.Text.Blank

/-!
Server-sent events: a body read line by line, of which the lines with the field `data` each hold one
envelope. The stream ends with the body, behind its first failure, or when its handle has fired,
which is looked at before every line and every piece of the body. A piece is read only when no
complete line is left.
-/

namespace GraphQLClient

/-! ## Lines -/

/-- The lines that end in a line feed, without it, and the bytes behind the last of them. -/
def cutLines : Bytes → List Bytes × Bytes
  | [] => ([], [])
  | b :: rest =>
    match cutLines rest with
    | (lines, tail) =>
      if b = 0x0A then ([] :: lines, tail)
      else
        match lines with
        | [] => ([], b :: tail)
        | line :: lines => ((b :: line) :: lines, tail)

/-- Complete lines that have not been read yet, and the beginning of the next one. -/
structure Lines where
  complete : List Bytes := []
  tail : Bytes := []

def Lines.push (l : Lines) (piece : Bytes) : Lines :=
  match cutLines (l.tail ++ piece) with
  | (lines, tail) => ⟨l.complete ++ lines, tail⟩

/-- A complete line as text, without one carriage return at its end. -/
def lineText (line : Bytes) : String :=
  Text.Utf8.decodeLossy (if line.getLast? = some 0x0D then line.dropLast else line)

/-- The last line of a body that no line feed ends, without the carriage returns at its end. -/
def lastLineText (tail : Bytes) : String :=
  String.ofList (Text.trimEnd (· = '\r') (Text.Utf8.decodeLossy tail).toList)

/-- What stands behind the first colon, if the field before it is `data`. -/
def dataPayload? (line : String) : Option String :=
  match line.toList.span (· ≠ ':') with
  | (field, _ :: value) => if field = "data".toList then some (String.ofList value) else none
  | (_, []) => none

/-! ## Events -/

structure EventStream where
  handler : ErrorHandler
  operation : Operation
  handle : Handle
  body : Arrivals
  lines : Lines := {}
  bodyDone : Bool := false
  ended : Bool := false

/-- One item of a stream of payloads. -/
abbrev Item := Except Failure Json

namespace EventStream

def decode (handler : ErrorHandler) (op : Operation) (payload : String) : Item × List Notice :=
  match Envelope.read (Text.Utf8.encode (Text.trim payload)) with
  | .error fault => (.error (.invalidBody (.event fault)), [])
  | .ok e => e.resolve handler op

/-- The item that a line brings, if it brings one. -/
def readLine (handler : ErrorHandler) (op : Operation) (line : String) :
    Option Item × List Notice :=
  match dataPayload? line with
  | none => (none, [.eventLine line])
  | some p =>
    match decode handler op p with
    | (item, notices) => (some item, .eventLine line :: notices)

/-- The first item in some lines, what there is to report on the way, and the lines behind it. -/
def firstItem (handler : ErrorHandler) (op : Operation) :
    List Bytes → Option Item × List Notice × List Bytes
  | [] => (none, [], [])
  | line :: rest =>
    match readLine handler op (lineText line) with
    | (some item, notices) => (some item, notices, rest)
    | (none, notices) =>
      match firstItem handler op rest with
      | (item, more, rest) => (item, notices ++ more, rest)

abbrev Step := Poll (Option Item) × EventStream × Timeline

def finish (s : EventStream) (t : Timeline) : Step :=
  (.ready none, { s with ended := true },
    t.report [.eventStreamFinished s.operation.name (t.isFired s.handle)])

/-- Hands over an item; a failure is the last one. -/
def deliver (s : EventStream) (item : Item) (t : Timeline) : Step :=
  match item with
  | .ok _ => (.ready (some item), s, t)
  | .error _ => (.ready (some item), { s with ended := true }, t)

/-- The end of the body: an unfinished line is left to be read. -/
def drain (s : EventStream) (t : Timeline) : Step :=
  if s.lines.tail = [] then s.finish t
  else
    match readLine s.handler s.operation (lastLineText s.lines.tail) with
    | (some item, notices) => { s with lines := {} }.deliver item (t.report notices)
    | (none, notices) => { s with lines := {} }.finish (t.report notices)

def suspend (s : EventStream) (wait : Wait) (t : Timeline) : Step :=
  (.waiting (wait.orFiring s.handle), s, t)

/-- Reads on in the body, all complete lines having been read. -/
def pull (s : EventStream) : List Arrival → Lines → Timeline → Step
  | [], lines, t =>
    if s.body.staysOpen then
      { s with body := { s.body with pending := [] }, lines }.suspend {} t
    else
      let s := { s with body := { s.body with pending := [] }, lines, bodyDone := true }
      if t.isFired s.handle then s.finish t else s.drain t
  | .data b :: rest, lines, t =>
    let lines := lines.push b
    let s := { s with body := { s.body with pending := rest } }
    if t.isFired s.handle then { s with lines }.finish t
    else
      match firstItem s.handler s.operation lines.complete with
      | (some item, notices, left) =>
        { s with lines := { lines with complete := left } }.deliver item (t.report notices)
      | (none, notices, _) => s.pull rest { lines with complete := [] } (t.report notices)
  | .fault f :: rest, lines, t =>
    { s with body := { s.body with pending := rest }, lines }.deliver (.error f) t
  | .firing h :: rest, lines, t => s.pull rest lines (t.fire h).2
  | .delay ms :: rest, lines, t =>
    if ms = 0 then s.pull rest lines t
    else
      let time := t.now + ms
      { s with body := { s.body with pending := .due time :: rest }, lines }.suspend (.upTo time) t
  | .due time :: rest, lines, t =>
    if time ≤ t.now then s.pull rest lines t
    else
      { s with body := { s.body with pending := .due time :: rest }, lines }.suspend (.upTo time) t

/-- Goes on until there is an item, the stream has ended, or nothing arrives. -/
def poll (s : EventStream) (t : Timeline) : Step :=
  if s.ended then (.ready none, s, t)
  else if t.isFired s.handle then s.finish t
  else
    match firstItem s.handler s.operation s.lines.complete with
    | (some item, notices, left) =>
      { s with lines := { s.lines with complete := left } }.deliver item (t.report notices)
    | (none, notices, _) =>
      let t := t.report notices
      let s := { s with lines := { s.lines with complete := [] } }
      if s.bodyDone then s.drain t else s.pull s.body.pending s.lines t

/-- Polls enough to come to the next item or the end, however often the body makes it wait. -/
def pollsToNext (s : EventStream) : Nat := s.body.pending.length + 3

end EventStream

/-! ## Opening -/

/-- The media type of event streams, with parameters and in any case. -/
def isEventStream (contentType : Option String) : Bool :=
  contentType.any fun ct =>
    let media := String.ofList (ct.toList.takeWhile (· ≠ ';'))
    (Text.trim media).toList.map Char.toLower = "text/event-stream".toList

namespace HttpResponse

/-- The events of a response that accepts a subscription; nothing of its body is read yet. -/
def events {σ : Type} (handler : ErrorHandler) (op : Operation) (handle : Handle)
    (r : HttpResponse) : Future σ (Except Failure EventStream) :=
  let contentType := r.head.headers.contentType?
  if r.head.status = 200 && isEventStream contentType then
    .done (.ok { handler, operation := op, handle, body := r.body.arrivals })
  else
    r.text.bind fun body =>
      match body with
      | .error f => .done (.error f)
      | .ok body =>
        .report (.subscriptionRejected op.name r.head.status contentType)
          (.done (.error (.subscriptionFraming r.head.status contentType body)))

end HttpResponse

end GraphQLClient
