import GraphQLClient.Proofs.Response.Answers
import GraphQLClient.Proofs.Text.Encoding

/-! # One payload, as an answer and as an event

A text in braces that stands in one line can be the body of an answer, or the
payload of an event: behind the field `data` and some spaces, in a line of its
own. The line is cut out of the body, decoded, parted at its first colon and
trimmed, and none of this touches the text (`lineItem?_dataLine`); so both are
read alike (`payload_readAlike`). -/

namespace GraphQLClient

open Text.Utf8 (encodeChars)

variable {σ : Type}

/-! ## The line of an event -/

/-- A text in braces without a line feed. -/
structure Braced (p : String) : Prop where
  unbroken : '\n' ∉ p.toList
  opening : p.toList.head? = some '\x7b'
  closing : p.toList.getLast? = some '\x7d'

/-- The line of an event: its field, some spaces and its payload. -/
def dataLine (blanks : Nat) (p : String) : List Char :=
  "data:".toList ++ (List.replicate blanks ' ' ++ p.toList)

theorem dataLine_eq (blanks : Nat) (p : String) :
    dataLine blanks p = "data:".toList ++ (List.replicate blanks ' ' ++ p.toList) := rfl

/-- A line of another field, or of none. -/
structure OtherLine (line : Bytes) : Prop where
  unbroken : 0x0A ∉ line
  other : ':' ∈ (lineText line).toList →
    (lineText line).toList.takeWhile (· ≠ ':') ≠ "data".toList

/-- Lines of other fields, the line of an event, and what ends it. -/
def eventBody (before : List Bytes) (blanks : Nat) (p : String) (ending : Bytes) : Bytes :=
  before.flatMap (· ++ [0x0A]) ++ (encodeChars (dataLine blanks p) ++ ending)

namespace Braced

variable {p : String}

/-- Trimming takes the spaces and leaves the braces. -/
theorem trim_spaces (hp : Braced p) (blanks : Nat) :
    Text.trim (String.ofList (List.replicate blanks ' ' ++ p.toList)) = p := by
  have hfront : (List.replicate blanks ' ' ++ p.toList).dropWhile Text.isBlank = p.toList := by
    rw [List.dropWhile_append_of_pos fun c hc => by rw [List.eq_of_mem_replicate hc]; rfl]
    obtain ⟨rest, hr⟩ := List.head?_eq_some_iff.1 hp.opening
    rw [hr]
    rfl
  have hback : p.toList.rdropWhile Text.isBlank = p.toList := by
    rw [List.rdropWhile_eq_self_iff]
    intro hne
    rw [List.getLast_of_getLast?_eq_some hp.closing]
    decide
  rw [Text.trim, String.toList_ofList, hfront]
  exact (congrArg String.ofList hback).trans String.ofList_toList

theorem unbroken_dataLine (hp : Braced p) (blanks : Nat) :
    0x0A ∉ encodeChars (dataLine blanks p) := by
  intro hm
  obtain ⟨c, hc, hn⟩ := Text.Utf8.exists_of_mem_encodeChars (by decide) hm
  obtain rfl : c = '\n' := Char.toNat_inj.1 hn
  rw [dataLine_eq, List.mem_append, List.mem_append] at hc
  rcases hc with hc | hc | hc
  · revert hc
    decide
  · cases List.eq_of_mem_replicate hc
  · exact hp.unbroken hc

theorem getLast?_dataLine (hp : Braced p) (blanks : Nat) :
    (encodeChars (dataLine blanks p)).getLast? = some 0x7D := by
  obtain ⟨front, hf⟩ := List.getLast?_eq_some_iff.1 hp.closing
  rw [dataLine_eq, hf, ← List.append_assoc, ← List.append_assoc, Text.Utf8.encodeChars_append]
  exact List.getLast?_concat

end Braced

namespace EventStream

variable {handler : ErrorHandler} {op : Operation} {p : String}

/-- What an event brings that holds a text. -/
def payloadItem (handler : ErrorHandler) (op : Operation) (p : String) : Item :=
  match Envelope.read (Text.Utf8.encode p) with
  | .error fault => .error (.invalidBody (.event fault))
  | .ok e => (e.resolve handler op).1

theorem lineItem?_dataLine (hp : Braced p) (blanks : Nat) :
    lineItem? handler op (String.ofList (dataLine blanks p)) = some (payloadItem handler op p) := by
  have hfield : ':' ∈ (String.ofList (dataLine blanks p)).toList ∧
      (String.ofList (dataLine blanks p)).toList.takeWhile (· ≠ ':') = "data".toList := by
    rw [String.toList_ofList, dataLine_eq]
    exact ⟨List.mem_append_left _ (by decide), rfl⟩
  have hvalue : ((String.ofList (dataLine blanks p)).toList.dropWhile (· ≠ ':')).drop 1 =
      List.replicate blanks ' ' ++ p.toList := by
    rw [String.toList_ofList, dataLine_eq]
    rfl
  rw [lineItem?, if_pos hfield]
  simp only [hvalue, hp.trim_spaces blanks, payloadItem]
  cases Envelope.read (Text.Utf8.encode p) <;> rfl

theorem lineItem?_otherLine {line : Bytes} (h : OtherLine line) :
    lineItem? handler op (lineText line) = none :=
  if_neg fun hf => h.other hf.1 hf.2

theorem lineItems_otherLines {before : List Bytes} (h : ∀ line ∈ before, OtherLine line) :
    lineItems handler op before = [] :=
  List.filterMap_eq_nil_iff.2 fun line hm => lineItem?_otherLine (h line hm)

theorem lineItems_singleton (line : Bytes) :
    lineItems handler op [line] = (lineItem? handler op (lineText line)).toList := by
  rw [lineItems_cons]
  exact List.append_nil _

/-- The items of a whole body, those behind a failure too. -/
def wholeItems (handler : ErrorHandler) (op : Operation) (body : Bytes) : List Item :=
  lineItems handler op (cutLines body).1 ++
    if (cutLines body).2 = [] then []
    else (lineItem? handler op (lastLineText (cutLines body).2)).toList

theorem itemsFrom_of_received {arrivals : List Arrival} {body : Bytes}
    (ha : Arrival.received arrivals = (body, none)) :
    itemsFrom handler op {} arrivals = wholeItems handler op body := by
  rw [itemsFrom, laterItems, ha]
  rfl

/-- Lines in front bring their own items. -/
theorem wholeItems_lines {before : List Bytes} (h : ∀ line ∈ before, 0x0A ∉ line) (rest : Bytes) :
    wholeItems handler op (before.flatMap (· ++ [0x0A]) ++ rest) =
      lineItems handler op before ++ wholeItems handler op rest := by
  rw [wholeItems, cutLines_lines h, lineItems, List.filterMap_append, List.append_assoc]
  rfl

/-- A line feed, with a carriage return or without, or the end of the body. -/
def lineEndings : List Bytes := [[0x0A], [0x0D, 0x0A], []]

/-- However a line ends, its item is that of its text. -/
theorem wholeItems_line {line : Bytes} (unbroken : 0x0A ∉ line) {last : UInt8}
    (hlast : line.getLast? = some last) (hreturn : last ≠ 0x0D) {ending : Bytes}
    (hending : ending ∈ lineEndings) :
    wholeItems handler op (line ++ ending) =
      (lineItem? handler op (Text.Utf8.decodeLossy line)).toList := by
  simp only [lineEndings, List.mem_cons, List.not_mem_nil, or_false] at hending
  unfold wholeItems
  -- A line feed, one behind a carriage return that goes with it, or a line left unfinished.
  rcases hending with rfl | rfl | rfl
  · have hcut : cutLines (line ++ [0x0A]) = ([line], []) := cutLines_line unbroken []
    have htext : lineText line = Text.Utf8.decodeLossy line := by simp [lineText, hlast, hreturn]
    simp only [hcut, if_true, lineItems_singleton, htext, List.append_nil]
  · have hline : 0x0A ∉ line ++ [0x0D] := by simpa using unbroken
    have hcut : cutLines (line ++ [0x0D, 0x0A]) = ([line ++ [0x0D]], []) :=
      (congrArg cutLines (List.append_assoc line [0x0D] [0x0A]).symm).trans (cutLines_line hline [])
    have htext : lineText (line ++ [0x0D]) = Text.Utf8.decodeLossy line := by simp [lineText]
    simp only [hcut, if_true, lineItems_singleton, htext, List.append_nil]
  · have hne : line ≠ [] := by
      rintro rfl
      cases hlast
    have hrest : line.rdropWhile (· = 0x0D) = line := by
      rw [List.rdropWhile_eq_self_iff]
      intro h
      rw [List.getLast_of_getLast?_eq_some hlast]
      simpa using hreturn
    rw [List.append_nil, cutLines_of_not_mem unbroken, if_neg hne, lastLineText_eq, hrest]
    rfl

theorem wholeItems_eventBody (hp : Braced p) {before : List Bytes}
    (hbefore : ∀ line ∈ before, OtherLine line) (blanks : Nat) {ending : Bytes}
    (hending : ending ∈ lineEndings) :
    wholeItems handler op (eventBody before blanks p ending) = [payloadItem handler op p] := by
  have hunbroken : ∀ line ∈ before, 0x0A ∉ line := fun line hm => (hbefore line hm).unbroken
  rw [eventBody, wholeItems_lines hunbroken, lineItems_otherLines hbefore, List.nil_append,
    wholeItems_line (hp.unbroken_dataLine blanks) (hp.getLast?_dataLine blanks) (by decide) hending,
    Text.Utf8.decodeLossy_encodeChars, lineItem?_dataLine hp]
  rfl

/-! ## The payload as an answer -/

/-- How an answer and an item go together that are read from one text: the same data of an envelope,
the same failure of the handler, or one fault in two wordings. -/
inductive ReadAlike (handler : ErrorHandler) (op : Operation) (p : String) :
    Except Failure Json → Item → Prop
  | data {e : Envelope} (h : Envelope.read (Text.Utf8.encode p) = .ok e) (d : Json) :
      ReadAlike handler op p (.ok d) (.ok d)
  | handed {f : Failure} (h : HttpResponse.HandsOver handler op (Text.Utf8.encode p) f) :
      ReadAlike handler op p (.error f) (.error f)
  | malformed {fault : Json.Fault} (h : Envelope.read (Text.Utf8.encode p) = .error fault)
      {cause causeOfEvent : BodyCause}
      (worded : causeOfEvent.message = "malformed event payload: " ++ cause.message) :
      ReadAlike handler op p (.error (.invalidBody cause)) (.error (.invalidBody causeOfEvent))

theorem readAlike_payloadItem (handler : ErrorHandler) (op : Operation) (p : String) :
    ReadAlike handler op p (HttpResponse.resolve handler op 200 (Text.Utf8.encode p)).1
      (payloadItem handler op p) := by
  have hsettled (d : Json) : HttpResponse.settled 200 (Text.Utf8.encode p) d = .ok d := by
    have hs : StatusCode.isSuccess 200 = true := by decide
    simp [HttpResponse.settled, hs]
  unfold payloadItem
  cases h : Envelope.read (Text.Utf8.encode p) with
  | error fault =>
    rw [HttpResponse.resolve_of_fault h]
    exact .malformed h rfl
  | ok e =>
    by_cases he : e.errors = []
    · rw [HttpResponse.resolve_of_no_errors h he, hsettled]
      simp only [Envelope.resolve, he, List.isEmpty_nil, if_true]
      exact .data h _
    · have hne : e.errors.isEmpty = false := by simpa using he
      rw [HttpResponse.resolve_of_errors h he]
      simp only [Envelope.resolve, hne, Bool.false_eq_true, if_false]
      cases hd : (handler op e.errors e.data).1 with
      | error f => exact .handed ⟨e, h, he, hd⟩
      | ok d =>
        rw [Except.bind, hsettled]
        exact .data h d

/-! ## Both at once -/

/-- A response that is a success and comes to the end of some body. -/
structure Brings (r : HttpResponse) (body : Bytes) : Prop where
  status : r.head.status = 200
  whole : r.body.outcome = .ok body
  ends : r.body.arrivals.Ends

theorem Brings.received {r : HttpResponse} {body : Bytes} (h : Brings r body) :
    Arrival.received r.body.arrivals.pending = (body, none) := by
  have hw := h.whole
  unfold Body.outcome Arrival.outcome at hw
  split at hw
  · next hnone =>
    cases hw
    exact Prod.ext rfl hnone
  · cases hw

/-- A response that brings the event of a text in a stream of its own, and leaves a handle alone. -/
structure BringsEvent (r : HttpResponse) (p : String) (h : Handle) : Prop where
  framed : isEventStream r.head.headers.contentType? = true
  quiet : ∀ a ∈ r.body.arrivals.pending, a ≠ .firing h
  event : ∃ before blanks ending, (∀ line ∈ before, OtherLine line) ∧ ending ∈ lineEndings ∧
    Brings r (eventBody before blanks p ending)

/-- Drained, a stream with the event of a text has the one item. -/
theorem drains_event_iff {r : HttpResponse} {h : Handle} (hp : Braced p) (hr : BringsEvent r p h)
    {t : Timeline} (live : t.isFired h = false) {items : List Item} :
    Drains (opened handler op h r) t items ↔ items = [payloadItem handler op p] := by
  obtain ⟨before, blanks, ending, hbefore, hending, hbrings⟩ := hr.event
  have hitems : itemsFrom handler op {} r.body.arrivals.pending = [payloadItem handler op p] :=
    (itemsFrom_of_received hbrings.received).trans (wholeItems_eventBody hp hbefore blanks hending)
  have hcome : (opened handler op h r).toCome = [payloadItem handler op p] := by
    rw [toCome, if_neg (by simp [opened])]
    refine (congrArg upToFailure hitems).trans ?_
    cases payloadItem handler op p <;> rfl
  rw [drains_iff (reading_opened hbrings.ends hr.quiet) live, hcome]

/-- **A payload is read alike in an answer and in an event.** Neither the pieces it comes in nor
what stands around it makes a difference. -/
theorem payload_readAlike (handler : ErrorHandler) (op : Operation) (h : Handle) {p : String}
    (hp : Braced p) {answered streamed : HttpResponse}
    (ha : Brings answered (Text.Utf8.encode p)) (hs : BringsEvent streamed p h) {s : Session σ}
    (unlimited : s.deadline = none) {t : Timeline} (live : t.isFired h = false) :
    ∃ (answer : Except Failure Json) (s' : Session σ) (events : EventStream) (item : Item),
      (answered.payload handler op).complete s = (some answer, s') ∧
      (streamed.events handler op h : Future σ (Except Failure EventStream)) =
        .done (.ok events) ∧
      (∀ items, Drains events t items ↔ items = [item]) ∧
      ReadAlike handler op p answer item := by
  obtain ⟨before, blanks, ending, -, -, hbrings⟩ := hs.event
  obtain ⟨s', hc⟩ := answered.body.exists_complete_collect unlimited ha.ends
  have hpayload := HttpResponse.complete_payload handler op answered s
  rw [hc, ha.whole, ha.status] at hpayload
  exact ⟨_, _, _, _, hpayload, events_of_accepted hbrings.status hs.framed,
    fun items => drains_event_iff hp hs live, readAlike_payloadItem handler op p⟩

/-- A payload with a colon, a carriage return and a letter of two bytes. -/
def greeting : String := "\x7b\"data\":\r\"Grüße: 1\"\x7d"

def greetingAnswer : HttpResponse where
  head := ⟨200, []⟩
  body := .buffered (Text.Utf8.encode greeting)

def greetingLines : Bytes :=
  eventBody [Text.Utf8.encode ": ping\r"] 2 greeting [0x0D, 0x0A]

/-- The payload behind a comment, cut inside a letter. -/
def greetingEvent : HttpResponse where
  head := ⟨200, [("content-type", Text.Utf8.encode "text/event-stream")]⟩
  body := .streamed { pending :=
    [.data (greetingLines.take 28), .delay 5, .data (greetingLines.drop 28)] }

theorem braced_greeting : Braced greeting := ⟨by decide, by decide, by decide⟩

theorem brings_greetingAnswer : Brings greetingAnswer (Text.Utf8.encode greeting) :=
  ⟨rfl, rfl, .inl rfl⟩

theorem bringsEvent_greetingEvent : BringsEvent greetingEvent greeting ⟨0⟩ where
  framed := by decide +kernel
  quiet := by simp [greetingEvent, Body.arrivals]
  event := by
    refine ⟨[Text.Utf8.encode ": ping\r"], 2, [0x0D, 0x0A], ?_, by simp [lineEndings], ?_⟩
    · intro line hm
      rw [List.mem_singleton.1 hm]
      exact ⟨by decide +kernel, by decide +kernel⟩
    · exact ⟨rfl, rfl, .inl rfl⟩

theorem greeting_readAlike :
    ∃ (answer : Except Failure Json) (s' : Session Unit) (events : EventStream) (item : Item),
      (greetingAnswer.payload ErrorHandler.raise onTick).complete { state := () } =
        (some answer, s') ∧
      (greetingEvent.events ErrorHandler.raise onTick ⟨0⟩ :
        Future Unit (Except Failure EventStream)) = .done (.ok events) ∧
      (∀ items, Drains events {} items ↔ items = [item]) ∧
      ReadAlike ErrorHandler.raise onTick greeting answer item :=
  payload_readAlike _ onTick ⟨0⟩ braced_greeting brings_greetingAnswer bringsEvent_greetingEvent
    rfl rfl

end EventStream

end GraphQLClient
