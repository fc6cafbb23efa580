import Mathlib.Data.List.Basic
import GraphQLClient.Request.MultipartForm

/-! # The header fields of a request

A form of request has a few header fields of its own, and those of the caller
are put over them, value by value. `HttpRequest.Addressed` says what goes out
under each name because of that: what the caller gave it last, or else the
form's own. So a request goes out with all that the caller gave it just if no
name was given twice (`keepsGiven_iff`), and `forwardedTwice_halved` is a
request that loses a value. -/

namespace GraphQLClient

namespace Headers

@[simp]
theorem values_nil (name : String) : values name [] = [] := rfl

theorem values_cons (name : String) (field : String × Bytes) (h : Headers) :
    values name (field :: h) =
      if field.1 = name then field.2 :: values name h else values name h := by
  by_cases hn : field.1 = name <;> simp [values, hn]

theorem values_remove (name name' : String) (h : Headers) :
    (h.remove name).values name' = if name' = name then [] else h.values name' := by
  induction h with
  | nil => simp [remove]
  | cons field h ih =>
    obtain ⟨n, v⟩ := field
    unfold remove at ih ⊢
    by_cases hn : n = name
    · simp only [List.filter_cons, hn, ne_eq, not_true, decide_false, Bool.false_eq_true, if_false,
        ih, values_cons]
      split_ifs with h' h''
      · rfl
      · exact absurd h''.symm h'
      · rfl
    · simp only [List.filter_cons, hn, ne_eq, not_false_eq_true, decide_true, if_true, ih,
        values_cons]
      split_ifs with h' h''
      · exact absurd (h'.trans h'') hn
      all_goals rfl

/-- **Insertion leaves a name with the one value** and all other names alone. -/
theorem values_insert (name name' : String) (value : Bytes) (h : Headers) :
    (h.insert name value).values name' = if name' = name then [value] else h.values name' := by
  induction h with
  | nil => simp [insert, values_cons, eq_comm]
  | cons field h ih =>
    obtain ⟨n, v⟩ := field
    unfold insert
    by_cases hn : n = name
    · subst hn
      simp only [if_true, values_cons, values_remove, eq_comm (a := n)]
      split_ifs <;> rfl
    · rw [if_neg hn, values_cons, values_cons, ih]
      split_ifs with h' h''
      · exact absurd (h'.trans h'') hn
      all_goals rfl

/-- **Of several values that are put over others under one name, the last one stays.** -/
theorem values_overlay (own given : Headers) (name : String) :
    (own.overlay given).values name =
      match (given.values name).getLast? with
      | some v => [v]
      | none => own.values name := by
  induction given generalizing own with
  | nil => rfl
  | cons field given ih =>
    have hstep : own.overlay (field :: given) = (own.insert field.1 field.2).overlay given := rfl
    rw [hstep, ih, values_insert, values_cons]
    by_cases hn : field.1 = name
    · simp only [hn, if_true, List.getLast?_cons]
      cases (values name given).getLast? <;> rfl
    · simp only [hn, Ne.symm hn, if_false]

end Headers

/-- The header fields that the JSON form has of its own. -/
def OperationKind.jsonFields (k : OperationKind) : Headers :=
  [("content-type", Text.Utf8.encode "application/json"), ("accept", Text.Utf8.encode k.accept)]

/-- Those of the multipart form, whose media type is left to the transport. -/
def OperationKind.multipartFields (k : OperationKind) : Headers :=
  [("accept", Text.Utf8.encode k.accept)]

namespace HttpRequest

/-- A request with fields of its own goes out under the settings of a call. -/
structure Addressed (wire : HttpRequest) (own : Headers) (settings : CallSettings) : Prop where
  /-- Whatever values the caller gives a name, the last of them is its only one. -/
  given : ∀ name v, (settings.headers.values name).getLast? = some v →
    wire.headers.values name = [v]
  /-- Names that the caller leaves alone have the form's own values, if it has any. -/
  own : ∀ name, settings.headers.values name = [] → wire.headers.values name = own.values name
  endpoint : wire.endpoint = settings.endpoint
  timeout : wire.timeout = settings.timeout
  cancellation : wire.cancellation = settings.cancellation

/-- All that the caller gives a name goes out under it, and the form's own fields under the other
names. -/
def KeepsGiven (wire : HttpRequest) (own : Headers) (settings : CallSettings) : Prop :=
  ∀ name, wire.headers.values name =
    if settings.headers.values name = [] then own.values name else settings.headers.values name

theorem Addressed.keepsGiven_iff {wire : HttpRequest} {own : Headers} {settings : CallSettings}
    (h : wire.Addressed own settings) :
    wire.KeepsGiven own settings ↔ ∀ name, (settings.headers.values name).length ≤ 1 := by
  refine forall_congr' fun name => ?_
  rcases hg : settings.headers.values name with _ | ⟨v, vs⟩
  · simpa using h.own name hg
  · have hlast : (settings.headers.values name).getLast? = some (vs.getLast?.getD v) := by
      rw [hg, List.getLast?_cons]
    rw [h.given name _ hlast, if_neg (List.cons_ne_nil v vs)]
    cases vs <;> simp

theorem assemble_addressed (op : Operation) (settings : CallSettings) (own : Headers)
    (body : RequestBody) :
    (assemble op settings own body).Addressed
      (own.insert "accept" (Text.Utf8.encode op.kind.accept)) settings where
  given name v hv := by simp only [assemble, Headers.values_overlay, hv]
  own name hn := by simp only [assemble, Headers.values_overlay, hn, List.getLast?_nil]
  endpoint := rfl
  timeout := rfl
  cancellation := rfl

section

variable {request : OperationRequest} {settings : CallSettings} {wire : HttpRequest}

theorem jsonForm_addressed (h : jsonForm request settings = .ok wire) :
    wire.Addressed request.operation.kind.jsonFields settings := by
  unfold jsonForm at h
  split at h
  · cases h
  · cases h
    exact assemble_addressed _ _ _ _

theorem multipartForm_addressed (h : multipartForm request settings = .ok wire) :
    wire.Addressed request.operation.kind.multipartFields settings := by
  unfold multipartForm at h
  split at h
  · cases h
  · cases h
  · cases h
    exact assemble_addressed _ _ _ _

end

/-- **What goes out under every name**, in both forms: the last value that the caller gave it, or
else the form's own. This is all that the caller gave just if no name was given twice. -/
theorem forms_addressed (request : OperationRequest) (settings : CallSettings) :
    (∀ wire, jsonForm request settings = .ok wire →
      wire.Addressed request.operation.kind.jsonFields settings ∧
        (wire.KeepsGiven request.operation.kind.jsonFields settings ↔
          ∀ name, (settings.headers.values name).length ≤ 1)) ∧
    ∀ wire, multipartForm request settings = .ok wire →
      wire.Addressed request.operation.kind.multipartFields settings ∧
        (wire.KeepsGiven request.operation.kind.multipartFields settings ↔
          ∀ name, (settings.headers.values name).length ≤ 1) := by
  constructor
  · intro wire h
    have haddr := jsonForm_addressed h
    exact ⟨haddr, haddr.keepsGiven_iff⟩
  · intro wire h
    have haddr := multipartForm_addressed h
    exact ⟨haddr, haddr.keepsGiven_iff⟩

/-- A query with an upload in its variables or without. -/
def whoAmI (inputs : Variable) : OperationRequest :=
  ⟨⟨"WhoAmI", "query WhoAmI { me }", .query⟩, inputs⟩

/-- A media type in place of the client's own, and a further field. -/
def traced : CallSettings where
  headers := [("accept", [0x2A]), ("x-trace", [0x31])]
  timeout := some 5000

theorem traced_addressed :
    (∃ wire, jsonForm (whoAmI .null) traced = .ok wire ∧
      wire.Addressed OperationKind.query.jsonFields traced) ∧
    ∃ wire, multipartForm (whoAmI (.upload ⟨[1], none, none⟩)) traced = .ok wire ∧
      wire.Addressed OperationKind.query.multipartFields traced :=
  ⟨⟨_, rfl, ((forms_addressed (whoAmI .null) traced).1 _ rfl).1⟩,
    _, rfl, ((forms_addressed (whoAmI (.upload ⟨[1], none, none⟩)) traced).2 _ rfl).1⟩

/-- Two values of one name. -/
def forwardedTwice : CallSettings where
  headers := [("x-forwarded-for", [0x61]), ("x-forwarded-for", [0x62])]

/-- Only the second of them goes out. -/
theorem forwardedTwice_halved : ∃ wire, jsonForm (whoAmI .null) forwardedTwice = .ok wire ∧
    forwardedTwice.headers.values "x-forwarded-for" = [[0x61], [0x62]] ∧
    wire.headers.values "x-forwarded-for" = [[0x62]] ∧
    ¬ wire.KeepsGiven OperationKind.query.jsonFields forwardedTwice := by
  refine ⟨_, rfl, by decide, by decide, fun h => ?_⟩
  have hname := h "x-forwarded-for"
  revert hname
  decide

end HttpRequest

end GraphQLClient
