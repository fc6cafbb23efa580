import GraphQLClient.Proofs.Request.Strategies
import GraphQLClient.Proofs.Variable.FromJson
import GraphQLClient.Proofs.Variable.Printer

/-! # Reading back what the JSON form sends

The body of the JSON form is the text of an object of two members. Whoever reads
it finds the document as it was and variables equal to those that were sent, as
long as the variables do not nest more deeply than the reader allows below the
object around them (`jsonForm_readBack`). -/

namespace GraphQLClient

open Variable

namespace Json

/-- **A whole text is read as the value it spells.** -/
theorem parse_text {v : Variable} (h : v.Legible) (hd : v.nesting ≤ nestingLimit) :
    parse (Text.Utf8.encode v.text) = .ok v.spelled := by
  have hbytes : Text.Utf8.encode v.text = v.bytes := by
    rw [Text.Utf8.encode, Variable.text, String.toList_ofList]
    rfl
  have hread : readValueFrom (fuelFor v.bytes) nestingLimit v.bytes = .ok (v.spelled, []) := by
    have hfuel : 2 * v.bytes.length ≤ fuelFor v.bytes := Nat.le_add_right _ 2
    have hend : Delimited [] := by simp [Delimited]
    have hread := readValueFrom_bytes h hfuel hd hend
    rwa [List.append_nil] at hread
  rw [hbytes, parse, Reader.run, Reader.value, hread]
  rfl

end Json

/-- The body as a variable: what the reader has to find. -/
def OperationRequest.body (request : OperationRequest) : Variable :=
  .object [("query", .string request.operation.document), ("variables", request.inputs)]

theorem spelled_body (request : OperationRequest) :
    request.body.spelled = .object [("query", .string request.operation.document),
      ("variables", request.inputs.spelled)] := by
  have hsorted : ¬ "variables" < "query" := by decide
  simp [OperationRequest.body, spelled, spelledMembers, Json.ofMembers, Json.insertMember, hsorted]

theorem nesting_body (request : OperationRequest) :
    request.body.nesting = request.inputs.nesting + 1 := by
  simp [OperationRequest.body, nesting, memberNesting]

theorem legible_body {request : OperationRequest} (h : request.inputs.Legible) :
    request.body.Legible :=
  .object (by simp [Legible.string, h])

/-- **The JSON form is read back**: the document is the same and the variables are equal. The object
around the variables is one of those that the reader allows to be open. -/
theorem jsonForm_readBack {request : OperationRequest} (settings : CallSettings)
    (hkeys : request.inputs.WellKeyed) (hupload : ¬ request.inputs.HoldsUpload)
    (hfloat : ¬ request.inputs.HoldsFloat) (hdepth : request.inputs.nesting < Json.nestingLimit) :
    ∃ wire text inputs, HttpRequest.jsonForm request settings = .ok wire ∧
      wire.body = .json text ∧
      Json.parse (Text.Utf8.encode text) = .ok (.object
        [("query", .string request.operation.document), ("variables", inputs)]) ∧
      (ofJson inputs).eqv request.inputs = true := by
  obtain ⟨wire, hwire, hbody⟩ : ∃ wire, HttpRequest.jsonForm request settings = .ok wire ∧
      wire.body = .json request.body.text := by
    rw [HttpRequest.jsonForm, firstUploadPath?_eq_none_iff.2 hupload, OperationRequest.body,
      ← operationText_eq]
    exact ⟨_, rfl, rfl⟩
  have hread := Json.parse_text (legible_body (legible_of_whole hupload hfloat))
    ((nesting_body request).trans_le hdepth)
  rw [spelled_body] at hread
  exact ⟨wire, _, _, hwire, hbody, hread, ofJson_spelled_eqv hkeys hupload⟩

/-- Keys out of order, both bounds of the whole numbers, and characters of every kind in texts. -/
def searchNotes : OperationRequest where
  operation := ⟨"Search", "query Search \x7b notes(tag: \"é\") \x7d\n", .query⟩
  inputs := .object [("tags", .list [.string "\\ \u0001 \u20ac", .null, .list []]),
    ("range", .object [("max", .number (.integer ⟨18446744073709551615, by decide⟩)),
      ("key \"min\"", .number (.integer ⟨-9223372036854775808, by decide⟩))])]

theorem searchNotes_readBack : searchNotes.inputs.WellKeyed ∧ ¬ searchNotes.inputs.HoldsUpload ∧
    ¬ searchNotes.inputs.HoldsFloat ∧ searchNotes.inputs.nesting < Json.nestingLimit ∧
    ∃ wire text inputs, HttpRequest.jsonForm searchNotes {} = .ok wire ∧ wire.body = .json text ∧
      Json.parse (Text.Utf8.encode text) = .ok (.object
        [("query", .string searchNotes.operation.document), ("variables", inputs)]) ∧
      (ofJson inputs).eqv searchNotes.inputs = true := by
  have hkeys : searchNotes.inputs.WellKeyed :=
    Data.encode_wellKeyed (d := .ofVariable searchNotes.inputs) rfl
  have hupload : ¬ searchNotes.inputs.HoldsUpload := by
    rw [← hasUpload_iff]
    decide
  have hfloat : ¬ searchNotes.inputs.HoldsFloat := by
    simp [searchNotes, children, holdsFloat_iff (v := object _), holdsFloat_iff (v := list _),
      holdsFloat_iff (v := number _), holdsFloat_iff (v := string _), holdsFloat_iff (v := null)]
  have hdepth : searchNotes.inputs.nesting < Json.nestingLimit := by decide
  exact ⟨hkeys, hupload, hfloat, hdepth, jsonForm_readBack {} hkeys hupload hfloat hdepth⟩

end GraphQLClient
