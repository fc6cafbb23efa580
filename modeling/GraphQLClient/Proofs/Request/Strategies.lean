import GraphQLClient.Proofs.Request.MultipartForm
import GraphQLClient.Proofs.Variable.Searches
import GraphQLClient.Request.Strategy

/-! # Which form a request can take

Each form refuses some requests: the JSON form those with an upload, the
multipart form those without one and those that nest too deeply. `jsonForm_cases`
and `multipartForm_cases` say exactly which. So no strategy ever drops an upload,
and the standard one, which looks for uploads first, never picks the wrong form
(`OperationRequest.Settled`). -/

namespace GraphQLClient

open Variable

namespace RequestBody

def isMultipart : RequestBody → Bool
  | .json _ => false
  | .multipart _ => true

/-- The files that a body sends. -/
def files : RequestBody → List Upload
  | .json _ => []
  | .multipart form => form.files

/-- A body sends the uploads of a variable, all of them, depth first, and no other files. -/
def Sends (body : RequestBody) (v : Variable) : Prop :=
  ∃ files : Files, (files.Pairwise fun f g => f.1.indices < g.1.indices) ∧
    (∀ p u, (p, u) ∈ files ↔ v.at? p = some (.upload u)) ∧ body.files = files.map (·.2)

theorem sends_of_files {body : RequestBody} {v : Variable}
    (h : body.files = v.uploads.map (·.2)) : body.Sends v :=
  ⟨v.uploads, v.pairwise_uploads, fun _ _ => mem_uploads, h⟩

end RequestBody

theorem files_operationForm (document : String) (v : Variable) (files : List Extracted) :
    (operationForm document v files).files = files.map (·.file) := by
  have hfiles : files.zipIdx.map (fun x => x.1.file) = files.map (·.file) := by
    conv_rhs => rw [← List.zipIdx_map_fst 0 files, List.map_map]
    rfl
  simpa [operationForm, Form.files, fileParts, List.mapIdx_eq_zipIdx_map, List.filterMap_map]

namespace HttpRequest

variable (request : OperationRequest) (settings : CallSettings)

/-- **The JSON form refuses exactly the requests with an upload.** -/
theorem jsonForm_cases :
    (request.inputs.HoldsUpload ∧
      ∃ path, jsonForm request settings = .error (.binaryValue path)) ∨
    (¬ request.inputs.HoldsUpload ∧ ∃ wire text,
      jsonForm request settings = .ok wire ∧ wire.body = .json text) := by
  unfold jsonForm
  cases hp : request.inputs.firstUploadPath? with
  | some path =>
    refine .inl ⟨?_, path, rfl⟩
    by_contra hno
    rw [firstUploadPath?_eq_none_iff.2 hno] at hp
    cases hp
  | none => exact .inr ⟨firstUploadPath?_eq_none_iff.1 hp, _, _, rfl, rfl⟩

/-- **The multipart form refuses what nests too deeply, and then what has no upload.** -/
theorem multipartForm_cases :
    (request.inputs.TooDeep ∧ multipartForm request settings = .error .nestedTooDeep) ∨
    (¬ request.inputs.TooDeep ∧ ¬ request.inputs.HoldsUpload ∧
      multipartForm request settings = .error .noUploads) ∨
    (¬ request.inputs.TooDeep ∧ request.inputs.HoldsUpload ∧ ∃ wire form,
      multipartForm request settings = .ok wire ∧ wire.body = .multipart form ∧
        form.files = request.inputs.uploads.map (·.2)) := by
  unfold multipartForm
  cases hx : request.inputs.extract with
  | none => exact .inl ⟨extract_eq_none_iff.1 hx, rfl⟩
  | some r =>
    have hdeep : ¬ request.inputs.TooDeep := by simp [← extract_eq_none_iff, hx]
    obtain rfl := extractAt_eq hx
    rw [holdsUpload_iff]
    cases hu : request.inputs.uploads with
    | nil => exact .inr (.inl ⟨hdeep, by simp, rfl⟩)
    | cons x xs =>
      refine .inr (.inr ⟨hdeep, by simp, _, _, rfl, rfl, ?_⟩)
      rw [files_operationForm]
      simp [extractedAt]

end HttpRequest

open HttpRequest (jsonForm multipartForm)

/-- What becomes of a request, in each form and under each strategy. -/
structure OperationRequest.Settled (request : OperationRequest) (settings : CallSettings) :
    Prop where
  json : (∃ wire, jsonForm request settings = .ok wire) ↔ ¬ request.inputs.HoldsUpload
  tooDeep : multipartForm request settings = .error .nestedTooDeep ↔ request.inputs.TooDeep
  noUploads : multipartForm request settings = .error .noUploads ↔
    ¬ request.inputs.TooDeep ∧ ¬ request.inputs.HoldsUpload
  multipart : (∃ wire, multipartForm request settings = .ok wire) ↔
    ¬ request.inputs.TooDeep ∧ request.inputs.HoldsUpload
  /-- Whatever the test of a strategy says, nothing is dropped. -/
  sends : ∀ s : Strategy, match s.encode request settings with
    | .ok wire => wire.body.isMultipart = s.usesMultipart request ∧ wire.body.Sends request.inputs
    | .error _ =>
      if s.usesMultipart request then request.inputs.TooDeep ∨ ¬ request.inputs.HoldsUpload
      else request.inputs.HoldsUpload
  /-- The standard test takes the JSON form just where that can be. -/
  standardUses : Strategy.standard.usesMultipart request = false ↔ ¬ request.inputs.HoldsUpload
  /-- It leaves one way to fail. -/
  standard : match Strategy.standard.encode request settings with
    | .ok _ => ¬ (request.inputs.HoldsUpload ∧ request.inputs.TooDeep)
    | .error cause =>
      cause = .nestedTooDeep ∧ request.inputs.HoldsUpload ∧ request.inputs.TooDeep

theorem Strategy.usesMultipart_standard (request : OperationRequest) :
    standard.usesMultipart request = false ↔ ¬ request.inputs.HoldsUpload := by
  rw [← hasUpload_iff, Bool.not_eq_true]
  rfl

/-- **No strategy drops an upload**: one that its form cannot take is an error. -/
theorem Strategy.encode_sends (s : Strategy) (request : OperationRequest)
    (settings : CallSettings) :
    match s.encode request settings with
    | .ok wire => wire.body.isMultipart = s.usesMultipart request ∧ wire.body.Sends request.inputs
    | .error _ =>
      if s.usesMultipart request then request.inputs.TooDeep ∨ ¬ request.inputs.HoldsUpload
      else request.inputs.HoldsUpload := by
  unfold Strategy.encode
  cases s.usesMultipart request with
  | true =>
    rcases HttpRequest.multipartForm_cases request settings with
      ⟨hd, hm⟩ | ⟨hd, h, hm⟩ | ⟨hd, h, wire, form, hm, hb, hf⟩
    · simp [hm, hd]
    · simp [hm, h]
    · simp only [if_true, hm, hb]
      exact ⟨rfl, RequestBody.sends_of_files hf⟩
  | false =>
    rcases HttpRequest.jsonForm_cases request settings with ⟨h, path, hj⟩ | ⟨h, wire, _, hj, hb⟩
    · simp [hj, h]
    · simp only [Bool.false_eq_true, if_false, hj, hb]
      refine ⟨rfl, RequestBody.sends_of_files ?_⟩
      rw [holdsUpload_iff, not_not] at h
      rw [h]
      rfl

/-- **The standard strategy fails in one way only.** -/
theorem Strategy.encode_standard (request : OperationRequest) (settings : CallSettings) :
    match standard.encode request settings with
    | .ok _ => ¬ (request.inputs.HoldsUpload ∧ request.inputs.TooDeep)
    | .error cause =>
      cause = .nestedTooDeep ∧ request.inputs.HoldsUpload ∧ request.inputs.TooDeep := by
  unfold Strategy.encode
  cases hs : Strategy.standard.usesMultipart request with
  | true =>
    have hup : request.inputs.HoldsUpload := by
      rw [← not_not (a := request.inputs.HoldsUpload), ← Strategy.usesMultipart_standard, hs]
      simp
    rcases HttpRequest.multipartForm_cases request settings with
      ⟨hd, hm⟩ | ⟨hd, h, hm⟩ | ⟨hd, h, wire, _, hm, -⟩
    · simp [hm, hd, hup]
    · exact absurd hup h
    · simp [hm, hd]
  | false =>
    have hno := (Strategy.usesMultipart_standard request).1 hs
    rcases HttpRequest.jsonForm_cases request settings with ⟨h, path, hj⟩ | ⟨h, wire, _, hj, -⟩
    · exact absurd h hno
    · simp [hj, hno]

/-- **Every request is settled**, by its uploads and its depth alone. -/
theorem requests_settled (request : OperationRequest) (settings : CallSettings) :
    request.Settled settings where
  json := by
    rcases HttpRequest.jsonForm_cases request settings with ⟨h, path, hj⟩ | ⟨h, wire, _, hj, -⟩ <;>
      simp [h, hj]
  tooDeep := by
    rcases HttpRequest.multipartForm_cases request settings with
      ⟨hd, hm⟩ | ⟨hd, h, hm⟩ | ⟨hd, h, wire, _, hm, -⟩ <;> simp [hd, hm]
  noUploads := by
    rcases HttpRequest.multipartForm_cases request settings with
      ⟨hd, hm⟩ | ⟨hd, h, hm⟩ | ⟨hd, h, wire, _, hm, -⟩ <;> simp [*]
  multipart := by
    rcases HttpRequest.multipartForm_cases request settings with
      ⟨hd, hm⟩ | ⟨hd, h, hm⟩ | ⟨hd, h, wire, _, hm, -⟩ <;> simp [*]
  sends s := s.encode_sends request settings
  standardUses := Strategy.usesMultipart_standard request
  standard := Strategy.encode_standard request settings

end GraphQLClient
