import GraphQLClient.Proofs.Variable.Printer
import GraphQLClient.Proofs.Variable.Uploads
import GraphQLClient.Request.MultipartForm

/-! # What a multipart form carries

The three parts of a multipart form are made in one walk through the
variables. `Form.Carries` says in terms of positions what keeps them aligned,
and `multipartForm_carries` that every form is in order: each upload is
sent once, is named once and is missing once. -/

namespace GraphQLClient

open Variable

/-- Files with their positions in the variables of a request. -/
abbrev Files := List (Position × Upload)

namespace Files

/-- The variables with null in place of the files. -/
def takenOut (files : Files) (v : Variable) : Variable :=
  v.putAll (files.map fun f => (f.1, .null))

def putBack (files : Files) (v : Variable) : Variable :=
  v.putAll (files.map fun f => (f.1, .upload f.2))

/-- The object that gives the place of each file under its number. -/
def places (files : Files) : Variable :=
  .object (files.mapIdx fun i f =>
    (toString i, .list [.string ("variables." ++ ".".intercalate f.1.segments)]))

def parts (files : Files) : Form :=
  files.mapIdx fun i f => ⟨toString i, .file f.2⟩

end Files

/-- A form carries a request: all its uploads, in order, and the rest as JSON. -/
structure Form.Carries (form : Form) (request : OperationRequest) (files : Files) : Prop where
  distinct : (files.map (·.1)).Nodup
  /-- The files come depth first. -/
  ordered : files.Pairwise fun f g => f.1.indices < g.1.indices
  /-- They are the uploads of the variables, each in its position. -/
  complete : ∀ p u, (p, u) ∈ files ↔ request.inputs.at? p = some (.upload u)
  /-- The operation is what the JSON form would send without the files. -/
  parts : ∃ operations,
    (∀ settings, ((HttpRequest.jsonForm { request with inputs := files.takenOut request.inputs }
      settings).map (·.body)) = .ok (.json operations)) ∧
    form = ⟨"operations", .text operations⟩ :: ⟨"map", .text files.places.text⟩ :: files.parts
  restored : files.putBack (files.takenOut request.inputs) = request.inputs

theorem takenOut_uploads (v : Variable) :
    Files.takenOut v.uploads v = v.mapUploads fun _ => .null := by
  have h := putAll_uploads .upload (fun _ => .null) v
  rwa [mapUploads_upload] at h

theorem putBack_uploads (v : Variable) :
    Files.putBack v.uploads (Files.takenOut v.uploads v) = v := by
  rw [takenOut_uploads, Files.putBack, putAll_uploads, mapUploads_upload]

theorem fileMapText_extracted (files : Files) :
    fileMapText (files.map (extractedAt [])) = files.places.text := by
  have hv : ∀ place, Json.arrayText [Json.stringText place] = (list [.string place]).text :=
    fun place => arrayText_map_text [.string place]
  rw [Files.places, ← objectText_map_text, fileMapText]
  refine congrArg Json.objectText (List.ext_getElem? fun i => ?_)
  simp [hv, extractedAt, Extracted.place, Function.comp_def]

theorem fileParts_extracted (files : Files) :
    fileParts (files.map (extractedAt [])) = files.parts := by
  refine List.ext_getElem? fun i => ?_
  simp [fileParts, Files.parts, extractedAt, Function.comp_def]

theorem operationForm_carries (request : OperationRequest) :
    (operationForm request.operation.document (request.inputs.mapUploads fun _ => .null)
      (request.inputs.uploads.map (extractedAt []))).Carries request request.inputs.uploads where
  distinct := List.pairwise_map.2 <|
    request.inputs.pairwise_uploads.imp fun h he => absurd (he ▸ h) (List.lt_irrefl _)
  ordered := pairwise_uploads _
  complete _ _ := mem_uploads
  parts := by
    refine ⟨operationText request.operation.document (request.inputs.mapUploads fun _ => .null),
      fun settings => ?_, ?_⟩
    · simp [takenOut_uploads, HttpRequest.jsonForm, firstUploadPath?_null, HttpRequest.assemble,
        Except.map]
    · rw [operationForm, fileMapText_extracted, fileParts_extracted]
  restored := putBack_uploads _

/-- **Every multipart form carries its request**: no upload is lost, sent twice, out of order or
left in the JSON. -/
theorem multipartForm_carries {request : OperationRequest} {settings : CallSettings}
    {wire : HttpRequest} (h : HttpRequest.multipartForm request settings = .ok wire) :
    ∃ form files, wire.body = .multipart form ∧ form.Carries request files := by
  unfold HttpRequest.multipartForm extract at h
  split at h
  · cases h
  · cases h
  · next inputs files _ hx =>
    cases h
    obtain ⟨rfl, rfl⟩ := Prod.mk.inj (extractAt_eq hx)
    exact ⟨_, _, rfl, operationForm_carries request⟩

/-- Two avatars in a list and a name that only looks like a path. -/
def twoAvatars : OperationRequest where
  operation := ⟨"SetAvatars", "mutation", .mutation⟩
  inputs := .object [("avatars", .list [.upload ⟨[1, 2], some "a.png", none⟩, .null,
    .upload ⟨[3], none, some "image/png"⟩]), ("avatars.1", .string "x")]

theorem twoAvatars_carried : ∃ wire, HttpRequest.multipartForm twoAvatars {} = .ok wire ∧
    ∃ form files, wire.body = .multipart form ∧ form.Carries twoAvatars files :=
  ⟨_, rfl, multipartForm_carries rfl⟩

end GraphQLClient
