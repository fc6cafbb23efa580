import GraphQLClient.Proofs.Request.MultipartForm
import GraphQLClient.Proofs.Variable.Places

/-! # What the map of a form leads to

A receiver reads the operations part as a document and follows each place of
the map part in it. Dots in member names are not escaped, so
`multipartForm_leads` is about the places without such names on their way: they
lead to the null that stands for their file and no two are the same. A dotted
name can send a file elsewhere (`dottedNames_misled`). -/

namespace GraphQLClient

open Variable

namespace Files

/-- What a receiver reads in the operations part. -/
def document (files : Files) (request : OperationRequest) : Variable :=
  .object [("query", .string request.operation.document),
    ("variables", files.takenOut request.inputs)]

end Files

/-- The places of a form are those of its files, and lead to them in the document as far as their
names have no dots. What holds for the place of the variables themselves is left open. -/
structure Form.Leads (form : Form) (request : OperationRequest) (files : Files) : Prop where
  parts : form = ⟨"operations", .text (files.document request).text⟩ ::
    ⟨"map", .text files.places.text⟩ :: files.parts
  complete : ∀ p u, (p, u) ∈ files ↔ request.inputs.at? p = some (.upload u)
  /-- The map has one place under each number. -/
  listed : ∀ i p u, files[i]? = some (p, u) →
    files.places.at? [.member i (toString i), .item 0] = some (.string p.place)
  leads : ∀ p u, (p, u) ∈ files → p ≠ [] →
    ((files.document request).follow? (placeParts p.place) =
      some (.member 1 "variables" :: p, .null) ↔ p.Dotless)
  unshared : files.Pairwise fun f g =>
    f.1 ≠ [] → g.1 ≠ [] → f.1.Dotless → g.1.Dotless → f.1.place ≠ g.1.place

theorem text_document (files : Files) (request : OperationRequest) :
    (files.document request).text =
      operationText request.operation.document (files.takenOut request.inputs) :=
  (operationText_eq _ _).symm

theorem at?_places {files : Files} {i : Nat} {p : Position} {u : Upload}
    (h : files[i]? = some (p, u)) :
    files.places.at? [.member i (toString i), .item 0] = some (.string p.place) := by
  simp [Files.places, at?, child?, h, Option.filter, Position.place]

theorem wellKeyed_document {request : OperationRequest} (hw : request.inputs.WellKeyed) :
    (Files.document request.inputs.uploads request).WellKeyed := by
  refine .object (by simp) ?_
  simp only [List.forall_mem_cons, List.not_mem_nil, false_implies, implies_true, and_true]
  refine ⟨.leaf rfl (by simp), ?_⟩
  rw [takenOut_uploads]
  exact hw.mapUploads fun _ => .leaf rfl (by simp)

theorem at?_document {request : OperationRequest} {p : Position} {u : Upload}
    (h : (p, u) ∈ request.inputs.uploads) :
    (Files.document request.inputs.uploads request).at? (.member 1 "variables" :: p) =
      some .null := by
  have hmem : (Step.member 1 "variables", request.inputs.mapUploads fun _ => .null) ∈
      (Files.document request.inputs.uploads request).children := by
    simp [Files.document, takenOut_uploads, children]
  rw [at?_cons_of_mem hmem]
  exact at?_mapUploads (fun _ => .null) (mem_uploads.1 h)

theorem operationForm_leads {request : OperationRequest} (hw : request.inputs.WellKeyed) :
    (operationForm request.operation.document (request.inputs.mapUploads fun _ => .null)
      (request.inputs.uploads.map (extractedAt []))).Leads request request.inputs.uploads := by
  have hleads : ∀ p u, (p, u) ∈ request.inputs.uploads → p ≠ [] →
      ((Files.document request.inputs.uploads request).follow? (placeParts p.place) =
        some (.member 1 "variables" :: p, .null) ↔ p.Dotless) :=
    fun p u hf hp => follow?_place_iff (wellKeyed_document hw) rfl hp (at?_document hf)
  refine ⟨?_, fun _ _ => mem_uploads, fun _ _ _ => at?_places, hleads, ?_⟩
  · rw [text_document, takenOut_uploads, operationForm, fileMapText_extracted,
      fileParts_extracted]
  · refine (pairwise_uploads request.inputs).imp_of_mem fun {f g} hf hg hlt => ?_
    intro hpf hpg hdf hdg he
    -- One place leads to one position only.
    have hsame := (hleads _ _ hf hpf).2 hdf
    rw [he, (hleads _ _ hg hpg).2 hdg, Option.some.injEq, Prod.mk.injEq, List.cons.injEq] at hsame
    rw [hsame.1.2] at hlt
    exact List.lt_irrefl _ hlt

/-- **The map of every multipart form leads to its files**, if no name on their way has a dot: each
place leads to the null for its file and no other file has it. -/
theorem multipartForm_leads {request : OperationRequest} {settings : CallSettings}
    {wire : HttpRequest} (h : HttpRequest.multipartForm request settings = .ok wire)
    (hw : request.inputs.WellKeyed) :
    ∃ form files, wire.body = .multipart form ∧ form.Leads request files := by
  unfold HttpRequest.multipartForm extract at h
  split at h
  · cases h
  · cases h
  · next inputs files _ hx =>
    cases h
    obtain ⟨rfl, rfl⟩ := Prod.mk.inj (extractAt_eq hx)
    exact ⟨_, _, rfl, operationForm_leads hw⟩

/-- What a program sends as a record with two files. -/
def coverAndPages : Data :=
  .record "Book" [("cover", some (.bytes [1])), ("pages", some (.sequence [.bytes [2], .none]))]

theorem coverAndPages_led : ∃ v, coverAndPages.encode = .ok v ∧
    ∃ wire, HttpRequest.multipartForm ⟨⟨"Put", "mutation", .mutation⟩, v⟩ {} = .ok wire ∧
      v.WellKeyed ∧ ∃ form files, wire.body = .multipart form ∧
        form.Leads ⟨⟨"Put", "mutation", .mutation⟩, v⟩ files :=
  ⟨_, rfl, _, rfl, Data.encode_wellKeyed (d := coverAndPages) rfl,
    multipartForm_leads rfl (Data.encode_wellKeyed (d := coverAndPages) rfl)⟩

/-- A map with a dotted key beside an object in which the dot is a step. -/
def dottedNames : Data :=
  .entries [(.string "a.b", .bytes [1]), (.string "a", .entries [(.string "b", .bytes [2])])]

/-- The file under the dotted name is sent to the place of the other one. -/
theorem dottedNames_misled : ∃ request wire form, ∃ first second : Position × Upload,
    dottedNames.encode = .ok request.inputs ∧
    HttpRequest.multipartForm request {} = .ok wire ∧ wire.body = .multipart form ∧
    form = ⟨"operations", .text (Files.document [first, second] request).text⟩ ::
      ⟨"map", .text (Files.places [first, second]).text⟩ :: Files.parts [first, second] ∧
    request.inputs.at? first.1 = some (.upload first.2) ∧ first.1 ≠ second.1 ∧
    first.1.place = second.1.place ∧
    (Files.document [first, second] request).follow? (placeParts first.1.place) =
      some (.member 1 "variables" :: second.1, .null) := by
  refine ⟨⟨⟨"Put", "mutation", .mutation⟩, .object [("a.b", .upload { bytes := [1] }),
      ("a", .object [("b", .upload { bytes := [2] })])]⟩, _, _,
    ([.member 0 "a.b"], { bytes := [1] }), ([.member 1 "a", .member 0 "b"], { bytes := [2] }),
    rfl, rfl, rfl, rfl, rfl, by decide, by decide, ?_⟩
  rfl

end GraphQLClient
