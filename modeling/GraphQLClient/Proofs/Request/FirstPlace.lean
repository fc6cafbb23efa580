import Mathlib.Data.List.DropRight
import GraphQLClient.Proofs.Request.FormPlaces
import GraphQLClient.Proofs.Variable.Searches

/-! # How the forms name the first upload

The JSON form refuses a request by the path of its first upload, the multipart
form lists the place of the same upload first. The path is joined from behind,
and an empty rest counts as none: empty names at its end are lost
(`firstUploadPath?_eq_shown`). So the two agree on every position but those with
an empty name below another step (`variables_shown_iff`). -/

namespace GraphQLClient

namespace Variable

namespace Position

/-- The texts of the steps with dots between them, but for empty ones at the end. -/
def shown (p : Position) : String := ".".intercalate (p.segments.rdropWhile (· = ""))

/-- The last step is one of several and has no text. -/
def EndsEmpty (p : Position) : Prop := 2 ≤ p.length ∧ p.segments.getLast? = some ""

end Position

/-! ## Joining from behind -/

theorem joinPath_empty (step : String) : joinPath step "" = step := if_pos rfl

theorem joinPath_of_ne_empty {rest : String} (h : rest ≠ "") (step : String) :
    joinPath step rest = step ++ "." ++ rest := if_neg h

theorem foldr_joinPath_of_ne_empty {last : String} (h : last ≠ "") (texts : List String) :
    texts.foldr joinPath last ≠ "" ∧
      texts.foldr joinPath last = ".".intercalate (texts ++ [last]) := by
  induction texts with
  | nil => exact ⟨h, String.intercalate_singleton.symm⟩
  | cons text rest ih =>
    obtain ⟨hne, heq⟩ := ih
    rw [List.foldr_cons, joinPath_of_ne_empty hne, List.cons_append,
      String.intercalate_cons_of_ne_nil (by simp), ← heq]
    exact ⟨by simp, rfl⟩

/-- Joining from behind puts dots between the texts and loses empty ones at the end. -/
theorem foldr_joinPath (texts : List String) :
    texts.foldr joinPath "" = ".".intercalate (texts.rdropWhile (· = "")) := by
  induction texts using List.reverseRecOn with
  | nil => rfl
  | append_singleton texts last ih =>
    rw [List.foldr_append, List.foldr_cons, List.foldr_nil, joinPath_empty]
    by_cases h : last = ""
    · rw [List.rdropWhile_concat_pos _ _ _ (by simpa using h), h]
      exact ih
    · rw [List.rdropWhile_concat_neg _ _ _ (by simpa using h)]
      exact (foldr_joinPath_of_ne_empty h texts).2

theorem joined_eq_shown (p : Position) : p.joined = p.shown := foldr_joinPath p.segments

/-- **The search for the first upload names the position of the first one that is listed.** -/
theorem firstUploadPath?_eq_shown (v : Variable) :
    v.firstUploadPath? = v.uploads.head?.map fun x => x.1.shown := by
  rw [firstUploadPath?_eq]
  simp only [joined_eq_shown]

/-! ## Where nothing is lost -/

theorem length_foldr_joinPath_le (texts : List String) :
    (texts.foldr joinPath "").length ≤ (".".intercalate texts).length := by
  induction texts with
  | nil => exact Nat.le_refl _
  | cons text rest ih =>
    cases rest with
    | nil => simp [joinPath_empty]
    | cons next rest =>
      rw [String.intercalate_cons_cons, List.foldr_cons]
      by_cases h : (next :: rest).foldr joinPath "" = ""
      · rw [h, joinPath_empty]
        simp only [String.length_append]
        omega
      · rw [joinPath_of_ne_empty h]
        simp only [String.length_append]
        omega

theorem foldr_joinPath_eq_intercalate_iff (texts : List String) :
    texts.foldr joinPath "" = ".".intercalate texts ↔
      ¬ (2 ≤ texts.length ∧ texts.getLast? = some "") := by
  induction texts using List.reverseRecOn with
  | nil => simp
  | append_singleton texts last _ =>
    rw [List.getLast?_concat, Option.some.injEq, List.foldr_append, List.foldr_cons,
      List.foldr_nil, joinPath_empty]
    by_cases hlast : last = ""
    · subst hlast
      by_cases htexts : texts = []
      · simp [htexts]
      · -- A dot is lost with the last text, whatever else is.
        have hlength := length_foldr_joinPath_le texts
        have hne : texts.foldr joinPath "" ≠ ".".intercalate (texts ++ [""]) := by
          intro he
          have hdot : ".".length = 1 := rfl
          rw [he, String.intercalate_append_of_ne_nil htexts (by simp)] at hlength
          simp only [String.length_append] at hlength
          omega
        have hlong : 2 ≤ (texts ++ [""]).length := by
          have hpos := List.length_pos_iff.2 htexts
          rw [List.length_append, List.length_singleton]
          omega
        exact iff_of_false hne fun h => h ⟨hlong, rfl⟩
    · exact iff_of_true (foldr_joinPath_of_ne_empty hlast texts).2 fun h => hlast h.2

/-- **The JSON form names the place of a position**, unless that ends in an empty name below another
step. -/
theorem variables_shown_iff {p : Position} : "variables." ++ p.shown = p.place ↔ ¬ p.EndsEmpty := by
  have hlength : p.segments.length = p.length := List.length_map _
  rw [Position.place, String.append_right_inj, ← joined_eq_shown, Position.EndsEmpty, ← hlength]
  exact foldr_joinPath_eq_intercalate_iff p.segments

end Variable

open Variable HttpRequest

/-- What the two forms of a request say about the position of its first upload. -/
structure OperationRequest.NamesFirst (request : OperationRequest) (settings : CallSettings)
    (form : Form) (files : Files) (p : Position) : Prop where
  carries : form.Carries request files
  first : files.head?.map (·.1) = some p
  /-- The place that the map gives under the first number. -/
  listed : files.places.at? [.member 0 "0", .item 0] = some (.string p.place)
  /-- The path that the JSON form is refused by. -/
  searched : request.inputs.firstUploadPath? = some p.shown
  refused : jsonForm request settings = .error (.binaryValue p.shown)
  same : "variables." ++ p.shown = p.place ↔ ¬ p.EndsEmpty

theorem namesFirst_uploads {request : OperationRequest} (settings : CallSettings) {p : Position}
    {u : Upload} {rest : Files} (h : request.inputs.uploads = (p, u) :: rest) :
    request.NamesFirst settings
      (operationForm request.operation.document (request.inputs.mapUploads fun _ => .null)
        (request.inputs.uploads.map (extractedAt [])))
      request.inputs.uploads p := by
  have hsearch : request.inputs.firstUploadPath? = some p.shown := by
    rw [firstUploadPath?_eq_shown, h]
    rfl
  have hrefused : jsonForm request settings = .error (.binaryValue p.shown) := by
    rw [jsonForm, hsearch]
  have hfirst : request.inputs.uploads[0]? = some (p, u) := by
    rw [h]
    rfl
  exact {
    carries := operationForm_carries request
    first := by rw [h]; rfl
    listed := at?_places hfirst
    searched := hsearch
    refused := hrefused
    same := variables_shown_iff }

/-- **Both forms name the first upload**, and name the same place unless an empty name below another
step ends it: the JSON form then leaves out the empty names at the end. -/
theorem multipartForm_namesFirst {request : OperationRequest} {settings : CallSettings}
    {wire : HttpRequest} (h : multipartForm request settings = .ok wire) :
    ∃ form files p, wire.body = .multipart form ∧
      request.NamesFirst settings form files p := by
  unfold multipartForm extract at h
  split at h
  · cases h
  · cases h
  · next inputs files hfiles hx =>
    cases h
    obtain ⟨rfl, rfl⟩ := Prod.mk.inj (extractAt_eq hx)
    cases hu : request.inputs.uploads with
    | nil =>
      rw [hu] at hfiles
      exact (hfiles rfl).elim
    | cons x rest =>
      rw [← hu]
      exact ⟨_, _, _, rfl, namesFirst_uploads settings hu⟩

theorem twoAvatars_namedFirst : ∃ wire, multipartForm twoAvatars {} = .ok wire ∧
    ∃ form files p, wire.body = .multipart form ∧ twoAvatars.NamesFirst {} form files p :=
  ⟨_, rfl, multipartForm_namesFirst rfl⟩

/-- A file under an empty name in an object. -/
def emptyName : OperationRequest where
  operation := ⟨"Put", "mutation Put \x7b done \x7d", .mutation⟩
  inputs := .object [("a", .object [("", .upload { bytes := [120] })])]

/-- The map has the dot before the empty name, the path of the JSON form does not. -/
theorem emptyName_shortened : ∃ wire form, ∃ first : Position × Upload,
    multipartForm emptyName {} = .ok wire ∧ wire.body = .multipart form ∧
    form = ⟨"operations", .text (Files.document [first] emptyName).text⟩ ::
      ⟨"map", .text (Files.places [first]).text⟩ :: Files.parts [first] ∧
    emptyName.inputs.at? first.1 = some (.upload first.2) ∧ first.1.place = "variables.a." ∧
    emptyName.inputs.firstUploadPath? = some "a" ∧
    jsonForm emptyName {} = .error (.binaryValue "a") ∧ "variables." ++ "a" ≠ first.1.place := by
  refine ⟨_, _, ([.member 0 "a", .member 0 ""], { bytes := [120] }), rfl, rfl, rfl, rfl, ?_⟩
  exact ⟨by decide, by decide, rfl, by decide⟩

end GraphQLClient
