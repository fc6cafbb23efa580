import GraphQLClient.Request.JsonForm

/-!
The multipart form of a request, for variables with uploads: the operation with null for each
upload, a map from the files to the places of these, and the files, each named by its number.
-/

namespace GraphQLClient

/-- The place of an upload, in dotted form under the variables. -/
def Extracted.place (e : Extracted) : String := "variables." ++ ".".intercalate e.path

/-- The map from the files, by number, to their places. -/
def fileMapText (files : List Extracted) : String :=
  Json.objectText (files.mapIdx fun i f =>
    (toString i, Json.arrayText [Json.stringText f.place]))

def fileParts (files : List Extracted) : Form :=
  files.mapIdx fun i f => ⟨toString i, .file f.file⟩

/-- The parts for a document, variables whose uploads have been taken out, and these. -/
def operationForm (document : String) (inputs : Variable) (files : List Extracted) : Form :=
  ⟨"operations", .text (operationText document inputs)⟩ ::
    ⟨"map", .text (fileMapText files)⟩ :: fileParts files

namespace HttpRequest

/-- The multipart form. Too deep a nesting is reported before the lack of uploads. -/
def multipartForm (request : OperationRequest) (settings : CallSettings) :
    Except SerializationCause HttpRequest :=
  match request.inputs.extract with
  | none => .error .nestedTooDeep
  | some (_, []) => .error .noUploads
  | some (inputs, files) =>
    .ok (assemble request.operation settings []
      (.multipart (operationForm request.operation.document inputs files)))

end HttpRequest

end GraphQLClient
