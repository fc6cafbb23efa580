import Mathlib.Data.List.Basic
import GraphQLClient.GraphQLError
import GraphQLClient.Request.JsonForm

/-! # The text of lists and objects

The texts that are put together from those of items and members are the texts
of the variables that have these. -/

namespace GraphQLClient.Variable

theorem itemChars_eq (items : List Variable) :
    itemChars items = [','].intercalate (items.map chars) := by
  induction items with
  | nil => rfl
  | cons v rest ih =>
    cases rest with
    | nil => simp [itemChars]
    | cons w rest => simp [itemChars, ih, List.intercalate_cons_cons]

theorem memberChars_eq (members : List (String × Variable)) :
    memberChars members =
      [','].intercalate (members.map fun m => Json.stringChars m.1 ++ ':' :: m.2.chars) := by
  induction members with
  | nil => rfl
  | cons m rest ih =>
    cases rest with
    | nil => simp [memberChars]
    | cons n rest => simp [memberChars, ih, List.intercalate_cons_cons]

theorem arrayText_map_text (items : List Variable) :
    Json.arrayText (items.map text) = (list items).text := by
  apply String.toList_injective
  simp [Json.arrayText, text, chars, itemChars_eq, Function.comp_def]

theorem objectText_map_text (members : List (String × Variable)) :
    Json.objectText (members.map fun m => (m.1, m.2.text)) = (object members).text := by
  apply String.toList_injective
  simp [Json.objectText, Json.stringText, text, chars, memberChars_eq, Function.comp_def]

theorem operationText_eq (document : String) (inputs : Variable) :
    operationText document inputs =
      (object [("query", string document), ("variables", inputs)]).text := by
  rw [← objectText_map_text]
  rfl

end GraphQLClient.Variable
