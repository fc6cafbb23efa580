import GraphQLClient.Proofs.Text.Utf8
import GraphQLClient.Response.EventStream
import Mathlib.Data.List.TakeDrop

/-! # The lines of a body

A body read as a whole is split at its line feeds (`terminatedLines`,
`unterminatedLine`). Cutting it piece by piece gives the same lines, because
what is left behind the last line feed is put in front of the next piece
(`cutLines_append`). -/

namespace GraphQLClient

open Text.Utf8 (decodeLossy)

/-! ## A body as a whole -/

/-- The lines that a line feed ends, each without one carriage return at its end. -/
def terminatedLines (body : Bytes) : List String :=
  (body.splitOn 0x0A).dropLast.map fun line =>
    decodeLossy (if line.getLast? = some 0x0D then line.dropLast else line)

/-- The line behind the last line feed, if it is not empty, without all the
carriage returns at its end. -/
def unterminatedLine (body : Bytes) : List String :=
  match (body.splitOn 0x0A).getLastD [] with
  | [] => []
  | b :: rest => [decodeLossy ((b :: rest).rdropWhile (· = 0x0D))]

/-! ## Cutting -/

theorem cutLines_append (a b : Bytes) :
    cutLines (a ++ b) =
      ((cutLines a).1 ++ (cutLines ((cutLines a).2 ++ b)).1,
        (cutLines ((cutLines a).2 ++ b)).2) := by
  induction a with
  | nil => simp [cutLines]
  | cons x a ih =>
    by_cases hx : x = 0x0A
    · simp [cutLines, hx, ih]
    · rcases hc : cutLines a with ⟨lines, tail⟩
      cases lines <;> simp_all [cutLines]

theorem cutLines_eq_splitOn (bs : Bytes) :
    cutLines bs = ((bs.splitOn 0x0A).dropLast, (bs.splitOn 0x0A).getLastD []) := by
  induction bs with
  | nil => rfl
  | cons b bs ih =>
    rw [List.splitOn_cons_eq_if_modifyHead, cutLines, ih]
    cases hs : List.splitOn 0x0A bs with
    | nil => exact absurd hs (List.splitOn_ne_nil 0x0A bs)
    | cons line lines =>
      by_cases hb : b = 0x0A
      · simp [hb]
      · cases lines <;> simp [hb]

theorem cutLines_of_not_mem {bs : Bytes} (h : 0x0A ∉ bs) : cutLines bs = ([], bs) := by
  induction bs with
  | nil => rfl
  | cons b bs ih =>
    obtain ⟨hb, hbs⟩ := List.ne_and_not_mem_of_not_mem_cons h
    simp [cutLines, ih hbs, Ne.symm hb]

/-- There is no line feed behind the last one. -/
theorem not_mem_cutLines_tail (bs : Bytes) : 0x0A ∉ (cutLines bs).2 := by
  induction bs with
  | nil => simp [cutLines]
  | cons b bs ih =>
    by_cases hb : b = 0x0A
    · simpa [cutLines, hb] using ih
    · rcases hc : cutLines bs with ⟨lines, tail⟩
      cases lines <;> simp_all [cutLines, Ne.symm hb]

theorem cutLines_tail (bs : Bytes) : cutLines (cutLines bs).2 = ([], (cutLines bs).2) :=
  cutLines_of_not_mem (not_mem_cutLines_tail bs)

/-- A line feed ends the line in front of it. -/
theorem cutLines_line {line : Bytes} (h : 0x0A ∉ line) (rest : Bytes) :
    cutLines (line ++ 0x0A :: rest) = (line :: (cutLines rest).1, (cutLines rest).2) := by
  induction line with
  | nil => simp [cutLines]
  | cons b line ih =>
    obtain ⟨hb, hline⟩ := List.ne_and_not_mem_of_not_mem_cons h
    simp [cutLines, ih hline, Ne.symm hb]

theorem cutLines_lines {lines : List Bytes} (h : ∀ line ∈ lines, 0x0A ∉ line) (rest : Bytes) :
    cutLines (lines.flatMap (· ++ [0x0A]) ++ rest) =
      (lines ++ (cutLines rest).1, (cutLines rest).2) := by
  induction lines with
  | nil => rfl
  | cons line lines ih =>
    obtain ⟨hline, hlines⟩ := List.forall_mem_cons.1 h
    rw [List.flatMap_cons, List.append_assoc, List.append_assoc, List.singleton_append,
      cutLines_line hline, ih hlines]
    rfl

theorem map_lineText_cutLines (body : Bytes) :
    (cutLines body).1.map lineText = terminatedLines body := by
  rw [cutLines_eq_splitOn]; rfl

theorem lastLineText_eq (tail : Bytes) :
    lastLineText tail = decodeLossy (tail.rdropWhile (· = 0x0D)) := by
  rw [lastLineText, Text.Utf8.trimEnd_decodeLossy, String.ofList_toList]

theorem unterminatedLine_eq (body : Bytes) :
    unterminatedLine body =
      if (cutLines body).2 = [] then [] else [lastLineText (cutLines body).2] := by
  rw [cutLines_eq_splitOn, unterminatedLine]
  cases (body.splitOn 0x0A).getLastD [] with
  | nil => rfl
  | cons b rest => rw [if_neg (List.cons_ne_nil b rest), lastLineText_eq]

theorem dataPayload?_eq (line : String) :
    dataPayload? line =
      if ':' ∈ line.toList ∧ line.toList.takeWhile (· ≠ ':') = "data".toList then
        some (String.ofList ((line.toList.dropWhile (· ≠ ':')).drop 1))
      else none := by
  rw [dataPayload?, List.span_eq_takeWhile_dropWhile]
  have hcolon : line.toList.dropWhile (· ≠ ':') = [] ↔ ':' ∉ line.toList := by
    rw [List.dropWhile_eq_nil_iff]
    exact ⟨fun h hm => by simpa using h _ hm, fun h c hc => by
      have : c ≠ ':' := fun he => h (he ▸ hc)
      simpa using this⟩
  cases hd : line.toList.dropWhile (· ≠ ':') with
  | nil => simp [hcolon.mp hd]
  | cons c value =>
    have : ':' ∈ line.toList := by
      by_contra h
      rw [hcolon.mpr h] at hd
      cases hd
    simp [this]

end GraphQLClient
