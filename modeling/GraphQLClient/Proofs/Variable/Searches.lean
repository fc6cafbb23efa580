import GraphQLClient.Proofs.Variable.Uploads

/-! # Three searches through a variable

Whether there is an upload, where the first one is, and taking them all out are
three recursions of their own. What each of them finds is said by positions:
the first two find an upload just if there is one anywhere (`hasUpload_iff`,
`firstUploadPath?_eq_none_iff`), and the third gives up just if some node,
upload or not, is too far from the root (`extract_eq_none_iff`). -/

namespace GraphQLClient.Variable

/-- There is an upload somewhere in the variable. -/
def HoldsUpload (v : Variable) : Prop := ∃ p u, v.at? p = some (.upload u)

/-- Some node is more than `pathLimit` steps from the root. -/
def TooDeep (v : Variable) : Prop := ∃ p w, v.at? p = some w ∧ pathLimit < p.length

theorem holdsUpload_iff {v : Variable} : v.HoldsUpload ↔ v.uploads ≠ [] := by
  rw [← List.isEmpty_eq_false_iff, List.isEmpty_eq_false_iff_exists_mem]
  simp only [HoldsUpload, ← mem_uploads, Prod.exists]

/-! ## Whether and where -/

theorem lead_eq_nil_iff {α : Type} {s : Step} {xs : List (Position × α)} :
    s.lead xs = [] ↔ xs = [] := List.map_eq_nil_iff

mutual

theorem hasUpload_eq_false_iff {v : Variable} : v.hasUpload = false ↔ v.uploads = [] := by
  cases v with
  | list items => exact anyItemHasUpload_eq_false_iff
  | object members => exact anyMemberHasUpload_eq_false_iff
  | _ => simp [hasUpload, uploads]
termination_by structural v

theorem anyItemHasUpload_eq_false_iff {index : Nat} {items : List Variable} :
    anyItemHasUpload items = false ↔ itemUploads index items = [] := by
  cases items with
  | nil => simp [anyItemHasUpload, itemUploads]
  | cons v rest =>
    have hrest : anyItemHasUpload rest = false ↔ itemUploads (index + 1) rest = [] :=
      anyItemHasUpload_eq_false_iff
    rw [anyItemHasUpload, Bool.or_eq_false_iff, itemUploads, List.append_eq_nil_iff,
      lead_eq_nil_iff, hasUpload_eq_false_iff (v := v), hrest]
termination_by structural items

theorem anyMemberHasUpload_eq_false_iff {index : Nat} {members : List (String × Variable)} :
    anyMemberHasUpload members = false ↔ memberUploads index members = [] := by
  cases members with
  | nil => simp [anyMemberHasUpload, memberUploads]
  | cons m rest =>
    have hrest : anyMemberHasUpload rest = false ↔ memberUploads (index + 1) rest = [] :=
      anyMemberHasUpload_eq_false_iff
    rw [anyMemberHasUpload, Bool.or_eq_false_iff, memberUploads, List.append_eq_nil_iff,
      lead_eq_nil_iff, hasUpload_eq_false_iff (v := m.2), hrest]
termination_by structural members

end

/-- **The test for uploads finds one wherever it is.** -/
theorem hasUpload_iff {v : Variable} : v.hasUpload = true ↔ v.HoldsUpload := by
  rw [holdsUpload_iff, ← not_iff_not, Bool.not_eq_true, hasUpload_eq_false_iff, not_not]

/-- The texts of the steps, joined from behind. -/
def Position.joined (p : Position) : String := p.segments.foldr joinPath ""

mutual

/-- The search for the first upload finds the first one that is listed. -/
theorem firstUploadPath?_eq (v : Variable) :
    v.firstUploadPath? = v.uploads.head?.map fun x => x.1.joined := by
  cases v with
  | list items => exact firstItemPath?_eq 0 items
  | object members => exact firstMemberPath?_eq 0 members
  | _ => rfl
termination_by structural v

theorem firstItemPath?_eq (index : Nat) (items : List Variable) :
    firstItemPath? index items = (itemUploads index items).head?.map fun x => x.1.joined := by
  cases items with
  | nil => rfl
  | cons v rest =>
    rw [firstItemPath?, itemUploads, firstUploadPath?_eq v]
    cases v.uploads with
    | nil => exact firstItemPath?_eq (index + 1) rest
    | cons x xs => rfl
termination_by structural items

theorem firstMemberPath?_eq (index : Nat) (members : List (String × Variable)) :
    firstMemberPath? members = (memberUploads index members).head?.map fun x => x.1.joined := by
  cases members with
  | nil => rfl
  | cons m rest =>
    rw [firstMemberPath?, memberUploads, firstUploadPath?_eq m.2]
    cases m.2.uploads with
    | nil => exact firstMemberPath?_eq (index + 1) rest
    | cons x xs => rfl
termination_by structural members

end

/-- **The search for the first upload fails just if there is none.** -/
theorem firstUploadPath?_eq_none_iff {v : Variable} :
    v.firstUploadPath? = none ↔ ¬ v.HoldsUpload := by
  rw [firstUploadPath?_eq, Option.map_eq_none_iff, List.head?_eq_none_iff, holdsUpload_iff, not_not]

/-! ## Taking uploads out -/

theorem extractItems_eq_none_iff {path : List String} {index : Nat} {items : List Variable} :
    extractItems path index items = none ↔
      ∃ i w, items[i]? = some w ∧ extractAt (path ++ [toString (index + i)]) w = none := by
  induction items generalizing index with
  | nil => simp [extractItems]
  | cons v rest ih =>
    have hrest : extractItems path (index + 1) rest = none ↔ ∃ i w,
        rest[i]? = some w ∧ extractAt (path ++ [toString (index + (i + 1))]) w = none := by
      rw [ih]
      refine exists_congr fun i => ?_
      rw [Nat.add_right_comm]
      rfl
    rw [← Nat.or_exists_add_one, extractItems]
    simp only [List.getElem?_cons_zero, List.getElem?_cons_succ, Option.some.injEq, exists_eq_left',
      Nat.add_zero, ← hrest]
    cases extractAt (path ++ [toString index]) v with
    | none => simp
    | some r => simp

theorem extractMembers_eq_none_iff {path : List String} {members : List (String × Variable)} :
    extractMembers path members = none ↔
      ∃ (i : Nat) (m : String × Variable), members[i]? = some m ∧
        extractAt (path ++ [m.1]) m.2 = none := by
  induction members with
  | nil => simp [extractMembers]
  | cons m rest ih =>
    rw [← Nat.or_exists_add_one, extractMembers]
    simp only [List.getElem?_cons_zero, List.getElem?_cons_succ, Option.some.injEq, exists_eq_left',
      ← ih]
    cases extractAt (path ++ [m.1]) m.2 with
    | none => simp
    | some r => simp

/-- Taking out gives up at a node that is too far down, or below it. -/
theorem extractAt_eq_none_iff_child {path : List String} {v : Variable} :
    extractAt path v = none ↔ pathLimit < path.length ∨
      ∃ s w, v.child? s = some w ∧ extractAt (path ++ [s.segment]) w = none := by
  cases v with
  | list items =>
    simp only [extractAt, ite_eq_left_iff, Option.map_eq_none_iff, extractItems_eq_none_iff,
      Nat.zero_add, or_iff_not_imp_left]
    refine imp_congr_right fun _ => ⟨?_, ?_⟩
    · rintro ⟨i, w, hi, hw⟩
      exact ⟨.item i, w, hi, hw⟩
    · rintro ⟨_ | _, w, hi, hw⟩
      · exact ⟨_, w, hi, hw⟩
      · cases hi
  | object members =>
    simp only [extractAt, ite_eq_left_iff, Option.map_eq_none_iff, extractMembers_eq_none_iff,
      or_iff_not_imp_left]
    refine imp_congr_right fun _ => ⟨?_, ?_⟩
    · rintro ⟨i, m, hi, hm⟩
      exact ⟨.member i m.1, m.2, by simp [child?, hi, Option.filter], hm⟩
    · rintro ⟨_ | ⟨i, k⟩, w, hi, hw⟩
      · cases hi
      · obtain ⟨m, hf, rfl⟩ := Option.map_eq_some_iff.1 hi
        obtain ⟨hm, hk⟩ := Option.filter_eq_some_iff.1 hf
        obtain rfl : m.1 = k := by simpa using hk
        exact ⟨i, m, hm, hw⟩
  | _ => simp [extractAt, child?]

theorem extractAt_eq_none_iff {path : List String} {v : Variable} :
    extractAt path v = none ↔
      ∃ p w, v.at? p = some w ∧ pathLimit < path.length + p.length := by
  induction v using childInduction generalizing path with
  | node v ih =>
    rw [extractAt_eq_none_iff_child]
    constructor
    · rintro (h | ⟨s, w, hs, hw⟩)
      · exact ⟨[], v, rfl, h⟩
      · obtain ⟨p, x, hp, hx⟩ := (ih s w (mem_children.2 hs)).1 hw
        refine ⟨s :: p, x, by simp [at?, hs, hp], ?_⟩
        simp only [List.length_append, List.length_cons, List.length_nil] at hx ⊢
        omega
    · rintro ⟨_ | ⟨s, p⟩, x, hp, hx⟩
      · exact .inl hx
      · obtain ⟨w, hs, hw⟩ := Option.bind_eq_some_iff.1 hp
        refine .inr ⟨s, w, hs, (ih s w (mem_children.2 hs)).2 ⟨p, x, hw, ?_⟩⟩
        simp only [List.length_append, List.length_cons, List.length_nil] at hx ⊢
        omega

/-- **Uploads cannot be taken out just if some node, upload or not, is too deep.** -/
theorem extract_eq_none_iff {v : Variable} : v.extract = none ↔ v.TooDeep := by
  simp [extract, extractAt_eq_none_iff, TooDeep]

end GraphQLClient.Variable
