import GraphQLClient.Proofs.Variable.Keys
import GraphQLClient.Proofs.Variable.Uploads

/-! # Places

A place spells a position under the variables: the texts of its steps with dots
between them. Who receives it cuts it at the dots and follows the parts, by the
name of a member or the decimal index of an item. That leads back to the
position just if no text on the way has a dot of its own
(`follow?_place_iff`); dots are not escaped. -/

namespace GraphQLClient.Variable

/-! ## Following texts -/

/-- Where the texts of steps lead, and what is there. -/
def follow? : Variable → List String → Option (Position × Variable)
  | v, [] => some ([], v)
  | v, text :: rest =>
    (v.children.find? fun c => c.1.segment = text).bind fun c =>
      (c.2.follow? rest).map fun r => (c.1 :: r.1, r.2)

theorem at?_cons_of_mem {v w : Variable} {s : Step} (h : (s, w) ∈ v.children) (p : Position) :
    v.at? (s :: p) = w.at? p := by
  rw [at?, mem_children.1 h, Option.bind_some]

/-- Following comes to a position whose steps have these texts. -/
theorem follow?_sound {v w : Variable} {texts : List String} {p : Position}
    (h : v.follow? texts = some (p, w)) : v.at? p = some w ∧ p.segments = texts := by
  induction texts generalizing v p with
  | nil =>
    cases h
    exact ⟨rfl, rfl⟩
  | cons text rest ih =>
    obtain ⟨⟨s, c⟩, hc, hr⟩ := Option.bind_eq_some_iff.1 h
    obtain ⟨⟨q, w'⟩, hq, he⟩ := Option.map_eq_some_iff.1 hr
    cases he
    obtain ⟨hat, hseg⟩ := ih hq
    have hs : s.segment = text := by simpa using List.find?_some hc
    constructor
    · rw [at?_cons_of_mem (List.mem_of_find?_eq_some hc), hat]
    · rw [← hs, ← hseg]
      rfl

theorem find?_of_pairwise {α β : Type} [DecidableEq β] {f : α → β} {xs : List α} {x : α}
    (hxs : xs.Pairwise fun a b => f a ≠ f b) (h : x ∈ xs) :
    (xs.find? fun y => f y = f x) = some x := by
  induction hxs with
  | nil => cases h
  | @cons y xs hy _ ih =>
    rcases List.mem_cons.1 h with rfl | h
    · simp
    · rw [List.find?_cons_of_neg (by simpa using hy x h), ih h]

/-- A decimal index stands for one number only. -/
theorem eq_of_toString_eq {i j : Nat} (h : toString i = toString j) : i = j := by
  have hdigits := congrArg (fun s : String => Nat.ofDigitChars 10 s.toList 0) h
  simpa [Nat.toString_eq_ofList_toDigits] using hdigits

/-- The texts of steps tell the children of a well-keyed variable apart. -/
theorem WellKeyed.pairwise_children {v : Variable} (hv : v.WellKeyed) :
    v.children.Pairwise fun a b => a.1.segment ≠ b.1.segment := by
  cases v with
  | list items =>
    refine List.pairwise_iff_getElem.2 fun i j hi hj hij he => ?_
    have htext : toString i = toString j := by simpa [children, Step.segment] using he
    exact Nat.ne_of_lt hij (eq_of_toString_eq htext)
  | object members =>
    refine List.pairwise_iff_getElem.2 fun i j hi hj hij he => ?_
    simp only [children, List.length_mapIdx] at hi hj
    have hkeys := List.pairwise_iff_getElem.1 hv.own i j (by simpa using hi) (by simpa using hj) hij
    exact hkeys (by simpa [children, Step.segment] using he)
  | _ => exact .nil

/-- **In a well-keyed variable the texts of a position lead to it.** -/
theorem follow?_segments {v w : Variable} (hv : v.WellKeyed) {p : Position}
    (h : v.at? p = some w) : v.follow? p.segments = some (p, w) := by
  induction p generalizing v with
  | nil =>
    cases h
    rfl
  | cons s p ih =>
    obtain ⟨c, hc, hw⟩ := Option.bind_eq_some_iff.1 h
    have hmem := mem_children.2 hc
    have hfind : (v.children.find? fun y => y.1.segment = s.segment) = some (s, c) :=
      find?_of_pairwise (f := fun y => y.1.segment) hv.pairwise_children hmem
    have hrest : c.follow? (Position.segments p) = some (p, w) := ih (hv.child hmem) hw
    have hsegs : Position.segments (s :: p) = s.segment :: Position.segments p := rfl
    rw [hsegs, follow?, hfind, Option.bind_some, hrest, Option.map_some]

/-! ## Cutting at dots -/

def Position.place (p : Position) : String := "variables." ++ ".".intercalate p.segments

/-- No step of a position has a dot in its text. -/
def Position.Dotless (p : Position) : Prop := ∀ text ∈ p.segments, '.' ∉ text.toList

def placeParts (place : String) : List String := (place.toList.splitOn '.').map String.ofList

theorem not_mem_of_mem_splitOn {α : Type} [DecidableEq α] {a : α} {xs part : List α}
    (h : part ∈ xs.splitOn a) : a ∉ part := by
  induction xs generalizing part with
  | nil =>
    obtain rfl : part = [] := by simpa using h
    exact List.not_mem_nil
  | cons x xs ih =>
    rw [List.splitOn_cons_eq_if_modifyHead] at h
    split_ifs at h with hx
    · rcases List.mem_cons.1 h with rfl | h
      · exact List.not_mem_nil
      · exact ih h
    · obtain ⟨first, rest, hf⟩ := List.exists_cons_of_ne_nil (List.splitOn_ne_nil a xs)
      rw [hf, List.modifyHead_cons] at h
      rcases List.mem_cons.1 h with rfl | h
      · have hfirst : a ∉ first := ih (hf ▸ List.mem_cons_self)
        have hne : a ≠ x := fun he => hx (by simp [he])
        simp [hne, hfirst]
      · exact ih (hf ▸ List.mem_cons_of_mem _ h)

theorem not_mem_of_mem_placeParts {place text : String} (h : text ∈ placeParts place) :
    '.' ∉ text.toList := by
  obtain ⟨part, hp, rfl⟩ := List.mem_map.1 h
  rw [String.toList_ofList]
  exact not_mem_of_mem_splitOn hp

theorem toList_place {p : Position} (hp : p ≠ []) :
    p.place.toList = ['.'].intercalate (("variables" :: p.segments).map String.toList) := by
  obtain ⟨s, q, rfl⟩ := List.exists_cons_of_ne_nil hp
  simp [Position.place, Position.segments, String.toList_intercalate,
    List.intercalate_cons_cons]

theorem placeParts_place {p : Position} (hp : p ≠ []) (hd : p.Dotless) :
    placeParts p.place = "variables" :: p.segments := by
  have hparts : ∀ part ∈ ("variables" :: p.segments).map String.toList, '.' ∉ part := by
    intro part hpart
    obtain ⟨text, htext, rfl⟩ := List.mem_map.1 hpart
    rcases List.mem_cons.1 htext with rfl | htext
    · decide
    · exact hd text htext
  rw [placeParts, toList_place hp, List.splitOn_intercalate '.' hparts (by simp), List.map_map]
  simp

/-- **A place leads to its position just if it has no dots but its own**, unless it is that of the
variables themselves. -/
theorem follow?_place_iff {root w : Variable} (hroot : root.WellKeyed) {s : Step}
    (hs : s.segment = "variables") {p : Position} (hp : p ≠ []) (h : root.at? (s :: p) = some w) :
    root.follow? (placeParts p.place) = some (s :: p, w) ↔ p.Dotless := by
  have hsegs : Position.segments (s :: p) = "variables" :: p.segments := by rw [← hs]; rfl
  constructor
  · intro hf text htext
    obtain ⟨-, hparts⟩ := follow?_sound hf
    rw [hsegs] at hparts
    exact not_mem_of_mem_placeParts (hparts ▸ List.mem_cons_of_mem _ htext)
  · intro hd
    rw [placeParts_place hp hd, ← hsegs]
    exact follow?_segments hroot h

/-! ## Without the uploads -/

theorem children_mapChildren (f : Step → Variable → Variable) (v : Variable) :
    (v.mapChildren f).children = v.children.map fun c => (c.1, f c.1 c.2) := by
  cases v with
  | list items | object members =>
    refine List.ext_getElem? fun i => ?_
    simp [mapChildren, children, Function.comp_def]
  | _ => rfl

theorem WellKeyed.mapChildren {v : Variable} (hv : v.WellKeyed) {f : Step → Variable → Variable}
    (hf : ∀ s w, (s, w) ∈ v.children → (f s w).WellKeyed) : (v.mapChildren f).WellKeyed := by
  refine .node (fun members hm => ?_) fun s w hw => ?_
  · cases v with
    | object members' =>
      cases hm
      have hkeys : (members'.mapIdx fun i m => (m.1, f (.member i m.1) m.2)).map (·.1) =
          members'.map (·.1) := List.ext_getElem? fun i => by simp [Function.comp_def]
      rw [hkeys]
      exact hv.own
    | _ => cases hm
  · rw [children_mapChildren] at hw
    obtain ⟨⟨s', c⟩, hc, he⟩ := List.mem_map.1 hw
    cases he
    exact hf s' c hc

theorem WellKeyed.mapUploads {v : Variable} (hv : v.WellKeyed) {f : Upload → Variable}
    (hf : ∀ u, (f u).WellKeyed) : (v.mapUploads f).WellKeyed := by
  induction v using childInduction with
  | node v ih =>
    rcases v.upload_or_children with ⟨u, rfl⟩ | ⟨-, hm⟩
    · exact hf u
    · rw [hm]
      exact hv.mapChildren fun s w hw => ih s w hw (hv.child hw)

theorem at?_mapUploads {v : Variable} {p : Position} {u : Upload} (f : Upload → Variable)
    (h : v.at? p = some (.upload u)) : (v.mapUploads f).at? p = some (f u) := by
  induction p generalizing v with
  | nil =>
    cases h
    rfl
  | cons s p ih =>
    obtain ⟨c, hc, hu⟩ := Option.bind_eq_some_iff.1 h
    rcases v.upload_or_children with ⟨u', rfl⟩ | ⟨-, hm⟩
    · cases hc
    · have hmem : (s, c.mapUploads f) ∈ (v.mapUploads f).children := by
        rw [hm, children_mapChildren]
        exact List.mem_map.2 ⟨(s, c), mem_children.2 hc, rfl⟩
      rw [at?_cons_of_mem hmem, ih hu]

end GraphQLClient.Variable
