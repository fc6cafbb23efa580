import GraphQLClient.Proofs.Variable.Positions
import GraphQLClient.Variable.Upload

/-! # Uploads and their positions

`uploads` lists the uploads of a variable with their positions, depth first.
`extract` takes out exactly these (`extract_eq`), and since a variable without
its uploads is the same tree with nulls, putting them back in their positions
restores it (`putAll_uploads`). -/

namespace GraphQLClient.Variable

mutual

/-- The uploads with their positions, depth first. -/
def uploads : Variable → List (Position × Upload)
  | .upload u => [([], u)]
  | .list items => itemUploads 0 items
  | .object members => memberUploads 0 members
  | _ => []

def itemUploads (index : Nat) : List Variable → List (Position × Upload)
  | [] => []
  | v :: rest => (Step.item index).lead v.uploads ++ itemUploads (index + 1) rest

def memberUploads (index : Nat) : List (String × Variable) → List (Position × Upload)
  | [] => []
  | (k, v) :: rest => (Step.member index k).lead v.uploads ++ memberUploads (index + 1) rest

end

mutual

/-- Has something else in place of each upload. -/
def mapUploads (f : Upload → Variable) : Variable → Variable
  | .upload u => f u
  | .list items => .list (mapItemUploads f items)
  | .object members => .object (mapMemberUploads f members)
  | v => v

def mapItemUploads (f : Upload → Variable) : List Variable → List Variable
  | [] => []
  | v :: rest => v.mapUploads f :: mapItemUploads f rest

def mapMemberUploads (f : Upload → Variable) : List (String × Variable) → List (String × Variable)
  | [] => []
  | (k, v) :: rest => (k, v.mapUploads f) :: mapMemberUploads f rest

end

/-! ## By children -/

theorem itemUploads_eq (index : Nat) (items : List Variable) :
    itemUploads index items =
      (items.mapIdx fun i v => (Step.item (index + i), v)).flatMap
        fun c => c.1.lead c.2.uploads := by
  induction items generalizing index with
  | nil => rfl
  | cons v rest ih => simp [itemUploads, ih, List.mapIdx_cons, Nat.add_assoc, Nat.add_comm 1]

theorem memberUploads_eq (index : Nat) (members : List (String × Variable)) :
    memberUploads index members =
      (members.mapIdx fun i m => (Step.member (index + i) m.1, m.2)).flatMap
        fun c => c.1.lead c.2.uploads := by
  induction members generalizing index with
  | nil => rfl
  | cons m rest ih => simp [memberUploads, ih, List.mapIdx_cons, Nat.add_assoc, Nat.add_comm 1]

theorem mapItemUploads_eq (f : Upload → Variable) (items : List Variable) :
    mapItemUploads f items = items.mapIdx fun _ v => v.mapUploads f := by
  induction items with
  | nil => rfl
  | cons v rest ih => simp [mapItemUploads, ih, List.mapIdx_cons]

theorem mapMemberUploads_eq (f : Upload → Variable) (members : List (String × Variable)) :
    mapMemberUploads f members = members.mapIdx fun _ m => (m.1, m.2.mapUploads f) := by
  induction members with
  | nil => rfl
  | cons m rest ih => simp [mapMemberUploads, ih, List.mapIdx_cons]

/-- A variable is an upload, or its uploads are those of its children. -/
theorem upload_or_children (v : Variable) :
    (∃ u, v = .upload u) ∨
      (v.uploads = v.children.flatMap (fun c => c.1.lead c.2.uploads) ∧
        ∀ f, v.mapUploads f = v.mapChildren fun _ w => w.mapUploads f) := by
  cases v with
  | upload u => exact .inl ⟨u, rfl⟩
  | list items =>
    exact .inr ⟨by simp [uploads, itemUploads_eq, children],
      by simp [mapUploads, mapItemUploads_eq, mapChildren]⟩
  | object members =>
    exact .inr ⟨by simp [uploads, memberUploads_eq, children],
      by simp [mapUploads, mapMemberUploads_eq, mapChildren]⟩
  | _ => exact .inr ⟨rfl, fun _ => rfl⟩

/-! ## Positions of uploads -/

theorem mem_lead {α : Type} {s : Step} {xs : List (Position × α)} {p : Position} {x : α} :
    (p, x) ∈ s.lead xs ↔ ∃ q, p = s :: q ∧ (q, x) ∈ xs := by
  simp only [Step.lead, List.mem_map, Prod.mk.injEq, Prod.exists]
  constructor
  · rintro ⟨q, y, hy, rfl, rfl⟩
    exact ⟨q, rfl, hy⟩
  · rintro ⟨q, rfl, hq⟩
    exact ⟨q, x, hq, rfl, rfl⟩

/-- **The uploads that are listed are those that are there**, each with its position. -/
theorem mem_uploads {v : Variable} {p : Position} {u : Upload} :
    (p, u) ∈ v.uploads ↔ v.at? p = some (.upload u) := by
  induction p generalizing v with
  | nil =>
    rcases v.upload_or_children with ⟨u', rfl⟩ | ⟨hu, -⟩
    · simp [uploads, at?, eq_comm]
    · have hv : v ≠ .upload u := by
        rintro rfl
        simp [uploads, children] at hu
      simp [hu, at?, mem_lead, hv]
  | cons s p ih =>
    rcases v.upload_or_children with ⟨u', rfl⟩ | ⟨hu, -⟩
    · simp [uploads, at?, child?]
    · simp only [hu, List.mem_flatMap, mem_lead, List.cons.injEq, at?, Option.bind_eq_some_iff,
        Prod.exists, mem_children]
      constructor
      · rintro ⟨s', w, hw, q, ⟨rfl, rfl⟩, hq⟩
        exact ⟨w, hw, ih.1 hq⟩
      · rintro ⟨w, hw, hq⟩
        exact ⟨s, w, hw, p, ⟨rfl, rfl⟩, ih.2 hq⟩

theorem pairwise_lead {α : Type} {s : Step} {xs : List (Position × α)}
    (h : xs.Pairwise fun a b => a.1.indices < b.1.indices) :
    (s.lead xs).Pairwise fun a b => a.1.indices < b.1.indices := by
  refine List.pairwise_map.2 (h.imp fun hab => ?_)
  simpa [Position.indices] using hab

/-- **Uploads are listed depth first**, those of a child before those of the next. -/
theorem pairwise_uploads (v : Variable) :
    v.uploads.Pairwise fun a b => a.1.indices < b.1.indices := by
  induction v using childInduction with
  | node v ih =>
    rcases v.upload_or_children with ⟨u, rfl⟩ | ⟨hu, -⟩
    · exact List.pairwise_singleton _ _
    · rw [hu, List.pairwise_flatMap]
      refine ⟨fun c hc => pairwise_lead (ih _ _ hc),
        v.pairwise_children.imp fun hab x hx y hy => ?_⟩
      obtain ⟨p, hp, -⟩ := mem_lead.1 hx
      obtain ⟨q, hq, -⟩ := mem_lead.1 hy
      rw [hp, hq]
      exact List.Lex.rel hab

/-! ## Putting uploads back -/

theorem behind_map {α β : Type} (s : Step) (g : α → β) (xs : List (Position × α)) :
    s.behind (xs.map fun x => (x.1, g x.2)) = (s.behind xs).map fun x => (x.1, g x.2) := by
  unfold Step.behind
  rw [List.filterMap_map, List.map_filterMap]
  refine List.filterMap_congr fun x _ => ?_
  rcases x with ⟨_ | ⟨s', p⟩, x⟩
  · rfl
  · by_cases h : s' = s <;> simp [h]

theorem behind_flatMap_lead {cs : List (Step × Variable)} {s : Step} {w : Variable}
    (hd : cs.Pairwise fun a b => a.1 ≠ b.1) (h : (s, w) ∈ cs) :
    s.behind (cs.flatMap fun c => c.1.lead c.2.uploads) = w.uploads := by
  induction cs with
  | nil => cases h
  | cons c cs ih =>
    obtain ⟨hc, hd⟩ := List.pairwise_cons.1 hd
    have happ : s.behind ((c :: cs).flatMap fun c => c.1.lead c.2.uploads) =
        s.behind (c.1.lead c.2.uploads) ++ s.behind (cs.flatMap fun c => c.1.lead c.2.uploads) :=
      List.filterMap_append
    rw [happ, behind_lead]
    rcases List.mem_cons.1 h with rfl | h
    · have hnone : s.behind (cs.flatMap fun c => c.1.lead c.2.uploads) = [] := by
        refine List.filterMap_eq_nil_iff.2 fun x hx => ?_
        obtain ⟨c, hm, hx⟩ := List.mem_flatMap.1 hx
        obtain ⟨p, hp, -⟩ := mem_lead.1 hx
        rcases x with ⟨_, u⟩
        cases hp
        exact if_neg (hc c hm).symm
      simp [hnone]
    · rw [if_neg (hc _ h), List.nil_append, ih hd h]

/-- **Putting something in the place of every upload** gives the variable with that in place of
its uploads, whatever stood there. -/
theorem putAll_uploads (f g : Upload → Variable) (v : Variable) :
    (v.mapUploads f).putAll (v.uploads.map fun x => (x.1, g x.2)) = v.mapUploads g := by
  induction v using childInduction with
  | node v ih =>
    rcases v.upload_or_children with ⟨u, rfl⟩ | ⟨hu, hm⟩
    · rfl
    · have hp : ∀ x ∈ v.uploads.map fun x => (x.1, g x.2), x.1 ≠ [] := by
        rw [hu, List.forall_mem_map]
        intro x hx
        obtain ⟨c, -, hc⟩ := List.mem_flatMap.1 hx
        obtain ⟨p, hp, -⟩ := mem_lead.1 hc
        simp [hp]
      rw [putAll_eq_mapChildren _ hp, hm, hm, mapChildren_mapChildren]
      refine mapChildren_congr fun s w hw => ?_
      have hd : v.children.Pairwise fun a b => a.1 ≠ b.1 :=
        v.pairwise_children.imp fun h he => absurd (he ▸ h) (Nat.lt_irrefl _)
      rw [behind_map, hu, behind_flatMap_lead hd hw]
      exact ih s w hw

theorem mapUploads_upload (v : Variable) : v.mapUploads .upload = v := by
  induction v using childInduction with
  | node v ih =>
    rcases v.upload_or_children with ⟨u, rfl⟩ | ⟨-, hm⟩
    · rfl
    · rw [hm, mapChildren_congr ih, mapChildren_self]

/-! ## Extraction -/

/-- An upload at the end of a path and a position. -/
def extractedAt (path : List String) (x : Position × Upload) : Extracted :=
  ⟨path ++ x.1.segments, x.2⟩

theorem map_extractedAt_lead (path : List String) (s : Step) (xs : List (Position × Upload)) :
    (s.lead xs).map (extractedAt path) = xs.map (extractedAt (path ++ [s.segment])) := by
  simp [Step.lead, extractedAt, Position.segments, Function.comp_def]

mutual

theorem extractAt_eq {path : List String} {v : Variable} {r : Variable × List Extracted}
    (h : extractAt path v = some r) :
    r = (v.mapUploads fun _ => .null, v.uploads.map (extractedAt path)) := by
  cases v with
  | list items =>
    rw [extractAt, Option.ite_none_left_eq_some] at h
    obtain ⟨r, hr, rfl⟩ := Option.map_eq_some_iff.1 h.2
    rw [extractItems_eq hr]
    rfl
  | object members =>
    rw [extractAt, Option.ite_none_left_eq_some] at h
    obtain ⟨r, hr, rfl⟩ := Option.map_eq_some_iff.1 h.2
    rw [extractMembers_eq 0 hr]
    rfl
  | upload u =>
    rw [extractAt, Option.ite_none_left_eq_some] at h
    obtain rfl := Option.some.inj h.2
    simp [mapUploads, uploads, extractedAt, Position.segments]
  | _ =>
    simp only [extractAt, Option.ite_none_left_eq_some] at h
    exact (Option.some.inj h.2).symm
termination_by structural v

theorem extractItems_eq {path : List String} {index : Nat} {items : List Variable}
    {r : List Variable × List Extracted} (h : extractItems path index items = some r) :
    r = (mapItemUploads (fun _ => .null) items,
      (itemUploads index items).map (extractedAt path)) := by
  cases items with
  | nil => exact (Option.some.inj h).symm
  | cons v rest =>
    simp only [extractItems] at h
    split at h
    · cases h
    · next hv =>
      obtain ⟨r, hr, rfl⟩ := Option.map_eq_some_iff.1 h
      obtain ⟨rfl, rfl⟩ := Prod.mk.inj (extractAt_eq hv)
      rw [extractItems_eq hr]
      simp only [mapItemUploads, itemUploads, List.map_append, map_extractedAt_lead]
      rfl
termination_by structural items

theorem extractMembers_eq {path : List String} {members : List (String × Variable)}
    (index : Nat) {r : List (String × Variable) × List Extracted}
    (h : extractMembers path members = some r) :
    r = (mapMemberUploads (fun _ => .null) members,
      (memberUploads index members).map (extractedAt path)) := by
  cases members with
  | nil => exact (Option.some.inj h).symm
  | cons m rest =>
    simp only [extractMembers] at h
    split at h
    · cases h
    · next hv =>
      obtain ⟨r, hr, rfl⟩ := Option.map_eq_some_iff.1 h
      obtain ⟨rfl, rfl⟩ := Prod.mk.inj (extractAt_eq hv)
      rw [extractMembers_eq (index + 1) hr]
      simp only [mapMemberUploads, memberUploads, List.map_append, map_extractedAt_lead]
      rfl
termination_by structural members

end

mutual

/-- With nulls for its uploads, a variable has none that the JSON form could trip over. -/
theorem firstUploadPath?_null (v : Variable) :
    (v.mapUploads fun _ => .null).firstUploadPath? = none := by
  cases v with
  | list items => exact firstItemPath?_null 0 items
  | object members => exact firstMemberPath?_null members
  | _ => rfl
termination_by structural v

theorem firstItemPath?_null (index : Nat) (items : List Variable) :
    firstItemPath? index (mapItemUploads (fun _ => .null) items) = none := by
  cases items with
  | nil => rfl
  | cons v rest =>
    simp only [mapItemUploads, firstItemPath?, firstUploadPath?_null v]
    exact firstItemPath?_null (index + 1) rest
termination_by structural items

theorem firstMemberPath?_null (members : List (String × Variable)) :
    firstMemberPath? (mapMemberUploads (fun _ => .null) members) = none := by
  cases members with
  | nil => rfl
  | cons m rest =>
    simp only [mapMemberUploads, firstMemberPath?, firstUploadPath?_null m.2]
    exact firstMemberPath?_null rest
termination_by structural members

end

end GraphQLClient.Variable
