import GraphQLClient.Proofs.Data.Reencoding
import GraphQLClient.Proofs.Variable.Uploads

/-! # The files in data

Byte strings and uploads in data come out as the uploads of the variable, in the
order in which the data gives them (`files_encode`): every wrapper hands its
value on, and lists and objects keep the order. Two things could disturb this
and are excluded, a key that is given twice in one object, and a record of the
reserved name that is no upload. -/

namespace GraphQLClient

namespace Variable

/-- The uploads of a variable, depth first. -/
def files (v : Variable) : List Upload := v.uploads.map (·.2)

theorem map_snd_lead {α : Type} (s : Step) (xs : List (Position × α)) :
    (s.lead xs).map (·.2) = xs.map (·.2) := by
  simp [Step.lead, Function.comp_def]

theorem files_list (items : List Variable) : (list items).files = items.flatMap files := by
  have hitems : ∀ index, (itemUploads index items).map (·.2) = items.flatMap files := by
    induction items with
    | nil => exact fun _ => rfl
    | cons v rest ih =>
      intro index
      rw [itemUploads, List.map_append, map_snd_lead, ih, List.flatMap_cons]
      rfl
  exact hitems 0

theorem files_object (members : List (String × Variable)) :
    (object members).files = members.flatMap fun m => m.2.files := by
  have hmembers : ∀ index, (memberUploads index members).map (·.2) =
      members.flatMap fun m => m.2.files := by
    induction members with
    | nil => exact fun _ => rfl
    | cons m rest ih =>
      intro index
      rw [memberUploads, List.map_append, map_snd_lead, ih, List.flatMap_cons]
      rfl
  exact hmembers 0

end Variable

namespace Data

/-! ## What data describes -/

/-- The text that an option of a string gives. -/
def textOf? : Data → Option String
  | .some (.string s) => Option.some s
  | _ => Option.none

/-- The upload with these fields: bytes, filename and content type. -/
def describedUpload? : List (String × Option Data) → Option Upload
  | [(_, Option.some (.bytes b)), (_, Option.some filename), (_, Option.some contentType)] =>
    Option.some ⟨b, filename.textOf?, contentType.textOf?⟩
  | _ => Option.none

mutual

/-- The byte strings and uploads in data, in the order in which it is described. -/
def files : Data → List Upload
  | .bytes b => [{ bytes := b }]
  | .some d | .newtypeStruct d | .newtypeVariant _ d => d.files
  | .sequence items | .tupleVariant _ items => itemFiles items
  | .map calls => callFiles calls
  | .record name fields =>
    if name = uploadName then (describedUpload? fields).toList else fieldFiles fields
  | .recordVariant _ fields => fieldFiles fields
  | _ => []

def itemFiles : List Data → List Upload
  | [] => []
  | d :: rest => d.files ++ itemFiles rest

def callFiles : List MapCall → List Upload
  | [] => []
  | .key d :: rest | .value d :: rest => d.files ++ callFiles rest

def fieldFiles : List (String × Option Data) → List Upload
  | [] => []
  | (_, Option.none) :: rest => fieldFiles rest
  | (_, Option.some d) :: rest => d.files ++ fieldFiles rest

end

/-- No member of the data itself is given twice. -/
def KeysDistinct : Data → Prop
  | .map calls =>
    ∀ members, callMembers? keyName? Option.none calls = Option.some members →
      (members.map (·.1)).Nodup
  | .record _ fields | .recordVariant _ fields => ((fieldMembers fields).map (·.1)).Nodup
  | _ => True

/-- The reserved name is that of an upload. -/
def ReservedForUploads (d : Data) : Prop :=
  ∀ fields, d = .record uploadName fields → ∃ u, d = ofUpload u

theorem files_ofUpload (u : Upload) : (ofUpload u).files = [u] := by
  obtain ⟨bytes, filename, contentType⟩ := u
  cases filename <;> cases contentType <;> rfl

theorem itemFiles_eq (items : List Data) : itemFiles items = items.flatMap files := by
  induction items with
  | nil => rfl
  | cons d rest ih => rw [itemFiles, ih, List.flatMap_cons]

theorem fieldFiles_eq (fields : List (String × Option Data)) :
    fieldFiles fields = (fieldMembers fields).flatMap fun m => m.2.files := by
  induction fields with
  | nil => rfl
  | cons field rest ih =>
    obtain ⟨name, _ | d⟩ := field
    · exact ih
    · exact congrArg (d.files ++ ·) ih

/-- There is no file in a key. -/
theorem files_of_keyName? {k : Data} {name : String} (h : k.keyName? = Option.some name) :
    k.files = [] := by
  induction k using partInduction with
  | node k ih =>
    cases k with
    | some d | newtypeStruct d => exact ih d List.mem_cons_self h
    | bool | integer | float | single | char | string | unitVariant => rfl
    | _ => cases h

theorem callFiles_eq {pending : Option String} {calls : List MapCall}
    {members : List (String × Data)}
    (h : callMembers? keyName? pending calls = Option.some members) :
    callFiles calls = members.flatMap fun m => m.2.files := by
  induction calls generalizing pending members with
  | nil =>
    cases h
    rfl
  | cons call rest ih =>
    cases call with
    | key k =>
      obtain ⟨name, hname, hrest⟩ := Option.bind_eq_some_iff.1 h
      rw [callFiles, files_of_keyName? hname, List.nil_append, ih hrest]
    | value d =>
      obtain ⟨name, -, hrest⟩ := Option.bind_eq_some_iff.1 h
      obtain ⟨members, hmembers, rfl⟩ := Option.map_eq_some_iff.1 hrest
      rw [callFiles, ih hmembers, List.flatMap_cons]

/-! ## What comes out -/

theorem MembersEncode.keys {members : List (String × Data)} {xs : VariableMap}
    (h : MembersEncode members xs) : xs.map (·.1) = members.map (·.1) := by
  induction h with
  | nil => rfl
  | cons hx _ ih => rw [List.map_cons, List.map_cons, hx.1, ih]

/-- Members of distinct names stay as they are given. -/
theorem BuildsMap.of_nodup {members : List (String × Data)} {m : VariableMap}
    (h : BuildsMap [] members m) (hd : (members.map (·.1)).Nodup) : MembersEncode members m := by
  obtain ⟨xs, hxs, rfl⟩ := h
  have hfold : xs.foldl (fun m x => VariableMap.insert x.1 x.2 m) [] = xs :=
    VariableMap.ofPairs_of_nodup (hxs.keys ▸ hd)
  rwa [hfold]

theorem files_items {items : List Data} {vs : List Variable} (h : encodeItems items = .ok vs)
    (hp : ∀ p ∈ items, ∀ w, p.encode = .ok w → w.files = p.files) :
    (Variable.list vs).files = itemFiles items := by
  rw [Variable.files_list, itemFiles_eq]
  exact flatMap_eq_of_forall₂ (encodeItems_eq_ok_iff.1 h) hp

theorem files_members {members : List (String × Data)} {m : VariableMap}
    (h : BuildsMap [] members m) (hd : (members.map (·.1)).Nodup)
    (hp : ∀ x ∈ members, ∀ w, x.2.encode = .ok w → w.files = x.2.files) :
    (Variable.object m).files = members.flatMap fun x => x.2.files := by
  rw [Variable.files_object]
  exact flatMap_eq_of_forall₂ (h.of_nodup hd) fun x hx y hxy => hp x hx y.2 hxy.2

theorem files_fields {fields : List (String × Option Data)} {m : VariableMap}
    (h : encodeFields [] fields = .ok m) (hd : ((fieldMembers fields).map (·.1)).Nodup)
    (hp : ∀ p ∈ fields.filterMap (·.2), ∀ w, p.encode = .ok w → w.files = p.files) :
    (Variable.object m).files = fieldFiles fields := by
  rw [fieldFiles_eq]
  exact files_members (encodeFields_eq_ok_iff.1 h) hd fun x hx =>
    hp x.2 (mem_parts_of_mem_fieldMembers hx)

theorem files_floatVariable (x : Binary64) : (floatVariable x).files = [] := by
  unfold floatVariable
  split <;> rfl

theorem files_variant (variant : String) (v : Variable) :
    (Variable.object [(variant, v)]).files = v.files := by
  simp [Variable.files_object]

/-- **The uploads of what data is encoded as are the files in the data**, each as it was and in the
order in which the data gives them. -/
theorem files_encode {d : Data} {v : Variable} (hkeys : d.Throughout KeysDistinct)
    (hname : d.Throughout ReservedForUploads) (h : d.encode = .ok v) : v.files = d.files := by
  induction d using partInduction generalizing v with
  | node d ih =>
    have hpart : ∀ p ∈ d.parts, ∀ w, p.encode = .ok w → w.files = p.files :=
      fun p hp w hw => ih p hp (hkeys.part hp) (hname.part hp) hw
    cases d with
    | wideInteger | failing => cases h
    | float x =>
      cases h
      exact files_floatVariable x
    | single x =>
      cases h
      exact files_floatVariable x.toSingle
    | some d | newtypeStruct d => exact hpart d List.mem_cons_self v h
    | newtypeVariant variant d =>
      obtain ⟨w, hw, rfl⟩ := map_eq_ok_iff.1 h
      rw [files_variant]
      exact hpart d List.mem_cons_self w hw
    | sequence items =>
      obtain ⟨vs, hvs, rfl⟩ := map_eq_ok_iff.1 h
      exact files_items hvs hpart
    | tupleVariant variant items =>
      obtain ⟨vs, hvs, rfl⟩ := map_eq_ok_iff.1 h
      rw [files_variant]
      exact files_items hvs hpart
    | map calls =>
      obtain ⟨m, hm, rfl⟩ := map_eq_ok_iff.1 h
      obtain ⟨members, hmembers, hbuild⟩ := encodeCalls_eq_ok_iff.1 hm
      rw [files, callFiles_eq hmembers]
      exact files_members hbuild (hkeys.here members hmembers) fun x hx =>
        hpart x.2 (mem_parts_of_mem_callMembers? hmembers hx)
    | record name fields =>
      by_cases hn : name = uploadName
      · -- An upload: its fields are no members of an object.
        obtain ⟨u, hu⟩ := hname.here fields (by rw [hn])
        rw [hu, encode_ofUpload] at h
        cases h
        rw [hu, files_ofUpload]
        rfl
      · rw [encode] at h
        split at h
        · cases h
        · next m hm =>
          rw [if_neg hn] at h
          cases h
          rw [files, if_neg hn]
          exact files_fields hm hkeys.here hpart
    | recordVariant variant fields =>
      obtain ⟨m, hm, rfl⟩ := map_eq_ok_iff.1 h
      rw [files_variant]
      exact files_fields hm hkeys.here hpart
    | _ =>
      cases h
      rfl

/-- A book with a cover, no owner, an option of a page and its scans by name. -/
def scannedBook : Data :=
  .record "Book" [
    ("cover", Option.some (ofUpload { bytes := [1], filename := Option.some "cover.png" })),
    ("owner", Option.none),
    ("pages", Option.some (.sequence [.some (.bytes [2]), .none])),
    ("scans", Option.some (.map [
      .key (.string "first"), .value (.newtypeVariant "Raw" (.bytes [3])),
      .key (.string "last"), .value (.bytes [])]))]

/-- The cover comes first, then the page and the two scans. -/
theorem scannedBook_files :
    (scannedBook.Throughout KeysDistinct ∧ scannedBook.Throughout ReservedForUploads) ∧
      ∃ v, scannedBook.encode = .ok v ∧
        v.files = [{ bytes := [1], filename := Option.some "cover.png" }, { bytes := [2] },
          { bytes := [3] }, { bytes := [] }] := by
  have hkeys : scannedBook.Throughout KeysDistinct := by
    simp [scannedBook, ofUpload, ofText?, MapCall.data, KeysDistinct, fieldMembers, callMembers?,
      keyName?]
  have hname : scannedBook.Throughout ReservedForUploads := by
    have hbook : "Book" ≠ uploadName := by decide
    have hcover : ReservedForUploads
        (ofUpload { bytes := [1], filename := Option.some "cover.png" }) := fun _ _ => ⟨_, rfl⟩
    have hother : ∀ d : Data, (∀ fields, d ≠ .record uploadName fields) → ReservedForUploads d :=
      fun _ hd fields he => absurd he (hd fields)
    simp only [ofUpload, ofText?] at hcover
    simp [scannedBook, ofUpload, ofText?, MapCall.data, hcover, hother, hbook]
  exact ⟨⟨hkeys, hname⟩, _, rfl, files_encode hkeys hname rfl⟩

end Data

end GraphQLClient
