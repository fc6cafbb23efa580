import Mathlib.Data.List.Induction
import Mathlib.Data.List.Perm.Basic
import GraphQLClient.Proofs.Variable.Keys

/-! # What a map tells of its history

A map is filled by inserting, removing and building it anew of pairs. All its
answers can be read off that history: a key has the value of its last insertion
unless it was removed since, and the members stand in the order in which their
keys came in, an insertion in place of another being no coming in (`Told`). The
history tells this of one map only (`told_iff`), so nothing else can be seen of
it. -/

namespace GraphQLClient.VariableMap

/-! ## Histories -/

/-- A change of one member, or of all. -/
inductive Edit where
  | insert (key : String) (value : Variable)
  | remove (key : String)
  | clear

namespace Edit

def apply (m : VariableMap) : Edit → VariableMap
  | .insert key value => VariableMap.insert key value m
  | .remove key => VariableMap.remove key m
  | .clear => []

/-- The key goes, if it is there. -/
def Removes (key : String) : Edit → Prop
  | .insert _ _ => False
  | .remove k => k = key
  | .clear => True

/-- The key gets a value or goes. -/
def Touches (key : String) : Edit → Prop
  | .insert k _ | .remove k => k = key
  | .clear => True

end Edit

/-- What is done to a map from outside. -/
inductive Act where
  | insert (key : String) (value : Variable)
  | remove (key : String)
  /-- The map is made anew of pairs. -/
  | rebuild (pairs : List (String × Variable))

/-- What an act gives back, and the map behind it. -/
def perform (m : VariableMap) : Act → Option Variable × VariableMap
  | .insert key value => put key value m
  | .remove key => takeOut key m
  | .rebuild pairs => (none, ofPairs pairs)

/-- The map after some acts on an empty one. -/
def after (acts : List Act) : VariableMap := acts.foldl (fun m act => (perform m act).2) []

def Act.edits : Act → List Edit
  | .insert key value => [.insert key value]
  | .remove key => [.remove key]
  | .rebuild pairs => .clear :: pairs.map fun p => .insert p.1 p.2

def run (m : VariableMap) (edits : List Edit) : VariableMap := edits.foldl Edit.apply m

/-! ## What a history says -/

/-- The last insertion of the key, not followed by a removal, is of this value. -/
def Holds (edits : List Edit) (key : String) (value : Variable) : Prop :=
  ∃ before later, edits = before ++ .insert key value :: later ∧ ∀ e ∈ later, ¬ e.Touches key

/-- The key came in with the edit at this place: it was absent before and was not removed since. -/
def EntersAt (edits : List Edit) (key : String) (place : Nat) : Prop :=
  ∃ before value later, edits = before ++ .insert key value :: later ∧ before.length = place ∧
    (∀ v, ¬ Holds before key v) ∧ ∀ e ∈ later, ¬ e.Removes key

/-- A map as its history says. -/
structure Told (edits : List Edit) (m : VariableMap) : Prop where
  distinct : (m.map (·.1)).Nodup
  held : ∀ key v, find? key m = some v ↔ Holds edits key v
  entered : ∀ key ∈ m.map (·.1), ∃ place, EntersAt edits key place
  ordered : (m.map (·.1)).Pairwise fun a b =>
    ∀ i j, EntersAt edits a i → EntersAt edits b j → i < j

section

variable {edits : List Edit} {e : Edit} {key : String} {value : Variable} {place : Nat}

theorem snoc_eq_append_cons_iff {α : Type} {xs before later : List α} {x y : α} :
    xs ++ [x] = before ++ y :: later ↔
      before = xs ∧ y = x ∧ later = [] ∨
        ∃ later', later = later' ++ [x] ∧ xs = before ++ y :: later' := by
  constructor
  · intro h
    rcases List.eq_nil_or_concat later with rfl | ⟨later', z, rfl⟩
    · obtain ⟨hxs, hx⟩ := List.append_inj' h rfl
      exact .inl ⟨hxs.symm, (List.cons.inj hx).1.symm, rfl⟩
    · rw [List.concat_eq_append, ← List.cons_append, ← List.append_assoc] at h
      obtain ⟨hxs, hx⟩ := List.append_inj' h rfl
      refine .inr ⟨later', ?_, hxs⟩
      rw [List.concat_eq_append, hx]
  · rintro (⟨rfl, rfl, rfl⟩ | ⟨later', rfl, rfl⟩)
    · rfl
    · simp

theorem holds_nil : ¬ Holds [] key value := by
  rintro ⟨before, later, h, -⟩
  simp at h

theorem holds_snoc :
    Holds (edits ++ [e]) key value ↔
      e = .insert key value ∨ Holds edits key value ∧ ¬ e.Touches key := by
  constructor
  · rintro ⟨before, later, h, hlater⟩
    rcases snoc_eq_append_cons_iff.1 h with ⟨-, he, -⟩ | ⟨later', rfl, hedits⟩
    · exact .inl he.symm
    · obtain ⟨hlater, he⟩ := List.forall_mem_append.1 hlater
      exact .inr ⟨⟨before, later', hedits, hlater⟩, he e List.mem_cons_self⟩
  · rintro (rfl | ⟨⟨before, later, rfl, hlater⟩, he⟩)
    · exact ⟨edits, [], rfl, by simp⟩
    · refine ⟨before, later ++ [e], by simp, ?_⟩
      exact List.forall_mem_append.2 ⟨hlater, by simpa using he⟩

theorem entersAt_snoc :
    EntersAt (edits ++ [e]) key place ↔
      EntersAt edits key place ∧ ¬ e.Removes key ∨
        (∃ value, e = .insert key value) ∧ place = edits.length ∧ ∀ v, ¬ Holds edits key v := by
  constructor
  · rintro ⟨before, value, later, h, hplace, habsent, hlater⟩
    rcases snoc_eq_append_cons_iff.1 h with ⟨rfl, he, -⟩ | ⟨later', rfl, hedits⟩
    · exact .inr ⟨⟨value, he.symm⟩, hplace.symm, habsent⟩
    · obtain ⟨hlater, he⟩ := List.forall_mem_append.1 hlater
      exact .inl ⟨⟨before, value, later', hedits, hplace, habsent, hlater⟩,
        he e List.mem_cons_self⟩
  · rintro (⟨⟨before, value, later, rfl, hplace, habsent, hlater⟩, he⟩ | ⟨⟨value, rfl⟩, rfl, h⟩)
    · refine ⟨before, value, later ++ [e], by simp, hplace, habsent, ?_⟩
      exact List.forall_mem_append.2 ⟨hlater, by simpa using he⟩
    · exact ⟨edits, value, [], rfl, rfl, h, by simp⟩

theorem EntersAt.lt_length (h : EntersAt edits key place) : place < edits.length := by
  obtain ⟨before, value, later, rfl, rfl, -⟩ := h
  simp

/-- A key that came in and was not removed has a value. -/
theorem EntersAt.holds (h : EntersAt edits key place) : ∃ v, Holds edits key v := by
  obtain ⟨before, value, later, rfl, -, -, hlater⟩ := h
  induction later using List.reverseRecOn with
  | nil => exact ⟨value, before, [], rfl, by simp⟩
  | append_singleton later e ih =>
    obtain ⟨hlater, he⟩ := List.forall_mem_append.1 hlater
    obtain ⟨v, hv⟩ := ih hlater
    rw [← List.cons_append, ← List.append_assoc]
    by_cases ht : e.Touches key
    · -- Only an insertion touches a key without removing it.
      cases e with
      | insert k w =>
        obtain rfl : k = key := ht
        exact ⟨w, holds_snoc.2 (.inl rfl)⟩
      | remove k => exact absurd ht (he _ List.mem_cons_self)
      | clear => exact absurd trivial (he _ List.mem_cons_self)
    · exact ⟨v, holds_snoc.2 (.inr ⟨hv, ht⟩)⟩

end

/-! ## What an edit does -/

theorem find?_insert (key k : String) (value : Variable) (m : VariableMap) :
    find? key (insert k value m) = if k = key then some value else find? key m := by
  induction m with
  | nil => rfl
  | cons x rest ih =>
    by_cases hx : x.1 = k
    · by_cases hk : k = key <;> simp [insert, find?, hx, hk]
    · by_cases hk : k = key
      · subst hk
        simp [insert, find?, hx, ih]
      · simp [insert, find?, hx, hk, ih]

theorem remove_eq_filter {m : VariableMap} (hm : (m.map (·.1)).Nodup) (key : String) :
    remove key m = m.filter (·.1 ≠ key) := by
  induction m with
  | nil => rfl
  | cons x rest ih =>
    obtain ⟨hx, hrest⟩ := List.nodup_cons.1 hm
    by_cases hk : x.1 = key
    · subst hk
      rw [List.filter_cons_of_neg (by simp), filter_ne_of_notMem hx]
      exact if_pos rfl
    · rw [List.filter_cons_of_pos (by simpa using hk), ← ih hrest]
      exact if_neg hk

theorem find?_filter_ne (key k : String) (m : VariableMap) :
    find? key (m.filter (·.1 ≠ k)) = if k = key then none else find? key m := by
  induction m with
  | nil => simp [find?]
  | cons x rest ih =>
    by_cases hx : x.1 = k
    · subst hx
      rw [List.filter_cons_of_neg (by simp), ih]
      by_cases hk : x.1 = key <;> simp [find?, hk]
    · rw [List.filter_cons_of_pos (by simpa using hx), find?, ih]
      by_cases hk : k = key
      · subst hk
        simp [hx]
      · simp [find?, hk]

theorem exists_find?_iff {m : VariableMap} {key : String} :
    (∃ v, find? key m = some v) ↔ key ∈ m.map (·.1) := by
  rw [← Option.ne_none_iff_exists', ne_eq, find?_eq_none_iff, not_not]

namespace Told

variable {edits : List Edit} {m : VariableMap}

theorem nil : Told [] [] where
  distinct := List.nodup_nil
  held _ _ := by simp [find?, holds_nil]
  entered _ h := by cases h
  ordered := .nil

theorem mem_keys_iff (h : Told edits m) {key : String} :
    key ∈ m.map (·.1) ↔ ∃ v, Holds edits key v := by
  rw [← exists_find?_iff]
  exact exists_congr fun v => h.held key v

/-- An insertion of a key that is there changes no place. -/
theorem entersAt_insert_iff (h : Told edits m) {key k : String} {value : Variable} {place : Nat}
    (hkey : key ∈ m.map (·.1)) :
    EntersAt (edits ++ [.insert k value]) key place ↔ EntersAt edits key place := by
  rw [entersAt_snoc]
  constructor
  · rintro (⟨he, -⟩ | ⟨-, -, habsent⟩)
    · exact he
    · obtain ⟨v, hv⟩ := h.mem_keys_iff.1 hkey
      exact absurd hv (habsent v)
  · intro he
    exact .inl ⟨he, id⟩

theorem insert (h : Told edits m) (k : String) (value : Variable) :
    Told (edits ++ [.insert k value]) (VariableMap.insert k value m) where
  distinct := nodup_keys_insert h.distinct k value
  held key v := by
    rw [find?_insert, holds_snoc, Edit.insert.injEq]
    by_cases hk : k = key
    · simp [hk, Edit.Touches]
    · simp [hk, Edit.Touches, h.held]
  entered key hkey := by
    rw [keys_insert] at hkey
    by_cases hold : key ∈ m.map (·.1)
    · obtain ⟨place, hplace⟩ := h.entered key hold
      exact ⟨place, (h.entersAt_insert_iff hold).2 hplace⟩
    · have hk : key = k := by
        by_cases hk : k ∈ m.map (·.1)
        · rw [if_pos hk] at hkey
          exact absurd hkey hold
        · rw [if_neg hk] at hkey
          exact List.mem_singleton.1 ((List.mem_append.1 hkey).resolve_left hold)
      subst hk
      refine ⟨edits.length, entersAt_snoc.2 (.inr ⟨⟨value, rfl⟩, rfl, ?_⟩)⟩
      exact fun v hv => hold (h.mem_keys_iff.2 ⟨v, hv⟩)
  ordered := by
    have hordered : (m.map (·.1)).Pairwise fun a b => ∀ i j,
        EntersAt (edits ++ [.insert k value]) a i → EntersAt (edits ++ [.insert k value]) b j →
          i < j := by
      refine h.ordered.imp_of_mem fun ha hb hab i j hi hj => ?_
      exact hab i j ((h.entersAt_insert_iff ha).1 hi) ((h.entersAt_insert_iff hb).1 hj)
    rw [keys_insert]
    by_cases hk : k ∈ m.map (·.1)
    · rw [if_pos hk]
      exact hordered
    · -- A new key comes in behind all others.
      rw [if_neg hk]
      refine List.pairwise_append.2 ⟨hordered, List.pairwise_singleton _ _, ?_⟩
      intro a ha b hb i j hi hj
      obtain rfl := List.mem_singleton.1 hb
      have hi := ((h.entersAt_insert_iff ha).1 hi).lt_length
      rcases entersAt_snoc.1 hj with ⟨hj, -⟩ | ⟨-, rfl, -⟩
      · exact absurd (h.mem_keys_iff.2 hj.holds) hk
      · exact hi

theorem remove (h : Told edits m) (k : String) :
    Told (edits ++ [.remove k]) (VariableMap.remove k m) := by
  have hsub : (m.filter (·.1 ≠ k)).map (·.1) |>.Sublist (m.map (·.1)) :=
    List.filter_sublist.map _
  have henters {key : String} {place : Nat} :
      EntersAt (edits ++ [.remove k]) key place ↔ EntersAt edits key place ∧ k ≠ key := by
    rw [entersAt_snoc]
    simp [Edit.Removes]
  rw [remove_eq_filter h.distinct]
  constructor
  case distinct => exact h.distinct.sublist hsub
  case held =>
    intro key v
    rw [find?_filter_ne, holds_snoc]
    by_cases hk : k = key
    · simp [hk, Edit.Touches]
    · simp [hk, Edit.Touches, h.held]
  case entered =>
    intro key hkey
    obtain ⟨place, hplace⟩ := h.entered key (hsub.subset hkey)
    obtain ⟨x, hx, rfl⟩ := List.mem_map.1 hkey
    have hne : x.1 ≠ k := by simpa using (List.mem_filter.1 hx).2
    exact ⟨place, henters.2 ⟨hplace, Ne.symm hne⟩⟩
  case ordered =>
    refine (h.ordered.sublist hsub).imp fun hab i j hi hj => ?_
    exact hab i j (henters.1 hi).1 (henters.1 hj).1

theorem clear : Told (edits ++ [.clear]) [] where
  distinct := List.nodup_nil
  held key v := by
    rw [holds_snoc]
    simp [find?, Edit.Touches]
  entered _ h := by cases h
  ordered := .nil

/-- **One edit more**, and the map is again as its history says. -/
theorem apply (h : Told edits m) (e : Edit) : Told (edits ++ [e]) (e.apply m) := by
  cases e with
  | insert key value => exact h.insert key value
  | remove key => exact h.remove key
  | clear => exact clear

end Told

theorem run_append (m : VariableMap) (edits later : List Edit) :
    run m (edits ++ later) = run (run m edits) later := List.foldl_append

theorem told_run (edits : List Edit) : Told edits (run [] edits) := by
  induction edits using List.reverseRecOn with
  | nil => exact .nil
  | append_singleton edits e ih =>
    rw [run_append]
    exact ih.apply e

/-! ## One map only -/

/-- The members are the keys with what is found under them. -/
theorem map_find?_keys {m : VariableMap} (hm : (m.map (·.1)).Nodup) :
    (m.map (·.1)).map (fun key => (key, find? key m)) = m.map fun x => (x.1, some x.2) := by
  rw [List.map_map]
  refine List.map_congr_left fun x hx => ?_
  exact congrArg (Prod.mk x.1) (find?_of_mem hm hx)

theorem eq_of_keys_of_find? {m n : VariableMap} (hm : (m.map (·.1)).Nodup)
    (hkeys : m.map (·.1) = n.map (·.1)) (hfind : ∀ key, find? key m = find? key n) : m = n := by
  have hinj : Function.Injective fun x : String × Variable => (x.1, some x.2) := by
    rintro ⟨k, v⟩ ⟨l, w⟩ h
    simpa using h
  have hpairs := map_find?_keys hm
  simp only [hfind] at hpairs
  rw [hkeys, map_find?_keys (hkeys ▸ hm)] at hpairs
  exact (List.map_injective_iff.2 hinj hpairs).symm

/-- **A history tells of one map only.** -/
theorem Told.unique {edits : List Edit} {m n : VariableMap} (hm : Told edits m)
    (hn : Told edits n) : m = n := by
  have hfind (key : String) : find? key m = find? key n := by
    refine Option.ext fun v => ?_
    rw [hm.held, hn.held]
  have hmem (key : String) : key ∈ m.map (·.1) ↔ key ∈ n.map (·.1) := by
    rw [hm.mem_keys_iff, hn.mem_keys_iff]
  have hperm := (List.perm_ext_iff_of_nodup hm.distinct hn.distinct).2 hmem
  refine eq_of_keys_of_find? hm.distinct ?_ hfind
  refine hperm.eq_of_pairwise (fun a b ha hb hab hba => ?_) hm.ordered hn.ordered
  -- Each of two keys cannot come in before the other.
  obtain ⟨i, hi⟩ := hm.entered a ha
  obtain ⟨j, hj⟩ := hn.entered b hb
  exact absurd (hab i j hi hj) (Nat.lt_asymm (hba j i hj hi))

theorem told_iff {edits : List Edit} {m : VariableMap} : Told edits m ↔ m = run [] edits := by
  constructor
  · intro h
    exact h.unique (told_run edits)
  · rintro rfl
    exact told_run edits

/-! ## Acts -/

theorem put_eq (key : String) (value : Variable) (m : VariableMap) :
    put key value m = (find? key m, insert key value m) := by
  induction m with
  | nil => rfl
  | cons x rest ih =>
    by_cases hk : x.1 = key <;> simp [put, find?, insert, hk, ih]

theorem takeOut_eq (key : String) (m : VariableMap) :
    takeOut key m = (find? key m, remove key m) := by
  induction m with
  | nil => rfl
  | cons x rest ih =>
    by_cases hk : x.1 = key <;> simp [takeOut, find?, remove, hk, ih]

theorem perform_eq_run (m : VariableMap) (act : Act) : (perform m act).2 = run m act.edits := by
  cases act with
  | insert key value => exact congrArg Prod.snd (put_eq key value m)
  | remove key => exact congrArg Prod.snd (takeOut_eq key m)
  | rebuild pairs =>
    rw [Act.edits, run, List.foldl_cons, List.foldl_map]
    rfl

theorem after_eq_run (acts : List Act) : after acts = run [] (acts.flatMap Act.edits) := by
  have hfold (m : VariableMap) : acts.foldl (fun m act => (perform m act).2) m =
      run m (acts.flatMap Act.edits) := by
    induction acts generalizing m with
    | nil => rfl
    | cons act acts ih => rw [List.foldl_cons, ih, perform_eq_run, List.flatMap_cons, run_append]
  exact hfold []

theorem filter_insert (key : String) (value : Variable) (m : VariableMap) :
    (insert key value m).filter (·.1 ≠ key) = m.filter (·.1 ≠ key) := by
  induction m with
  | nil => simp [insert]
  | cons x rest ih =>
    by_cases hk : x.1 = key
    · simp [insert, hk]
    · rw [insert, if_neg hk, List.filter_cons_of_pos (by simpa using hk),
        List.filter_cons_of_pos (by simpa using hk), ih]

/-- What shows of a map behind some acts, and what the next act does to it. -/
structure Orderly (acts : List Act) : Prop where
  told : ∀ m, Told (acts.flatMap Act.edits) m ↔ m = after acts
  /-- There are as many members as keys that have a value. -/
  length : ∀ keys : List String, keys.Nodup →
    (∀ key, key ∈ keys ↔ ∃ v, Holds (acts.flatMap Act.edits) key v) →
    (after acts).length = keys.length
  isEmpty : (after acts).isEmpty = true ↔ ∀ key v, ¬ Holds (acts.flatMap Act.edits) key v
  values : (after acts).values.map some = ((after acts).map (·.1)).map fun key =>
    find? key (after acts)
  /-- An insertion gives back what the key had, and leaves the other members as they stand. -/
  inserts : ∀ key value, (perform (after acts) (.insert key value)).1 = find? key (after acts) ∧
    (after (acts ++ [.insert key value])).filter (·.1 ≠ key) = (after acts).filter (·.1 ≠ key)
  /-- A removal gives back what the key had, and the other members are what is left. -/
  removes : ∀ key, (perform (after acts) (.remove key)).1 = find? key (after acts) ∧
    after (acts ++ [.remove key]) = (after acts).filter (·.1 ≠ key)

theorem after_snoc (acts : List Act) (act : Act) :
    after (acts ++ [act]) = (perform (after acts) act).2 := List.foldl_concat ..

/-- **Every map is as its history says**, whatever was done to it. -/
theorem orderly (acts : List Act) : Orderly acts := by
  have htold : Told (acts.flatMap Act.edits) (after acts) := told_iff.2 (after_eq_run acts)
  constructor
  case told =>
    intro m
    rw [told_iff, after_eq_run]
  case length =>
    intro keys hnodup hkeys
    have hperm : keys.Perm ((after acts).map (·.1)) := by
      refine (List.perm_ext_iff_of_nodup hnodup htold.distinct).2 fun key => ?_
      rw [hkeys, htold.mem_keys_iff]
    rw [hperm.length_eq, List.length_map]
  case isEmpty =>
    rw [List.isEmpty_iff, ← List.map_eq_nil_iff (f := (·.1)), List.eq_nil_iff_forall_not_mem]
    refine forall_congr' fun key => ?_
    rw [htold.mem_keys_iff, not_exists]
  case values =>
    have hpairs := congrArg (List.map (·.2)) (map_find?_keys htold.distinct)
    simpa [VariableMap.values, Function.comp_def] using hpairs.symm
  case inserts =>
    intro key value
    rw [after_snoc, perform, put_eq]
    exact ⟨rfl, filter_insert key value (after acts)⟩
  case removes =>
    intro key
    rw [after_snoc, perform, takeOut_eq]
    exact ⟨rfl, remove_eq_filter htold.distinct key⟩

end GraphQLClient.VariableMap
