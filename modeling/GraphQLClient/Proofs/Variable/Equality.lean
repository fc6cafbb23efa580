import Mathlib.Data.List.Nodup
import Mathlib.Data.List.Perm.Subperm
import Mathlib.Logic.Relation
import GraphQLClient.Proofs.Results
import GraphQLClient.Proofs.Variable.Built

/-! # Equality of variables

Objects are compared from one side: as many members, and each on the left with
an equal one of its name on the right. Where no object has a key twice this is
an equivalence all the same, and it says exactly that one variable is turned
into the other by reordering members and replacing scalars and uploads by equal
ones (`eqv_upToOrder`). The step from one side to both is made by counting: the
members found on the right are as many as there are. -/

namespace GraphQLClient

/-! ## Scalars -/

/-- The doubles with one place in the order are one double or the two zeros. -/
theorem Binary64.orderKey_eq_iff {x y : Binary64} :
    x.orderKey = y.orderKey ↔ x = y ∨ x.isZero = true ∧ y.isZero = true := by
  have hx : x.word < 0x10000000000000000 := x.bits.toNat_lt
  have hy : y.word < 0x10000000000000000 := y.bits.toNat_lt
  have hword : x = y ↔ x.word = y.word := by
    cases x
    cases y
    simp [word, UInt64.toNat_inj]
  simp only [hword, isZero, decide_eq_true_eq]
  unfold orderKey magnitude isNegative signBit
  by_cases hx : 0x8000000000000000 ≤ x.word <;> by_cases hy : 0x8000000000000000 ≤ y.word <;>
    simp only [hx, hy, decide_true, decide_false, if_true, if_false, Bool.false_eq_true] <;> omega

namespace Number

/-- Whole numbers are equal if they are the same; of the doubles the two zeros are equal as well. -/
theorem eqv_iff {a b : Number} :
    a.eqv b = true ↔ a = b ∨ ∃ x y : Finite64, a = .float x ∧ b = .float y ∧
      x.val.isZero = true ∧ y.val.isZero = true := by
  cases a with
  | integer m => cases b <;> simp [eqv]
  | float x =>
    cases b with
    | integer n => simp [eqv]
    | float y =>
      have hval : x = y ↔ x.val = y.val := Subtype.ext_iff
      simp [eqv, Finite64.eqv, Binary64.orderKey_eq_iff, hval]

theorem eqv_refl (n : Number) : n.eqv n = true := eqv_iff.2 (.inl rfl)

theorem eqv_symm {a b : Number} (h : a.eqv b = true) : b.eqv a = true := by
  rcases eqv_iff.1 h with rfl | ⟨x, y, rfl, rfl, hx, hy⟩
  · exact eqv_refl a
  · exact eqv_iff.2 (.inr ⟨y, x, rfl, rfl, hy, hx⟩)

theorem eqv_trans {a b c : Number} (hab : a.eqv b = true) (hbc : b.eqv c = true) :
    a.eqv c = true := by
  rcases eqv_iff.1 hab with rfl | ⟨x, y, rfl, rfl, hx, -⟩
  · exact hbc
  · rcases eqv_iff.1 hbc with rfl | ⟨_, z, -, rfl, -, hz⟩
    · exact hab
    · exact eqv_iff.2 (.inr ⟨x, z, rfl, rfl, hx, hz⟩)

end Number

namespace Variable

open Relation (ReflTransGen)

/-- Scalars and uploads. -/
def IsLeaf : Variable → Prop
  | .list _ | .object _ => False
  | _ => True

/-- Equal scalars and uploads are the same but for the two zeros. -/
theorem IsLeaf.eqv_iff {v w : Variable} (hv : v.IsLeaf) :
    v.eqv w = true ↔ v = w ∨ ∃ x y : Finite64, v = .number (.float x) ∧ w = .number (.float y) ∧
      x.val.isZero = true ∧ y.val.isZero = true := by
  cases v with
  | list | object => exact absurd hv id
  | number a =>
    cases w with
    | number b => simp [eqv, Number.eqv_iff]
    | _ => simp [eqv]
  | _ => cases w <;> simp [eqv]

theorem IsLeaf.eqv_refl {v : Variable} (hv : v.IsLeaf) : v.eqv v = true := hv.eqv_iff.2 (.inl rfl)

theorem IsLeaf.symm {v w : Variable} (hv : v.IsLeaf) (h : v.eqv w = true) :
    w.IsLeaf ∧ w.eqv v = true := by
  rcases hv.eqv_iff.1 h with rfl | ⟨x, y, rfl, rfl, -⟩
  · exact ⟨hv, h⟩
  · exact ⟨trivial, Number.eqv_symm (a := .float x) (b := .float y) h⟩

theorem IsLeaf.trans {u v w : Variable} (hu : u.IsLeaf) (huv : u.eqv v = true)
    (hvw : v.eqv w = true) : u.eqv w = true := by
  rcases hu.eqv_iff.1 huv with rfl | ⟨x, y, rfl, rfl, hx, -⟩
  · exact hvw
  · rcases IsLeaf.eqv_iff (v := number (.float y)) trivial |>.1 hvw with rfl | ⟨_, z, -, rfl, -, hz⟩
    · exact huv
    · exact hu.eqv_iff.2 (.inr ⟨x, z, rfl, rfl, hx, hz⟩)

theorem IsLeaf.wellKeyed {v : Variable} (hv : v.IsLeaf) : v.WellKeyed := by
  cases v with
  | list | object => exact absurd hv id
  | _ => exact .leaf rfl (by simp)

theorem wellKeyed_list_iff {items : List Variable} :
    (list items).WellKeyed ↔ ∀ v ∈ items, v.WellKeyed :=
  ⟨fun h _ => h.item, .list⟩

theorem wellKeyed_object_iff {m : VariableMap} :
    (object m).WellKeyed ↔ (m.map (·.1)).Nodup ∧ ∀ x ∈ m, x.2.WellKeyed :=
  ⟨fun h => ⟨h.own, fun _ => h.member⟩, fun h => .object h.1 h.2⟩

/-! ## Items and members -/

/-- Lists are equal item by item. -/
theorem eqvItems_iff {vs ws : List Variable} :
    eqvItems vs ws = true ↔ List.Forall₂ (fun v w => v.eqv w = true) vs ws := by
  induction vs generalizing ws with
  | nil => cases ws <;> simp [eqvItems]
  | cons v vs ih =>
    cases ws with
    | nil => simp [eqvItems]
    | cons w ws => simp [eqvItems, ih]

theorem eqvMembers_iff {m n : VariableMap} :
    eqvMembers m n = true ↔
      ∀ x ∈ m, ∃ w, VariableMap.find? x.1 n = some w ∧ x.2.eqv w = true := by
  induction m with
  | nil => simp [eqvMembers]
  | cons x rest ih =>
    rw [eqvMembers, Bool.and_eq_true, ih, List.forall_mem_cons]
    cases VariableMap.find? x.1 n <;> simp

theorem eqv_object_iff {m n : VariableMap} :
    (object m).eqv (object n) = true ↔ m.length = n.length ∧
      ∀ x ∈ m, ∃ w, VariableMap.find? x.1 n = some w ∧ x.2.eqv w = true := by
  rw [eqv, Bool.and_eq_true, decide_eq_true_eq, eqvMembers_iff]

/-! ## Reflexive and transitive -/

theorem eqv_refl {v : Variable} (h : v.WellKeyed) : v.eqv v = true := by
  induction v using childInduction with
  | node v ih =>
    cases v with
    | list items =>
      refine eqvItems_iff.2 (List.forall₂_same.2 fun w hw => ?_)
      obtain ⟨s, hs⟩ := exists_child_of_item hw
      exact ih s w hs (h.child hs)
    | object members =>
      refine eqv_object_iff.2 ⟨rfl, fun x hx => ?_⟩
      obtain ⟨s, hs⟩ := exists_child_of_member hx
      exact ⟨x.2, VariableMap.find?_of_mem h.own hx, ih s x.2 hs (h.child hs)⟩
    | _ => exact IsLeaf.eqv_refl trivial

theorem forall₂_eqv_self {items : List Variable} (h : ∀ v ∈ items, v.WellKeyed) :
    List.Forall₂ (fun v w => v.eqv w = true) items items :=
  List.forall₂_same.2 fun v hv => eqv_refl (h v hv)

/-- Transitivity needs nothing of the keys: a member is followed from map to map. -/
theorem eqv_trans {u v w : Variable} (huv : u.eqv v = true) (hvw : v.eqv w = true) :
    u.eqv w = true := by
  induction u using childInduction generalizing v w with
  | node u ih =>
    cases u with
    | list us =>
      cases v with
      | list vs =>
        cases w with
        | list ws =>
          refine eqvItems_iff.2 (forall₂_trans (eqvItems_iff.1 huv) (eqvItems_iff.1 hvw) ?_)
          intro x hx y z hxy hyz
          obtain ⟨s, hs⟩ := exists_child_of_item hx
          exact ih s x hs hxy hyz
        | _ => cases hvw
      | _ => cases huv
    | object m =>
      cases v with
      | object n =>
        cases w with
        | object o =>
          obtain ⟨hlen, hmem⟩ := eqv_object_iff.1 huv
          obtain ⟨hlen', hmem'⟩ := eqv_object_iff.1 hvw
          refine eqv_object_iff.2 ⟨hlen.trans hlen', fun x hx => ?_⟩
          obtain ⟨v, hv, hxv⟩ := hmem x hx
          obtain ⟨w, hw, hvw⟩ := hmem' (x.1, v) (VariableMap.mem_of_find? hv)
          obtain ⟨s, hs⟩ := exists_child_of_member hx
          exact ⟨w, hw, ih s x.2 hs hxv hvw⟩
        | _ => cases hvw
      | _ => cases huv
    | _ => exact IsLeaf.trans trivial huv hvw

/-! ## Changes that equality does not see -/

/-- One change: a scalar or upload gives way to an equal one, or the members of an object are put in
another order; at any depth. -/
inductive Change : Variable → Variable → Prop
  | leaf {v w : Variable} (hv : v.IsLeaf) (h : v.eqv w = true) : Change v w
  | reorder {m n : VariableMap} (h : m.Perm n) : Change (object m) (object n)
  | item (front back : List Variable) {v w : Variable} (h : Change v w) :
      Change (list (front ++ v :: back)) (list (front ++ w :: back))
  | member (front back : VariableMap) (key : String) {v w : Variable} (h : Change v w) :
      Change (object (front ++ (key, v) :: back)) (object (front ++ (key, w) :: back))

/-- Changes one after another. -/
def TurnsInto : Variable → Variable → Prop := ReflTransGen Change

theorem Change.symm {v w : Variable} (h : Change v w) : Change w v := by
  induction h with
  | leaf hleaf h =>
    obtain ⟨hw, hwv⟩ := hleaf.symm h
    exact .leaf hw hwv
  | reorder h => exact .reorder h.symm
  | item front back _ ih => exact .item front back ih
  | member front back key _ ih => exact .member front back key ih

theorem TurnsInto.symm {v w : Variable} (h : TurnsInto v w) : TurnsInto w v := by
  induction h with
  | refl => exact .refl
  | tail _ h ih => exact .head h.symm ih

theorem Change.wellKeyed {v w : Variable} (h : Change v w) (hv : v.WellKeyed) : w.WellKeyed := by
  induction h with
  | leaf hleaf h => exact (hleaf.symm h).1.wellKeyed
  | reorder h =>
    refine .object ((h.map _).nodup_iff.1 hv.own) fun x hx => ?_
    exact hv.member (h.symm.subset hx)
  | item front back _ ih =>
    rw [wellKeyed_list_iff, List.forall_mem_append, List.forall_mem_cons] at hv ⊢
    obtain ⟨hfront, hv, hback⟩ := hv
    exact ⟨hfront, ih hv, hback⟩
  | member front back key _ ih =>
    rw [wellKeyed_object_iff, List.forall_mem_append, List.forall_mem_cons, List.map_append,
      List.map_cons] at hv ⊢
    obtain ⟨hkeys, hfront, hv, hback⟩ := hv
    exact ⟨hkeys, hfront, ih hv, hback⟩

/-- A change leaves the variable equal, if no object in it has a key twice. -/
theorem Change.eqv {v w : Variable} (h : Change v w) (hv : v.WellKeyed) : v.eqv w = true := by
  induction h with
  | leaf hleaf h => exact h
  | @reorder m n h =>
    have hn : (n.map (·.1)).Nodup := (h.map _).nodup_iff.1 hv.own
    refine eqv_object_iff.2 ⟨h.length_eq, fun x hx => ?_⟩
    exact ⟨x.2, VariableMap.find?_of_mem hn (h.subset hx), eqv_refl (hv.member hx)⟩
  | @item front back v w h ih =>
    rw [wellKeyed_list_iff, List.forall_mem_append, List.forall_mem_cons] at hv
    obtain ⟨hfront, hv, hback⟩ := hv
    exact eqvItems_iff.2
      (List.rel_append (forall₂_eqv_self hfront) (.cons (ih hv) (forall₂_eqv_self hback)))
  | @member front back key v w h ih =>
    have hw := (Change.member front back key h).wellKeyed hv
    rw [wellKeyed_object_iff, List.forall_mem_append, List.forall_mem_cons] at hv
    obtain ⟨-, hfront, hv, hback⟩ := hv
    have hfind {x : String × Variable} (hx : x ∈ front ++ (key, w) :: back) :
        VariableMap.find? x.1 (front ++ (key, w) :: back) = some x.2 :=
      VariableMap.find?_of_mem hw.own hx
    refine eqv_object_iff.2 ⟨by simp, ?_⟩
    rw [List.forall_mem_append, List.forall_mem_cons]
    refine ⟨fun x hx => ?_, ⟨w, hfind (x := (key, w)) (by simp), ih hv⟩, fun x hx => ?_⟩
    · exact ⟨x.2, hfind (List.mem_append_left _ hx), eqv_refl (hfront x hx)⟩
    · exact ⟨x.2, hfind (by simp [hx]), eqv_refl (hback x hx)⟩

theorem TurnsInto.wellKeyed {v w : Variable} (h : TurnsInto v w) (hv : v.WellKeyed) :
    w.WellKeyed := by
  induction h with
  | refl => exact hv
  | tail _ h ih => exact h.wellKeyed ih

theorem TurnsInto.eqv {v w : Variable} (h : TurnsInto v w) (hv : v.WellKeyed) :
    v.eqv w = true := by
  induction h with
  | refl => exact eqv_refl hv
  | tail hpath h ih => exact eqv_trans ih (h.eqv (TurnsInto.wellKeyed hpath hv))

/-! ## Equal variables are turned into each other -/

/-- Items are turned one after another. -/
theorem turnsInto_list {vs ws : List Variable} (h : List.Forall₂ TurnsInto vs ws)
    (front : List Variable) : TurnsInto (list (front ++ vs)) (list (front ++ ws)) := by
  induction h generalizing front with
  | nil => exact .refl
  | @cons v w vs ws hvw _ ih =>
    have hhead : TurnsInto (list (front ++ v :: vs)) (list (front ++ w :: vs)) :=
      ReflTransGen.lift (fun x => list (front ++ x :: vs)) (fun _ _ => Change.item front vs) _ _ hvw
    have hrest := ih (front ++ [w])
    rw [List.append_assoc, List.append_assoc] at hrest
    exact hhead.trans hrest

theorem turnsInto_object {m n : VariableMap}
    (h : List.Forall₂ (fun x y => x.1 = y.1 ∧ TurnsInto x.2 y.2) m n) (front : VariableMap) :
    TurnsInto (object (front ++ m)) (object (front ++ n)) := by
  induction h generalizing front with
  | nil => exact .refl
  | @cons x y m n hxy _ ih =>
    obtain ⟨key, v⟩ := x
    obtain ⟨key', w⟩ := y
    obtain ⟨rfl, hvw⟩ := hxy
    have hhead : TurnsInto (object (front ++ (key, v) :: m)) (object (front ++ (key, w) :: m)) :=
      ReflTransGen.lift (fun x => object (front ++ (key, x) :: m))
        (fun _ _ => Change.member front m key) _ _ hvw
    have hrest := ih (front ++ [(key, w)])
    rw [List.append_assoc, List.append_assoc] at hrest
    exact hhead.trans hrest

/-- **The members found on the right are all there are**: there are as many, and none is found
twice. -/
theorem exists_perm_of_eqv {m n : VariableMap} (hm : (m.map (·.1)).Nodup)
    (h : (object m).eqv (object n) = true) :
    ∃ found : VariableMap, found.Perm n ∧
      List.Forall₂ (fun x y => x.1 = y.1 ∧ x.2.eqv y.2 = true) m found := by
  obtain ⟨hlen, hmem⟩ := eqv_object_iff.1 h
  have hfound : ∃ found : VariableMap, found ⊆ n ∧
      List.Forall₂ (fun x y => x.1 = y.1 ∧ x.2.eqv y.2 = true) m found := by
    clear hm h hlen
    induction m with
    | nil => exact ⟨[], List.nil_subset n, .nil⟩
    | cons x rest ih =>
      obtain ⟨⟨w, hw, hxw⟩, hrest⟩ := List.forall_mem_cons.1 hmem
      obtain ⟨found, hsub, hall⟩ := ih hrest
      exact ⟨(x.1, w) :: found, List.cons_subset.2 ⟨VariableMap.mem_of_find? hw, hsub⟩,
        .cons ⟨rfl, hxw⟩ hall⟩
  obtain ⟨found, hsub, hall⟩ := hfound
  have hkeys : found.map (·.1) = m.map (·.1) := by
    clear hsub hmem hlen h hm
    induction hall with
    | nil => rfl
    | cons hxy _ ih => rw [List.map_cons, List.map_cons, ih, hxy.1]
  have hnodup : found.Nodup := List.Nodup.of_map (·.1) (hkeys ▸ hm)
  refine ⟨found, ?_, hall⟩
  refine (List.subperm_of_subset hnodup hsub).perm_of_length_le (Nat.le_of_eq ?_)
  rw [← hlen, hall.length_eq]

theorem turnsInto_of_eqv {v w : Variable} (hv : v.WellKeyed) (hw : w.WellKeyed)
    (h : v.eqv w = true) : TurnsInto v w := by
  induction v using childInduction generalizing w with
  | node v ih =>
    cases v with
    | list vs =>
      cases w with
      | list ws =>
        refine turnsInto_list (forall₂_imp_of_mem (eqvItems_iff.1 h) ?_) []
        intro x hx y hy hxy
        obtain ⟨s, hs⟩ := exists_child_of_item hx
        exact ih s x hs (hv.item hx) (hw.item hy) hxy
      | _ => cases h
    | object m =>
      cases w with
      | object n =>
        obtain ⟨found, hperm, hfound⟩ := exists_perm_of_eqv hv.own h
        have hturn : TurnsInto (object m) (object found) := by
          refine turnsInto_object (forall₂_imp_of_mem hfound ?_) []
          rintro x hx y hy ⟨hkey, hxy⟩
          obtain ⟨s, hs⟩ := exists_child_of_member hx
          exact ⟨hkey, ih s x.2 hs (hv.member hx) (hw.member (hperm.subset hy)) hxy⟩
        exact hturn.tail (.reorder hperm)
      | _ => cases h
    | _ => exact .single (.leaf trivial h)

/-! ## The laws -/

theorem eqv_iff_turnsInto {v w : Variable} (hv : v.WellKeyed) (hw : w.WellKeyed) :
    v.eqv w = true ↔ TurnsInto v w :=
  ⟨turnsInto_of_eqv hv hw, fun h => h.eqv hv⟩

theorem eqv_symm {v w : Variable} (hv : v.WellKeyed) (hw : w.WellKeyed) (h : v.eqv w = true) :
    w.eqv v = true :=
  (turnsInto_of_eqv hv hw h).symm.eqv hw

/-- Objects are equal if they have the same keys, with equal values. -/
theorem eqv_object_iff_find? {m n : VariableMap} (hm : (object m).WellKeyed)
    (hn : (object n).WellKeyed) :
    (object m).eqv (object n) = true ↔ ∀ key, Option.Rel (fun v w => v.eqv w = true)
      (VariableMap.find? key m) (VariableMap.find? key n) := by
  constructor
  · intro h key
    obtain ⟨-, hmem⟩ := eqv_object_iff.1 h
    obtain ⟨-, hmem'⟩ := eqv_object_iff.1 (eqv_symm hm hn h)
    cases hv : VariableMap.find? key m with
    | some v =>
      obtain ⟨w, hw, hvw⟩ := hmem _ (VariableMap.mem_of_find? hv)
      rw [hw]
      exact .some hvw
    | none =>
      cases hw : VariableMap.find? key n with
      | none => exact .none
      | some w =>
        obtain ⟨v, hv', -⟩ := hmem' _ (VariableMap.mem_of_find? hw)
        rw [hv] at hv'
        cases hv'
  · intro h
    have hnone {a b : Option Variable} (hab : Option.Rel (fun v w => v.eqv w = true) a b) :
        a = none ↔ b = none := by
      cases hab <;> simp
    have hkeys : (m.map (·.1)).Perm (n.map (·.1)) := by
      refine (List.perm_ext_iff_of_nodup hm.own hn.own).2 fun key => ?_
      rw [← not_iff_not, ← VariableMap.find?_eq_none_iff, ← VariableMap.find?_eq_none_iff]
      exact hnone (h key)
    refine eqv_object_iff.2 ⟨by simpa using hkeys.length_eq, fun x hx => ?_⟩
    have hkey := h x.1
    rw [VariableMap.find?_of_mem hm.own hx] at hkey
    cases hw : VariableMap.find? x.1 n with
    | none =>
      rw [hw] at hkey
      cases hkey
    | some w =>
      rw [hw] at hkey
      cases hkey with
      | some hxw => exact ⟨w, rfl, hxw⟩

/-- A comparison that goes by everything but the order of members. -/
structure UpToOrder (same : Variable → Variable → Bool) : Prop where
  equivalence : Equivalence fun v w : { v : Variable // v.Built } => same v w = true
  /-- Equal variables are turned into each other, and no others. -/
  turns : ∀ v w : { v : Variable // v.Built }, same v w = true ↔ TurnsInto v w
  /-- Scalars and uploads are replaced by themselves, and a zero by a zero. -/
  leaves : ∀ v w : Variable, v.IsLeaf → (same v w = true ↔
    v = w ∨ ∃ x y : Finite64, v = .number (.float x) ∧ w = .number (.float y) ∧
      x.val.isZero = true ∧ y.val.isZero = true)
  /-- The order of items counts. -/
  items : ∀ vs ws : List Variable,
    same (.list vs) (.list ws) = true ↔ List.Forall₂ (fun v w => same v w = true) vs ws
  /-- Every member counts, on either side. -/
  members : ∀ m n : { m : VariableMap // (Variable.object m).Built },
    same (.object m.1) (.object n.1) = true ↔
      ∀ key, Option.Rel (fun v w => same v w = true)
        (VariableMap.find? key m.1) (VariableMap.find? key n.1)

/-- **Variables are equal up to the order of members**, and maps as the objects made of them. -/
theorem eqv_upToOrder :
    UpToOrder eqv ∧ ∀ m n : VariableMap, VariableMap.eqv m n = (object m).eqv (object n) := by
  refine ⟨?_, fun m n => rfl⟩
  constructor
  case equivalence =>
    constructor
    · intro v
      exact eqv_refl v.2.wellKeyed
    · intro v w h
      exact eqv_symm v.2.wellKeyed w.2.wellKeyed h
    · intro u v w huv hvw
      exact eqv_trans huv hvw
  case turns =>
    intro v w
    exact eqv_iff_turnsInto v.2.wellKeyed w.2.wellKeyed
  case leaves =>
    intro v w hv
    exact hv.eqv_iff
  case items =>
    intro vs ws
    exact eqvItems_iff
  case members =>
    intro m n
    exact eqv_object_iff_find? m.2.wellKeyed n.2.wellKeyed

end Variable

end GraphQLClient
