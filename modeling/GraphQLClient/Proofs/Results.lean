import Mathlib.Data.List.Forall2

/-! # Results and lists

When a result that is made of another one is a success, and two lists whose
items agree one by one: to follow one item, to put a list between the two or to
go on to a third. -/

namespace GraphQLClient

section Results

variable {ε α β : Type} {x : Except ε α} {b : β}

theorem map_eq_ok_iff {f : α → β} : x.map f = .ok b ↔ ∃ a, x = .ok a ∧ f a = b := by
  cases x <;> simp [Except.map]

theorem bind_eq_ok_iff {f : α → Except ε β} :
    x.bind f = .ok b ↔ ∃ a, x = .ok a ∧ f a = .ok b := by
  cases x <;> simp [Except.bind]

end Results

section Lists

variable {α β γ : Type} {xs : List α} {ys : List β} {zs : List γ}

theorem exists_of_mem_forall₂ {R : α → β → Prop} (h : List.Forall₂ R xs ys) {x : α}
    (hx : x ∈ xs) : ∃ y ∈ ys, R x y := by
  induction h with
  | nil => cases hx
  | @cons _ y _ _ hy _ ih =>
    rcases List.mem_cons.1 hx with rfl | hx
    · exact ⟨y, List.mem_cons_self, hy⟩
    · obtain ⟨y, hy, hxy⟩ := ih hx
      exact ⟨y, List.mem_cons_of_mem _ hy, hxy⟩

theorem forall₂_imp_of_mem {R S : α → β → Prop} (h : List.Forall₂ R xs ys)
    (hrs : ∀ x ∈ xs, ∀ y ∈ ys, R x y → S x y) : List.Forall₂ S xs ys := by
  induction h with
  | nil => exact .nil
  | cons hxy _ ih =>
    refine .cons (hrs _ List.mem_cons_self _ List.mem_cons_self hxy) (ih ?_)
    intro x hx y hy
    exact hrs x (List.mem_cons_of_mem _ hx) y (List.mem_cons_of_mem _ hy)

theorem forall₂_trans {R : α → β → Prop} {S : β → γ → Prop} {T : α → γ → Prop}
    (h : List.Forall₂ R xs ys) (h' : List.Forall₂ S ys zs)
    (ht : ∀ x ∈ xs, ∀ y z, R x y → S y z → T x z) : List.Forall₂ T xs zs := by
  induction h generalizing zs with
  | nil =>
    cases h'
    exact .nil
  | cons hxy _ ih =>
    cases h' with
    | cons hyz hrest =>
      obtain ⟨hx, hxs⟩ := List.forall_mem_cons.1 ht
      exact .cons (hx _ _ hxy hyz) (ih hrest hxs)

/-- What lies between the items of two lists makes a list between the two. -/
theorem forall₂_between {R : α → γ → Prop} {S : α → β → Prop} {T : β → γ → Prop}
    (h : List.Forall₂ R xs zs) (hbetween : ∀ x ∈ xs, ∀ z, R x z → ∃ y, S x y ∧ T y z) :
    ∃ ys, List.Forall₂ S xs ys ∧ List.Forall₂ T ys zs := by
  induction h with
  | nil => exact ⟨[], .nil, .nil⟩
  | cons hxz _ ih =>
    obtain ⟨hx, hxs⟩ := List.forall_mem_cons.1 hbetween
    obtain ⟨y, hS, hT⟩ := hx _ hxz
    obtain ⟨ys, hSs, hTs⟩ := ih hxs
    exact ⟨y :: ys, .cons hS hSs, .cons hT hTs⟩

theorem forall₂_map {R : β → α → Prop} {f : α → β} (h : ∀ x ∈ xs, R (f x) x) :
    List.Forall₂ R (xs.map f) xs := by
  rw [List.forall₂_map_left_iff, List.forall₂_same]
  exact h

theorem flatMap_eq_of_forall₂ {R : α → β → Prop} {f : α → List γ} {g : β → List γ}
    (h : List.Forall₂ R xs ys) (hfg : ∀ x ∈ xs, ∀ y, R x y → g y = f x) :
    ys.flatMap g = xs.flatMap f := by
  induction h with
  | nil => rfl
  | cons hxy _ ih =>
    obtain ⟨hx, hxs⟩ := List.forall_mem_cons.1 hfg
    rw [List.flatMap_cons, List.flatMap_cons, hx _ hxy, ih hxs]

end Lists

end GraphQLClient
