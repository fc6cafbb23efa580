import Mathlib.Data.List.Basic
import GraphQLClient.Variable.Basic

/-! # Positions in a variable

A position is a list of steps, each into an item of a list or a member of an
object. The items and the members of a variable are treated alike, as its
children, so that every fact about positions needs one induction
(`Variable.childInduction`) and not one for lists and one for objects. -/

namespace GraphQLClient.Variable

inductive Step where
  | item (index : Nat)
  | member (index : Nat) (key : String)
  deriving DecidableEq

namespace Step

def index : Step → Nat
  | .item i | .member i _ => i

/-- The step as it stands in a path. -/
def segment : Step → String
  | .item i => toString i
  | .member _ k => k

end Step

abbrev Position := List Step

namespace Position

/-- Depth-first order is the lexicographic order of these. -/
def indices (p : Position) : List Nat := p.map Step.index

def segments (p : Position) : List String := p.map Step.segment

end Position

/-! ## Children -/

def children : Variable → List (Step × Variable)
  | .list items => items.mapIdx fun i v => (.item i, v)
  | .object members => members.mapIdx fun i m => (.member i m.1, m.2)
  | _ => []

def child? : Variable → Step → Option Variable
  | .list items, .item i => items[i]?
  | .object members, .member i k => (members[i]?.filter (·.1 = k)).map (·.2)
  | _, _ => none

/-- Applies a function to all children; the keys stay. -/
def mapChildren (f : Step → Variable → Variable) : Variable → Variable
  | .list items => .list (items.mapIdx fun i v => f (.item i) v)
  | .object members => .object (members.mapIdx fun i m => (m.1, f (.member i m.1) m.2))
  | v => v

theorem mem_children {v w : Variable} {s : Step} :
    (s, w) ∈ v.children ↔ v.child? s = some w := by
  cases v with
  | list items =>
    cases s <;> simp [children, child?, List.getElem?_eq_some_iff]
  | object members =>
    cases s with
    | item i => simp [children, child?]
    | member i k =>
      simp only [children, child?, List.mem_mapIdx, Prod.mk.injEq, Step.member.injEq,
        Option.map_eq_some_iff, Option.filter_eq_some_iff, List.getElem?_eq_some_iff]
      constructor
      · rintro ⟨j, hj, ⟨rfl, rfl⟩, rfl⟩
        exact ⟨_, ⟨⟨hj, rfl⟩, by simp⟩, rfl⟩
      · rintro ⟨m, ⟨⟨hi, rfl⟩, hk⟩, rfl⟩
        exact ⟨i, hi, ⟨rfl, by simpa using hk⟩, rfl⟩
  | _ => simp [children, child?]

theorem exists_child_of_item {items : List Variable} {v : Variable} (h : v ∈ items) :
    ∃ s, (s, v) ∈ (list items).children := by
  obtain ⟨i, hi, rfl⟩ := List.getElem_of_mem h
  exact ⟨.item i, List.mem_mapIdx.2 ⟨i, hi, rfl⟩⟩

theorem exists_child_of_member {members : List (String × Variable)} {m : String × Variable}
    (h : m ∈ members) : ∃ s, (s, m.2) ∈ (object members).children := by
  obtain ⟨i, hi, rfl⟩ := List.getElem_of_mem h
  exact ⟨.member i _, List.mem_mapIdx.2 ⟨i, hi, rfl⟩⟩

theorem pairwise_children (v : Variable) :
    v.children.Pairwise fun a b => a.1.index < b.1.index := by
  cases v with
  | list items | object members =>
    refine List.pairwise_iff_getElem.2 fun i j hi hj h => ?_
    simpa [children, Step.index] using h
  | _ => exact .nil

theorem sizeOf_lt_of_mem_children {v w : Variable} {s : Step} (h : (s, w) ∈ v.children) :
    sizeOf w < sizeOf v := by
  cases v with
  | list items =>
    obtain ⟨i, hi, he⟩ := List.mem_mapIdx.1 h
    cases he
    have := List.sizeOf_lt_of_mem (List.getElem_mem hi)
    simp only [list.sizeOf_spec]
    omega
  | object members =>
    obtain ⟨i, hi, he⟩ := List.mem_mapIdx.1 h
    cases he
    have := List.sizeOf_lt_of_mem (List.getElem_mem hi)
    rcases hm : members[i] with ⟨k, w⟩
    simp only [hm, Prod.mk.sizeOf_spec, object.sizeOf_spec] at this ⊢
    omega
  | _ => cases h

/-- What holds of a variable if it holds of all its children holds of every variable. -/
theorem childInduction {motive : Variable → Prop}
    (node : ∀ v, (∀ s w, (s, w) ∈ v.children → motive w) → motive v) (v : Variable) : motive v :=
  node v fun _ w _child => childInduction node w
termination_by sizeOf v
decreasing_by exact sizeOf_lt_of_mem_children _child

@[simp]
theorem mapChildren_mapChildren (f g : Step → Variable → Variable) (v : Variable) :
    (v.mapChildren f).mapChildren g = v.mapChildren fun s w => g s (f s w) := by
  cases v <;> simp [mapChildren, Function.comp_def]

theorem mapChildren_congr {f g : Step → Variable → Variable} {v : Variable}
    (h : ∀ s w, (s, w) ∈ v.children → f s w = g s w) : v.mapChildren f = v.mapChildren g := by
  cases v with
  | list items | object members =>
    simp only [mapChildren, list.injEq, object.injEq, List.mapIdx_eq_mapIdx_iff, Prod.mk.injEq,
      true_and]
    exact fun i hi => h _ _ (List.mem_mapIdx.2 ⟨i, hi, rfl⟩)
  | _ => rfl

theorem mapChildren_self (v : Variable) : (v.mapChildren fun _ w => w) = v := by
  cases v <;> simp [mapChildren, List.mapIdx_eq_iff]

/-! ## Looking and putting -/

def at? : Variable → Position → Option Variable
  | v, [] => some v
  | v, s :: p => (v.child? s).bind (·.at? p)

/-- Puts a value in a position; without such a position nothing changes. -/
def put : Variable → Position → Variable → Variable
  | _, [], w => w
  | v, s :: p, w => v.mapChildren fun s' c => if s' = s then c.put p w else c

/-- Puts values in their positions, the first one first. -/
def putAll (v : Variable) (puts : List (Position × Variable)) : Variable :=
  puts.foldl (fun v pw => v.put pw.1 pw.2) v

variable {α : Type}

/-- What is at positions behind a step, with the rest of the way. -/
def Step.behind (s : Step) (xs : List (Position × α)) : List (Position × α) :=
  xs.filterMap fun
    | ([], _) => none
    | (s' :: p, x) => if s' = s then some (p, x) else none

/-- Leads to what is at some positions of a child. -/
def Step.lead (s : Step) (xs : List (Position × α)) : List (Position × α) :=
  xs.map fun x => (s :: x.1, x.2)

theorem behind_lead (s s' : Step) (xs : List (Position × α)) :
    s.behind (s'.lead xs) = if s' = s then xs else [] := by
  unfold Step.behind Step.lead
  split_ifs with h <;> simp [List.filterMap_map, h]

/-- **Puts below the root go to the children**, each to the one that its first step leads to. -/
theorem putAll_eq_mapChildren {puts : List (Position × Variable)} (v : Variable)
    (h : ∀ x ∈ puts, x.1 ≠ []) :
    v.putAll puts = v.mapChildren fun s w => w.putAll (s.behind puts) := by
  induction puts generalizing v with
  | nil => exact v.mapChildren_self.symm
  | cons x puts ih =>
    obtain ⟨hx, hp⟩ := List.forall_mem_cons.1 h
    rcases x with ⟨_ | ⟨s, p⟩, w⟩
    · exact absurd rfl hx
    · have hput : v.putAll ((s :: p, w) :: puts) = (v.put (s :: p) w).putAll puts := rfl
      rw [hput, ih _ hp, put, mapChildren_mapChildren]
      refine mapChildren_congr fun s' c _ => ?_
      by_cases hs : s' = s
      · simp [Step.behind, putAll, hs]
      · simp [Step.behind, putAll, hs, Ne.symm hs]

end GraphQLClient.Variable
