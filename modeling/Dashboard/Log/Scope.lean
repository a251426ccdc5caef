import Dashboard.Entity

/-! # Scopes of log views

A view follows one entity or a group of them. Groups are kept sorted without
repetition, so equal scopes are equal values. -/

namespace Dashboard.Log

/-- Insert an identifier into a sorted list unless it is there. -/
def insertSorted (id : EntityId) : List EntityId → List EntityId
  | [] => [id]
  | head :: tail =>
    match compare id head with
    | .lt => id :: head :: tail
    | .eq => head :: tail
    | .gt => head :: insertSorted id tail

theorem mem_insertSorted {id other : EntityId} {ids : List EntityId} :
    other ∈ insertSorted id ids ↔ other = id ∨ other ∈ ids := by
  induction ids with
  | nil => simp [insertSorted]
  | cons head tail ih =>
      rw [insertSorted]
      split
      · simp
      · next h =>
        have := Std.LawfulEqOrd.eq_of_compare h
        simp_all
      · simp only [List.mem_cons, ih]
        grind

theorem pairwise_insertSorted {id : EntityId} {ids : List EntityId}
    (h : ids.Pairwise fun a b => compare a b = .lt) :
    (insertSorted id ids).Pairwise fun a b => compare a b = .lt := by
  induction ids with
  | nil => simp [insertSorted]
  | cons head tail ih =>
      rw [List.pairwise_cons] at h
      rw [insertSorted]
      split
      · next hlt =>
        refine List.pairwise_cons.mpr ⟨fun b hb => ?_, List.pairwise_cons.mpr h⟩
        rcases List.mem_cons.mp hb with rfl | hb
        · exact hlt
        · exact Std.TransCmp.lt_trans hlt (h.1 b hb)
      · exact List.pairwise_cons.mpr h
      · next hgt =>
        refine List.pairwise_cons.mpr ⟨fun b hb => ?_, ih h.2⟩
        rcases mem_insertSorted.mp hb with rfl | hb
        · exact Std.OrientedCmp.lt_of_gt hgt
        · exact h.1 b hb

/-- A set of entities. -/
structure Group where
  /-- Members in order, each once. -/
  ids : List EntityId
  sorted : ids.Pairwise fun a b => compare a b = .lt
deriving DecidableEq

namespace Group

/-- No entity. -/
def empty : Group := ⟨[], List.Pairwise.nil⟩

/-- A group with one more member. -/
def insert (group : Group) (id : EntityId) : Group :=
  ⟨insertSorted id group.ids, pairwise_insertSorted group.sorted⟩

/-- The group of the listed entities. -/
def ofList (ids : List EntityId) : Group :=
  ids.foldl insert empty

end Group

/-- The entities a log view follows. -/
inductive Scope where
  /-- A single container, or the host. -/
  | entity (id : EntityId)
  /-- A merged view of several entities. -/
  | group (members : Group)
deriving DecidableEq

namespace Scope

/-- Entities covered, in order. -/
def entities : Scope → List EntityId
  | entity id => [id]
  | group members => members.ids

/-- Whether lines of an entity belong to the view. -/
def contains (scope : Scope) (id : EntityId) : Bool :=
  match scope with
  | entity own => own == id
  | group members => members.ids.contains id

/-- Whether a scope is a group. -/
def isGroup : Scope → Bool
  | entity _ => false
  | group _ => true

/-- Single entities come before groups; within a kind, the entities decide. -/
instance : Ord Scope where
  compare := compareLex (compareOn isGroup) (compareOn entities)

instance : Std.TransOrd Scope :=
  inferInstanceAs (Std.TransCmp (compareLex (compareOn isGroup) (compareOn entities)))

theorem eq_of_isGroup_of_entities {a b : Scope} (hk : a.isGroup = b.isGroup)
    (he : a.entities = b.entities) : a = b := by
  cases a with
  | entity x => cases b with
    | entity y => simpa [entities] using he
    | group y => simp [isGroup] at hk
  | group x => cases b with
    | entity y => simp [isGroup] at hk
    | group y =>
      cases x
      cases y
      simpa [entities] using he

instance : Std.LawfulEqOrd Scope where
  compare_self {a} := (Std.ReflCmp.compare_self :
    compareLex (compareOn isGroup) (compareOn entities) a a = .eq)
  eq_of_compare {a b} h := by
    have h : (compare a.isGroup b.isGroup).then (compare a.entities b.entities) = .eq := h
    rw [Ordering.then_eq_eq] at h
    exact eq_of_isGroup_of_entities (Std.LawfulEqOrd.eq_of_compare h.1)
      (Std.LawfulEqOrd.eq_of_compare h.2)

/-- Scopes in order, each once. -/
def sorted (scopes : List Scope) : List Scope :=
  (Std.TreeMap.ofList (scopes.map (·, ())) compare).keys

end Scope

end Dashboard.Log
