import GuardedQuery.FilterTree
import GuardedQuery.Proofs.Checks
import GuardedQuery.Proofs.Path
import GuardedQuery.Proofs.Predicate.Text

/-! Which predicates can be told from their texts. The builders keep predicates legible, and a
filter tree without marks in its keys has a legible predicate. -/

namespace GuardedQuery

open Text

namespace Predicate
variable {parts : List Predicate} {p : Predicate}

theorem Legible.conjunctsOf (legible : p.Legible) : ∀ term ∈ p.conjunctsOf, term.Legible := by
  cases legible with
  | and _ each => exact each
  | all => nofun
  | nothing | cond | or | not =>
    intro term mem
    rw [List.mem_singleton.1 mem]
    constructor <;> assumption

theorem Legible.disjunctsOf (legible : p.Legible) : ∀ term ∈ p.disjunctsOf, term.Legible := by
  cases legible with
  | or _ each => exact each
  | nothing => nofun
  | all | cond | and | not =>
    intro term mem
    rw [List.mem_singleton.1 mem]
    constructor <;> assumption

theorem legible_allOf (each : ∀ part ∈ parts, part.Legible) : (allOf parts).Legible := by
  by_cases void : .nothing ∈ parts
  · rw [allOf, conjuncts_of_mem void]
    exact .nothing
  · have terms : ∀ term ∈ parts.flatMap conjunctsOf, term.Legible := by
      intro term mem
      obtain ⟨part, listed, inside⟩ := List.mem_flatMap.1 mem
      exact (each part listed).conjunctsOf term inside
    rw [allOf, conjuncts_of_not_mem void]
    generalize parts.flatMap conjunctsOf = flat at terms ⊢
    rcases flat with _ | ⟨term, _ | ⟨second, rest⟩⟩
    · exact .all
    · exact terms term List.mem_cons_self
    · exact .and (by simp) terms

theorem legible_anyOf (each : ∀ part ∈ parts, part.Legible) : (anyOf parts).Legible := by
  by_cases whole : .all ∈ parts
  · rw [anyOf, disjuncts_of_mem whole]
    exact .all
  · have terms : ∀ term ∈ parts.flatMap disjunctsOf, term.Legible := by
      intro term mem
      obtain ⟨part, listed, inside⟩ := List.mem_flatMap.1 mem
      exact (each part listed).disjunctsOf term inside
    rw [anyOf, disjuncts_of_not_mem whole]
    generalize parts.flatMap disjunctsOf = flat at terms ⊢
    rcases flat with _ | ⟨term, _ | ⟨second, rest⟩⟩
    · exact .nothing
    · exact terms term List.mem_cons_self
    · exact .or (by simp) terms

theorem Legible.negate (legible : p.Legible) : p.negate.Legible := by
  cases legible with
  | all => exact .nothing
  | nothing => exact .all
  | not legible => exact legible
  | cond unmarked finite => exact .not (.cond unmarked finite)
  | and several each => exact .not (.and several each)
  | or several each => exact .not (.or several each)

end Predicate

/-- The keys of a record of conditions contain no marks, and texts tell its values. -/
def LegibleConditions (conditions : Row) : Prop :=
  ∀ entry ∈ conditions, Unmarked entry.1 ∧ entry.2.Finite

theorem Condition.legible_of_read {key : String} {value : Value} {c : Condition}
    (unmarked : Unmarked key) (finite : value.Finite) (h : Condition.read key value = .ok c) :
    (Predicate.cond c).Legible := by
  rw [Condition.read] at h
  split at h
  · cases h
  split at h
  · cases h
  · rw [← Except.ok.inj h]
    exact .cond (fun ch mem => unmarked ch ((join_fieldNames_begins key).subset mem)) finite

namespace FilterTree

inductive Legible : FilterTree → Prop where
  | filter {conditions : Row} {groups : List Row} (own : LegibleConditions conditions)
      (each : ∀ group ∈ groups, LegibleConditions group) : Legible (.filter conditions groups)
  | and {children : List FilterTree} (each : ∀ child ∈ children, Legible child) :
      Legible (.and children)
  | or {children : List FilterTree} (each : ∀ child ∈ children, Legible child) :
      Legible (.or children)
  | not {child : FilterTree} (legible : Legible child) : Legible (.not child)
  | search : Legible .search
  | empty : Legible .empty

theorem listPredicates_eq_mapM (children : List FilterTree) :
    listPredicates children = children.mapM predicate := by
  induction children with
  | nil => rfl
  | cons child rest ih => rw [listPredicates, List.mapM_cons, ih]

theorem legible_conjunction {conditions : Row} {p : Predicate}
    (legible : LegibleConditions conditions) (h : conjunction conditions = .ok p) :
    p.Legible := by
  obtain ⟨parts, read, rfl⟩ := Checks.map_ok_iff.1 h
  refine Predicate.legible_allOf fun part mem => ?_
  obtain ⟨entry, listed, made⟩ := Checks.exists_of_mapM_ok read mem
  obtain ⟨c, parsed, rfl⟩ := Checks.map_ok_iff.1 made
  obtain ⟨unmarked, finite⟩ := legible entry listed
  exact Condition.legible_of_read unmarked finite parsed

theorem Legible.predicate {tree : FilterTree} (legible : tree.Legible) {p : Predicate}
    (h : tree.predicate = .ok p) : p.Legible := by
  induction legible generalizing p with
  | filter own each =>
    rw [FilterTree.predicate] at h
    obtain ⟨first, read, h⟩ := Checks.bind_ok_iff.1 h
    have first := legible_conjunction own read
    split at h
    · rw [← Checks.pure_ok_iff.1 h]
      exact Predicate.legible_allOf (by simpa using first)
    · obtain ⟨others, readGroups, h⟩ := Checks.bind_ok_iff.1 h
      have any : (Predicate.anyOf others).Legible := by
        refine Predicate.legible_anyOf fun part mem => ?_
        obtain ⟨group, listed, made⟩ := Checks.exists_of_mapM_ok readGroups mem
        exact legible_conjunction (each group listed) made
      rw [← Checks.pure_ok_iff.1 h]
      exact Predicate.legible_allOf (by simpa using ⟨first, any⟩)
  | and each ih =>
    rw [FilterTree.predicate, listPredicates_eq_mapM] at h
    obtain ⟨parts, read, rfl⟩ := Checks.map_ok_iff.1 h
    refine Predicate.legible_allOf fun part mem => ?_
    obtain ⟨child, listed, made⟩ := Checks.exists_of_mapM_ok read mem
    exact ih child listed made
  | @or children each ih =>
    cases children with
    | nil =>
      rw [FilterTree.predicate] at h
      cases h
      exact .all
    | cons first rest =>
      rw [FilterTree.predicate, listPredicates_eq_mapM] at h
      · obtain ⟨parts, read, rfl⟩ := Checks.map_ok_iff.1 h
        refine Predicate.legible_anyOf fun part mem => ?_
        obtain ⟨child, listed, made⟩ := Checks.exists_of_mapM_ok read mem
        exact ih child listed made
      · exact List.cons_ne_nil first rest
  | not legible ih =>
    rw [FilterTree.predicate] at h
    obtain ⟨inner, read, rfl⟩ := Checks.map_ok_iff.1 h
    exact (ih read).negate
  | search | empty =>
    rw [FilterTree.predicate] at h
    cases h
    exact .all

end FilterTree

end GuardedQuery
