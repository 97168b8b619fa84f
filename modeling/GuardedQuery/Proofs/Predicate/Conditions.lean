import GuardedQuery.FilterTree
import GuardedQuery.Proofs.Checks
import GuardedQuery.Proofs.Path
import GuardedQuery.Proofs.Predicate.Meaning

/-! The conditions of a predicate that was built from others, and of the predicate of a filter tree.
Folding can drop conditions but never adds one, so each condition comes from a key of the tree. -/

namespace GuardedQuery

namespace Predicate

theorem listConditions_conjunctsOf (p : Predicate) :
    listConditions p.conjunctsOf = p.conditions := by
  cases p <;> simp [conjunctsOf, listConditions, conditions]

theorem listConditions_disjunctsOf (p : Predicate) :
    listConditions p.disjunctsOf = p.conditions := by
  cases p <;> simp [disjunctsOf, listConditions, conditions]

theorem exists_of_mem_terms {termsOf : Predicate → List Predicate}
    (same : ∀ p, listConditions (termsOf p) = p.conditions) {parts : List Predicate}
    {c : Condition} (h : c ∈ listConditions (parts.flatMap termsOf)) :
    ∃ p ∈ parts, c ∈ p.conditions := by
  rw [listConditions_eq_flatMap, List.flatMap_assoc] at h
  obtain ⟨p, mem, inside⟩ := List.mem_flatMap.1 h
  rw [← listConditions_eq_flatMap, same] at inside
  exact ⟨p, mem, inside⟩

theorem exists_of_mem_allOf {parts : List Predicate} {c : Condition}
    (h : c ∈ (allOf parts).conditions) : ∃ p ∈ parts, c ∈ p.conditions := by
  by_cases void : .nothing ∈ parts
  · rw [Store.allOf_of_mem void, conditions] at h
    cases h
  · have same : (allOf parts).conditions = listConditions (parts.flatMap conjunctsOf) := by
      rw [allOf, conjuncts_of_not_mem void]
      rcases parts.flatMap conjunctsOf with _ | ⟨term, _ | ⟨second, rest⟩⟩
      · rfl
      · simp [listConditions]
      · rw [conditions]
    rw [same] at h
    exact exists_of_mem_terms listConditions_conjunctsOf h

theorem exists_of_mem_anyOf {parts : List Predicate} {c : Condition}
    (h : c ∈ (anyOf parts).conditions) : ∃ p ∈ parts, c ∈ p.conditions := by
  by_cases whole : .all ∈ parts
  · rw [Store.anyOf_of_mem whole, conditions] at h
    cases h
  · have same : (anyOf parts).conditions = listConditions (parts.flatMap disjunctsOf) := by
      rw [anyOf, disjuncts_of_not_mem whole]
      rcases parts.flatMap disjunctsOf with _ | ⟨term, _ | ⟨second, rest⟩⟩
      · rfl
      · simp [listConditions]
      · rw [conditions]
    rw [same] at h
    exact exists_of_mem_terms listConditions_disjunctsOf h

theorem conditions_negate (p : Predicate) : p.negate.conditions = p.conditions := by
  cases p <;> simp [negate, conditions]

end Predicate

theorem Condition.segments_of_read {key : String} {value : Value} {c : Condition}
    (h : Condition.read key value = .ok c) : c.segments = fieldNames key := by
  rw [Condition.read] at h
  split at h
  · cases h
  split at h
  · cases h
  · rw [← Except.ok.inj h, Condition.segments, ← fieldNames, segments_join_fieldNames]

namespace FilterTree

/-- The condition stands for one of the keys. -/
def StandsFor (keys : List String) (c : Condition) : Prop :=
  ∃ key ∈ keys, c.segments = fieldNames key

theorem StandsFor.mono {keys more : List String} {c : Condition} (h : StandsFor keys c)
    (all : ∀ key ∈ keys, key ∈ more) : StandsFor more c := by
  obtain ⟨key, mem, same⟩ := h
  exact ⟨key, all key mem, same⟩

theorem standsFor_of_conjunction {conditions : Row} {p : Predicate}
    (h : conjunction conditions = .ok p) {c : Condition} (mem : c ∈ p.conditions) :
    StandsFor conditions.names c := by
  obtain ⟨parts, read, rfl⟩ := Checks.map_ok_iff.1 h
  obtain ⟨part, listed, inside⟩ := Predicate.exists_of_mem_allOf mem
  obtain ⟨entry, named, made⟩ := Checks.exists_of_mapM_ok read listed
  obtain ⟨c', parsed, rfl⟩ := Checks.map_ok_iff.1 made
  obtain rfl : c = c' := by simpa [Predicate.conditions] using inside
  exact ⟨entry.1, List.mem_map_of_mem named, Condition.segments_of_read parsed⟩

mutual

theorem standsFor_of_predicate : (tree : FilterTree) → (p : Predicate) → tree.predicate = .ok p →
    ∀ c ∈ p.conditions, StandsFor tree.keys c
  | filter conditions groups, p, h => by
    rw [predicate] at h
    obtain ⟨own, read, h⟩ := Checks.bind_ok_iff.1 h
    rw [keys]
    have fromOwn : ∀ c ∈ own.conditions,
        StandsFor (conditions.names ++ groups.flatMap Entries.names) c := fun c inside =>
      (standsFor_of_conjunction read inside).mono fun key here => List.mem_append_left _ here
    intro c mem
    split at h
    · rw [← Checks.pure_ok_iff.1 h] at mem
      obtain ⟨part, listed, inside⟩ := Predicate.exists_of_mem_allOf mem
      obtain rfl := List.mem_singleton.1 listed
      exact fromOwn c inside
    · obtain ⟨others, readGroups, h⟩ := Checks.bind_ok_iff.1 h
      rw [← Checks.pure_ok_iff.1 h] at mem
      obtain ⟨part, listed, inside⟩ := Predicate.exists_of_mem_allOf mem
      rcases List.mem_cons.1 listed with rfl | listed
      · exact fromOwn c inside
      · obtain rfl := List.mem_singleton.1 listed
        obtain ⟨p, among, inside⟩ := Predicate.exists_of_mem_anyOf inside
        obtain ⟨group, mem, made⟩ := Checks.exists_of_mapM_ok readGroups among
        exact (standsFor_of_conjunction made inside).mono fun key here =>
          List.mem_append_right _ (List.mem_flatMap.2 ⟨group, mem, here⟩)
  | and children, p, h => by
    rw [predicate] at h
    obtain ⟨parts, read, rfl⟩ := Checks.map_ok_iff.1 h
    intro c mem
    obtain ⟨part, listed, inside⟩ := Predicate.exists_of_mem_allOf mem
    rw [keys]
    exact standsFor_of_listPredicates children parts read part listed c inside
  | or [], p, h => by
    rw [predicate] at h
    cases h
    simp [Predicate.conditions]
  | or (first :: rest), p, h => by
    rw [predicate] at h
    · obtain ⟨parts, read, rfl⟩ := Checks.map_ok_iff.1 h
      intro c mem
      obtain ⟨part, listed, inside⟩ := Predicate.exists_of_mem_anyOf mem
      rw [keys]
      exact standsFor_of_listPredicates (first :: rest) parts read part listed c inside
    · simp
  | not child, p, h => by
    rw [predicate] at h
    obtain ⟨inner, read, rfl⟩ := Checks.map_ok_iff.1 h
    intro c mem
    rw [Predicate.conditions_negate] at mem
    rw [keys]
    exact standsFor_of_predicate child inner read c mem
  | search, p, h | empty, p, h => by
    rw [predicate] at h
    cases h
    simp [Predicate.conditions]

theorem standsFor_of_listPredicates : (children : List FilterTree) → (parts : List Predicate) →
    listPredicates children = .ok parts →
    ∀ p ∈ parts, ∀ c ∈ p.conditions, StandsFor (listKeys children) c
  | [], parts, h => by
    cases h
    simp
  | child :: rest, parts, h => by
    rw [listPredicates] at h
    obtain ⟨first, read, h⟩ := Checks.bind_ok_iff.1 h
    obtain ⟨others, readRest, h⟩ := Checks.bind_ok_iff.1 h
    rw [← Checks.pure_ok_iff.1 h, listKeys]
    intro p mem c inside
    rcases List.mem_cons.1 mem with rfl | mem
    · exact (standsFor_of_predicate child p read c inside).mono fun key here =>
        List.mem_append_left _ here
    · exact (standsFor_of_listPredicates rest others readRest p mem c inside).mono fun key here =>
        List.mem_append_right _ here

end

end FilterTree

end GuardedQuery
