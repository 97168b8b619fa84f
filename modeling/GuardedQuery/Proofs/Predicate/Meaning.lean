import GuardedQuery.Store.Basic

/-! What the builders of predicates mean on rows.
A conjunction without a part that holds of no row is evaluated as its parts are, one after
another, and likewise a disjunction without a part that holds of every row; flattening changes
neither the order of evaluation nor what fails. -/

namespace GuardedQuery

namespace Predicate

theorem listConditions_eq_flatMap (parts : List Predicate) :
    listConditions parts = parts.flatMap conditions := by
  induction parts with
  | nil => rfl
  | cons part rest ih => rw [listConditions, ih, List.flatMap_cons]

/-- What a part adds to the terms of a conjunction. -/
def conjunctsOf : Predicate → List Predicate
  | all => []
  | and inner => inner
  | part => [part]

/-- What a part adds to the terms of a disjunction. -/
def disjunctsOf : Predicate → List Predicate
  | nothing => []
  | or inner => inner
  | part => [part]

theorem conjuncts_of_mem {parts : List Predicate} (h : .nothing ∈ parts) :
    conjuncts parts = none := by
  fun_induction conjuncts parts with
  | case1 => simp at h
  | case2 rest ih => exact ih (by simpa using h)
  | case3 rest => rfl
  | case4 inner rest ih => rw [ih (by simpa using h), Option.map_none]
  | case5 part rest _ other _ ih =>
    rw [ih ((List.mem_cons.1 h).resolve_left (Ne.symm other)), Option.map_none]

theorem conjuncts_of_not_mem {parts : List Predicate} (h : .nothing ∉ parts) :
    conjuncts parts = some (parts.flatMap conjunctsOf) := by
  fun_induction conjuncts parts <;> simp_all [conjunctsOf]

theorem disjuncts_of_mem {parts : List Predicate} (h : .all ∈ parts) :
    disjuncts parts = none := by
  fun_induction disjuncts parts with
  | case1 => simp at h
  | case2 rest ih => exact ih (by simpa using h)
  | case3 rest => rfl
  | case4 inner rest ih => rw [ih (by simpa using h), Option.map_none]
  | case5 part rest _ other _ ih =>
    rw [ih ((List.mem_cons.1 h).resolve_left (Ne.symm other)), Option.map_none]

theorem disjuncts_of_not_mem {parts : List Predicate} (h : .all ∉ parts) :
    disjuncts parts = some (parts.flatMap disjunctsOf) := by
  fun_induction disjuncts parts <;> simp_all [disjunctsOf]

end Predicate

namespace Store
variable {s : Store} {model : String} {row : Row}

/-! Lists of parts -/

theorem holdAll_append (xs ys : List Predicate) :
    s.holdAll model row (xs ++ ys) = (do
      if ← s.holdAll model row xs then s.holdAll model row ys else return false) := by
  induction xs with
  | nil => simp [holdAll, bind, Except.bind]
  | cons part rest ih =>
    rw [List.cons_append, holdAll, holdAll, ih]
    cases s.holds model row part with
    | error e => rfl
    | ok b => cases b <;> rfl

theorem holdAny_append (xs ys : List Predicate) :
    s.holdAny model row (xs ++ ys) = (do
      if ← s.holdAny model row xs then return true else s.holdAny model row ys) := by
  induction xs with
  | nil => simp [holdAny, bind, Except.bind]
  | cons part rest ih =>
    rw [List.cons_append, holdAny, holdAny, ih]
    cases s.holds model row part with
    | error e => rfl
    | ok b => cases b <;> rfl

theorem holdAll_singleton (p : Predicate) : s.holdAll model row [p] = s.holds model row p := by
  rw [holdAll, holdAll]
  cases s.holds model row p with
  | error e => rfl
  | ok b => cases b <;> rfl

theorem holdAny_singleton (p : Predicate) : s.holdAny model row [p] = s.holds model row p := by
  rw [holdAny, holdAny]
  cases s.holds model row p with
  | error e => rfl
  | ok b => cases b <;> rfl

theorem holdAll_conjunctsOf (p : Predicate) :
    s.holdAll model row p.conjunctsOf = s.holds model row p := by
  cases p with
  | all => rw [Predicate.conjunctsOf, holdAll, holds]
  | and inner => rw [Predicate.conjunctsOf, holds]
  | _ => exact holdAll_singleton _

theorem holdAny_disjunctsOf (p : Predicate) :
    s.holdAny model row p.disjunctsOf = s.holds model row p := by
  cases p with
  | nothing => rw [Predicate.disjunctsOf, holdAny, holds]
  | or inner => rw [Predicate.disjunctsOf, holds]
  | _ => exact holdAny_singleton _

theorem holdAll_flatMap (parts : List Predicate) :
    s.holdAll model row (parts.flatMap Predicate.conjunctsOf) = s.holdAll model row parts := by
  induction parts with
  | nil => rfl
  | cons part rest ih =>
    rw [List.flatMap_cons, holdAll_append, holdAll_conjunctsOf, ih, holdAll]

theorem holdAny_flatMap (parts : List Predicate) :
    s.holdAny model row (parts.flatMap Predicate.disjunctsOf) = s.holdAny model row parts := by
  induction parts with
  | nil => rfl
  | cons part rest ih =>
    rw [List.flatMap_cons, holdAny_append, holdAny_disjunctsOf, ih, holdAny]

/-! The builders -/

theorem holds_allOf {parts : List Predicate} (h : .nothing ∉ parts) :
    s.holds model row (.allOf parts) = s.holdAll model row parts := by
  rw [Predicate.allOf, Predicate.conjuncts_of_not_mem h, ← holdAll_flatMap]
  match parts.flatMap Predicate.conjunctsOf with
  | [] => rw [holds, holdAll]
  | [term] => exact (holdAll_singleton term).symm
  | first :: second :: rest => rw [holds]

theorem allOf_of_mem {parts : List Predicate} (h : .nothing ∈ parts) :
    Predicate.allOf parts = .nothing := by
  rw [Predicate.allOf, Predicate.conjuncts_of_mem h]

theorem holds_anyOf {parts : List Predicate} (h : .all ∉ parts) :
    s.holds model row (.anyOf parts) = s.holdAny model row parts := by
  rw [Predicate.anyOf, Predicate.disjuncts_of_not_mem h, ← holdAny_flatMap]
  match parts.flatMap Predicate.disjunctsOf with
  | [] => rw [holds, holdAny]
  | [term] => exact (holdAny_singleton term).symm
  | first :: second :: rest => rw [holds]

theorem anyOf_of_mem {parts : List Predicate} (h : .all ∈ parts) :
    Predicate.anyOf parts = .all := by
  rw [Predicate.anyOf, Predicate.disjuncts_of_mem h]

theorem holds_negate (p : Predicate) :
    s.holds model row p.negate = (s.holds model row p).map (!·) := by
  have notted (q : Predicate) :
      s.holds model row (.not q) = (s.holds model row q).map (!·) := by
    rw [holds]
    cases s.holds model row q <;> rfl
  cases p with
  | all | nothing => simp only [Predicate.negate, holds, Except.map, Bool.not_true, Bool.not_false]
  | not inner =>
    rw [Predicate.negate, notted]
    cases s.holds model row inner <;> simp [Except.map]
  | cond c | and parts | or parts => exact notted _

/-! What a predicate says of a row depends on the values along its paths only. -/

section
variable {s' : Store}

mutual

theorem holds_congr : (p : Predicate) →
    (∀ c ∈ p.conditions,
      s'.valuesAlong model row c.segments = s.valuesAlong model row c.segments) →
    s'.holds model row p = s.holds model row p
  | .all, _ | .nothing, _ => by simp only [holds]
  | .cond c, same => by simp only [holds, same c (by simp [Predicate.conditions])]
  | .and parts, same => by
    simp only [holds]
    exact holdAll_congr parts (by simpa only [Predicate.conditions] using same)
  | .or parts, same => by
    simp only [holds]
    exact holdAny_congr parts (by simpa only [Predicate.conditions] using same)
  | .not inner, same => by
    simp only [holds]
    rw [holds_congr inner (by simpa only [Predicate.conditions] using same)]

theorem holdAll_congr : (parts : List Predicate) →
    (∀ c ∈ Predicate.listConditions parts,
      s'.valuesAlong model row c.segments = s.valuesAlong model row c.segments) →
    s'.holdAll model row parts = s.holdAll model row parts
  | [], _ => by simp only [holdAll]
  | part :: rest, same => by
    simp only [Predicate.listConditions, List.mem_append] at same
    simp only [holdAll]
    rw [holds_congr part fun c mem => same c (.inl mem),
      holdAll_congr rest fun c mem => same c (.inr mem)]

theorem holdAny_congr : (parts : List Predicate) →
    (∀ c ∈ Predicate.listConditions parts,
      s'.valuesAlong model row c.segments = s.valuesAlong model row c.segments) →
    s'.holdAny model row parts = s.holdAny model row parts
  | [], _ => by simp only [holdAny]
  | part :: rest, same => by
    simp only [Predicate.listConditions, List.mem_append] at same
    simp only [holdAny]
    rw [holds_congr part fun c mem => same c (.inl mem),
      holdAny_congr rest fun c mem => same c (.inr mem)]

end

end

end Store

end GuardedQuery
