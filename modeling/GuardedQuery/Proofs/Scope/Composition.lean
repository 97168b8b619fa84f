import GuardedQuery.Proofs.Engine.Reads
import GuardedQuery.Proofs.Plan

/-! The rows that a caller may touch: those that some guard of the model admits and that no guard
hides. The selection of a query accepts such rows only, and of them just those that the query
itself asks for. -/

namespace GuardedQuery

namespace Access
variable (a : Access) (m : Model) (s : Store) (model : String) (row : Row)

structure InScope : Prop where
  admitted : ∃ g ∈ m.guards, s.Accepts model row (g.admitted a.request)
  notHidden : ∀ g ∈ m.guards, s.Rejects model row (g.hidden a.request)

/-- The row is what the filter, the search and the exclusion of a query ask for. -/
structure Asked (q : Query) : Prop where
  filter : ∃ p, predicateOf q.filter = .ok p ∧ s.Accepts model row p
  search : ∀ p ∈ q.search.bind (a.searchPredicate? m), s.Accepts model row p
  exclude : q.exclude.isEmpty = false →
    ∃ p, predicateOf q.exclude = .ok p ∧ s.Rejects model row p

variable {a m s model row}

theorem narrowBySearch_model (search : Option Search) (sel : Selection) :
    (a.narrowBySearch m search sel).model = sel.model := by
  rw [narrowBySearch]
  split <;> rfl

theorem accepts_narrowBySearch_iff {search : Option Search} {sel : Selection} :
    s.Accepts model row (a.narrowBySearch m search sel).predicate ↔
      s.Accepts model row sel.predicate ∧
        ∀ p ∈ search.bind (a.searchPredicate? m), s.Accepts model row p := by
  rw [narrowBySearch]
  cases search.bind (a.searchPredicate? m) with
  | none => simp
  | some p => simp [Store.accepts_narrow_iff]

end Access

namespace Model
variable {m : Model} {request : Request} {s : Store} {model : String} {row : Row}

theorem accepts_hiding_iff (guards : List Guard) (sel : Selection) :
    s.Accepts model row
        (guards.foldl (fun sel g => sel.without (g.hidden request)) sel).predicate ↔
      s.Accepts model row sel.predicate ∧
        ∀ g ∈ guards, s.Rejects model row (g.hidden request) := by
  induction guards generalizing sel with
  | nil => simp
  | cons g rest ih =>
    rw [List.foldl_cons, ih, Store.accepts_without_iff, List.forall_mem_cons, and_assoc]

theorem accepts_scope_iff (guarded : m.guards ≠ []) (sel : Selection) :
    s.Accepts model row (m.scope request sel).predicate ↔
      s.Accepts model row sel.predicate ∧
        s.Accepts model row (.anyOf (m.guards.map (·.admitted request))) ∧
        ∀ g ∈ m.guards, s.Rejects model row (g.hidden request) := by
  rw [scope, if_neg (by simpa using guarded), accepts_hiding_iff, Store.accepts_narrow_iff,
    and_assoc]

theorem scope_model (sel : Selection) : (m.scope request sel).model = sel.model := by
  have hides (guards : List Guard) (sel : Selection) :
      (guards.foldl (fun sel g => sel.without (g.hidden request)) sel).model = sel.model := by
    induction guards generalizing sel with
    | nil => rfl
    | cons g rest ih => rw [List.foldl_cons, ih, Selection.without, Selection.narrow_model]
  rw [scope]
  split
  · rfl
  · rw [hides, Selection.narrow_model]

end Model

namespace Access
variable {a : Access} {m : Model} {model : String} {q : Query} {sel : Selection}

/-- The rows that the guards, the filter and the search leave. -/
def searched (a : Access) (m : Model) (model : String) (q : Query) (filter : Predicate) :
    Selection :=
  a.narrowBySearch m q.search ((m.scope a.request (.ofModel model)).narrow filter)

theorem searched_model (filter : Predicate) : (a.searched m model q filter).model = model := by
  rw [searched, narrowBySearch_model, Selection.narrow_model, Model.scope_model, Selection.ofModel]

theorem accepts_searched_iff (guarded : m.guards ≠ []) {filter : Predicate} {s : Store}
    {row : Row} :
    s.Accepts model row (a.searched m model q filter).predicate ↔
      s.Accepts model row (.anyOf (m.guards.map (·.admitted a.request))) ∧
      (∀ g ∈ m.guards, s.Rejects model row (g.hidden a.request)) ∧
      s.Accepts model row filter ∧
      ∀ p ∈ q.search.bind (a.searchPredicate? m), s.Accepts model row p := by
  rw [searched, accepts_narrowBySearch_iff, Store.accepts_narrow_iff,
    Model.accepts_scope_iff guarded]
  simp only [Selection.ofModel, Store.accepts_all, true_and, and_assoc]

/-- The exclusion comes last; order and loaded relations only arrange what it leaves. -/
theorem selection_cases (found : a.catalog.get model = .ok m)
    (selected : a.selection model q = .ok sel) :
    ∃ filter, predicateOf q.filter = .ok filter ∧
      ((q.exclude.isEmpty = true ∧ (a.searched m model q filter).Arranges sel) ∨
        (q.exclude.isEmpty = false ∧ ∃ exclude, predicateOf q.exclude = .ok exclude ∧
          ((a.searched m model q filter).without exclude).Arranges sel)) := by
  rw [selection] at selected
  obtain ⟨m', found', selected⟩ := Checks.bind_ok_iff.1 selected
  obtain rfl : m = m' := Except.ok.inj (found.symm.trans found')
  obtain ⟨filter, filtered, selected⟩ := Checks.bind_ok_iff.1 selected
  refine ⟨filter, filtered, ?_⟩
  have arranged {base : Selection} (h : (pure (((if q.order.isEmpty then base
      else base.orderedBy (q.order.map .read)).joining q.joined).preloading q.preloaded) :
      Except Error Selection) = .ok sel) : base.Arranges sel := by
    rw [← Checks.pure_ok_iff.1 h]
    split <;> exact ⟨rfl, rfl⟩
  by_cases blank : q.exclude.isEmpty = true
  · rw [if_pos blank] at selected
    exact .inl ⟨blank, arranged selected⟩
  · rw [if_neg blank] at selected
    obtain ⟨exclude, excluded, selected⟩ := Checks.bind_ok_iff.1 selected
    exact .inr ⟨by simpa using blank, exclude, excluded, arranged selected⟩

theorem selection_model (found : a.catalog.get model = .ok m)
    (selected : a.selection model q = .ok sel) : sel.model = model := by
  obtain ⟨filter, _, ⟨_, arranged⟩ | ⟨_, exclude, _, arranged⟩⟩ := selection_cases found selected
  · exact arranged.1.trans (searched_model filter)
  · exact arranged.1.trans (searched_model filter)

theorem Plans.about {p : Plan} (plans : a.Plans model q p) : p.selection.model = p.name := by
  rw [plans.named]
  exact selection_model plans.found plans.selected

/-- The selection of a query is about the model that the query is put to. It accepts what the scope
of the model accepts and the query asks for. -/
theorem selection_spec (found : a.catalog.get model = .ok m) (guarded : m.guards ≠ [])
    (selected : a.selection model q = .ok sel) :
    sel.model = model ∧ ∀ (s : Store) (row : Row),
      s.Accepts model row sel.predicate ↔
        s.Accepts model row (.anyOf (m.guards.map (·.admitted a.request))) ∧
        (∀ g ∈ m.guards, s.Rejects model row (g.hidden a.request)) ∧
        a.Asked m s model row q := by
  obtain ⟨filter, filtered, ⟨blank, arranged⟩ | ⟨written, exclude, excluded, arranged⟩⟩ :=
    selection_cases found selected
  · refine ⟨arranged.1.trans (searched_model filter), fun s row => ?_⟩
    rw [arranged.2, accepts_searched_iff guarded]
    constructor
    · rintro ⟨admitted, notHidden, filterHolds, searchHolds⟩
      exact ⟨admitted, notHidden, ⟨filter, filtered, filterHolds⟩, searchHolds, by simp [blank]⟩
    · rintro ⟨admitted, notHidden, ⟨p, read, filterHolds⟩, searchHolds, _⟩
      obtain rfl : filter = p := Except.ok.inj (filtered.symm.trans read)
      exact ⟨admitted, notHidden, filterHolds, searchHolds⟩
  · refine ⟨arranged.1.trans (searched_model filter), fun s row => ?_⟩
    rw [arranged.2, Store.accepts_without_iff, accepts_searched_iff guarded]
    constructor
    · rintro ⟨⟨admitted, notHidden, filterHolds, searchHolds⟩, rejected⟩
      exact ⟨admitted, notHidden, ⟨filter, filtered, filterHolds⟩, searchHolds,
        fun _ => ⟨exclude, excluded, rejected⟩⟩
    · rintro ⟨admitted, notHidden, ⟨p, read, filterHolds⟩, searchHolds, excludeHolds⟩
      obtain rfl : filter = p := Except.ok.inj (filtered.symm.trans read)
      obtain ⟨p, read, rejected⟩ := excludeHolds written
      obtain rfl : exclude = p := Except.ok.inj (excluded.symm.trans read)
      exact ⟨⟨admitted, notHidden, filterHolds, searchHolds⟩, rejected⟩

end Access

end GuardedQuery
