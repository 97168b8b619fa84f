import GuardedQuery.Proofs.Predicate.Legible
import GuardedQuery.Proofs.Scope.Composition
import GuardedQuery.Proofs.Selection.Text

/-! Which queries have selections that can be told from their texts: those without marks in their
keys and order terms, about a model whose guards do not bring any in. -/

namespace GuardedQuery

open Text

/-- Nothing that the model adds to a selection reads like a part of its text. -/
structure Model.Legible (m : Model) (request : Request) : Prop where
  admitted : ∀ g ∈ m.guards, (g.admitted request).Legible
  hidden : ∀ g ∈ m.guards, (g.hidden request).Legible
  searchable : ∀ field ∈ m.searchable, Unmarked field

/-- Nothing that the query says of rows reads like a part of the text of a selection. -/
structure Query.Legible (q : Query) : Prop where
  filter : q.filter.Legible
  exclude : q.exclude.Legible
  order : ∀ text ∈ q.order, Unmarked text

namespace Selection
variable {s : Selection} {p : Predicate}

theorem Legible.narrow (legible : s.Legible) (part : p.Legible) : (s.narrow p).Legible where
  model := legible.model
  predicate := Predicate.legible_allOf (by simpa using ⟨legible.predicate, part⟩)
  order := legible.order

theorem Legible.without (legible : s.Legible) (part : p.Legible) : (s.without p).Legible :=
  legible.narrow part.negate

theorem Legible.whole (legible : s.Legible) : s.whole.Legible where
  model := legible.model
  predicate := legible.predicate
  order := nofun

theorem Legible.joining (legible : s.Legible) (fields : List String) : (s.joining fields).Legible :=
  ⟨legible.model, legible.predicate, legible.order⟩

theorem Legible.window (legible : s.Legible) {offset : Nat} {limit : Option Nat}
    {windowed : Selection} (h : s.window offset limit = .ok windowed) : windowed.Legible := by
  rw [Selection.window] at h
  split at h
  · cases h
    exact ⟨legible.model, legible.predicate, legible.order⟩
  · cases h

end Selection

theorem OrderTerm.unmarked_read {text : String} (unmarked : Unmarked text) :
    Unmarked (OrderTerm.read text).path := by
  rw [read]
  split
  case h_1 path is =>
    intro c mem
    rw [String.toList_ofList] at mem
    exact unmarked c (is ▸ List.mem_cons_of_mem _ mem)
  case h_2 => exact unmarked

theorem Model.Legible.scope {m : Model} {request : Request} (legible : m.Legible request)
    {s : Selection} (h : s.Legible) : (m.scope request s).Legible := by
  have hides (guards : List Guard) (each : ∀ g ∈ guards, (g.hidden request).Legible)
      {s : Selection} (h : s.Legible) :
      (guards.foldl (fun s g => s.without (g.hidden request)) s).Legible := by
    induction guards generalizing s with
    | nil => exact h
    | cons g rest ih =>
      exact ih (fun g mem => each g (List.mem_cons_of_mem _ mem))
        (h.without (each g List.mem_cons_self))
  rw [Model.scope]
  split
  · exact h
  · refine hides m.guards legible.hidden (h.narrow (Predicate.legible_anyOf fun part mem => ?_))
    obtain ⟨g, guarding, rfl⟩ := List.mem_map.1 mem
    exact legible.admitted g guarding

namespace Access
variable {a : Access} {m : Model} {model : String} {q : Query} {sel : Selection}

theorem mem_searchable {requested : Option (List String)} {field : String}
    (mem : field ∈ a.searchFields m requested) : field ∈ m.searchable := by
  cases requested with
  | some names => exact (NameSet.mem_inter.1 (NameSet.mem_def.2 (List.mem_filter.1 mem).1)).1
  | none => exact (NameSet.mem_inter.1 (NameSet.mem_def.2 mem)).1

theorem legible_searchPredicate {search : Search} {p : Predicate}
    (unmarked : ∀ field ∈ m.searchable, Unmarked field)
    (h : a.searchPredicate? m search = some p) : p.Legible := by
  rw [searchPredicate?] at h
  split at h
  · cases h
  · rw [← Option.some.inj h]
    refine Predicate.legible_anyOf fun part mem => ?_
    obtain ⟨field, listed, rfl⟩ := List.mem_map.1 mem
    exact .cond (unmarked field (mem_searchable listed)) (.str _)

theorem legible_searched (name : Unmarked model) (legible : m.Legible a.request)
    {filter : Predicate} (h : filter.Legible) : (a.searched m model q filter).Legible := by
  have base : (Selection.ofModel model).Legible := ⟨name, .all, nofun⟩
  have narrowed := (legible.scope base).narrow h
  rw [searched, narrowBySearch]
  split
  case h_1 p searched =>
    obtain ⟨search, _, made⟩ := Option.bind_eq_some_iff.1 searched
    exact narrowed.narrow (legible_searchPredicate legible.searchable made)
  case h_2 => exact narrowed

theorem legible_predicateOf {tree : FilterTree} {p : Predicate} (legible : tree.Legible)
    (h : predicateOf tree = .ok p) : p.Legible :=
  legible.predicate (Checks.mapError_ok_iff.1 h)

/-- The selection of a legible query can be told from its text. -/
theorem legible_selection (found : a.catalog.get model = .ok m) (name : Unmarked model)
    (legible : m.Legible a.request) (asked : q.Legible)
    (selected : a.selection model q = .ok sel) : sel.Legible := by
  have arranged {base : Selection} (h : base.Legible) (is : (pure (((if q.order.isEmpty then base
      else base.orderedBy (q.order.map .read)).joining q.joined).preloading q.preloaded) :
      Except Error Selection) = .ok sel) : sel.Legible := by
    rw [← Checks.pure_ok_iff.1 is]
    split
    · exact ⟨h.model, h.predicate, h.order⟩
    · refine ⟨h.model, h.predicate, fun term mem => ?_⟩
      obtain ⟨text, listed, rfl⟩ := List.mem_map.1 mem
      exact OrderTerm.unmarked_read (asked.order text listed)
  rw [selection] at selected
  obtain ⟨m', found', selected⟩ := Checks.bind_ok_iff.1 selected
  obtain rfl : m = m' := Except.ok.inj (found.symm.trans found')
  obtain ⟨filter, filtered, selected⟩ := Checks.bind_ok_iff.1 selected
  have searched : (a.searched m model q filter).Legible :=
    legible_searched name legible (legible_predicateOf asked.filter filtered)
  by_cases blank : q.exclude.isEmpty = true
  · rw [if_pos blank] at selected
    exact arranged searched selected
  · rw [if_neg blank] at selected
    obtain ⟨exclude, excluded, selected⟩ := Checks.bind_ok_iff.1 selected
    exact arranged (searched.without (legible_predicateOf asked.exclude excluded)) selected

end Access

end GuardedQuery
