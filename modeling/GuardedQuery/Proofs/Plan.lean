import GuardedQuery.Plan
import GuardedQuery.Proofs.Checks

/-! What a plan comes from. -/

namespace GuardedQuery

/-- A query that names an operation and nothing else. -/
def Query.plain (operation : Operation) : Query where
  operation
  filter := .empty
  exclude := .empty
  data := none
  lookup := []
  defaults := []
  order := []
  joined := []
  preloaded := []
  fields := []
  search := none
  field := none
  aggregates := []
  options := ⟨none, [], none, none⟩

/-- All rows can be read, but some fields only. -/
def Guard.reading (fields : List String) : Guard where
  actions _ := [.read]
  fields _ _ := .only (.ofList fields)
  admitted _ := .all
  hidden _ := .nothing
  rowActions _ _ := [.read]
  allowsBulk := Guard.eachRow fun _ _ => [.read]

namespace Access

/-- What a query has passed that became a plan, and what the plan holds. -/
structure Plans (a : Access) (model : String) (q : Query) (p : Plan) : Prop where
  accessed : p.access = a
  named : p.name = model
  asked : p.query = q
  found : a.catalog.get model = .ok p.model
  allowed : a.requireAction model q.operation.action = .ok ()
  vetted : a.vet model q = .ok ()
  selected : a.selection model q = .ok p.selection
  deep : p.depth = min q.depth a.rules.maxDepth
  outlined : a.outline model .read p.depth q.requested = .ok p.outline

/-- A plan has been allowed the action of its operation. -/
theorem Plans.permitted {a : Access} {model : String} {q : Query} {p : Plan}
    (plans : a.Plans model q p) :
    p.access.requireAction p.name p.query.operation.action = .ok () := by
  rw [plans.accessed, plans.named, plans.asked]
  exact plans.allowed

/-- The model of a plan is the one of its name. -/
theorem Plans.listed {a : Access} {model : String} {q : Query} {p : Plan}
    (plans : a.Plans model q p) : p.access.catalog.get p.name = .ok p.model := by
  rw [plans.accessed, plans.named]
  exact plans.found

theorem Plans.requested {a : Access} {model : String} {q : Query} {p : Plan}
    (plans : a.Plans model q p) : p.request = a.request := by
  rw [Plan.request, plans.accessed]

theorem plans_of_plan {a : Access} {model : String} {q : Query} {p : Plan}
    (h : a.plan model q = .ok p) : a.Plans model q p := by
  rw [plan] at h
  obtain ⟨_, allowed, h⟩ := Checks.bind_ok_iff.1 h
  obtain ⟨_, vetted, h⟩ := Checks.bind_ok_iff.1 h
  obtain ⟨selection, selected, h⟩ := Checks.bind_ok_iff.1 h
  obtain ⟨outline, outlined, h⟩ := Checks.bind_ok_iff.1 h
  obtain ⟨m, found, h⟩ := Checks.bind_ok_iff.1 h
  rw [← Checks.pure_ok_iff.1 h]
  exact ⟨rfl, rfl, rfl, found, allowed, vetted, selected, rfl, outlined⟩

/-- A plan with all that a query has to pass is the plan of the query. -/
theorem Plans.plan {a : Access} {model : String} {q : Query} {p : Plan}
    (plans : a.Plans model q p) : a.plan model q = .ok p := by
  refine Checks.bind_ok_iff.2 ⟨(), plans.allowed, ?_⟩
  refine Checks.bind_ok_iff.2 ⟨(), plans.vetted, ?_⟩
  refine Checks.bind_ok_iff.2 ⟨p.selection, plans.selected, ?_⟩
  rw [← plans.deep]
  refine Checks.bind_ok_iff.2 ⟨p.outline, plans.outlined, ?_⟩
  refine Checks.bind_ok_iff.2 ⟨p.model, plans.found, ?_⟩
  rw [← plans.accessed, ← plans.named, ← plans.asked]
  rfl

end Access

end GuardedQuery
