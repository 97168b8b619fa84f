import GuardedQuery.Cache.Call
import GuardedQuery.Event
import GuardedQuery.Plan
import GuardedQuery.Presentation
import GuardedQuery.Response

/-! What the engine keeps between requests, and the two ways in which a request uses it: by a
script of store calls, or by an inquiry whose answer may come from the cache. -/

namespace GuardedQuery

namespace Engine

structure State where
  store : Store
  cache : Cache

/-- Runs against the state; failures leave what was done before them. -/
abbrev Run := ExceptT Error (StateM State)

/-- A script with what is needed to cache its answer. -/
structure Inquiry where
  job : Cache.Job
  script : Script Value

namespace Run

/-- Runs a script in one go, without the cache. -/
def ofScript {α : Type} (script : Script α) : Run α := ExceptT.mk fun st =>
  let (outcome, store) := script.run st.store
  (outcome, { st with store })

/-- Answers an inquiry from the cache, or by its script. -/
def ofInquiry (inquiry : Inquiry) : Run Value := ExceptT.mk fun st =>
  let (outcome, cache, store) := st.cache.run inquiry.job inquiry.script.run st.store
  (outcome, ⟨store, cache.settle⟩)

end Run

end Engine

namespace Plan

/-- An inquiry about rows of a selection. The context tells inquiries about the same rows apart. -/
def inquiry (p : Plan) (s : Selection) (context : String) (o : Outline) (paths : List String)
    (script : Script Value) : Except Error Engine.Inquiry := do
  let transaction := p.request.transaction
  let key := if p.model.cacheable then Cache.Key.make? s.render transaction context else none
  let models ← p.access.catalog.dependencies s o paths
  return ⟨⟨key, transaction.getD "", models⟩, script⟩

/-- Shows one row of the plan's model. -/
def present (p : Plan) (row : Row) : Script Value :=
  p.access.present p.outline p.depth p.name row

def presentAll (p : Plan) (rows : List Row) : Script Value :=
  p.access.presentAll p.outline p.depth p.name rows

end Plan

end GuardedQuery
