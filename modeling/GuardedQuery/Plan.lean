import GuardedQuery.Text.Blank
import GuardedQuery.Vetting
import GuardedQuery.Outline

/-! Plans. A query is checked against what its caller may do, and then becomes a selection that
lies within the rows the caller may see, with an outline of what may be shown of them. -/

namespace GuardedQuery

/-- The action that an operation needs on its model before anything else. Creating on a miss
needs a further one. -/
def Operation.action : Operation → Action
  | .create => .create
  | .bulkCreate => .bulkCreate
  | .update | .updateInstance | .updateOrCreate => .update
  | .delete | .deleteInstance => .delete
  | .read | .get | .getOrCreate | .first | .last | .exist | .single _ | .aggregate => .read

structure Plan where
  access : Access
  model : Model
  /-- The name of the model. -/
  name : String
  query : Query
  selection : Selection
  /-- How many levels of relations to show. -/
  depth : Nat
  outline : Outline

namespace Access

/-- The fields to search: the searchable ones that can be read, among those asked for. -/
def searchFields (a : Access) (m : Model) (requested : Option (List String)) : List String :=
  let readable := m.searchable.inter (m.fields a.request .read)
  match requested with
  | some names => readable.toList.filter names.contains
  | none => readable.toList

/-- The predicate of a search. Without a text to search for, or without fields, there is none. -/
def searchPredicate? (a : Access) (m : Model) (search : Search) : Option Predicate :=
  let text := Text.trim (search.text.getD "")
  let fields := a.searchFields m search.fields
  if text.isEmpty || fields.isEmpty then none
  else some (.anyOf (fields.map fun field => .cond (.plain field .icontains (.str text))))

def narrowBySearch (a : Access) (m : Model) (search : Option Search) (s : Selection) : Selection :=
  match search.bind (a.searchPredicate? m) with
  | some p => s.narrow p
  | none => s

def predicateOf (tree : FilterTree) : Except Error Predicate :=
  tree.predicate.mapError Condition.Fault.toError

/-- The selection of a query, which starts from the rows that the caller may see. -/
def selection (a : Access) (model : String) (q : Query) : Except Error Selection := do
  let m ← a.catalog.get model
  let s := m.scope a.request (.ofModel model)
  let s := s.narrow (← predicateOf q.filter)
  let s := a.narrowBySearch m q.search s
  let s ← if q.exclude.isEmpty then pure s else do pure (s.without (← predicateOf q.exclude))
  let s := if q.order.isEmpty then s else s.orderedBy (q.order.map .read)
  return (s.joining q.joined).preloading q.preloaded

/-- The plan of a query, if it passes all checks. -/
def plan (a : Access) (model : String) (q : Query) : Except Error Plan := do
  a.requireAction model q.operation.action
  a.vet model q
  let selection ← a.selection model q
  let depth := min q.depth a.rules.maxDepth
  let outline ← a.outline model .read depth q.requested
  let m ← a.catalog.get model
  return ⟨a, m, model, q, selection, depth, outline⟩

end Access

namespace Catalog

/-- The models whose rows have a part in what is read: that of the selection, those shown along
with the targets of their relations, and those that conditions, order and other paths lead
through. -/
def dependencies (c : Catalog) (s : Selection) (o : Outline) (paths : List String) :
    Except Error NameSet := do
  let shown ← o.entries.mapM fun (model, names) =>
    return model :: (← names.toList.mapM fun name =>
      c.modelsAlong model (Path.segments name)).flatten
  let walked ← (s.predicate.conditions.map (·.path) ++ s.order.map (·.path) ++ paths).mapM
    fun path => c.modelsAlong s.model (Path.segments path)
  return .ofList (s.model :: (shown.flatten ++ walked.flatten))

end Catalog

namespace Plan

def request (p : Plan) : Request := p.access.request

def keyName (p : Plan) : String := p.model.schema.key

def keyOf (p : Plan) (row : Row) : Value := (row.get? p.keyName).getD .null

end Plan

end GuardedQuery
