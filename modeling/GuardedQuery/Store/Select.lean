import GuardedQuery.Aggregate.Result
import GuardedQuery.Sorting
import GuardedQuery.Store.Basic

/-! Selecting rows and aggregating over them. Rows stand in the order of their insertion unless
the selection asks for another one, and the window is cut out of the sorted rows. -/

namespace GuardedQuery

/-- The order of two lists of sort keys, one key for each term. -/
def OrderTerm.compareKeys : List OrderTerm → List Value → List Value → Ordering
  | term :: terms, a :: as, b :: bs =>
    let first := a.order b
    (if term.descending then first.swap else first).then (compareKeys terms as bs)
  | _, _, _ => .eq

/-- The part of the rows within the window. -/
def Selection.page {α : Type} (s : Selection) (rows : List α) : List α :=
  match s.limit with
  | some limit => (rows.drop s.offset).take limit
  | none => rows.drop s.offset

namespace Store

/-- The rows that pass a test which can fail; the first failure counts. -/
def keepIf (test : Row → Except Error Bool) : List Row → Except Error (List Row)
  | [] => .ok []
  | row :: rest => do
    let keep ← test row
    let others ← keepIf test rest
    return if keep then row :: others else others

/-- The rows of a model that satisfy a predicate. -/
def matching (s : Store) (model : String) (p : Predicate) : Except Error (List Row) := do
  keepIf (fun row => s.holds model row p) (← s.rows model)

/-- What a row is sorted by: the first value along the path of each term. -/
def sortKeys (s : Store) (model : String) (order : List OrderTerm) (row : Row) :
    Except Error (List Value) :=
  order.mapM fun term => do
    return (← s.valuesAlong model row (Path.segments term.path)).headD .null

def sorted (s : Store) (model : String) (order : List OrderTerm) (rows : List Row) :
    Except Error (List Row) := do
  let keyed ← rows.mapM fun row => return (← s.sortKeys model order row, row)
  let precedes (a b : List Value × Row) := (OrderTerm.compareKeys order a.1 b.1).isLT
  return (Sorting.sort precedes keyed).map Prod.snd

/-- The selected rows. Conditions of a selection that can hold no row are not evaluated. -/
def select (s : Store) (selection : Selection) : Except Error (List Row) := do
  let _ ← s.model selection.model
  if selection.isVoid then return []
  let found ← s.matching selection.model selection.predicate
  return selection.page (← s.sorted selection.model selection.order found)

def count (s : Store) (selection : Selection) : Except Error Nat :=
  List.length <$> s.select selection

def keysOf (m : Model) (rows : List Row) : List Value := rows.filterMap (·.get? m.schema.key)

/-- The primary keys of the selected rows. -/
def selectKeys (s : Store) (selection : Selection) : Except Error (List Value) := do
  let rows ← s.select selection
  return keysOf (← s.model selection.model) rows

/-- All values of a field path over the selected rows, null values left out. -/
def collect (s : Store) (selection : Selection) (field : String) : Except Error (List Value) := do
  let rows ← s.select selection
  let values ← rows.mapM fun row => s.valuesAlong selection.model row (Path.segments field)
  return values.flatten.filter (!·.isNull)

def aggregate (s : Store) (selection : Selection) (a : Aggregate) (field : String) :
    Except GuardedQuery.Error Value := do
  let values ← (s.collect selection field).mapError Error.toError
  a.result field values

end Store

end GuardedQuery
