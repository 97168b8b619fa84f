import GuardedQuery.Access
import GuardedQuery.Change
import GuardedQuery.Formula.Node

/-! Data to be written. Hooks of the model change what the caller sent, the caller's own
permissions cut it down, and further hooks complete it; whatever is left must name columns. -/

namespace GuardedQuery.Access

inductive DataFault where
  | noColumns (model : String) (names : List String)
  | missingReference (field name model : String)
  | formulaInsert (field : String)

namespace DataFault

def toError : DataFault → Error
  | noColumns model names =>
    .validation ("Invalid field(s) for model '" ++ model ++ "': " ++ ", ".intercalate names)
  | missingReference field name model =>
    Formula.invalidFor field ("field '" ++ name ++ "' does not exist on model '" ++ model ++ "'")
  | formulaInsert field =>
    .validation ("F expressions are only supported in updates, got one for field " ++ field)

end DataFault

def runHooks (request : Request) (hooks : List Hook) (data : Row) : Except Error Row :=
  hooks.foldlM (fun data hook => hook request data) data

/-- Makes column values out of the data that a caller sent. -/
def prepare (a : Access) (model : String) (data : Row) (use : FieldUse) : Except Error Row := do
  let m ← a.catalog.get model
  let data ← runHooks a.request m.beforeHooks data
  let data ← a.writable model data use
  let data ← runHooks a.request m.afterHooks data
  let others := data.names.filter (!m.schema.columns.contains ·)
  if !others.isEmpty then throw (DataFault.noColumns model others).toError
  return data

def referenceDenied (name : String) : Error :=
  .permissionDenied ("No permission to read field '" ++ name ++ "' referenced in F expression")

/-- A formula may refer to fields that exist and that the caller can read. -/
def checkReference (m : Model) (model : String) (readable : NameSet) (field name : String) :
    Except Error Unit := do
  if !m.allFields.contains name then throw (DataFault.missingReference field name model).toError
  if !readable.contains name then throw (referenceDenied name)

def change (m : Model) (model : String) (readable : NameSet) (field : String) (value : Value) :
    Except Error Change := do
  if Formula.isWrapped value then
    let formula ← Formula.unwrap field value
    formula.references.toList.forM (checkReference m model readable field)
    return .compute formula
  else return .set value

/-- The column changes that prepared data stands for. -/
def changes (a : Access) (model : String) (data : Row) : Except Error Changes := do
  let m ← a.catalog.get model
  let readable := m.fields a.request .read
  data.mapM fun entry => return (entry.1, ← change m model readable entry.1 entry.2)

/-- Refuses formulas, which have no row to be computed from when a row is inserted. -/
def requirePlain (data : Row) : Except Error Row :=
  match data.find? fun entry => Formula.isWrapped entry.2 with
  | some (field, _) => .error (DataFault.formulaInsert field).toError
  | none => .ok data

/-- Prepared data for a new row. -/
def newRow (a : Access) (model : String) (data : Row) : Except Error Row := do
  requirePlain (← a.prepare model data .create)

end GuardedQuery.Access
