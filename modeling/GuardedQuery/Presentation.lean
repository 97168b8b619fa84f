import GuardedQuery.Outline
import GuardedQuery.Store.Script

/-! Rows as shown to a caller. A row shows its primary key and the fields that an outline lists
for its model. A relation is shown as nested rows while levels remain and the outline has
something to show of its target, and as primary keys otherwise. -/

namespace GuardedQuery.Access

/-- How to show the rows of a model. -/
abbrev Shower := String → Row → Script Value

/-- How to show the rows behind a relation, unless they are shown by their keys. -/
def shower? (o : Outline) (nested : Option Shower) (target : String) :
    Option (Row → Script Value) :=
  match o.get? target with
  | some names => if names.isEmpty then none else nested.map fun shower => shower target
  | none => none

def showFirst (shower : Row → Script Value) : List Row → Script Value
  | [] => return .null
  | row :: _ => shower row

/-- The value of one field, or nothing for a name that has none to show. -/
def fieldValue (a : Access) (o : Outline) (nested : Option Shower) (m : Model) (model : String)
    (row : Row) (field : String) : Script (Option Value) := do
  let column := row.get? field
  if field = m.schema.key then return none
  match m.computed? field with
  | some computed => return some (computed.compute row)
  | none =>
    match m.kind? field with
    | none => return none
    | some .scalar | some .json => return some (column.getD .null)
    | some (.toOne target) =>
      match shower? o nested target with
      | some shower => return some (← showFirst shower (← Script.related model row field))
      | none => return some (column.getD .null)
    | some (.toMany target) =>
      match shower? o nested target with
      | some shower => return some (.arr (← (← Script.related model row field).mapM shower))
      | none => return some (column.getD (.arr []))
    | some (.reverse target _) =>
      match shower? o nested target with
      | some shower => return some (.arr (← (← Script.related model row field).mapM shower))
      | none =>
        let t ← a.catalog.get target
        let rows ← Script.related model row field
        return some (.arr (rows.map fun other => (other.get? t.schema.key).getD .null))

/-- Adds the fields to what is shown of a row. -/
def showFields (a : Access) (o : Outline) (nested : Option Shower) (m : Model) (model : String)
    (row : Row) : List String → Row → Script Row
  | [], shown => return shown
  | field :: rest, shown => do
    match ← a.fieldValue o nested m model row field with
    | some value => a.showFields o nested m model row rest (shown.insert field value)
    | none => a.showFields o nested m model row rest shown

def showRow (a : Access) (o : Outline) (nested : Option Shower) : Shower := fun model row => do
  let m ← a.catalog.get model
  let key := (row.get? m.schema.key).getD .null
  let fields := (o.get? model).getD .empty
  return .obj (← a.showFields o nested m model row fields.toList [(m.schema.key, key)])

/-- Shows a row with nested rows down to a number of levels. -/
def present (a : Access) (o : Outline) : Nat → Shower
  | 0 => a.showRow o none
  | levels + 1 => a.showRow o (some (a.present o levels))

def presentAll (a : Access) (o : Outline) (levels : Nat) (model : String) (rows : List Row) :
    Script Value :=
  return .arr (← rows.mapM (a.present o levels model))

end GuardedQuery.Access
