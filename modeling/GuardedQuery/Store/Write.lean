import GuardedQuery.Change
import GuardedQuery.Store.Select

/-! Writing to the store, and transactions. A write answers with its outcome and with the store
that it leaves behind, also when it fails. -/

namespace GuardedQuery.Store

def withTable (s : Store) (model : String) (t : Table) : Store :=
  { s with tables := s.tables.insert model t }

/-- Inserts one row; the answer is the row as stored. -/
def insert (s : Store) (model : String) (row : Row) : Except Error Row × Store :=
  match s.model model with
  | .error e => (.error e, s)
  | .ok m =>
    let (outcome, t) := (s.table model).insert model m.schema.key row
    (outcome, s.withTable model t)

/-- Inserts all rows or none. -/
def insertMany (s : Store) (model : String) (rows : List Row) : Except Error (List Row) × Store :=
  match s.model model with
  | .error e => (.error e, s)
  | .ok m =>
    match Table.insertAll model m.schema.key rows (s.table model) with
    | .error e => (.error e, s)
    | .ok (rows, t) => (.ok rows, s.withTable model t)

def keyUpdate (model : String) : Error :=
  .invalidInput ("The primary key of '" ++ model ++ "' cannot be updated")

/-- The row with the changes applied. The primary key is not among the columns that can change. -/
def changed (s : Store) (model : String) (changes : Changes) (row : Row) :
    Except GuardedQuery.Error Row := do
  let m ← (s.model model).mapError Error.toError
  if changes.contains m.schema.key then throw (keyUpdate model).toError
  (changes.apply row).mapError Formula.Fault.toError

/-- Changes the row with a primary key; the answer is the row as stored. -/
def updateRow (s : Store) (model : String) (key : Value) (changes : Changes) :
    Except GuardedQuery.Error Row × Store :=
  match s.row? model key with
  | none => (.error (Error.unknownRow model (keyText key)).toError, s)
  | some row =>
    match s.changed model changes row with
    | .error e => (.error e, s)
    | .ok row => (.ok row, s.withTable model ((s.table model).replace key row))

/-- Changes one row after another up to the first failure. -/
def updateRows (model : String) (changes : Changes) :
    List Value → Store → Except GuardedQuery.Error Unit × Store
  | [], s => (.ok (), s)
  | key :: rest, s =>
    match s.updateRow model key changes with
    | (.error e, s) => (.error e, s)
    | (.ok _, s) => updateRows model changes rest s

/-- Changes every selected row; the answer lists their primary keys. -/
def updateWhere (s : Store) (selection : Selection) (changes : Changes) :
    Except GuardedQuery.Error (List Value) × Store :=
  match s.selectKeys selection with
  | .error e => (.error e.toError, s)
  | .ok keys =>
    let (outcome, s) := updateRows selection.model changes keys s
    (outcome.map fun _ => keys, s)

/-- Removes every selected row; the answer lists their primary keys. -/
def deleteWhere (s : Store) (selection : Selection) : Except Error (List Value) × Store :=
  match s.selectKeys selection with
  | .error e => (.error e, s)
  | .ok keys =>
    (.ok keys, s.withTable selection.model (keys.foldl Table.remove (s.table selection.model)))

/-! Transactions -/

def isOpen (s : Store) : Bool := s.saved.isSome

/-- Remembers all tables. Only one transaction can be open. -/
def begin (s : Store) : Store := { s with saved := some s.tables }

def commit (s : Store) : Store := { s with saved := none }

/-- Returns to the tables that the open transaction began with. -/
def rollback (s : Store) : Store := { s with tables := s.saved.getD s.tables, saved := none }

theorem rollback_begin (s : Store) (h : s.saved = none) : s.begin.rollback = s := by
  cases s
  simp_all [begin, rollback]

end GuardedQuery.Store
