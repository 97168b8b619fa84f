import GuardedQuery.Catalog
import GuardedQuery.Store.Match
import GuardedQuery.Store.Table
import GuardedQuery.Text.Numeral

/-! The row store: one table for each model of a catalog, and what paths, relations and
predicates mean on its rows. A to-one column holds a primary key and a to-many column a list of
them; a reverse relation is computed from the rows that point back. -/

namespace GuardedQuery

structure Store where
  catalog : Catalog
  tables : Dict Store.Table
  /-- The tables as they were when the open transaction began. -/
  saved : Option (Dict Store.Table)

namespace Store

def ofCatalog (catalog : Catalog) : Store := ⟨catalog, .empty, none⟩

def model (s : Store) (name : String) : Except Error Model :=
  match s.catalog.model? name with
  | some m => .ok m
  | none => .error (.unknownModel name)

def table (s : Store) (model : String) : Table := (s.tables.get? model).getD .empty

/-- The rows of a model in the order of their insertion. -/
def rows (s : Store) (model : String) : Except Error (List Row) := do
  let _ ← s.model model
  return (s.table model).values

/-- How many rows a model has; a name that is no model has none. -/
def size (s : Store) (model : String) : Nat := (s.table model).rows.length

def row? (s : Store) (model : String) (key : Value) : Option Row := (s.table model).get? key

def fetch (s : Store) (model : String) (key : Value) : Except Error (Option Row) := do
  let _ ← s.model model
  return s.row? model key

/-! Relations -/

/-- Whether a relation column refers to a primary key. -/
def pointsAt (key : Value) (column : Option Value) : Bool :=
  match column with
  | some (.arr keys) => keys.any (·.equal key)
  | some value => value.equal key
  | none => false

def noRelation (m : Model) (field : String) : Error :=
  .invalidFilter ("'" ++ field ++ "' is not a relation on model '" ++ m.name ++ "'")

/-- The rows that a relation field of a row leads to. -/
def relatedRows (s : Store) (m : Model) (row : Row) (field : String) : Except Error (List Row) :=
  match m.schema.kind? field with
  | some (.toOne target) => .ok ((Table.ownKey? field row).bind (s.row? target)).toList
  | some (.toMany target) =>
    .ok ((((row.get? field).bind Value.arr?).getD []).filterMap (s.row? target))
  | some (.reverse target via) =>
    match row.get? m.schema.key with
    | some key => return (← s.rows target).filter fun other => pointsAt key (other.get? via)
    | none => .ok []
  | _ => .error (noRelation m field)

def related (s : Store) (model : String) (row : Row) (field : String) :
    Except Error (List Row) := do
  s.relatedRows (← s.model model) row field

/-! Paths -/

/-- The entry or the item that a path segment names. -/
def child? (v : Value) (segment : String) : Option Value :=
  match v with
  | .obj entries => Entries.get? entries segment
  | .arr items => (Text.natural? segment).bind (items[·]?)
  | _ => none

/-- Follows the segments into a structured value. -/
def descend (v : Value) (segments : List String) : Option Value :=
  segments.foldl (fun v segment => v.bind (child? · segment)) (some v)

def orNull (values : List Value) : List Value := if values.isEmpty then [.null] else values

/-- All values that a path reaches from a row. A path that reaches nothing yields null. -/
def valuesAlong (s : Store) : String → Row → List String → Except Error (List Value)
  | _, _, [] => .ok [.null]
  | model, row, first :: rest => do
    let m ← s.model model
    let field := if m.isKey first then m.schema.key else first
    let column := row.get? field
    match m.schema.kind? field, rest with
    | some (.toMany _), [] => return orNull ((column.bind Value.arr?).getD [])
    | some (.reverse target _), [] =>
      let t ← s.model target
      return orNull ((← s.relatedRows m row field).filterMap (·.get? t.schema.key))
    | _, [] => return [column.getD .null]
    | some .json, _ => return [(column.bind (descend · rest)).getD .null]
    | some (.toOne target), _ | some (.toMany target), _ | some (.reverse target _), _ =>
      let found ← (← s.relatedRows m row field).mapM fun other => s.valuesAlong target other rest
      return orNull found.flatten
    | _, _ => return [.null]

/-! Predicates -/

mutual

/-- Whether a predicate holds of a row of a model. Parts that no longer matter are not
evaluated. -/
def holds (s : Store) (model : String) (row : Row) : Predicate → Except Error Bool
  | .all => .ok true
  | .nothing => .ok false
  | .cond c => do c.acceptsAny (← s.valuesAlong model row c.segments)
  | .and parts => s.holdAll model row parts
  | .or parts => s.holdAny model row parts
  | .not inner => do return !(← s.holds model row inner)

def holdAll (s : Store) (model : String) (row : Row) : List Predicate → Except Error Bool
  | [] => .ok true
  | part :: rest => do
    if ← s.holds model row part then s.holdAll model row rest else return false

def holdAny (s : Store) (model : String) (row : Row) : List Predicate → Except Error Bool
  | [] => .ok false
  | part :: rest => do
    if ← s.holds model row part then return true else s.holdAny model row rest

end

end Store

end GuardedQuery
