import GuardedQuery.Dict
import GuardedQuery.Guard
import GuardedQuery.Schema
import GuardedQuery.Selection

/-! Models: a schema together with what it shows, who may use it and what it computes. -/

namespace GuardedQuery

/-- The fields that a model shows. Reverse relations are shown only if listed by name. -/
inductive Exposure where
  | all
  | only (names : NameSet)

namespace Exposure

def shows : Exposure → String → Bool
  | all, _ => true
  | only names, name => names.contains name

def lists : Exposure → String → Bool
  | all, _ => false
  | only names, name => names.contains name

end Exposure

/-- A field that is computed from a stored row and never stored. -/
structure ComputedField where
  name : String
  compute : Row → Value

/-- A trusted change of the data that a caller wants to write. -/
abbrev Hook := Request → Row → Except Error Row

/-- A visible relation to the model named `target`. -/
structure Edge where
  field : String
  target : String
  isReverse : Bool
  deriving DecidableEq

structure Model where
  schema : Schema
  exposure : Exposure
  guards : List Guard
  searchable : NameSet
  /-- Unless empty, the only fields that callers may order by. -/
  orderable : NameSet
  computed : List ComputedField
  /-- Fields to show along with a field that was updated. -/
  companions : Dict NameSet
  /-- Run on the data as sent. -/
  beforeHooks : List Hook
  /-- Run on what remains after the fields that may not be written have been dropped. -/
  afterHooks : List Hook
  cacheable : Bool

namespace Model

def name (m : Model) : String := m.schema.name

/-- A model with default options. -/
def ofSchema (schema : Schema) : Model where
  schema
  exposure := .all
  guards := []
  searchable := .empty
  orderable := .empty
  computed := []
  companions := .empty
  beforeHooks := []
  afterHooks := []
  cacheable := true

/-- Whether a field is visible: reverse relations must be listed. -/
def isTraversable (m : Model) (field : Field) : Bool :=
  !field.kind.isReverse || m.exposure.lists field.name

/-- The names of all visible fields, with the primary key and the computed ones. -/
def allFields (m : Model) : NameSet :=
  .ofList (((m.schema.fields.filter fun f =>
      m.isTraversable f && (f.name = m.schema.key || m.exposure.shows f.name)).map Field.name) ++
    m.computed.map ComputedField.name)

/-- Whether a name stands for the primary key. -/
def isKey (m : Model) (field : String) : Bool := field = keyAlias || field = m.schema.key

/-- The kind of a declared field, unless it is a reverse relation that is not listed. -/
def kind? (m : Model) (field : String) : Option FieldKind :=
  (m.schema.field? field).bind fun f => if m.isTraversable f then some f.kind else none

def target? (m : Model) (field : String) : Option String := (m.kind? field).bind FieldKind.target?

def computed? (m : Model) (field : String) : Option ComputedField :=
  m.computed.find? (·.name = field)

def edgeOf? (m : Model) (field : Field) : Option Edge :=
  if m.isTraversable field then
    field.kind.target?.map fun target => ⟨field.name, target, field.kind.isReverse⟩
  else none

/-- The visible relations, in the order of the fields. -/
def edges (m : Model) : List Edge := m.schema.fields.filterMap m.edgeOf?

def edge? (m : Model) (field : String) : Option Edge := m.edges.find? (·.field = field)

end Model

end GuardedQuery
