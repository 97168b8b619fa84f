import GuardedQuery.Aggregate
import GuardedQuery.FilterTree

/-! Queries: what a caller asks the engine to do with one model. -/

namespace GuardedQuery

inductive Operation where
  | read
  | create
  | bulkCreate
  | update
  | delete
  | updateInstance
  | deleteInstance
  | get
  | getOrCreate
  | updateOrCreate
  | first
  | last
  | exist
  /-- One aggregate of one field. -/
  | single (function : Aggregate)
  | aggregate
  deriving DecidableEq

namespace Operation

def name : Operation → String
  | read => "read"
  | create => "create"
  | bulkCreate => "bulk_create"
  | update => "update"
  | delete => "delete"
  | updateInstance => "update_instance"
  | deleteInstance => "delete_instance"
  | get => "get"
  | getOrCreate => "get_or_create"
  | updateOrCreate => "update_or_create"
  | first => "first"
  | last => "last"
  | exist => "exists"
  | single function => function.name
  | aggregate => "aggregate"

def ofName? (name : String) : Option Operation :=
  match name with
  | "read" => some read
  | "create" => some create
  | "bulk_create" => some bulkCreate
  | "update" => some update
  | "delete" => some delete
  | "update_instance" => some updateInstance
  | "delete_instance" => some deleteInstance
  | "get" => some get
  | "get_or_create" => some getOrCreate
  | "update_or_create" => some updateOrCreate
  | "first" => some first
  | "last" => some last
  | "exists" => some exist
  | "aggregate" => some aggregate
  | _ => (Aggregate.ofName? name).map single

theorem ofName?_name (op : Operation) : ofName? op.name = some op := by
  cases op with
  | single function => cases function <;> rfl
  | _ => rfl

/-- Whether the operation may change the store. -/
def isMutation : Operation → Bool
  | create | bulkCreate | update | delete | updateInstance | deleteInstance | getOrCreate
  | updateOrCreate => true
  | _ => false

def function? : Operation → Option Aggregate
  | single function => some function
  | _ => none

end Operation

/-- A text to search for, possibly in some of the searchable fields only. -/
structure Search where
  text : Option String
  fields : Option (List String)

/-- One aggregate of the operation that takes several. -/
structure AggregateTerm where
  function : Aggregate
  field : String
  deriving DecidableEq

/-- The name of the aggregate in the answer. -/
def AggregateTerm.alias (term : AggregateTerm) : String := term.field ++ "_" ++ term.function.name

/-- What to show of the selected rows. -/
structure OutputOptions where
  depth : Option Nat
  fields : List String
  limit : Option Nat
  offset : Option Nat

structure Query where
  operation : Operation
  filter : FilterTree
  exclude : FilterTree
  data : Option Value
  lookup : Row
  defaults : Row
  order : List String
  joined : List String
  preloaded : List String
  fields : List String
  search : Option Search
  field : Option String
  aggregates : List AggregateTerm
  options : OutputOptions

namespace Query

/-- The explicitly requested field paths; those among the output options come first. -/
def requested (q : Query) : List String :=
  if q.options.fields.isEmpty then q.fields else q.options.fields

/-- One level below the deepest requested path, or the requested depth without such paths. -/
def depth (q : Query) : Nat :=
  if q.requested.isEmpty then q.options.depth.getD 0
  else (q.requested.map Path.separators).foldl max 0 + 1

/-- The data as one record, which is empty when there is none. -/
def dataRow (q : Query) : Except Error Row :=
  match q.data with
  | none | some .null => .ok []
  | some (.obj entries) => .ok entries
  | some _ => .error (.validation "'data' must be an object")

def rowOf : Value → Except Error Row
  | .obj entries => .ok entries
  | _ => .error (.validation "Each 'data' item must be an object")

/-- The data as a list of records. -/
def dataRows (q : Query) : Except Error (List Row) :=
  match q.data with
  | some (.arr items) => items.mapM rowOf
  | _ => .error (.validation "'data' must be a list for bulk_create")

end Query

end GuardedQuery
