import GuardedQuery.Query
import GuardedQuery.Value.Shape

/-! Reading a query from the value a caller sends.
First the shape of every entry is checked, then the operation, the aggregates, the filter and
the exclusion, in this order. -/

namespace GuardedQuery

/-- The entries of a query whose shape has been checked. -/
structure QueryDraft where
  operation : Option String := none
  filter : Option Value := none
  exclude : Option Value := none
  data : Option Value := none
  lookup : Row := []
  defaults : Row := []
  order : List String := []
  joined : List String := []
  preloaded : List String := []
  fields : List String := []
  search : Option Search := none
  field : Option String := none
  aggregates : List (String × String) := []
  options : OutputOptions := ⟨none, [], none, none⟩

namespace QueryDraft

def namesOf : Value → Except Misfit (List String) := Shape.list Shape.string

def orEmpty {α : Type} (shape : Value → Except Misfit (List α)) (v : Value) :
    Except Misfit (List α) :=
  return (← Shape.optional shape v).getD []

def setSearch (s : Search) (key : String) (v : Value) : Except Misfit Search :=
  match key with
  | "searchQuery" => return { s with text := ← Shape.optional Shape.string v }
  | "searchFields" => return { s with fields := ← Shape.optional namesOf v }
  | _ => return s

def searchOf : Value → Except Misfit Search :=
  Shape.record "SearchSpec" ["searchQuery", "searchFields"] setSearch ⟨none, none⟩

def setOption (o : OutputOptions) (key : String) (v : Value) : Except Misfit OutputOptions :=
  match key with
  | "depth" => return { o with depth := ← Shape.optional (Shape.unsigned 32) v }
  | "fields" => return { o with fields := ← namesOf v }
  | "limit" => return { o with limit := ← Shape.optional (Shape.unsigned 64) v }
  | "offset" => return { o with offset := ← Shape.optional (Shape.unsigned 64) v }
  | _ => return o

def optionsOf : Value → Except Misfit OutputOptions :=
  Shape.record "SerializerOptions" ["depth", "fields", "limit", "offset"] setOption
    ⟨none, [], none, none⟩

/-- A function and a field, as an object or as a list of the two. -/
def aggregatePair? : Value → Option (String × String)
  | .arr [.str function, .str field] => some (function, field)
  | .obj entries =>
    match Entries.get? entries "function", Entries.get? entries "field" with
    | some (.str function), some (.str field) => some (function, field)
    | _, _ => none
  | _ => none

def namedField? (entry : String × Value) : Option (String × String) :=
  entry.2.str?.map fun field => (entry.1, field)

/-- A list of pairs, or an object from functions to fields. -/
def aggregatesOf (v : Value) : Except Misfit (List (String × String)) :=
  let pairs := match v with
    | .arr items => items.mapM aggregatePair?
    | .obj entries => entries.mapM namedField?
    | _ => none
  match pairs with
  | some pairs => .ok pairs
  | none => .error (.alternatives "RawAggregates")

def set (d : QueryDraft) (key : String) (v : Value) : Except Misfit QueryDraft :=
  match key with
  | "type" => return { d with operation := ← Shape.optional Shape.string v }
  | "filter" => return { d with filter := Shape.present v }
  | "exclude" => return { d with exclude := Shape.present v }
  | "data" => return { d with data := Shape.present v }
  | "lookup" => return { d with lookup := ← orEmpty Shape.map v }
  | "defaults" => return { d with defaults := ← orEmpty Shape.map v }
  | "orderBy" => return { d with order := ← orEmpty namesOf v }
  | "selectRelated" => return { d with joined := ← orEmpty namesOf v }
  | "prefetchRelated" => return { d with preloaded := ← orEmpty namesOf v }
  | "fields" => return { d with fields := ← orEmpty namesOf v }
  | "search" => return { d with search := ← Shape.optional searchOf v }
  | "field" => return { d with field := ← Shape.optional Shape.string v }
  | "aggregates" => return { d with aggregates := ← orEmpty aggregatesOf v }
  | "serializerOptions" =>
    return { d with options := (← Shape.optional optionsOf v).getD ⟨none, [], none, none⟩ }
  | _ => return d

def ofEntries (entries : Row) : Except Misfit QueryDraft :=
  entries.foldlM (fun d entry => set d entry.1 entry.2) {}

end QueryDraft

namespace Query

/-- Reads are asked for when no operation is named. -/
def readOperation : Option String → Except Error Operation
  | none => .ok .read
  | some name =>
    match Operation.ofName? name with
    | some op => .ok op
    | none => .error (.validation ("Unsupported operation type: " ++ name))

def readTerm (pair : String × String) : Except Error AggregateTerm :=
  return ⟨← Aggregate.read pair.1, pair.2⟩

def readTree : Option Value → Except Error FilterTree
  | none => .ok .empty
  | some v => (FilterTree.ofValue v).mapError (·.toError)

def ofDraft (d : QueryDraft) : Except Error Query := do
  let operation ← readOperation d.operation
  let aggregates ← d.aggregates.mapM readTerm
  let filter ← readTree d.filter
  let exclude ← readTree d.exclude
  return ⟨operation, filter, exclude, d.data, d.lookup, d.defaults, d.order, d.joined,
    d.preloaded, d.fields, d.search, d.field, aggregates, d.options⟩

def ofValue : Value → Except Error Query
  | .obj entries =>
    match QueryDraft.ofEntries entries with
    | .error misfit => .error (.validation ("Malformed AST: " ++ misfit.message))
    | .ok draft => ofDraft draft
  | _ => .error (.validation "AST must be a JSON object")

end Query

end GuardedQuery
