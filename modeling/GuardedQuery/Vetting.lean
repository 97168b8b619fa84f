import GuardedQuery.Access
import GuardedQuery.Query

/-! Vetting a query: every field path that it names is walked relation by relation.
A computed field is refused as such, a field that does not exist as missing, and only then a
field outside the caller's permitted ones as denied. -/

namespace GuardedQuery

/-- Where in a query a path stands. -/
inductive PathUse where
  | filter
  | order
  | aggregate
  | output
  deriving DecidableEq

namespace PathUse

def missing (use : PathUse) (path model : String) : Error :=
  match use with
  | order => .validation ("Cannot order by '" ++ path ++ "': field does not exist on model '" ++
      model ++ "'.")
  | _ => .validation ("Field '" ++ path ++ "' does not exist on model '" ++ model ++ "'.")

def denied (use : PathUse) (path : String) : Error :=
  .permissionDenied (match use with
    | filter => "Permission denied: You do not have access to filter on field '" ++ path ++ "'"
    | order => "Permission denied: You do not have access to order by field '" ++ path ++ "'"
    | aggregate => "Permission denied: You do not have access to aggregate field '" ++ path ++ "'"
    | output => "Access to field '" ++ path ++ "' is not permitted.")

/-- The refusal of a computed field; as output it is as good as any other. -/
def computed? (use : PathUse) (field : String) : Option Error :=
  match use with
  | filter => some (.validation ("Cannot filter on computed field '" ++ field ++
      "'. Computed fields are read-only and cannot be used in filters."))
  | order => some (.validation ("Cannot order by computed field '" ++ field ++ "'."))
  | aggregate => some (.validation ("Cannot aggregate on computed field '" ++ field ++ "'."))
  | output => none

end PathUse

namespace Access

/-- Walks the segments of `path` that remain. The primary key ends a path; behind a relation it
can be named if anything of the model can be read. -/
def walk (a : Access) (use : PathUse) (path : String) :
    Bool → String → List String → Except Error Unit
  | _, _, [] => .ok ()
  | atRoot, model, segment :: rest =>
    if segment.isEmpty then .error (use.missing path model)
    else do
      let m ← a.catalog.get model
      let allowed := m.fields a.request .read
      if m.isKey segment then
        if !atRoot && allowed.isEmpty then throw (use.denied path)
      else if (m.computed? segment).isSome then
        match use.computed? segment with
        | some refusal => throw refusal
        | none =>
          if !allowed.contains segment then throw (use.denied path)
          else if !rest.isEmpty then throw (use.missing path model)
      else
        match m.kind? segment with
        | none => throw (use.missing path model)
        | some kind =>
          if !allowed.contains segment then throw (use.denied path)
          match kind with
          | .json => return ()
          | .scalar => if !rest.isEmpty then throw (use.missing path model)
          | .toOne target | .toMany target | .reverse target _ => a.walk use path false target rest

def vetPath (a : Access) (model : String) (use : PathUse) (path : String) : Except Error Unit :=
  a.walk use path true model (fieldNames path)

def vetFilter (a : Access) (model key : String) : Except Error Unit :=
  a.vetPath model .filter key

def vetTree (a : Access) (model : String) (tree : FilterTree) : Except Error Unit :=
  tree.keys.forM (a.vetFilter model)

/-- Unknown output paths pass when unknown fields are dropped; denied ones never do. -/
def vetOutput (a : Access) (model path : String) : Except Error Unit :=
  match a.vetPath model .output path with
  | .error (.validation detail) =>
    if a.rejectsUnknown then .error (.validation detail) else .ok ()
  | outcome => outcome

def orderFault (text model : String) : Error :=
  .validation ("Cannot order by '" ++ text ++
    "': ordering is not enabled for this field on model '" ++ model ++ "'.")

/-- An order term may name a readable field whose root the model allows to order by. -/
def vetTerm (a : Access) (m : Model) (model text : String) : Except Error Unit := do
  let path := (OrderTerm.read text).path
  a.vetPath model .order path
  let root := (fieldNames path).headD ""
  if !m.orderable.isEmpty && !m.orderable.contains root && !m.isKey root then
    throw (orderFault text model)

def vetOrder (a : Access) (model : String) (order : List String) : Except Error Unit := do
  let m ← a.catalog.get model
  order.forM (a.vetTerm m model)

def vetAggregate (a : Access) (model path : String) : Except Error Unit :=
  a.vetPath model .aggregate path

/-- Checks every path of a query against the model it is put to. -/
def vet (a : Access) (model : String) (q : Query) : Except Error Unit := do
  q.requested.forM (a.vetOutput model)
  a.vetTree model q.filter
  a.vetTree model q.exclude
  q.lookup.names.forM (a.vetFilter model)
  a.vetOrder model q.order
  if q.operation.function?.isSome then q.field.toList.forM (a.vetAggregate model)
  q.aggregates.forM fun term => a.vetAggregate model term.field

end Access

end GuardedQuery
