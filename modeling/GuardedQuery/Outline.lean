import GuardedQuery.Access

/-! Outlines: for each model that an answer may show, the fields it may show.
Without requested paths an outline covers what can be reached from the root through permitted
relations within a depth. Requested paths replace that by the fields they name; a path that
ends at a relation brings all permitted fields of its target. -/

namespace GuardedQuery

abbrev Outline := Dict NameSet

namespace Outline

def has (o : Outline) (model field : String) : Bool :=
  match o.get? model with
  | some names => names.contains field
  | none => false

/-- Adds fields to what is recorded for a model. -/
def extend (o : Outline) (model : String) (names : NameSet) : Outline :=
  o.insert model (((o.get? model).getD .empty).union names)

end Outline

namespace Access

/-! The whole neighbourhood -/

/-- The models that permitted relations of a model lead to. -/
def nextModels (a : Access) (use : FieldUse) (model : String) : List String :=
  match a.catalog.model? model with
  | none => []
  | some m =>
    let allowed := m.fields a.request use
    (m.edges.filter fun edge => allowed.contains edge.field).map Edge.target

/-- The permitted fields of a model; none for a model that is not in the catalog. -/
def fieldsOf (a : Access) (use : FieldUse) (model : String) : NameSet :=
  match a.catalog.model? model with
  | none => .empty
  | some m => m.fields a.request use

def record (a : Access) (use : FieldUse) (o : Outline) (model : String) : Outline :=
  let names := a.fieldsOf use model
  if names.isEmpty then o else o.insert model names

/-- Records a level of models, then what they lead to within the remaining depth. -/
def spread (a : Access) (use : FieldUse) : Nat → NameSet → Outline → Outline
  | depth, level, o =>
    let o := level.toList.foldl (a.record use) o
    if level.isEmpty then o
    else
      match depth with
      | 0 => o
      | depth + 1 => a.spread use depth (.ofList (level.toList.flatMap (a.nextModels use))) o

/-! Requested paths -/

inductive PathFault where
  | notPermitted (field model : String)
  | noRelation (field model : String)
  deriving DecidableEq

namespace PathFault

def message : PathFault → String
  | notPermitted field model =>
    "Field '" ++ field ++ "' is not permitted on model '" ++ model ++ "'."
  | noRelation field model =>
    "Field '" ++ field ++ "' does not exist on model '" ++ model ++ "'."

def toError (fault : PathFault) : Error := .validation fault.message

end PathFault

def recordTarget (a : Access) (use : FieldUse) (o : Outline) (target : String) : Outline :=
  let names := a.fieldsOf use target
  if names.isEmpty then o else o.extend target names

/-- Records the fields along the segments of one path. -/
def follow (a : Access) (use : FieldUse) :
    String → List String → Outline → Except Error Outline
  | _, [], o => .ok o
  | model, segment :: rest, o => do
    let m ← a.catalog.get model
    let permitted := (m.fields a.request use).contains segment
    let o := if permitted then o.extend model (.ofList [segment]) else o
    match rest with
    | [] =>
      match m.target? segment with
      | some target => return if permitted then a.recordTarget use o target else o
      | none => return o
    | _ =>
      if !permitted then
        if a.rejectsUnknown && segment != keyAlias then
          throw (PathFault.notPermitted segment model).toError
        else return o
      else
        match m.kind? segment with
        | some .json => return o
        | some (.toOne target) | some (.toMany target) | some (.reverse target _) =>
          a.follow use target rest o
        | _ =>
          if a.rejectsUnknown && (m.computed? segment).isNone then
            throw (PathFault.noRelation segment model).toError
          else return o

/-- The outline of a root model; `depth` is limited by the rules and ignored when paths are
requested. -/
def outline (a : Access) (model : String) (use : FieldUse) (depth : Nat) (paths : List String) :
    Except Error Outline := do
  let _ ← a.catalog.get model
  if paths.isEmpty then
    return a.spread use (min depth a.rules.maxDepth) (.ofList [model]) .empty
  else
    paths.foldlM (fun o path => a.follow use model (Path.segments path) o)
      (Dict.empty.insert model .empty)

end Access

end GuardedQuery
