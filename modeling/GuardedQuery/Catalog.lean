import GuardedQuery.Model

/-! The catalog of all models. It is built once, and building it checks that relations lead to
models of the catalog, that reverse relations have a relation to reverse, and that computed
fields have names of their own. -/

namespace GuardedQuery

structure Catalog where
  models : Dict Model

namespace Catalog

def model? (c : Catalog) (name : String) : Option Model := c.models.get? name

def get (c : Catalog) (name : String) : Except Error Model :=
  match c.model? name with
  | some m => .ok m
  | none => .error (.unknownModel name)

theorem get_ok_iff {c : Catalog} {name : String} {m : Model} :
    c.get name = .ok m ↔ c.model? name = some m := by
  rw [get]
  cases c.model? name <;> simp

def contains (c : Catalog) (name : String) : Bool := c.models.contains name

def names (c : Catalog) : List String := c.models.names

/-- Whether a field stands for the primary key; the alias does so for every model name. -/
def isKey (c : Catalog) (model field : String) : Except Error Bool :=
  if field = keyAlias then .ok true else return (← c.get model).isKey field

/-! Building -/

def checkDistinct : List String → List Model → Except Error Unit
  | _, [] => .ok ()
  | earlier, m :: rest =>
    if earlier.contains m.name then .error (.duplicateModel m.name)
    else checkDistinct (m.name :: earlier) rest

def checkComputed (m : Model) : Except Error Unit :=
  match m.computed.find? fun f => (m.schema.field? f.name).isSome with
  | some f => .error (.internal ("computed field '" ++ f.name ++
      "' shadows a declared field on model '" ++ m.name ++ "'"))
  | none => .ok ()

/-- What is wrong with a reverse relation of `m`, if anything. -/
def reverseFault? (models : Dict Model) (m : Model) (field : Field) : Option Error :=
  match field.kind with
  | .reverse target via =>
    match models.get? target with
    | none => some (.unknownModel target)
    | some t =>
      if t.schema.kind? via = some (.toOne m.name) then none
      else some (.internal ("reverse relation '" ++ m.name ++ "." ++ field.name ++ "' needs '" ++
        target ++ "." ++ via ++ "' to be a to-one relation back to '" ++ m.name ++ "'"))
  | _ => none

def edgeFault? (models : Dict Model) (edge : Edge) : Option Error :=
  if models.contains edge.target then none else some (.unknownModel edge.target)

def rejectFirst (faults : List Error) : Except Error Unit :=
  match faults with
  | [] => .ok ()
  | fault :: _ => .error fault

def build (models : List Model) : Except Error Catalog := do
  checkDistinct [] models
  models.forM checkComputed
  let all := Dict.ofList (models.map fun m => (m.name, m))
  rejectFirst (all.values.flatMap fun m => m.schema.fields.filterMap (reverseFault? all m))
  rejectFirst (all.values.flatMap fun m => m.edges.filterMap (edgeFault? all))
  return ⟨all⟩

/-! Following paths -/

/-- The models that relations named by the segments lead to, whether visible or not. The walk
ends at the first segment that is no relation. -/
def modelsAlong (c : Catalog) : String → List String → Except Error (List String)
  | _, [] => .ok []
  | name, segment :: rest => do
    let m ← c.get name
    match (m.schema.kind? segment).bind FieldKind.target? with
    | some target => return target :: (← c.modelsAlong target rest)
    | none => return []

end Catalog

end GuardedQuery
