import GuardedQuery.Catalog

/-! What one request may do: the guards of each model, combined.
Without guards nothing is allowed. -/

namespace GuardedQuery

/-- What happens to field names that a model does not have. -/
inductive UnknownFields where
  | reject
  | drop
  deriving DecidableEq

namespace UnknownFields

def name : UnknownFields → String
  | reject => "error"
  | drop => "ignore"

def faultText (text : String) : String :=
  "unknown field policy '" ++ text ++ "', expected 'error' or 'ignore'"

def read (text : String) : Except String UnknownFields :=
  match text with
  | "error" => .ok reject
  | "ignore" => .ok drop
  | _ => .error (faultText text)

theorem read_name (u : UnknownFields) : read u.name = .ok u := by
  cases u <;> rfl

end UnknownFields

structure AccessRules where
  unknownFields : UnknownFields
  /-- The greatest depth that relations are followed to. -/
  maxDepth : Nat

def AccessRules.default : AccessRules := ⟨.reject, 5⟩

namespace Model

/-- The actions that any guard allows. -/
def actions (m : Model) (request : Request) : List Action :=
  m.guards.flatMap (·.actions request)

/-- The part of a model's fields that a guard grants for a use. -/
def granted (m : Model) (request : Request) (use : FieldUse) (g : Guard) : NameSet :=
  if use.action ∈ g.actions request then
    match g.fields request use with
    | .all => m.allFields
    | .only names => names.inter m.allFields
  else .empty

/-- The fields that the guards grant together. -/
def fields (m : Model) (request : Request) (use : FieldUse) : NameSet :=
  m.guards.foldl (fun names g => names.union (m.granted request use g)) .empty

/-- Narrows a selection to the admitted rows, then removes the hidden ones. -/
def scope (m : Model) (request : Request) (s : Selection) : Selection :=
  if m.guards.isEmpty then s
  else
    m.guards.foldl (fun s g => s.without (g.hidden request))
      (s.narrow (.anyOf (m.guards.map (·.admitted request))))

def allowsRow (m : Model) (request : Request) (action : Action) (row : Row) : Bool :=
  m.guards.any fun g => decide (action ∈ g.rowActions request row)

def allowsBulk (m : Model) (request : Request) (action : Action) (rows : List Row) : Bool :=
  m.guards.any fun g => g.allowsBulk request action rows

end Model

structure Access where
  catalog : Catalog
  request : Request
  rules : AccessRules

namespace Access

/-- Why a request is turned away. -/
inductive Denial where
  | action (action : Action) (model : String)
  | row (action : Action)
  | bulk (action : Action)
  deriving DecidableEq

namespace Denial

def message : Denial → String
  | action a model =>
    "Permission denied: You do not have " ++ a.name ++ " permission on model '" ++ model ++ "'"
  | row a => "Object-level permission denied: Missing " ++ a.name ++ " on object"
  | bulk a => "Bulk " ++ a.name ++ " operation not permitted on queryset"

def toError (denial : Denial) : Error := .permissionDenied denial.message

end Denial

def actions (a : Access) (model : String) : Except Error (List Action) :=
  return (← a.catalog.get model).actions a.request

def allows (a : Access) (model : String) (action : Action) : Except Error Bool :=
  return decide (action ∈ (← a.actions model))

def requireAction (a : Access) (model : String) (action : Action) : Except Error Unit := do
  if !(← a.allows model action) then throw (Denial.action action model).toError

def fields (a : Access) (model : String) (use : FieldUse) : Except Error NameSet :=
  return (← a.catalog.get model).fields a.request use

def scope (a : Access) (model : String) (s : Selection) : Except Error Selection :=
  return (← a.catalog.get model).scope a.request s

def requireRow (a : Access) (model : String) (row : Row) (action : Action) :
    Except Error Unit := do
  if !(← a.catalog.get model).allowsRow a.request action row then
    throw (Denial.row action).toError

/-- Up to one row is checked by itself, more are checked together. -/
def requireBulk (a : Access) (model : String) (rows : List Row) (action : Action) :
    Except Error Unit := do
  match rows with
  | [] => return ()
  | [row] => a.requireRow model row action
  | rows =>
    if !(← a.catalog.get model).allowsBulk a.request action rows then
      throw (Denial.bulk action).toError

def rejectsUnknown (a : Access) : Bool := a.rules.unknownFields = .reject

/-- The names of data fields that the model does not have. -/
def unknownNames (m : Model) (data : Row) : List String :=
  data.names.filter fun name => !m.allFields.contains name && name != keyAlias

def unknownFault (m : Model) (names : List String) : Error :=
  .validation ("Unknown field(s): " ++ ", ".intercalate names ++ ". Valid fields are: " ++
    ", ".intercalate m.allFields.toList)

/-- The part of the data that the caller may write. Fields that the model does not have are
rejected unless the rules drop them; the rest is dropped silently. -/
def writable (a : Access) (model : String) (data : Row) (use : FieldUse) : Except Error Row := do
  let m ← a.catalog.get model
  let unknown := unknownNames m data
  if a.rejectsUnknown && !unknown.isEmpty then throw (unknownFault m unknown)
  let allowed := m.fields a.request use
  return data.filter fun entry => allowed.contains entry.1 && m.schema.columns.contains entry.1

end Access

end GuardedQuery
