import GuardedQuery.Value

/-! Events tell which rows a request has written. An event about one row goes to the audience
of its model, an event about many rows to the global audience first. -/

namespace GuardedQuery

inductive EventKind where
  | create
  | update
  | delete
  | bulkCreate
  | bulkUpdate
  | bulkDelete
  deriving DecidableEq

namespace EventKind

def name : EventKind → String
  | create => "create"
  | update => "update"
  | delete => "delete"
  | bulkCreate => "bulk_create"
  | bulkUpdate => "bulk_update"
  | bulkDelete => "bulk_delete"

def isBulk : EventKind → Bool
  | bulkCreate | bulkUpdate | bulkDelete => true
  | create | update | delete => false

end EventKind

structure Event where
  kind : EventKind
  model : String
  audience : String
  /-- The primary keys of the rows. -/
  keys : List Value
  keyName : String
  operationId : Option String

namespace Event

def globalAudience : String := "global"

def audiences (kind : EventKind) (model : String) : List String :=
  if kind.isBulk then [globalAudience, model] else [model]

/-- The events of one write; none if it concerned no row. -/
def ofWrite (kind : EventKind) (model keyName : String) (operationId : Option String)
    (keys : List Value) : List Event :=
  if keys.isEmpty then []
  else (audiences kind model).map fun audience =>
    ⟨kind, model, audience, keys, keyName, operationId⟩

end Event

/-- What has become of an event that was handed over; a failure is kept but has no effect. -/
structure Delivery where
  event : Event
  outcome : Except String Unit

/-- Hands the events over one after another, whatever becomes of them. -/
def Delivery.ofEvents (emit : Event → Except String Unit) (events : List Event) : List Delivery :=
  events.map fun event => ⟨event, emit event⟩

end GuardedQuery
