import GuardedQuery.NameSet
import GuardedQuery.Predicate
import GuardedQuery.Request

/-! Guards decide what a request may do with the rows of a model.
Several guards of one model are combined elsewhere: actions, fields and admitted rows are
united, and the rows that any of them hides are removed afterwards. -/

namespace GuardedQuery

inductive Action where
  | create
  | read
  | update
  | delete
  | bulkCreate
  deriving DecidableEq

namespace Action

def name : Action → String
  | create => "create"
  | read => "read"
  | update => "update"
  | delete => "delete"
  | bulkCreate => "bulk_create"

def all : List Action := [create, read, update, delete, bulkCreate]

theorem mem_all (a : Action) : a ∈ all := by
  cases a <;> decide

end Action

/-- What fields are wanted for. -/
inductive FieldUse where
  | read
  | create
  | update
  deriving DecidableEq

/-- The action that a guard must allow before its fields count. -/
def FieldUse.action : FieldUse → Action
  | read => .read
  | create => .create
  | update => .update

inductive FieldGrant where
  /-- Every field that the model shows. -/
  | all
  | only (names : NameSet)

structure Guard where
  actions : Request → List Action
  fields : Request → FieldUse → FieldGrant
  admitted : Request → Predicate
  hidden : Request → Predicate
  rowActions : Request → Row → List Action
  /-- Whether an action may be applied to all of several rows at once. -/
  allowsBulk : Request → Action → List Row → Bool

namespace Guard

/-- The usual rule for bulk actions: each row allows the action by itself. -/
def eachRow (rowActions : Request → Row → List Action) (request : Request) (action : Action)
    (rows : List Row) : Bool :=
  rows.all fun row => decide (action ∈ rowActions request row)

/-- Everything when the condition holds, nothing otherwise. -/
def gate (isOpen : Request → Bool) : Guard where
  actions request := if isOpen request then Action.all else []
  fields request _ := if isOpen request then .all else .only .empty
  admitted request := if isOpen request then .all else .nothing
  hidden _ := .nothing
  rowActions request _ := if isOpen request then Action.all else []
  allowsBulk := eachRow fun request _ => if isOpen request then Action.all else []

def allowAll : Guard := gate fun _ => true

def authenticated : Guard := gate (·.identity.isAuthenticated)

def staff : Guard := gate (·.identity.isStaff)

end Guard

end GuardedQuery
