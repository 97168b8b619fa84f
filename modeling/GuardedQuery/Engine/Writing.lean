import GuardedQuery.Engine.State
import GuardedQuery.Engine.Reading
import GuardedQuery.Preparation

/-! Operations that write. Each is one script, to be run within a transaction, and ends with a
response and the events that are due if the transaction commits. Data is prepared and rows are
checked before the first write. -/

namespace GuardedQuery

structure Written where
  response : Response
  events : List Event

namespace Plan

def eventsOf (p : Plan) (kind : EventKind) (keys : List Value) : List Event :=
  Event.ofWrite kind p.name p.keyName p.request.operationId keys

/-! New rows -/

def create (p : Plan) : Script Written := do
  let data ← p.query.dataRow
  let row ← Script.insert p.name (← p.access.newRow p.name data)
  let shown ← p.present row
  return {
    response := (Response.ofData shown .row).withFlag "created" (.bool true)
    events := p.eventsOf .create [p.keyOf row] }

def bulkCreate (p : Plan) : Script Written := do
  let items ← p.query.dataRows
  let rows ← (items.mapM (p.access.newRow p.name) : Except Error (List Row))
  let created ← Script.insertMany p.name rows
  let shown ← p.presentAll created
  return {
    response := ((Response.ofData shown .rows).withFlag "created" (.bool true)).withFlag
      "created_count" (.int created.length)
    events := p.eventsOf .bulkCreate (created.map p.keyOf) }

/-! All selected rows -/

/-- What an update shows: the updated fields and their companions, as far as they can be read. -/
def updateOutline (p : Plan) (updated : List String) : Outline :=
  let readable := p.model.fields p.request .read
  let companions := updated.flatMap fun field =>
    ((p.model.companions.get? field).getD .empty).toList
  Dict.empty.insert p.name ((NameSet.ofList (updated ++ companions)).inter readable)

def update (p : Plan) : Script Written := do
  let data ← p.access.prepare p.name (← p.query.dataRow) .update
  let changes ← p.access.changes p.name data
  let target := p.selection.whole
  p.access.requireBulk p.name (← Script.select target) .update
  let keys ← Script.updateWhere target changes
  let rows ← Script.select ((Selection.ofModel p.name).withKeys keys)
  let shown ← p.access.presentAll (p.updateOutline data.names) 0 p.name rows
  return {
    response := ((Response.ofData shown .rows).withFlag "updated" (.bool true)).withFlag
      "updated_count" (.int keys.length)
    events := p.eventsOf .bulkUpdate keys }

def delete (p : Plan) : Script Written := do
  let target := p.selection.whole
  p.access.requireBulk p.name (← Script.select target) .delete
  let keys ← Script.deleteWhere target
  let deleted := keys.map fun key => Value.obj [(p.keyName, key)]
  return {
    response := (((Response.ofData .null .number).withFlag "deleted" (.bool true)).withFlag
      "deleted_count" (.int keys.length)).withFlag "rows_deleted" (.arr deleted)
    events := p.eventsOf .bulkDelete keys }

/-! One row -/

def filterRequired (p : Plan) : Error :=
  .validation ("Filter is required for " ++ p.query.operation.name ++ " operation")

/-- The one row that an operation on an instance is about. -/
def target (p : Plan) : Script Row :=
  if p.query.filter.isEmpty then Script.fail p.filterRequired else p.only p.selection

/-- Changes the row with a primary key by what the caller sent. -/
def change (p : Plan) (key : Value) (data : Row) : Script Row := do
  let data ← p.access.prepare p.name data .update
  Script.updateRow p.name key (← p.access.changes p.name data)

def updateInstance (p : Plan) : Script Written := do
  let row ← p.target
  p.requireRow row .update
  let updated ← p.change (p.keyOf row) (← p.query.dataRow)
  let shown ← p.present updated
  return {
    response := (Response.ofData shown .row).withFlag "updated" (.bool true)
    events := p.eventsOf .update [p.keyOf row] }

def deleteInstance (p : Plan) : Script Written := do
  let row ← p.target
  p.requireRow row .delete
  let keys ← Script.deleteWhere ((Selection.ofModel p.name).withKeys [p.keyOf row])
  return {
    response := (Response.ofData (.bool true) .truth).withFlag "deleted" (.bool true)
    events := p.eventsOf .delete keys }

/-! One row, or a new one -/

/-- The data of the row to create on a miss: the lookup by plain names, then the defaults. -/
def creationData (p : Plan) : Row :=
  let plain := p.query.lookup.filter fun entry => Path.separators entry.1 = 0
  let named := plain.map fun entry => (if entry.1 = keyAlias then p.keyName else entry.1, entry.2)
  Entries.ofList (named ++ p.query.defaults)

def lookupPredicate (p : Plan) : Except Error Predicate :=
  (FilterTree.conjunction p.query.lookup).mapError Condition.Fault.toError

/-- The row that the lookup finds among those that the caller may see, if any. -/
def lookUp (p : Plan) : Script (Option Row) := do
  let s := p.selection.narrow (← p.lookupPredicate)
  match ← Script.select (← s.window 0 (some 2)) with
  | [] => return none
  | [row] => return some row
  | _ => Script.fail (.multipleRows ("Multiple " ++ p.name ++ " instances match the given lookup."))

def createMissing (p : Plan) : Script Row := do
  p.access.requireAction p.name .create
  Script.insert p.name (← p.access.newRow p.name p.creationData)

def getOrCreate (p : Plan) : Script Written := do
  match ← p.lookUp with
  | some row =>
    p.requireRow row .read
    return {
      response := (Response.ofData (← p.present row) .row).withFlag "created" (.bool false)
      events := [] }
  | none =>
    let row ← p.createMissing
    return {
      response := (Response.ofData (← p.present row) .row).withFlag "created" (.bool true)
      events := p.eventsOf .create [p.keyOf row] }

def updateOrCreate (p : Plan) : Script Written := do
  match ← p.lookUp with
  | some row =>
    p.requireRow row .update
    let updated ← p.change (p.keyOf row) p.query.defaults
    return {
      response := ((Response.ofData (← p.present updated) .row).withFlag
        "created" (.bool false)).withFlag "updated" (.bool true)
      events := p.eventsOf .update [p.keyOf row] }
  | none =>
    let row ← p.createMissing
    return {
      response := ((Response.ofData (← p.present row) .row).withFlag
        "created" (.bool true)).withFlag "updated" (.bool false)
      events := p.eventsOf .create [p.keyOf row] }

end Plan

end GuardedQuery
