import GuardedQuery.Engine.State

/-! Operations that only read. Lists and aggregates are cached; operations on one row are not,
and check the row itself. -/

namespace GuardedQuery

/-- The text of an outline: each model with its fields. -/
def Outline.text (o : Outline) : String :=
  ";".intercalate (o.entries.map fun (model, names) =>
    model ++ "(" ++ ",".intercalate names.toList ++ ")")

namespace Plan
open Engine

/-! Lists -/

def listContext (p : Plan) : String :=
  "read:depth=" ++ toString p.depth ++ ":fields=" ++ p.outline.text

/-- The requested page of the plan's rows. -/
def page (p : Plan) (defaultLimit : Option Nat) : Except Error Selection :=
  p.selection.window (p.query.options.offset.getD 0) (p.query.options.limit.or defaultLimit)

def showSelected (p : Plan) (s : Selection) : Script Value := do
  p.presentAll (← Script.select s)

def listInquiry (p : Plan) (defaultLimit : Option Nat) : Except Error Inquiry := do
  let page ← p.page defaultLimit
  p.inquiry page p.listContext p.outline [] (p.showSelected page)

/-- Lists the rows of a page. Which rows are listed is decided by the selection alone. -/
def list (p : Plan) (defaultLimit : Option Nat) : Run Response := do
  let data ← Run.ofInquiry (← p.listInquiry defaultLimit)
  return (Response.ofData data .rows).withFlag "read" (.bool true)

/-! One row -/

/-- The only row of a selection. -/
def only (p : Plan) (s : Selection) : Script Row := do
  match ← Script.select (← s.window 0 (some 2)) with
  | [] => Script.fail (.notFound ("No " ++ p.name ++ " matches the given query."))
  | [row] => return row
  | _ => Script.fail (.multipleRows ("Multiple " ++ p.name ++ " instances match the given query."))

def requireRow (p : Plan) (row : Row) (action : Action) : Except Error Unit :=
  p.access.requireRow p.name row action

def get (p : Plan) : Script Response := do
  let row ← p.only p.selection
  p.requireRow row .read
  return (Response.ofData (← p.present row) .row).withFlag "get" (.bool true)

def showFirst (p : Plan) (s : Selection) : Script Value := do
  match ← Script.select (← s.window 0 (some 1)) with
  | [] => return .null
  | row :: _ =>
    p.requireRow row .read
    p.present row

def first (p : Plan) : Script Response := do
  return (Response.ofData (← p.showFirst p.selection) .row).withFlag "first" (.bool true)

/-- The first row in reverse order. -/
def last (p : Plan) : Script Response := do
  return (Response.ofData (← p.showFirst p.selection.reversed) .row).withFlag "last" (.bool true)

def exist (p : Plan) : Script Response := do
  let found := Value.bool (decide (0 < (← Script.count p.selection.whole)))
  return (Response.ofData found .truth).withFlag "exists" found

/-! Aggregates -/

def aggregateInquiry (p : Plan) (function : Aggregate) (field : String) : Except Error Inquiry :=
  p.inquiry p.selection.whole (function.name ++ ":" ++ field) .empty [field]
    (Script.aggregate p.selection.whole function field)

def noField : Error := .validation "Field must be provided for aggregate operations."

def single (p : Plan) (function : Aggregate) : Run Response := do
  match p.query.field with
  | none => throw noField
  | some field =>
    let value ← Run.ofInquiry (← p.aggregateInquiry function field)
    return (Response.ofData value .number).withFlag function.name (.bool true)

def addAggregates (p : Plan) : List AggregateTerm → Row → Run Row
  | [], found => return found
  | term :: rest, found => do
    let value ← Run.ofInquiry (← p.aggregateInquiry term.function term.field)
    p.addAggregates rest (found.insert term.alias value)

def aggregate (p : Plan) : Run Response := do
  let found ← p.addAggregates p.query.aggregates []
  return (Response.ofData (.obj found) .number).withFlag "aggregate" (.bool true)

end Plan

end GuardedQuery
