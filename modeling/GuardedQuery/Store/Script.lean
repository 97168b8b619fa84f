import GuardedQuery.Store.Write

/-! Scripts: what a request does with the store, one call after another. A script shows every
call before its reply is known, so the calls of several scripts can be interleaved as well as
run in one go (`Script.run`). A failing call ends its script. -/

namespace GuardedQuery

namespace Store

inductive Call where
  | select (selection : Selection)
  | count (selection : Selection)
  | aggregate (selection : Selection) (function : Aggregate) (field : String)
  | related (model : String) (row : Row) (field : String)
  | insert (model : String) (row : Row)
  | insertMany (model : String) (rows : List Row)
  | updateRow (model : String) (key : Value) (changes : Changes)
  | updateWhere (selection : Selection) (changes : Changes)
  | deleteWhere (selection : Selection)

namespace Call

abbrev Reply : Call → Type
  | select _ => List Row
  | count _ => Nat
  | aggregate .. => Value
  | related .. => List Row
  | insert .. => Row
  | insertMany .. => List Row
  | updateRow .. => Row
  | updateWhere .. => List Value
  | deleteWhere _ => List Value

/-- Whether the call may change the store. -/
def isWrite : Call → Bool
  | select _ | count _ | aggregate .. | related .. => false
  | _ => true

end Call

def ask {α : Type} (s : Store) (reply : Except Error α) : Except GuardedQuery.Error α × Store :=
  (reply.mapError Error.toError, s)

def settle {α : Type} (outcome : Except Error α × Store) : Except GuardedQuery.Error α × Store :=
  (outcome.1.mapError Error.toError, outcome.2)

/-- Answers a call. -/
def answer (s : Store) : (c : Call) → Except GuardedQuery.Error c.Reply × Store
  | .select selection => s.ask (s.select selection)
  | .count selection => s.ask (s.count selection)
  | .aggregate selection function field => (s.aggregate selection function field, s)
  | .related model row field => s.ask (s.related model row field)
  | .insert model row => settle (s.insert model row)
  | .insertMany model rows => settle (s.insertMany model rows)
  | .updateRow model key changes => s.updateRow model key changes
  | .updateWhere selection changes => s.updateWhere selection changes
  | .deleteWhere selection => settle (s.deleteWhere selection)

theorem answer_of_not_isWrite (s : Store) (c : Call) (h : c.isWrite = false) :
    (s.answer c).2 = s := by
  cases c with
  | select | count | aggregate | related => rfl
  | insert | insertMany | updateRow | updateWhere | deleteWhere => simp [Call.isWrite] at h

end Store

inductive Script (α : Type) where
  | done (result : Except Error α)
  | call (c : Store.Call) (next : c.Reply → Script α)

namespace Script
variable {α β : Type}

def bind (script : Script α) (next : α → Script β) : Script β :=
  match script with
  | done (.ok a) => next a
  | done (.error e) => done (.error e)
  | call c rest => call c fun reply => (rest reply).bind next

instance : Monad Script where
  pure a := done (.ok a)
  bind := bind

instance : MonadLift (Except Error) Script := ⟨done⟩

def fail (e : Error) : Script α := done (.error e)

/-- The script of one call. -/
def request (c : Store.Call) : Script c.Reply := call c fun reply => done (.ok reply)

def select (selection : Selection) : Script (List Row) := request (.select selection)

def count (selection : Selection) : Script Nat := request (.count selection)

def aggregate (selection : Selection) (function : Aggregate) (field : String) : Script Value :=
  request (.aggregate selection function field)

def related (model : String) (row : Row) (field : String) : Script (List Row) :=
  request (.related model row field)

def insert (model : String) (row : Row) : Script Row := request (.insert model row)

def insertMany (model : String) (rows : List Row) : Script (List Row) :=
  request (.insertMany model rows)

def updateRow (model : String) (key : Value) (changes : Changes) : Script Row :=
  request (.updateRow model key changes)

def updateWhere (selection : Selection) (changes : Changes) : Script (List Value) :=
  request (.updateWhere selection changes)

def deleteWhere (selection : Selection) : Script (List Value) := request (.deleteWhere selection)

/-- Runs all calls in one go. -/
def run (script : Script α) (s : Store) : Except Error α × Store :=
  match script with
  | done result => (result, s)
  | call c next =>
    match s.answer c with
    | (.ok reply, s) => (next reply).run s
    | (.error e, s) => (.error e, s)

@[simp] theorem run_done (result : Except Error α) (s : Store) :
    (done result : Script α).run s = (result, s) := rfl

theorem run_bind (script : Script α) (next : α → Script β) (s : Store) :
    (script.bind next).run s =
      match script.run s with
      | (.ok a, s) => (next a).run s
      | (.error e, s) => (.error e, s) := by
  induction script generalizing s with
  | done result => cases result <;> rfl
  | call c rest ih =>
    rw [bind, run, run]
    match s.answer c with
    | (.ok reply, t) => exact ih reply t
    | (.error e, t) => rfl

end Script

end GuardedQuery
