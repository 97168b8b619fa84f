import GuardedQuery.Error

/-! Aggregate functions over the values of a field. -/

namespace GuardedQuery

inductive Aggregate where
  | count
  | sum
  | avg
  | min
  | max
  deriving DecidableEq

namespace Aggregate

def name : Aggregate → String
  | count => "count"
  | sum => "sum"
  | avg => "avg"
  | min => "min"
  | max => "max"

def ofName? : String → Option Aggregate
  | "count" => some count
  | "sum" => some sum
  | "avg" => some avg
  | "min" => some min
  | "max" => some max
  | _ => none

theorem ofName?_name (a : Aggregate) : ofName? a.name = some a := by
  cases a <;> rfl

def read (name : String) : Except Error Aggregate :=
  match ofName? name with
  | some a => .ok a
  | none => .error (.validation ("Unknown aggregation function: " ++ name))

end Aggregate

end GuardedQuery
