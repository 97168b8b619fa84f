import GuardedQuery.Error
import GuardedQuery.Path
import GuardedQuery.Value

/-! Conditions on a field: a path, a lookup, an expected value and, before the comparison,
possibly a part of a date. A filter key such as `created__year__gte` names all but the value. -/

namespace GuardedQuery

inductive Lookup where
  | exact
  | iexact
  | contains
  | icontains
  | startsWith
  | istartsWith
  | endsWith
  | iendsWith
  | gt
  | gte
  | lt
  | lte
  | oneOf
  | isNull
  | range
  | regex
  | iregex
  deriving DecidableEq

namespace Lookup

def name : Lookup → String
  | exact => "exact"
  | iexact => "iexact"
  | contains => "contains"
  | icontains => "icontains"
  | startsWith => "startswith"
  | istartsWith => "istartswith"
  | endsWith => "endswith"
  | iendsWith => "iendswith"
  | gt => "gt"
  | gte => "gte"
  | lt => "lt"
  | lte => "lte"
  | oneOf => "in"
  | isNull => "isnull"
  | range => "range"
  | regex => "regex"
  | iregex => "iregex"

/-- The lookup of a name; `eq` is another name of `exact`. -/
def ofName? : String → Option Lookup
  | "exact" | "eq" => some exact
  | "iexact" => some iexact
  | "contains" => some contains
  | "icontains" => some icontains
  | "startswith" => some startsWith
  | "istartswith" => some istartsWith
  | "endswith" => some endsWith
  | "iendswith" => some iendsWith
  | "gt" => some gt
  | "gte" => some gte
  | "lt" => some lt
  | "lte" => some lte
  | "in" => some oneOf
  | "isnull" => some isNull
  | "range" => some range
  | "regex" => some regex
  | "iregex" => some iregex
  | _ => none

theorem ofName?_name (l : Lookup) : ofName? l.name = some l := by
  cases l <;> rfl

end Lookup

/-- A part of a date or time, compared in place of the whole. -/
inductive DatePart where
  | year
  | month
  | day
  | hour
  | minute
  | second
  | week
  | weekDay
  | isoWeekDay
  | quarter
  | isoYear
  | date
  | time
  deriving DecidableEq

namespace DatePart

def name : DatePart → String
  | year => "year"
  | month => "month"
  | day => "day"
  | hour => "hour"
  | minute => "minute"
  | second => "second"
  | week => "week"
  | weekDay => "week_day"
  | isoWeekDay => "iso_week_day"
  | quarter => "quarter"
  | isoYear => "iso_year"
  | date => "date"
  | time => "time"

def ofName? : String → Option DatePart
  | "year" => some year
  | "month" => some month
  | "day" => some day
  | "hour" => some hour
  | "minute" => some minute
  | "second" => some second
  | "week" => some week
  | "week_day" => some weekDay
  | "iso_week_day" => some isoWeekDay
  | "quarter" => some quarter
  | "iso_year" => some isoYear
  | "date" => some date
  | "time" => some time
  | _ => none

theorem ofName?_name (p : DatePart) : ofName? p.name = some p := by
  cases p <;> rfl

end DatePart

/-- Whether a key segment can be a lookup or a date part. -/
def isModifier (segment : String) : Bool :=
  (Lookup.ofName? segment).isSome || (DatePart.ofName? segment).isSome

/-- What a filter key says: field names, then an optional date part, then an optional lookup. -/
structure FilterKey where
  names : List String
  part : Option DatePart
  lookup : Option Lookup

namespace FilterKey

/-- Takes a modifier off the end, but never the only name. -/
def takeLast {α : Type} (modifier? : String → Option α) (names : List String) :
    List String × Option α :=
  if 1 < names.length then
    match names.getLast?.bind modifier? with
    | some modifier => (names.dropLast, some modifier)
    | none => (names, none)
  else (names, none)

def read (key : String) : FilterKey :=
  let (names, lookup) := takeLast Lookup.ofName? (Path.segments key)
  let (names, part) := takeLast DatePart.ofName? names
  ⟨names, part, lookup⟩

end FilterKey

/-- The field names of a filter key, without its modifiers. -/
def fieldNames (key : String) : List String := (FilterKey.read key).names

structure Condition where
  path : String
  part : Option DatePart
  lookup : Lookup
  value : Value

namespace Condition

inductive Fault where
  | emptyName (key : String)
  | listExpected (key : String)
  | pairExpected (key : String)
  | flagExpected (key : String)
  deriving DecidableEq

namespace Fault

def message : Fault → String
  | emptyName key => "Invalid filter key '" ++ key ++ "'"
  | listExpected key => "Lookup 'in' on '" ++ key ++ "' expects a list"
  | pairExpected key => "Lookup 'range' on '" ++ key ++ "' expects a list of two values"
  | flagExpected key => "Lookup 'isnull' on '" ++ key ++ "' expects a boolean"

def toError (fault : Fault) : Error := .validation fault.message

end Fault

/-- The fault of a value that does not fit its lookup. -/
def misfit? (key : String) (value : Value) : Lookup → Option Fault
  | .oneOf => if value.arr?.isSome then none else some (.listExpected key)
  | .range => if (value.arr?.map List.length) = some 2 then none else some (.pairExpected key)
  | .isNull => if value.bool?.isSome then none else some (.flagExpected key)
  | _ => none

def read (key : String) (value : Value) : Except Fault Condition :=
  let parts := FilterKey.read key
  let lookup := parts.lookup.getD .exact
  if parts.names.any (·.isEmpty) then .error (.emptyName key)
  else
    match misfit? key value lookup with
    | some fault => .error fault
    | none => .ok ⟨Path.join parts.names, parts.part, lookup, value⟩

/-- The plain comparison of a path with a value. -/
def plain (path : String) (lookup : Lookup) (value : Value) : Condition :=
  ⟨path, none, lookup, value⟩

def segments (c : Condition) : List String := Path.segments c.path

end Condition

end GuardedQuery
