import GuardedQuery.Aggregate
import GuardedQuery.Value.Compare

/-! What an aggregate function makes of the values of a field, null values left out. -/

namespace GuardedQuery.Aggregate

def notNumeric (a : Aggregate) (field : String) : Error :=
  .validation ("Cannot compute " ++ a.name ++ " over non-numeric field '" ++ field ++ "'")

def numbers (a : Aggregate) (field : String) (values : List Value) : Except Error (List Number) :=
  values.mapM fun value =>
    match value.num? with
    | some n => .ok n
    | none => .error (a.notNumeric field)

/-- The sum of words, as long as all partial sums are words too. -/
def wordSum? (ns : List Number) : Option Int :=
  ns.foldl (fun total n => do
    let sum := (← total) + (← n.word?)
    if fitsWord sum then some sum else none) (some 0)

/-- The sum as fractions. It starts at minus zero, which changes no summand. -/
def fractionSum (ns : List Number) : Float := ns.foldl (fun total n => total + n.toFloat) (-0.0)

def sumOf (ns : List Number) : Value :=
  match wordSum? ns with
  | some total => .int total
  | none => .float (fractionSum ns)

def averageOf (ns : List Number) : Value := .float (fractionSum ns / Float.ofNat ns.length)

/-- The first of the least values. -/
def least (first : Value) (rest : List Value) : Value :=
  rest.foldl (fun best v => if (v.order best).isLT then v else best) first

/-- The last of the greatest values. -/
def greatest (first : Value) (rest : List Value) : Value :=
  rest.foldl (fun best v => if (v.order best).isLT then best else v) first

/-- The value of an aggregate; all but the count of no values are null. -/
def result (a : Aggregate) (field : String) (values : List Value) : Except Error Value :=
  match a, values with
  | count, _ => .ok (.int values.length)
  | _, [] => .ok .null
  | min, first :: rest => .ok (least first rest)
  | max, first :: rest => .ok (greatest first rest)
  | sum, _ => sumOf <$> a.numbers field values
  | avg, _ => averageOf <$> a.numbers field values

end GuardedQuery.Aggregate
