import GuardedQuery.Value

/-! Comparing values. Word-sized integers are compared exactly, other numbers as fractions. -/

namespace GuardedQuery

namespace Number

def equal (a b : Number) : Bool :=
  match a.word?, b.word? with
  | some i, some j => i == j
  | _, _ => a.toFloat == b.toFloat

def compare? (a b : Number) : Option Ordering :=
  match a.word?, b.word? with
  | some i, some j => some (compare i j)
  | _, _ =>
    if a.toFloat < b.toFloat then some .lt
    else if a.toFloat == b.toFloat then some .eq
    else if b.toFloat < a.toFloat then some .gt
    else none

end Number

namespace Value

/-- Equality under which `1` and `1.0` are the same number; inside lists and objects they are
still told apart. -/
def equal : Value → Value → Bool
  | num a, num b => a.equal b
  | a, b => a.same b

/-- The order of two values of one simple kind. -/
def compare? : Value → Value → Option Ordering
  | num a, num b => a.compare? b
  | str a, str b => some (compare a b)
  | bool a, bool b => some (compare a b)
  | null, null => some .eq
  | _, _ => none

def rank : Value → Nat
  | null => 0
  | bool _ => 1
  | num _ => 2
  | str _ => 3
  | arr _ => 4
  | obj _ => 5

/-- The order that rows are sorted by: kinds one after another, values of a kind by `compare?`
and all lists and all objects alike. -/
def order (a b : Value) : Ordering :=
  (compare a.rank b.rank).then ((a.compare? b).getD .eq)

end Value

end GuardedQuery
