import GuardedQuery.Condition
import GuardedQuery.Value.Text

/-! Row predicates. They are built by `allOf`, `anyOf` and `negate`, which flatten nested
combinations and fold trivial parts away, so trees that differ in such ways only have one
predicate and one text. -/

namespace GuardedQuery

inductive Predicate where
  | all
  | nothing
  | cond (c : Condition)
  | and (parts : List Predicate)
  | or (parts : List Predicate)
  | not (inner : Predicate)

namespace Predicate

instance : Inhabited Predicate := ⟨all⟩

def eq (path : String) (value : Value) : Predicate := cond (.plain path .exact value)

/-- The terms of a conjunction, or nothing when one of its parts holds of no row. -/
def conjuncts : List Predicate → Option (List Predicate)
  | [] => some []
  | all :: rest => conjuncts rest
  | nothing :: _ => none
  | and inner :: rest => (conjuncts rest).map (inner ++ ·)
  | part :: rest => (conjuncts rest).map (part :: ·)

def allOf (parts : List Predicate) : Predicate :=
  match conjuncts parts with
  | none => nothing
  | some [] => all
  | some [term] => term
  | some terms => and terms

/-- The terms of a disjunction, or nothing when one of its parts holds of every row. -/
def disjuncts : List Predicate → Option (List Predicate)
  | [] => some []
  | nothing :: rest => disjuncts rest
  | all :: _ => none
  | or inner :: rest => (disjuncts rest).map (inner ++ ·)
  | part :: rest => (disjuncts rest).map (part :: ·)

def anyOf (parts : List Predicate) : Predicate :=
  match disjuncts parts with
  | none => all
  | some [] => nothing
  | some [term] => term
  | some terms => or terms

def negate : Predicate → Predicate
  | all => nothing
  | nothing => all
  | not inner => inner
  | other => not other

def isNothing : Predicate → Bool
  | nothing => true
  | _ => false

mutual

/-- Every condition, from left to right. -/
def conditions : Predicate → List Condition
  | all | nothing => []
  | cond c => [c]
  | and parts | or parts => listConditions parts
  | not inner => inner.conditions

def listConditions : List Predicate → List Condition
  | [] => []
  | part :: rest => part.conditions ++ listConditions rest

end

/-- The upper case of an ASCII name. -/
def upper (name : String) : String := String.ofList (name.toList.map Char.toUpper)

/-- The text of a condition whose expected value is parameter number `n`. -/
def conditionText (c : Condition) (n : Nat) : String :=
  let subject := match c.part with
    | some part => upper part.name ++ "(" ++ c.path ++ ")"
    | none => c.path
  subject ++ " " ++ upper c.lookup.name ++ " $" ++ toString n

mutual

/-- The text of a predicate; `bound` parameters precede its own. -/
def textFrom (bound : Nat) : Predicate → String
  | all => "TRUE"
  | nothing => "FALSE"
  | cond c => conditionText c (bound + 1)
  | and parts => "(" ++ " AND ".intercalate (textsFrom bound parts) ++ ")"
  | or parts => "(" ++ " OR ".intercalate (textsFrom bound parts) ++ ")"
  | not inner => "NOT " ++ inner.textFrom bound

def textsFrom (bound : Nat) : List Predicate → List String
  | [] => []
  | part :: rest =>
    part.textFrom bound :: textsFrom (bound + part.conditions.length) rest

end

def text (p : Predicate) : String := p.textFrom 0

/-- The expected values, in the order of the parameters of `text`. -/
def params (p : Predicate) : List Value := p.conditions.map (·.value)

end Predicate

end GuardedQuery
