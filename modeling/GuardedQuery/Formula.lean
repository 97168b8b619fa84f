import GuardedQuery.Error
import GuardedQuery.NameSet
import GuardedQuery.Value.Text

/-! Arithmetic over the columns of a row.
Word-sized integers stay integers except under division; anything else is computed with
fractions. One null or missing column makes the whole result null. -/

namespace GuardedQuery

inductive Operator where
  | add
  | sub
  | mul
  | div
  deriving DecidableEq

inductive Func where
  | abs
  | round
  | floor
  | ceil
  | min
  | max
  deriving DecidableEq

inductive Formula where
  | field (name : String)
  | constant (n : Number)
  | binary (op : Operator) (left right : Formula)
  | call (f : Func) (args : List Formula)

namespace Operator

def name : Operator → String
  | add => "+"
  | sub => "-"
  | mul => "*"
  | div => "/"

def ofName? : String → Option Operator
  | "+" => some add
  | "-" => some sub
  | "*" => some mul
  | "/" => some div
  | _ => none

theorem ofName?_name (op : Operator) : ofName? op.name = some op := by
  cases op <;> rfl

end Operator

namespace Func

def name : Func → String
  | abs => "abs"
  | round => "round"
  | floor => "floor"
  | ceil => "ceil"
  | min => "min"
  | max => "max"

def ofName? : String → Option Func
  | "abs" => some abs
  | "round" => some round
  | "floor" => some floor
  | "ceil" => some ceil
  | "min" => some min
  | "max" => some max
  | _ => none

theorem ofName?_name (f : Func) : ofName? f.name = some f := by
  cases f <;> rfl

end Func

namespace Formula

inductive Fault where
  | notNumeric (name : String) (value : Value)
  | divisionByZero
  | overflow

namespace Fault

def message : Fault → String
  | notNumeric name value => "Field '" ++ name ++ "' is not numeric: " ++ value.text
  | divisionByZero => "Division by zero in F expression"
  | overflow => "Integer overflow in F expression"

def toError (fault : Fault) : Error := .validation fault.message

end Fault

mutual

/-- The fields that a formula reads. -/
def fields : Formula → List String
  | field name => [name]
  | constant _ => []
  | binary _ left right => left.fields ++ right.fields
  | call _ args => listFields args

def listFields : List Formula → List String
  | [] => []
  | arg :: rest => arg.fields ++ listFields rest

end

def references (f : Formula) : NameSet := .ofList f.fields

/-! Evaluation -/

/-- An integer beyond the signed words takes part as a fraction. -/
def operand (n : Number) : Number :=
  match n.word? with
  | some i => .int i
  | none => .float n.toFloat

def checked (i : Int) : Except Fault Number :=
  if fitsWord i then .ok (.int i) else .error .overflow

def apply (op : Operator) (a b : Number) : Except Fault Number :=
  match op, a, b with
  | .div, a, b =>
    if b.toFloat == 0 then .error .divisionByZero else .ok (.float (a.toFloat / b.toFloat))
  | .add, .int a, .int b => checked (a + b)
  | .sub, .int a, .int b => checked (a - b)
  | .mul, .int a, .int b => checked (a * b)
  | .add, a, b => .ok (.float (a.toFloat + b.toFloat))
  | .sub, a, b => .ok (.float (a.toFloat - b.toFloat))
  | .mul, a, b => .ok (.float (a.toFloat * b.toFloat))

/-- The absolute value; the least word has none and yields the greatest. -/
def absolute : Number → Number
  | .int i => .int (min i.natAbs 0x7fffffffffffffff)
  | .float x => .float x.abs

def rounded (rule : Float → Float) : Number → Number
  | .int i => .int i
  | .float x => .float (rule x)

def lesser (a b : Number) : Number := if b.toFloat < a.toFloat then b else a

def greater (a b : Number) : Number := if a.toFloat < b.toFloat then b else a

/-- The value of a function, which all but `min` and `max` take at their first argument. -/
def applyFunc (f : Func) (first : Number) (rest : List Number) : Number :=
  match f with
  | .abs => absolute first
  | .round => rounded Float.round first
  | .floor => rounded Float.floor first
  | .ceil => rounded Float.ceil first
  | .min => rest.foldl lesser first
  | .max => rest.foldl greater first

def column (row : Row) (name : String) : Except Fault (Option Number) :=
  match row.get? name with
  | none | some .null => .ok none
  | some (.num n) => .ok (some (operand n))
  | some other => .error (.notNumeric name other)

mutual

/-- The value on a row, with nothing for null. -/
def eval (row : Row) : Formula → Except Fault (Option Number)
  | field name => column row name
  | constant n => .ok (some (operand n))
  | binary op left right => do
    let a ← left.eval row
    let b ← right.eval row
    match a, b with
    | some a, some b => some <$> apply op a b
    | _, _ => return none
  | call f args => do
    match ← evalAll row args with
    | some (first :: rest) => return some (applyFunc f first rest)
    | _ => return none

/-- The values of all arguments; evaluation ends at the first null. -/
def evalAll (row : Row) : List Formula → Except Fault (Option (List Number))
  | [] => .ok (some [])
  | arg :: rest => do
    match ← arg.eval row with
    | none => return none
    | some a => return (← evalAll row rest).map (a :: ·)

end

def value : Option Number → Value
  | none => .null
  | some (.int i) => .int i
  | some (.float x) => .float x

def evaluate (f : Formula) (row : Row) : Except Fault Value := value <$> f.eval row

end Formula

end GuardedQuery
