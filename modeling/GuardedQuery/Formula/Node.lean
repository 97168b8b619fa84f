import GuardedQuery.Formula
import GuardedQuery.Text.Letter

/-! Formulas as written in update data: a wrapped tree of typed nodes.
Symbols, numeric constants, binary operators, calls and parentheses are understood; the last
leave no trace in the formula. -/

namespace GuardedQuery.Formula

/-- Why a node tree is no formula. -/
inductive Unreadable where
  | noTree
  | noType (node : Value)
  | noName
  | badName (name : String)
  | badConstant (value : Value)
  | noConstant
  | badOperator (op : String)
  | argumentCount (op : String) (count : Nat)
  | noFunction
  | badFunctionNode (node : Value)
  | noFunctionName
  | badFunction (name : String)
  | noArguments (name : String)
  | noContent
  | badType (type : String)

namespace Unreadable

def reason : Unreadable → String
  | noTree => "missing 'ast'"
  | noType node => "missing node type in " ++ node.text
  | noName => "field name is required"
  | badName name => "invalid field name: " ++ name
  | badConstant value => "constant must be numeric, got " ++ value.text
  | noConstant => "constant node is missing 'value'"
  | badOperator op => "unsupported operator: " ++ op
  | argumentCount op count =>
    "expected 2 arguments for operator " ++ op ++ ", got " ++ toString count
  | noFunction => "function node missing 'fn'"
  | badFunctionNode node => "unsupported function node structure: " ++ node.text
  | noFunctionName => "function name not found"
  | badFunction name => "unsupported function: " ++ name
  | noArguments name => "function " ++ name ++ " requires at least one argument"
  | noContent => "parenthesis node missing 'content'"
  | badType type => "unsupported node type: " ++ type

end Unreadable

/-- What is wrong with the formula given for one field. -/
def invalidFor (field reason : String) : Error :=
  .validation ("Invalid F expression for field " ++ field ++ ": " ++ reason)

def marker : String := "__f_expr"

/-- Whether a data value stands for a formula. -/
def isWrapped (value : Value) : Bool :=
  ((value.field? marker).bind Value.bool?).getD false && (value.field? "ast").isSome

def isNameChar (c : Char) : Bool := Text.isAlphanumeric c || c = '_'

def readSymbol (node : Value) : Except Unreadable Formula :=
  match (node.field? "name").bind Value.str? with
  | none => .error .noName
  | some name =>
    if name.isEmpty then .error .noName
    else if name.toList.all isNameChar then .ok (.field name)
    else .error (.badName name)

def readConstant (node : Value) : Except Unreadable Formula :=
  match node.field? "value" with
  | none => .error .noConstant
  | some (.num n) => .ok (.constant n)
  | some other => .error (.badConstant other)

def readFunc (node : Value) : Except Unreadable (String × Func) :=
  match node.field? "fn" with
  | none => .error .noFunction
  | some fn =>
    if (fn.field? "mathjs").bind Value.str? = some "SymbolNode" then
      match (fn.field? "name").bind Value.str? with
      | none => .error .noFunctionName
      | some name =>
        match Func.ofName? name with
        | none => .error (.badFunction name)
        | some f => .ok (name, f)
    else .error (.badFunctionNode fn)

def ofNode (node : Value) : Except Unreadable Formula :=
  match (node.field? "mathjs").bind Value.str? with
  | none => .error (.noType node)
  | some "SymbolNode" => readSymbol node
  | some "ConstantNode" => readConstant node
  | some "OperatorNode" =>
    let opName := ((node.field? "op").bind Value.str?).getD ""
    match Operator.ofName? opName with
    | none => .error (.badOperator opName)
    | some op =>
      match h : node.items "args" with
      | [left, right] => do
        have : sizeOf left < sizeOf node := Value.sizeOf_lt_of_mem_items (by rw [h]; simp)
        have : sizeOf right < sizeOf node := Value.sizeOf_lt_of_mem_items (by rw [h]; simp)
        return .binary op (← ofNode left) (← ofNode right)
      | args => .error (.argumentCount opName args.length)
  | some "FunctionNode" => do
    let (name, f) ← readFunc node
    if (node.items "args").isEmpty then .error (.noArguments name)
    else
      let args ← (node.items "args").attach.mapM fun ⟨arg, h⟩ =>
        have : sizeOf arg < sizeOf node := Value.sizeOf_lt_of_mem_items h
        ofNode arg
      return .call f args
  | some "ParenthesisNode" =>
    match h : node.field? "content" with
    | none => .error .noContent
    | some content =>
      have : sizeOf content < sizeOf node := Value.sizeOf_lt_of_field? h
      ofNode content
  | some other => .error (.badType other)
termination_by sizeOf node

/-- The formula wrapped in the data value of one field. -/
def unwrap (field : String) (value : Value) : Except Error Formula :=
  match value.field? "ast" with
  | none => .error (invalidFor field Unreadable.noTree.reason)
  | some node => (ofNode node).mapError fun fault => invalidFor field fault.reason

end GuardedQuery.Formula
