import GuardedQuery.Predicate

/-! Filter trees, as callers write them, and the predicates they stand for.
A filter node asks for all of its conditions and, when it has groups, for all conditions of at
least one group. An empty disjunction asks for nothing. -/

namespace GuardedQuery

inductive FilterTree where
  | filter (conditions : Row) (groups : List Row)
  | and (children : List FilterTree)
  | or (children : List FilterTree)
  | not (child : FilterTree)
  /-- Stands where a search is; the search itself is stated elsewhere. -/
  | search
  | empty

namespace FilterTree

instance : Inhabited FilterTree := ⟨empty⟩

inductive Fault where
  | objectExpected (value : Value)
  | conditionsExpected (value : Value)
  | groupExpected
  | groupsExpected
  | childrenExpected
  | unknownType (type : String)

namespace Fault

def message : Fault → String
  | objectExpected value => "Filter node must be an object, got " ++ value.text
  | conditionsExpected value => "Filter conditions must be an object, got " ++ value.text
  | groupExpected => "Each entry of 'Q' must be an object"
  | groupsExpected => "'Q' must be a list"
  | childrenExpected => "'children' must be a list"
  | unknownType type => "Unsupported AST node type: " ++ type

def toError (fault : Fault) : Error := .validation fault.message

end Fault

def isEmpty : FilterTree → Bool
  | empty => true
  | _ => false

/-! Reading -/

def readConditions (node : Value) : Except Fault Row :=
  match node.field? "conditions" with
  | none | some .null => .ok []
  | some (.obj conditions) => .ok conditions
  | some other => .error (.conditionsExpected other)

def readGroup : Value → Except Fault Row
  | .obj group => .ok group
  | _ => .error .groupExpected

def readGroups (node : Value) : Except Fault (List Row) :=
  match node.field? "Q" with
  | none | some .null => .ok []
  | some (.arr groups) => groups.mapM readGroup
  | some _ => .error .groupsExpected

def readFilter (node : Value) : Except Fault FilterTree := do
  let conditions ← readConditions node
  return .filter conditions (← readGroups node)

/-- Whether the entry `children` has a list's place: it is a list, null or missing. -/
def hasChildren (node : Value) : Bool :=
  match node.field? "children" with
  | none | some .null | some (.arr _) => true
  | some _ => false

/-- Reads a node. One without a type is a filter if it has conditions and empty otherwise;
a negation without a child negates its own conditions. -/
def ofValue (node : Value) : Except Fault FilterTree :=
  match node.obj? with
  | none => if node.isNull then .ok .empty else .error (.objectExpected node)
  | some [] => .ok .empty
  | some entries =>
    match (node.field? "type").bind Value.str? with
    | none => if entries.contains "conditions" then readFilter node else .ok .empty
    | some "filter" => readFilter node
    | some "and" => do
      if !hasChildren node then throw .childrenExpected
      return .and (← (node.items "children").attach.mapM fun ⟨child, h⟩ =>
        have : sizeOf child < sizeOf node := Value.sizeOf_lt_of_mem_items h
        ofValue child)
    | some "or" => do
      if !hasChildren node then throw .childrenExpected
      return .or (← (node.items "children").attach.mapM fun ⟨child, h⟩ =>
        have : sizeOf child < sizeOf node := Value.sizeOf_lt_of_mem_items h
        ofValue child)
    | some "exclude" | some "not" =>
      match h : node.field? "child" with
      | none | some .null => .not <$> readFilter node
      | some child =>
        have : sizeOf child < sizeOf node := Value.sizeOf_lt_of_field? h
        .not <$> ofValue child
    | some "search" => .ok .search
    | some other => .error (.unknownType other)
termination_by sizeOf node

/-! Meaning -/

mutual

/-- The keys of all conditions, from left to right. -/
def keys : FilterTree → List String
  | filter conditions groups => conditions.names ++ groups.flatMap Entries.names
  | and children | or children => listKeys children
  | not child => child.keys
  | search | empty => []

def listKeys : List FilterTree → List String
  | [] => []
  | child :: rest => child.keys ++ listKeys rest

end

def readConjunct (entry : String × Value) : Except Condition.Fault Predicate :=
  .cond <$> Condition.read entry.1 entry.2

/-- The conjunction of a record of conditions. -/
def conjunction (conditions : Row) : Except Condition.Fault Predicate :=
  .allOf <$> conditions.mapM readConjunct

mutual

def predicate : FilterTree → Except Condition.Fault Predicate
  | filter conditions groups => do
    let own ← conjunction conditions
    if groups.isEmpty then return .allOf [own]
    else return .allOf [own, .anyOf (← groups.mapM conjunction)]
  | and children => .allOf <$> listPredicates children
  | or [] => .ok .all
  | or children => .anyOf <$> listPredicates children
  | not child => .negate <$> child.predicate
  | search | empty => .ok .all

def listPredicates : List FilterTree → Except Condition.Fault (List Predicate)
  | [] => .ok []
  | child :: rest => do
    let first ← child.predicate
    return first :: (← listPredicates rest)

end

end FilterTree

end GuardedQuery
