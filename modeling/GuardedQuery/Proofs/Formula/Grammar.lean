import GuardedQuery.Formula.Node
import GuardedQuery.Proofs.Checks

/-! The grammar of written formulas. A tree encodes a formula by the types and the entries of its
nodes; parentheses may stand around every formula in it, and entries that the grammar does not name
are free. Reading accepts exactly the trees that encode a valid formula, and yields that formula. -/

namespace GuardedQuery

namespace Value
variable {v : Value} {key : String}

theorem field_str_iff {s : String} :
    (v.field? key).bind str? = some s ↔ v.field? key = some (.str s) := by
  cases v.field? key with
  | none => simp
  | some w => cases w <;> simp [str?]

theorem items_eq_iff {xs : List Value} (nonempty : xs ≠ []) :
    v.items key = xs ↔ v.field? key = some (.arr xs) := by
  rw [items]
  cases v.field? key with
  | none => simpa using nonempty.symm
  | some w =>
    cases w with
    | arr items => simp [arr?]
    | null | bool | num | str | obj => simpa [arr?] using nonempty.symm

/-- The items of a list entry are smaller than the value that has the entry. -/
theorem sizeOf_lt_of_mem_arr {xs : List Value} {w : Value} (args : v.field? key = some (.arr xs))
    (mem : w ∈ xs) : sizeOf w < sizeOf v :=
  sizeOf_lt_of_mem_items (by rw [items, args]; exact mem)

end Value

theorem Operator.ofName?_eq_some_iff {op : Operator} {text : String} :
    ofName? text = some op ↔ text = op.name := by
  constructor
  · intro named
    unfold ofName? at named
    split at named <;> cases named <;> rfl
  · rintro rfl
    exact op.ofName?_name

theorem Func.ofName?_eq_some_iff {f : Func} {text : String} :
    ofName? text = some f ↔ text = f.name := by
  constructor
  · intro named
    unfold ofName? at named
    split at named <;> cases named <;> rfl
  · rintro rfl
    exact f.ofName?_name

namespace Formula

/-- Symbols can stand for these names only. -/
def IsName (name : String) : Prop := name.isEmpty = false ∧ name.toList.all isNameChar = true

instance (name : String) : Decidable (IsName name) := inferInstanceAs (Decidable (_ ∧ _))

/-- Formulas that can be written: their fields have names, and their calls have arguments. -/
inductive Valid : Formula → Prop where
  | field {name : String} (named : IsName name) : Valid (.field name)
  | constant {n : Number} : Valid (.constant n)
  | binary {op : Operator} {left right : Formula} (l : Valid left) (r : Valid right) :
      Valid (.binary op left right)
  | call {fn : Func} {args : List Formula} (nonempty : args ≠ [])
      (each : ∀ arg ∈ args, Valid arg) : Valid (.call fn args)

/-- How a tree encodes a formula. The node that names the function of a call is no formula. -/
inductive Encodes : Value → Formula → Prop where
  | symbol {node : Value} {name : String}
      (type : node.field? "mathjs" = some (.str "SymbolNode"))
      (spelled : node.field? "name" = some (.str name)) : Encodes node (.field name)
  | constant {node : Value} {n : Number}
      (type : node.field? "mathjs" = some (.str "ConstantNode"))
      (value : node.field? "value" = some (.num n)) : Encodes node (.constant n)
  | operator {node l r : Value} {op : Operator} {left right : Formula}
      (type : node.field? "mathjs" = some (.str "OperatorNode"))
      (sign : node.field? "op" = some (.str op.name))
      (operands : node.field? "args" = some (.arr [l, r]))
      (first : Encodes l left) (second : Encodes r right) : Encodes node (.binary op left right)
  | function {node named : Value} {fn : Func} {nodes : List Value} {args : List Formula}
      (type : node.field? "mathjs" = some (.str "FunctionNode"))
      (function : node.field? "fn" = some named)
      (symbol : named.field? "mathjs" = some (.str "SymbolNode"))
      (spelled : named.field? "name" = some (.str fn.name))
      (given : node.field? "args" = some (.arr nodes))
      (each : List.Forall₂ Encodes nodes args) : Encodes node (.call fn args)
  | parentheses {node content : Value} {f : Formula}
      (type : node.field? "mathjs" = some (.str "ParenthesisNode"))
      (around : node.field? "content" = some content)
      (inside : Encodes content f) : Encodes node f

def symbol (name : String) : Value := .obj [("mathjs", .str "SymbolNode"), ("name", .str name)]

/-- The data value that stands for a field of the same row. -/
def wrapped (name : String) : Value := .obj [(marker, .bool true), ("ast", symbol name)]

mutual

/-- The tree of a formula that has no parentheses and no entries beyond the necessary ones. -/
def node : Formula → Value
  | .field name => symbol name
  | .constant n => .obj [("mathjs", .str "ConstantNode"), ("value", .num n)]
  | .binary op left right =>
    .obj [("args", .arr [left.node, right.node]), ("mathjs", .str "OperatorNode"),
      ("op", .str op.name)]
  | .call fn args =>
    .obj [("args", .arr (nodes args)), ("fn", symbol fn.name), ("mathjs", .str "FunctionNode")]

def nodes : List Formula → List Value
  | [] => []
  | f :: rest => f.node :: nodes rest

end

variable {node : Value} {f : Formula} {name : String}

/-! Valid formulas -/

theorem mem_listFields {args : List Formula} :
    name ∈ listFields args ↔ ∃ arg ∈ args, name ∈ arg.fields := by
  induction args with
  | nil => simp [listFields]
  | cons arg rest ih => simp [listFields, ih]

theorem Valid.isName (valid : f.Valid) : ∀ name ∈ f.fields, IsName name := by
  induction valid with
  | field named => simpa [fields] using named
  | constant => simp [fields]
  | binary _ _ ihL ihR =>
    rw [fields, List.forall_mem_append]
    exact ⟨ihL, ihR⟩
  | call _ _ ih =>
    intro name mem
    rw [fields, mem_listFields] at mem
    obtain ⟨arg, among, inside⟩ := mem
    exact ih arg among name inside

/-! What each type of node is read as -/

theorem readSymbol_ok_iff : readSymbol node = .ok f ↔
    ∃ name, node.field? "name" = some (.str name) ∧ IsName name ∧ f = .field name := by
  constructor
  · intro read
    rw [readSymbol] at read
    split at read
    · cases read
    rename_i name spelled
    split at read
    · cases read
    rename_i nonempty
    split at read
    case isFalse => cases read
    rename_i letters
    cases read
    exact ⟨name, Value.field_str_iff.1 spelled, ⟨by simpa using nonempty, letters⟩, rfl⟩
  · rintro ⟨name, spelled, ⟨nonempty, letters⟩, rfl⟩
    simp only [readSymbol, Value.field_str_iff.2 spelled, nonempty, letters, Bool.false_eq_true,
      if_false, if_true]

theorem readConstant_ok_iff : readConstant node = .ok f ↔
    ∃ n, node.field? "value" = some (.num n) ∧ f = .constant n := by
  constructor
  · intro read
    rw [readConstant] at read
    split at read
    · cases read
    · rename_i n value
      cases read
      exact ⟨n, value, rfl⟩
    · cases read
  · rintro ⟨n, value, rfl⟩
    rw [readConstant, value]

theorem readFunc_ok_iff {fn : Func} : readFunc node = .ok (name, fn) ↔
    name = fn.name ∧ ∃ named, node.field? "fn" = some named ∧
      named.field? "mathjs" = some (.str "SymbolNode") ∧
      named.field? "name" = some (.str name) := by
  constructor
  · intro read
    rw [readFunc] at read
    split at read
    · cases read
    rename_i named found
    split at read
    case isFalse => cases read
    rename_i symbol
    split at read
    · cases read
    rename_i spelled is
    split at read
    · cases read
    rename_i known
    cases read
    exact ⟨Func.ofName?_eq_some_iff.1 known, named, found, Value.field_str_iff.1 symbol,
      Value.field_str_iff.1 is⟩
  · rintro ⟨rfl, named, found, symbol, spelled⟩
    simp only [readFunc, found, Value.field_str_iff.2 symbol, Value.field_str_iff.2 spelled,
      Func.ofName?_name, if_true]

theorem ofNode_symbol (type : node.field? "mathjs" = some (.str "SymbolNode")) :
    ofNode node = readSymbol node := by
  rw [ofNode.eq_def, Value.field_str_iff.2 type]
  rfl

theorem ofNode_constant (type : node.field? "mathjs" = some (.str "ConstantNode")) :
    ofNode node = readConstant node := by
  rw [ofNode.eq_def, Value.field_str_iff.2 type]
  rfl

/-- A tree that is read has one of five types. -/
theorem type_of_ofNode (made : ofNode node = .ok f) :
    ∃ type ∈ ["SymbolNode", "ConstantNode", "OperatorNode", "FunctionNode", "ParenthesisNode"],
      node.field? "mathjs" = some (.str type) := by
  rw [ofNode.eq_def] at made
  split at made
  case h_1 => cases made
  case h_7 => cases made
  all_goals
    refine ⟨_, ?_, Value.field_str_iff.1 ‹_›⟩
    simp

theorem operator_iff {op : Operator} :
    Operator.ofName? (((node.field? "op").bind Value.str?).getD "") = some op ↔
      node.field? "op" = some (.str op.name) := by
  rw [Operator.ofName?_eq_some_iff, ← Value.field_str_iff]
  cases (node.field? "op").bind Value.str? with
  | none => cases op <;> simp [Operator.name]
  | some sign => exact Option.some_inj.symm

theorem ofNode_operator_iff (type : node.field? "mathjs" = some (.str "OperatorNode")) :
    ofNode node = .ok f ↔ ∃ op l r left right, node.field? "op" = some (.str (Operator.name op)) ∧
      node.field? "args" = some (.arr [l, r]) ∧ ofNode l = .ok left ∧ ofNode r = .ok right ∧
      f = .binary op left right := by
  rw [ofNode.eq_def, Value.field_str_iff.2 type]
  simp only
  constructor
  · intro made
    split at made
    · cases made
    rename_i op sign
    split at made
    case h_2 => cases made
    rename_i l r operands
    obtain ⟨left, madeL, made⟩ := Checks.bind_ok_iff.1 made
    obtain ⟨right, madeR, made⟩ := Checks.bind_ok_iff.1 made
    exact ⟨op, l, r, left, right, operator_iff.1 sign,
      (Value.items_eq_iff (List.cons_ne_nil _ _)).1 operands, madeL, madeR,
      (Checks.pure_ok_iff.1 made).symm⟩
  · rintro ⟨op, l, r, left, right, sign, operands, madeL, madeR, rfl⟩
    rw [← Value.items_eq_iff (List.cons_ne_nil _ _)] at operands
    rw [operator_iff.2 sign]
    simp only
    split
    · rename_i l' r' same
      cases operands.symm.trans same
      rw [madeL, madeR]
      rfl
    · rename_i other
      exact absurd operands (other l r)

theorem ofNode_function_iff (type : node.field? "mathjs" = some (.str "FunctionNode")) :
    ofNode node = .ok f ↔ ∃ fn nodes args, readFunc node = .ok (Func.name fn, fn) ∧
      node.field? "args" = some (.arr nodes) ∧ args ≠ [] ∧
      List.Forall₂ (fun inner arg => ofNode inner = .ok arg) nodes args ∧ f = .call fn args := by
  have all : ((node.items "args").attach.mapM fun inner => ofNode inner.1) =
      (node.items "args").mapM ofNode := by
    rw [List.mapM_subtype fun _ _ => rfl, List.unattach_attach]
  rw [ofNode.eq_def, Value.field_str_iff.2 type]
  simp only
  constructor
  · intro made
    obtain ⟨⟨name, fn⟩, read, made⟩ := Checks.bind_ok_iff.1 made
    simp only at made
    split at made
    case isTrue => cases made
    rename_i nonempty
    rw [List.isEmpty_iff] at nonempty
    obtain ⟨args, each, made⟩ := Checks.bind_ok_iff.1 made
    rw [all, Checks.mapM_ok_iff] at each
    obtain rfl := (readFunc_ok_iff.1 read).1
    refine ⟨fn, _, args, read, (Value.items_eq_iff nonempty).1 rfl, ?_, each,
      (Checks.pure_ok_iff.1 made).symm⟩
    rintro rfl
    exact nonempty (List.forall₂_nil_right_iff.1 each)
  · rintro ⟨fn, nodes, args, read, given, nonempty, each, rfl⟩
    have some : nodes ≠ [] := by
      rintro rfl
      exact nonempty (List.forall₂_nil_left_iff.1 each)
    rw [← Value.items_eq_iff some] at given
    refine Checks.bind_ok_iff.2 ⟨_, read, ?_⟩
    simp only
    rw [if_neg (by rwa [given, List.isEmpty_iff])]
    exact Checks.bind_ok_iff.2 ⟨args, all.trans (Checks.mapM_ok_iff.2 (given ▸ each)), rfl⟩

theorem ofNode_parentheses_iff (type : node.field? "mathjs" = some (.str "ParenthesisNode")) :
    ofNode node = .ok f ↔
      ∃ content, node.field? "content" = some content ∧ ofNode content = .ok f := by
  rw [ofNode.eq_def, Value.field_str_iff.2 type]
  simp only
  split
  · rename_i absent
    simp [absent]
  · rename_i content there
    rw [there]
    simp

/-! Trees that are read, and the formulas that they encode -/

theorem encodes_of_ofNode {node : Value} {f : Formula} (made : ofNode node = .ok f) :
    f.Valid ∧ Encodes node f := by
  obtain ⟨type, among, typed⟩ := type_of_ofNode made
  simp only [List.mem_cons, List.not_mem_nil, or_false] at among
  rcases among with rfl | rfl | rfl | rfl | rfl
  · rw [ofNode_symbol typed] at made
    obtain ⟨name, spelled, named, rfl⟩ := readSymbol_ok_iff.1 made
    exact ⟨.field named, .symbol typed spelled⟩
  · rw [ofNode_constant typed] at made
    obtain ⟨n, value, rfl⟩ := readConstant_ok_iff.1 made
    exact ⟨.constant, .constant typed value⟩
  · obtain ⟨op, l, r, left, right, sign, operands, madeL, madeR, rfl⟩ :=
      (ofNode_operator_iff typed).1 made
    have smallL : sizeOf l < sizeOf node := Value.sizeOf_lt_of_mem_arr operands (by simp)
    have smallR : sizeOf r < sizeOf node := Value.sizeOf_lt_of_mem_arr operands (by simp)
    obtain ⟨validL, first⟩ := encodes_of_ofNode madeL
    obtain ⟨validR, second⟩ := encodes_of_ofNode madeR
    exact ⟨.binary validL validR, .operator typed sign operands first second⟩
  · obtain ⟨fn, nodes, args, read, given, nonempty, each, rfl⟩ := (ofNode_function_iff typed).1 made
    obtain ⟨-, named, function, symbol, spelled⟩ := readFunc_ok_iff.1 read
    have both : List.Forall₂ (fun inner arg => arg.Valid ∧ Encodes inner arg) nodes args := by
      refine (Checks.forall₂_mem each).imp fun inner arg both => ?_
      obtain ⟨among, _, made⟩ := both
      have : sizeOf inner < sizeOf node := Value.sizeOf_lt_of_mem_arr given among
      exact encodes_of_ofNode made
    refine ⟨.call nonempty fun arg mem => ?_, .function typed function symbol spelled given
      (both.imp fun _ _ h => h.2)⟩
    obtain ⟨_, _, valid, _⟩ := Checks.exists_of_forall₂ both.flip mem
    exact valid
  · obtain ⟨content, around, below⟩ := (ofNode_parentheses_iff typed).1 made
    have : sizeOf content < sizeOf node := Value.sizeOf_lt_of_field? around
    obtain ⟨valid, inside⟩ := encodes_of_ofNode below
    exact ⟨valid, .parentheses typed around inside⟩
termination_by sizeOf node

theorem ofNode_of_encodes {node : Value} {f : Formula} (encodes : Encodes node f)
    (valid : f.Valid) : ofNode node = .ok f := by
  cases encodes with
  | symbol type spelled =>
    cases valid with
    | field named =>
      rw [ofNode_symbol type]
      exact readSymbol_ok_iff.2 ⟨_, spelled, named, rfl⟩
  | constant type value =>
    rw [ofNode_constant type]
    exact readConstant_ok_iff.2 ⟨_, value, rfl⟩
  | @operator _ l r op left right type sign operands first second =>
    cases valid with
    | binary validL validR =>
      have smallL : sizeOf l < sizeOf node := Value.sizeOf_lt_of_mem_arr operands (by simp)
      have smallR : sizeOf r < sizeOf node := Value.sizeOf_lt_of_mem_arr operands (by simp)
      exact (ofNode_operator_iff type).2 ⟨op, l, r, left, right, sign, operands,
        ofNode_of_encodes first validL, ofNode_of_encodes second validR, rfl⟩
  | @function _ named fn nodes args type function symbol spelled given each =>
    cases valid with
    | call nonempty valid =>
      have read : readFunc node = .ok (fn.name, fn) :=
        readFunc_ok_iff.2 ⟨rfl, named, function, symbol, spelled⟩
      refine (ofNode_function_iff type).2 ⟨fn, nodes, args, read, given, nonempty, ?_, rfl⟩
      refine (Checks.forall₂_mem each).imp fun inner arg both => ?_
      obtain ⟨among, inside, encodes⟩ := both
      have : sizeOf inner < sizeOf node := Value.sizeOf_lt_of_mem_arr given among
      exact ofNode_of_encodes encodes (valid arg inside)
  | @parentheses _ content _ type around inside =>
    have : sizeOf content < sizeOf node := Value.sizeOf_lt_of_field? around
    exact (ofNode_parentheses_iff type).2 ⟨content, around, ofNode_of_encodes inside valid⟩
termination_by sizeOf node

theorem ofNode_ok_iff : ofNode node = .ok f ↔ f.Valid ∧ Encodes node f :=
  ⟨encodes_of_ofNode, fun both => ofNode_of_encodes both.2 both.1⟩

theorem unwrap_ok_iff {field : String} {value : Value} : unwrap field value = .ok f ↔
    f.Valid ∧ ∃ node, value.field? "ast" = some node ∧ Encodes node f := by
  rw [unwrap]
  split
  · rename_i absent
    simp [absent]
  · rename_i node there
    rw [Checks.mapError_ok_iff, ofNode_ok_iff, there]
    simp

theorem unwrap_wrapped (field : String) (named : IsName name) :
    unwrap field (wrapped name) = .ok (.field name) :=
  unwrap_ok_iff.2 ⟨.field named, symbol name, rfl, .symbol rfl rfl⟩

theorem isName_of_unwrap {field : String} {value : Value} (made : unwrap field value = .ok f) :
    ∀ name ∈ f.fields, IsName name :=
  (unwrap_ok_iff.1 made).1.isName

mutual

theorem encodes_node : ∀ f : Formula, Encodes f.node f
  | .field _ => .symbol rfl rfl
  | .constant _ => .constant rfl rfl
  | .binary _ left right => .operator rfl rfl rfl (encodes_node left) (encodes_node right)
  | .call _ args => .function rfl rfl rfl rfl rfl (encodes_nodes args)

theorem encodes_nodes : ∀ args : List Formula, List.Forall₂ Encodes (nodes args) args
  | [] => .nil
  | f :: rest => .cons (encodes_node f) (encodes_nodes rest)

end

/-- Data values are read as exactly the valid formulas that their trees encode, and every formula
is encoded by a tree. -/
theorem unwrap_reads_the_grammar :
    (∀ field value f, unwrap field value = .ok f ↔
      f.Valid ∧ ∃ node, value.field? "ast" = some node ∧ Encodes node f) ∧
    ∀ f, Encodes f.node f :=
  ⟨fun _ _ _ => unwrap_ok_iff, encodes_node⟩

/-- Parentheses and further entries of a node leave no trace. -/
example : unwrap "n" (.obj [(marker, .bool true), ("ast", .obj [("content", symbol "n"),
    ("implicit", .bool false), ("mathjs", .str "ParenthesisNode")])]) = .ok (.field "n") :=
  unwrap_ok_iff.2 ⟨.field (by decide), _, rfl, .parentheses rfl rfl (.symbol rfl rfl)⟩

end Formula

end GuardedQuery
