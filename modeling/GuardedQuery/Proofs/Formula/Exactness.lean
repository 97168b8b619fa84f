import GuardedQuery.Formula
import GuardedQuery.Proofs.Value.Order
import Mathlib.Order.OrderDual

/-! Formulas over integers. Where all columns and constants are words and nothing is divided, a
formula has an exact integer as its value, and evaluation either finds it or reports an overflow.
What can come between is a call. The least word has no absolute value among the words and is given
another, and `min` and `max` compare fractions, so they settle for the first argument that falls
together with the one that they look for. -/

namespace GuardedQuery

/-! The first of the least -/

section Earliest
variable {α β : Type} [LinearOrder β] (key : α → β)

/-- Of two candidates the later one if its key is smaller. -/
def earliest (x y : α) : α := if key y < key x then y else x

/-- A fold finds the first among those with the least key. -/
theorem find?_foldl_earliest (x : α) (xs : List α) :
    (∀ y ∈ x :: xs, key (xs.foldl (earliest key) x) ≤ key y) ∧
    (x :: xs).find? (fun y => decide (key y = key (xs.foldl (earliest key) x))) =
      some (xs.foldl (earliest key) x) := by
  induction xs generalizing x with
  | nil => simp
  | cons y ys ih =>
    rw [List.foldl_cons, earliest]
    split
    case isTrue less =>
      obtain ⟨least, found⟩ := ih y
      have before := least y List.mem_cons_self
      refine ⟨List.forall_mem_cons.2 ⟨before.trans less.le, least⟩, ?_⟩
      rw [List.find?_cons_of_neg, found]
      simpa using (before.trans_lt less).ne'
    case isFalse kept =>
      obtain ⟨least, found⟩ := ih x
      obtain ⟨first, others⟩ := List.forall_mem_cons.1 least
      have second := first.trans (not_lt.1 kept)
      refine ⟨List.forall_mem_cons.2 ⟨first, List.forall_mem_cons.2 ⟨second, others⟩⟩, ?_⟩
      by_cases here : key x = key (ys.foldl (earliest key) x)
      · rw [List.find?_cons_of_pos (by simpa using here)] at found ⊢
        exact found
      · rw [List.find?_cons_of_neg (by simpa using here)] at found ⊢
        rw [List.find?_cons_of_neg, found]
        -- what does not replace the first one stands behind it
        have behind := lt_of_le_of_ne first (Ne.symm here)
        simpa using (behind.trans_le (not_lt.1 kept)).ne'

end Earliest

/-! Exact values -/

namespace Operator

/-- The exact value of an operation; a quotient is rounded. -/
def integer : Operator → Int → Int → Int
  | add, i, j => i + j
  | sub, i, j => i - j
  | mul, i, j => i * j
  | div, i, j => i / j

end Operator

namespace Func

/-- The exact value of a function at a list of arguments. -/
def integer : Func → List Int → Int
  | abs, args => |args.headD 0|
  | round, args | floor, args | ceil, args => args.headD 0
  | min, args => args.min?.getD 0
  | max, args => args.max?.getD 0

/-- Whether a function finds its exact value: the absolute value has to be a word, and the least or
greatest argument has to be the first one that becomes the same fraction. -/
def Sharp : Func → List Int → Prop
  | abs, args => args.head? ≠ some (-0x8000000000000000)
  | round, _ | floor, _ | ceil, _ => True
  | min, args => args.find? (fun i => Float.ofInt i == Float.ofInt (min.integer args)) =
      some (min.integer args)
  | max, args => args.find? (fun i => Float.ofInt i == Float.ofInt (max.integer args)) =
      some (max.integer args)

end Func

namespace Formula

/-- A formula without division whose constants and columns are words. -/
inductive Whole (row : Row) : Formula → Prop where
  | field {name : String} {i : Int} (column : row.get? name = some (.int i))
      (word : fitsWord i = true) : Whole row (.field name)
  | constant {i : Int} (word : fitsWord i = true) : Whole row (.constant (.int i))
  | binary {op : Operator} {left right : Formula} (undivided : op ≠ .div) (l : Whole row left)
      (r : Whole row right) : Whole row (.binary op left right)
  | call {f : Func} {args : List Formula} (each : ∀ arg ∈ args, Whole row arg) :
      Whole row (.call f args)

mutual

/-- The exact value on a row of integers. -/
def integer (row : Row) : Formula → Int
  | field name => ((row.get? name).bind Value.word?).getD 0
  | constant n => n.word?.getD 0
  | binary op left right => op.integer (left.integer row) (right.integer row)
  | call f args => f.integer (integers row args)

def integers (row : Row) : List Formula → List Int
  | [] => []
  | arg :: rest => arg.integer row :: integers row rest

end

mutual

/-- Whether the exact value is a word, as well as all values that it is computed from. -/
def fits (row : Row) : Formula → Bool
  | field _ | constant _ => true
  | binary op left right => left.fits row && right.fits row &&
      fitsWord (op.integer (left.integer row) (right.integer row))
  | call f args => allFit row args && fitsWord (f.integer (integers row args))

def allFit (row : Row) : List Formula → Bool
  | [] => true
  | arg :: rest => arg.fits row && allFit row rest

end

mutual

/-- A formula and all formulas that it is made of. -/
def parts : Formula → List Formula
  | field name => [field name]
  | constant n => [constant n]
  | binary op left right => binary op left right :: (left.parts ++ right.parts)
  | call f args => call f args :: listParts args

def listParts : List Formula → List Formula
  | [] => []
  | arg :: rest => arg.parts ++ listParts rest

end

/-- Whether a call that gets words has any to choose from and finds its exact value. -/
def Sharp (row : Row) : Formula → Prop
  | call f args => allFit row args = true → args ≠ [] ∧ f.Sharp (integers row args)
  | field _ | constant _ | binary .. => True

/-- Evaluation finds the exact value if all values on the way are words, and reports an overflow
otherwise. -/
structure Exact (row : Row) (f : Formula) : Prop where
  value : f.fits row = true → f.evaluate row = .ok (.int (f.integer row))
  refusal : f.fits row = false → f.evaluate row = .error .overflow

variable {row : Row} {f : Formula} {args : List Formula} {i : Int}

/-! Evaluation -/

theorem value_eq_int_iff {result : Option Number} :
    value result = .int i ↔ result = some (.int i) := by
  match result with
  | none => exact iff_of_false nofun nofun
  | some (.int j) =>
    constructor
    · rintro ⟨⟩
      rfl
    · rintro ⟨⟩
      rfl
  | some (.float x) =>
    refine iff_of_false ?_ nofun
    rw [value, Value.float]
    split <;> nofun

theorem evaluate_eq_int_iff :
    f.evaluate row = .ok (.int i) ↔ f.eval row = .ok (some (.int i)) := by
  rw [evaluate]
  cases f.eval row with
  | error fault => exact iff_of_false nofun nofun
  | ok result =>
    change Except.ok (value result) = _ ↔ _
    rw [Except.ok.injEq, Except.ok.injEq, value_eq_int_iff]

theorem evaluate_eq_error_iff {fault : Fault} :
    f.evaluate row = .error fault ↔ f.eval row = .error fault := by
  rw [evaluate]
  cases f.eval row with
  | error other =>
    change Except.error other = _ ↔ _
    rw [Except.error.injEq, Except.error.injEq]
  | ok result => exact iff_of_false nofun nofun

/-- What evaluation finds inside of a formula. -/
def Settled (row : Row) (f : Formula) : Prop :=
  f.eval row = if f.fits row then .ok (some (.int (f.integer row))) else .error .overflow

theorem exact_iff_settled : Exact row f ↔ Settled row f := by
  rw [Settled]
  cases enough : f.fits row with
  | true =>
    rw [if_pos rfl, ← evaluate_eq_int_iff]
    exact ⟨fun exactly => exactly.value enough, fun is => ⟨fun _ => is, by simp [enough]⟩⟩
  | false =>
    rw [if_neg Bool.false_ne_true, ← evaluate_eq_error_iff]
    exact ⟨fun exactly => exactly.refusal enough, fun is => ⟨by simp [enough], fun _ => is⟩⟩

theorem fitsWord_integer (whole : Whole row f) (enough : f.fits row = true) :
    fitsWord (f.integer row) = true := by
  cases whole with
  | field column word =>
    rw [integer, column]
    simpa [Value.word?, Value.int, Number.word?_int word] using word
  | constant word => simpa [integer, Number.word?_int word] using word
  | binary | call =>
    rw [fits, Bool.and_eq_true] at enough
    exact enough.2

theorem settled_field {name : String} (column : row.get? name = some (.int i))
    (word : fitsWord i = true) : Settled row (.field name) := by
  have operand : operand (.int i) = .int i := by rw [Formula.operand, Number.word?_int word]
  have found : ((row.get? name).bind Value.word?).getD 0 = i := by
    rw [column]
    exact congrArg (Option.getD · 0) (Number.word?_int word)
  rw [Settled, eval, Formula.column, column, fits, if_pos rfl, integer, found]
  exact congrArg (fun n => Except.ok (some n)) operand

theorem settled_constant (word : fitsWord i = true) : Settled row (.constant (.int i)) := by
  rw [Settled, eval, operand, integer, Number.word?_int word]
  rfl

theorem settled_binary {op : Operator} {left right : Formula} (undivided : op ≠ .div)
    (l : Settled row left) (r : Settled row right) : Settled row (.binary op left right) := by
  rw [Settled] at l r ⊢
  rw [eval, fits, integer, l, r]
  cases left.fits row with
  | false => rfl
  | true =>
    cases right.fits row with
    | false => rfl
    | true =>
      have applied : apply op (.int (left.integer row)) (.int (right.integer row)) =
          checked (op.integer (left.integer row) (right.integer row)) := by
        cases op with
        | div => exact absurd rfl undivided
        | add | sub | mul => rfl
      change some <$> apply op (.int (left.integer row)) (.int (right.integer row)) = _
      rw [applied, checked, Bool.and_self, Bool.true_and]
      split <;> rfl

/-- Arguments are evaluated from the first to the last, and each one has to fit. -/
theorem evalAll_eq (each : ∀ arg ∈ args, Settled row arg) :
    evalAll row args =
      if allFit row args then .ok (some ((integers row args).map .int)) else .error .overflow := by
  induction args with
  | nil => rfl
  | cons arg rest ih =>
    obtain ⟨here, others⟩ := List.forall_mem_cons.1 each
    rw [evalAll, allFit, here, ih others, integers, List.map_cons]
    cases arg.fits row with
    | false => rfl
    | true =>
      rw [Bool.true_and]
      cases allFit row rest <;> rfl

/-! Calls -/

theorem lt_toFloat_iff (i j : Int) :
    (Number.int i).toFloat < (Number.int j).toFloat ↔ (Number.int i).spot < (Number.int j).spot :=
  lt_iff_place (Number.isNaN_toFloat (a := .int i) trivial)
    (Number.isNaN_toFloat (a := .int j) trivial)

theorem lesser_int (i j : Int) :
    lesser (.int i) (.int j) = .int (earliest (fun i => (Number.int i).spot) i j) := by
  simp only [lesser, earliest, lt_toFloat_iff]
  split <;> rfl

/-- The greatest is the least in the dual order. -/
theorem greater_int (i j : Int) :
    greater (.int i) (.int j) =
      .int (earliest (fun i => OrderDual.toDual (Number.int i).spot) i j) := by
  simp only [greater, earliest, lt_toFloat_iff, OrderDual.toDual_lt_toDual]
  split <;> rfl

theorem foldl_int {choose : Number → Number → Number} {pick : Int → Int → Int}
    (same : ∀ i j, choose (.int i) (.int j) = .int (pick i j)) (x : Int) (xs : List Int) :
    (xs.map Number.int).foldl choose (.int x) = .int (xs.foldl pick x) := by
  induction xs generalizing x with
  | nil => rfl
  | cons y ys ih => rw [List.map_cons, List.foldl_cons, List.foldl_cons, same, ih]

/-- Where the keys tell integers apart as fractions do, a fold finds the first argument that becomes
the same fraction as one with the least key. -/
theorem find?_eq_some_iff_foldl {x m : Int} {xs : List Int} {β : Type} [LinearOrder β]
    {key : Int → β} (keyed : ∀ i j, key i = key j ↔ (Number.int i).spot = (Number.int j).spot)
    (mem : m ∈ x :: xs) (extreme : ∀ i ∈ x :: xs, key m ≤ key i) :
    (x :: xs).find? (fun i => Float.ofInt i == Float.ofInt m) = some m ↔
      xs.foldl (earliest key) x = m := by
  obtain ⟨least, found⟩ := find?_foldl_earliest key x xs
  have same : key (xs.foldl (earliest key) x) = key m :=
    le_antisymm (least m mem) (extreme _ (List.mem_of_find?_eq_some found))
  have test : (fun i => Float.ofInt i == Float.ofInt m) =
      fun y => decide (key y = key (xs.foldl (earliest key) x)) := by
    funext i
    rw [Bool.eq_iff_iff, Number.beq_ofInt_iff, ← keyed, decide_eq_true_iff, same]
  rw [test, found, Option.some.injEq]

theorem spot_le_of_words {args : List Int} (words : ∀ i ∈ args, fitsWord i = true) {i j : Int}
    (mem : i ∈ args) (mem' : j ∈ args) (le : i ≤ j) :
    (Number.int i).spot ≤ (Number.int j).spot := by
  have low := fitsWord_iff.1 (words i mem)
  have high := fitsWord_iff.1 (words j mem')
  exact Number.spot_int_mono (by omega) (by omega) le

theorem min_least (x : Int) (xs : List Int) :
    Func.min.integer (x :: xs) ∈ x :: xs ∧ ∀ i ∈ x :: xs, Func.min.integer (x :: xs) ≤ i := by
  obtain ⟨m, is⟩ := Option.isSome_iff_exists.1 (List.isSome_min?_of_ne_nil (List.cons_ne_nil x xs))
  rw [Func.integer, is]
  exact List.min?_eq_some_iff.1 is

theorem max_greatest (x : Int) (xs : List Int) :
    Func.max.integer (x :: xs) ∈ x :: xs ∧ ∀ i ∈ x :: xs, i ≤ Func.max.integer (x :: xs) := by
  obtain ⟨m, is⟩ := Option.isSome_iff_exists.1 (List.isSome_max?_of_ne_nil (List.cons_ne_nil x xs))
  rw [Func.integer, is]
  exact List.max?_eq_some_iff.1 is

theorem sharp_min_iff {x : Int} {xs : List Int} (words : ∀ i ∈ x :: xs, fitsWord i = true) :
    Func.min.Sharp (x :: xs) ↔
      xs.foldl (earliest fun i => (Number.int i).spot) x = Func.min.integer (x :: xs) := by
  obtain ⟨mem, least⟩ := min_least x xs
  exact find?_eq_some_iff_foldl (fun _ _ => Iff.rfl) mem fun i among =>
    spot_le_of_words words mem among (least i among)

theorem sharp_max_iff {x : Int} {xs : List Int} (words : ∀ i ∈ x :: xs, fitsWord i = true) :
    Func.max.Sharp (x :: xs) ↔
      xs.foldl (earliest fun i => OrderDual.toDual (Number.int i).spot) x =
        Func.max.integer (x :: xs) := by
  obtain ⟨mem, greatest⟩ := max_greatest x xs
  exact find?_eq_some_iff_foldl (fun _ _ => OrderDual.toDual_inj) mem fun i among =>
    OrderDual.toDual_le_toDual.2 (spot_le_of_words words among mem (greatest i among))

theorem find?_of_small {args : List Int} (small : ∀ i ∈ args, i.natAbs < 2 ^ 53) {m : Int}
    (mem : m ∈ args) :
    args.find? (fun i => Float.ofInt i == Float.ofInt m) = some m := by
  cases found : args.find? (fun i => Float.ofInt i == Float.ofInt m) with
  | none => exact absurd ((Number.beq_ofInt_iff m m).2 rfl) (List.find?_eq_none.1 found m mem)
  | some r =>
    have same := List.find?_some (p := fun i => Float.ofInt i == Float.ofInt m) found
    rw [Number.beq_ofInt_iff] at same
    have among := List.mem_of_find?_eq_some found
    rw [place_ofInt_inj (small r among) (small m mem) same]

/-- Among integers with no more bits than the mantissa of a fraction every function is sharp. -/
theorem sharp_of_small (fn : Func) {args : List Int} (nonempty : args ≠ [])
    (small : ∀ i ∈ args, i.natAbs < 2 ^ 53) : fn.Sharp args := by
  obtain ⟨x, xs, rfl⟩ := List.exists_cons_of_ne_nil nonempty
  cases fn with
  | abs =>
    have first := small x List.mem_cons_self
    rw [Func.Sharp, List.head?_cons, Ne, Option.some.injEq]
    omega
  | round | floor | ceil => trivial
  | min => exact find?_of_small small (min_least x xs).1
  | max => exact find?_of_small small (max_greatest x xs).1

/-- Of all words only the least has an absolute value that is none. -/
theorem absolute_iff {x : Int} (word : fitsWord x = true) :
    (absolute (.int x) = .int |x| ∧ fitsWord |x| = true) ↔ x ≠ -0x8000000000000000 := by
  rw [fitsWord_iff] at word ⊢
  rw [absolute, Number.int.injEq, Int.abs_eq_natAbs]
  omega

/-- A function of words finds its exact value, or reports that it has none, exactly if it is sharp
there. -/
theorem applyFunc_iff (fn : Func) {x : Int} {xs : List Int}
    (words : ∀ i ∈ x :: xs, fitsWord i = true) :
    (Except.ok (some (applyFunc fn (.int x) (xs.map .int))) : Except Fault (Option Number)) =
        (if fitsWord (fn.integer (x :: xs)) then .ok (some (.int (fn.integer (x :: xs))))
          else .error .overflow) ↔
      fn.Sharp (x :: xs) := by
  cases fn with
  | abs =>
    have least := absolute_iff (words x List.mem_cons_self)
    rw [Func.Sharp, List.head?_cons, Ne, Option.some.injEq, ← Ne, ← least, Func.integer,
      List.headD_cons, applyFunc]
    split
    case isTrue word => simp [word]
    case isFalse large => exact iff_of_false nofun fun both => large both.2
  | round | floor | ceil =>
    rw [Func.integer, List.headD_cons, words x List.mem_cons_self]
    exact iff_of_true rfl trivial
  | min =>
    rw [words _ (min_least x xs).1, if_pos rfl, sharp_min_iff words, applyFunc,
      foldl_int lesser_int, Except.ok.injEq, Option.some.injEq, Number.int.injEq]
  | max =>
    rw [words _ (max_greatest x xs).1, if_pos rfl, sharp_max_iff words, applyFunc,
      foldl_int greater_int, Except.ok.injEq, Option.some.injEq, Number.int.injEq]

theorem fitsWord_of_mem_integers (whole : ∀ arg ∈ args, Whole row arg)
    (enough : allFit row args = true) : ∀ i ∈ integers row args, fitsWord i = true := by
  induction args with
  | nil => nofun
  | cons arg rest ih =>
    obtain ⟨here, others⟩ := List.forall_mem_cons.1 whole
    rw [allFit, Bool.and_eq_true] at enough
    exact List.forall_mem_cons.2 ⟨fitsWord_integer here enough.1, ih others enough.2⟩

theorem settled_call_iff {fn : Func} (whole : ∀ arg ∈ args, Whole row arg)
    (each : ∀ arg ∈ args, Settled row arg) :
    Settled row (.call fn args) ↔ Sharp row (.call fn args) := by
  have evaluated := evalAll_eq each
  rw [Settled, Sharp, eval, evaluated, fits, integer]
  cases enough : allFit row args with
  | false => exact iff_of_true rfl fun fit => absurd fit Bool.false_ne_true
  | true =>
    have words := fitsWord_of_mem_integers whole enough
    rw [forall_prop_of_true rfl, Bool.true_and]
    cases args with
    | nil =>
      refine iff_of_false ?_ fun both => both.1 rfl
      cases fitsWord (fn.integer (integers row [])) <;>
        simp [integers, bind, Except.bind, pure, Except.pure]
    | cons arg rest =>
      rw [integers] at words ⊢
      rw [and_iff_right (List.cons_ne_nil arg rest), ← applyFunc_iff fn words]
      rfl

/-! All parts -/

theorem self_mem_parts (f : Formula) : f ∈ f.parts := by
  cases f <;> exact List.mem_cons_self

theorem mem_listParts {part : Formula} :
    part ∈ listParts args ↔ ∃ arg ∈ args, part ∈ arg.parts := by
  induction args with
  | nil => simp [listParts]
  | cons arg rest ih => simp [listParts, ih]

theorem forall_parts_call {p : Formula → Prop} {fn : Func} :
    (∀ part ∈ (call fn args).parts, p part) ↔
      p (.call fn args) ∧ ∀ arg ∈ args, ∀ part ∈ arg.parts, p part := by
  simp only [parts, List.forall_mem_cons, mem_listParts]
  exact and_congr_right fun _ => ⟨fun all arg mem part inside => all part ⟨arg, mem, inside⟩,
    fun all part ⟨arg, mem, inside⟩ => all arg mem part inside⟩

theorem forall_parts_binary {p : Formula → Prop} {op : Operator} {left right : Formula} :
    (∀ part ∈ (binary op left right).parts, p part) ↔
      p (.binary op left right) ∧ (∀ part ∈ left.parts, p part) ∧ ∀ part ∈ right.parts, p part := by
  simp only [parts, List.forall_mem_cons, List.forall_mem_append]

theorem settled_parts_iff (whole : Whole row f) :
    (∀ part ∈ f.parts, Settled row part) ↔ ∀ part ∈ f.parts, Sharp row part := by
  induction whole with
  | field column word =>
    simp only [parts, List.forall_mem_singleton]
    exact iff_of_true (settled_field column word) trivial
  | constant word =>
    simp only [parts, List.forall_mem_singleton]
    exact iff_of_true (settled_constant word) trivial
  | @binary op left right undivided _ _ ihL ihR =>
    rw [forall_parts_binary, forall_parts_binary, ← ihL, ← ihR]
    refine and_congr_left fun ⟨l, r⟩ => iff_of_true ?_ trivial
    exact settled_binary undivided (l left (self_mem_parts left)) (r right (self_mem_parts right))
  | @call fn args whole ih =>
    rw [forall_parts_call, forall_parts_call]
    have inside : (∀ arg ∈ args, ∀ part ∈ arg.parts, Settled row part) ↔
        ∀ arg ∈ args, ∀ part ∈ arg.parts, Sharp row part := forall₂_congr ih
    rw [← inside]
    exact and_congr_left fun each =>
      settled_call_iff whole fun arg mem => each arg mem arg (self_mem_parts arg)

/-- A formula over words and each of its parts are computed exactly, or refused where a value on
the way is no word, if and only if each call whose arguments are words finds its exact value. Sums,
differences and products always do, and so do `round`, `floor` and `ceil`. The absolute value fails
for the least word only, and `min` and `max` fail where an argument before the one that they look
for becomes the same fraction. -/
theorem integer_formulas_are_exact_iff (whole : Whole row f) :
    (∀ part ∈ f.parts, Exact row part) ↔ ∀ part ∈ f.parts, Sharp row part := by
  rw [← settled_parts_iff whole]
  exact forall₂_congr fun _ _ => exact_iff_settled

end Formula

namespace Meters

def absolute : Formula := .call .abs [.field "reading"]

def smaller : Formula := .call .min [.field "reading", .field "former"]

/-- Twice the larger one of two readings. -/
def twice : Formula :=
  .binary .mul (.call .max [.field "reading", .field "former"]) (.constant (.int 2))

def readings (reading former : Int) : Row :=
  [("reading", .int reading), ("former", .int former)]

/-- The least word has no absolute value among the words and gets one all the same, and the smaller
one of two readings is not found where they become one fraction. -/
theorem calls_miss_their_values :
    Formula.Whole (readings (-0x8000000000000000) 0) absolute ∧
    absolute.fits (readings (-0x8000000000000000) 0) = false ∧
    absolute.evaluate (readings (-0x8000000000000000) 0) = .ok (.int 0x7fffffffffffffff) ∧
    Formula.Whole (readings 9007199254740993 9007199254740992) smaller ∧
    smaller.fits (readings 9007199254740993 9007199254740992) = true ∧
    smaller.integer (readings 9007199254740993 9007199254740992) = 9007199254740992 ∧
    smaller.evaluate (readings 9007199254740993 9007199254740992) =
      .ok (.int 9007199254740993) :=
  ⟨.call (List.forall_mem_singleton.2 (.field rfl rfl)), rfl, rfl,
    .call (List.forall_mem_cons.2 ⟨.field rfl rfl, List.forall_mem_singleton.2 (.field rfl rfl)⟩),
    rfl, rfl, rfl⟩

/-- Readings far from each other are told apart, and doubling the larger one can overflow. -/
theorem larger_reading_is_doubled :
    twice.evaluate (readings 7 12) = .ok (.int 24) ∧
    twice.evaluate (readings 0x7000000000000000 12) = .error .overflow := by
  have exactly (row : Row) (whole : Formula.Whole row twice)
      (clear : Func.max.Sharp (Formula.integers row [.field "reading", .field "former"])) :
      twice.Exact row := by
    refine (Formula.integer_formulas_are_exact_iff whole).2 ?_ twice (Formula.self_mem_parts twice)
    rw [twice, Formula.forall_parts_binary, Formula.forall_parts_call]
    refine ⟨trivial, ⟨fun _ => ⟨nofun, clear⟩, ?_⟩, List.forall_mem_singleton.2 trivial⟩
    simp [Formula.parts, Formula.Sharp]
  have whole (reading : Int) (word : fitsWord reading = true) :
      Formula.Whole (readings reading 12) twice :=
    .binary nofun (.call (List.forall_mem_cons.2
      ⟨.field rfl word, List.forall_mem_singleton.2 (.field rfl rfl)⟩)) (.constant rfl)
  exact ⟨(exactly _ (whole 7 rfl) rfl).value rfl,
    (exactly _ (whole 0x7000000000000000 rfl) rfl).refusal rfl⟩

end Meters

end GuardedQuery
