import GuardedQuery.Entries

/-! Column values and the rows that hold them.
A number is an exact integer or a binary fraction; the two never coincide structurally,
so `Value.same` tells `1` and `1.0` apart. -/

namespace GuardedQuery

inductive Number where
  | int (i : Int)
  | float (x : Float)
  deriving DecidableEq

inductive Value where
  | null
  | bool (b : Bool)
  | num (n : Number)
  | str (s : String)
  | arr (items : List Value)
  | obj (entries : List (String × Value))

/-- A row, or any other keyed record of values. -/
abbrev Row := Entries Value

/-- The integers of a signed machine word. -/
def fitsWord (i : Int) : Bool := -0x8000000000000000 ≤ i && i < 0x8000000000000000

theorem fitsWord_iff {i : Int} :
    fitsWord i = true ↔ -0x8000000000000000 ≤ i ∧ i < 0x8000000000000000 := by
  simp [fitsWord]

namespace Number

/-- The integer, if it is one and fits a signed word. -/
def word? : Number → Option Int
  | int i => if fitsWord i then some i else none
  | float _ => none

def toFloat : Number → Float
  | int i => Float.ofInt i
  | float x => x

def same : Number → Number → Bool
  | int i, int j => i == j
  | float x, float y => x == y
  | _, _ => false

theorem word?_int {i : Int} (h : fitsWord i = true) : (int i).word? = some i := by
  simp [word?, h]

end Number

namespace Value

instance : Inhabited Value := ⟨null⟩

def int (i : Int) : Value := num (.int i)

/-- A fraction, or null when it is infinite or undefined. -/
def float (x : Float) : Value := if x.isFinite then num (.float x) else null

def isNull : Value → Bool
  | null => true
  | _ => false

def bool? : Value → Option Bool
  | bool b => some b
  | _ => none

def str? : Value → Option String
  | str s => some s
  | _ => none

def arr? : Value → Option (List Value)
  | arr items => some items
  | _ => none

def obj? : Value → Option Row
  | obj entries => some entries
  | _ => none

def num? : Value → Option Number
  | num n => some n
  | _ => none

def word? : Value → Option Int
  | num n => n.word?
  | _ => none

/-- The entry of an object; nothing for any other value. -/
def field? : Value → String → Option Value
  | obj entries, key => Entries.get? entries key
  | _, _ => none

/-- The items of a list entry; none if there is no such entry or it is not a list. -/
def items (v : Value) (key : String) : List Value := ((v.field? key).bind arr?).getD []

theorem sizeOf_lt_of_get? {entries : List (String × Value)} {key : String} {v : Value}
    (h : Entries.get? entries key = some v) : sizeOf v < sizeOf entries := by
  induction entries with
  | nil => simp at h
  | cons entry rest ih =>
    obtain ⟨name, w⟩ := entry
    rw [Entries.get?_cons] at h
    split at h
    · cases h
      simp +arith
    · have := ih h
      simp
      omega

theorem sizeOf_lt_of_field? {v w : Value} {key : String} (h : v.field? key = some w) :
    sizeOf w < sizeOf v := by
  cases v <;> simp only [field?, reduceCtorEq] at h
  have := sizeOf_lt_of_get? h
  simp
  omega

theorem sizeOf_lt_of_mem_items {v w : Value} {key : String} (h : w ∈ v.items key) :
    sizeOf w < sizeOf v := by
  rw [items] at h
  cases e : (v.field? key).bind arr? with
  | none => simp [e] at h
  | some xs =>
    rw [e, Option.getD_some] at h
    obtain ⟨u, hu, he⟩ := Option.bind_eq_some_iff.1 e
    have outer := sizeOf_lt_of_field? hu
    cases u <;> simp only [arr?, reduceCtorEq, Option.some.injEq] at he
    subst he
    have inner := List.sizeOf_lt_of_mem h
    simp at outer
    omega

mutual

/-- Structural equality. Fractions are compared as numbers, so both zeros agree. -/
def same : Value → Value → Bool
  | null, null => true
  | bool a, bool b => a == b
  | num a, num b => a.same b
  | str a, str b => a == b
  | arr xs, arr ys => sameItems xs ys
  | obj xs, obj ys => sameEntries xs ys
  | _, _ => false

def sameItems : List Value → List Value → Bool
  | [], [] => true
  | x :: xs, y :: ys => same x y && sameItems xs ys
  | _, _ => false

def sameEntries : List (String × Value) → List (String × Value) → Bool
  | [], [] => true
  | (k, x) :: xs, (l, y) :: ys => k == l && same x y && sameEntries xs ys
  | _, _ => false

end

end Value

end GuardedQuery
