import GuardedQuery.Text.Quoted
import GuardedQuery.Value.Text

/-! Reading typed data out of values.
Objects are visited in the order of their entries and the first misfit is reported. Records may
also be written as lists of their fields in declaration order, with missing fields at the end. -/

namespace GuardedQuery

/-- Why a value does not have the expected shape. -/
inductive Misfit where
  | type (found : Value) (expected : String)
  | value (found : Int) (expected : String)
  | length (found : Nat)
  | alternatives (name : String)

namespace Misfit

/-- A value as misfits name it. -/
def describe : Value → String
  | .null => "null"
  | .bool b => "boolean `" ++ (if b then "true" else "false") ++ "`"
  | .num (.int i) => "integer `" ++ toString i ++ "`"
  | .num (.float x) => "floating point `" ++ (Number.float x).text ++ "`"
  | .str s => "string " ++ Text.quote s
  | .arr _ => "sequence"
  | .obj _ => "map"

def message : Misfit → String
  | type found expected => "invalid type: " ++ describe found ++ ", expected " ++ expected
  | value found expected =>
    "invalid value: " ++ describe (.int found) ++ ", expected " ++ expected
  | length found =>
    "invalid length " ++ toString found ++ ", expected fewer elements in array"
  | alternatives name => "data did not match any variant of untagged enum " ++ name

end Misfit

namespace Shape
variable {α : Type}

def string : Value → Except Misfit String
  | .str s => .ok s
  | v => .error (.type v "a string")

def bool : Value → Except Misfit Bool
  | .bool b => .ok b
  | v => .error (.type v "a boolean")

/-- An unsigned integer of the given width. -/
def unsigned (bits : Nat) : Value → Except Misfit Nat
  | .num (.int i) =>
    if 0 ≤ i ∧ i.toNat < 1 <<< bits then .ok i.toNat else .error (.value i ("u" ++ toString bits))
  | v => .error (.type v ("u" ++ toString bits))

def list (item : Value → Except Misfit α) : Value → Except Misfit (List α)
  | .arr items => items.mapM item
  | v => .error (.type v "a sequence")

def map : Value → Except Misfit Row
  | .obj entries => .ok entries
  | v => .error (.type v "a map")

def optional (shape : Value → Except Misfit α) : Value → Except Misfit (Option α)
  | .null => .ok none
  | v => some <$> shape v

/-- Any value but null. -/
def present : Value → Option Value
  | .null => none
  | v => some v

/-- A record of the given type name: `set` stores the value of a field, or leaves the record as
it is when it has no field of that name. -/
def record (name : String) (fields : List String) (set : α → String → Value → Except Misfit α)
    (start : α) : Value → Except Misfit α
  | .obj entries => entries.foldlM (fun a entry => set a entry.1 entry.2) start
  | .arr items => do
    let filled ← (fields.zip items).foldlM (fun a entry => set a entry.1 entry.2) start
    if fields.length < items.length then throw (.length items.length)
    return filled
  | v => .error (.type v ("struct " ++ name))

end Shape

end GuardedQuery
