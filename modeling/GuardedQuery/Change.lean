import GuardedQuery.Formula

/-! Column changes of an update. All of them are computed from the row as it was, so columns
may exchange their values. -/

namespace GuardedQuery

inductive Change where
  | set (value : Value)
  | compute (formula : Formula)

/-- Changes by column. -/
abbrev Changes := Entries Change

namespace Change

def value (change : Change) (row : Row) : Except Formula.Fault Value :=
  match change with
  | set value => .ok value
  | compute formula => formula.evaluate row

end Change

namespace Changes

/-- Writes the new values of the columns of `before` into a row. -/
def write (before : Row) : Changes → Row → Except Formula.Fault Row
  | [], row => .ok row
  | (column, change) :: rest, row => do
    write before rest (row.insert column (← change.value before))

def apply (changes : Changes) (row : Row) : Except Formula.Fault Row := changes.write row row

end Changes

end GuardedQuery
