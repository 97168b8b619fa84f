import GuardedQuery.Dict
import GuardedQuery.Store.Error
import GuardedQuery.Value.Text

/-! Tables: the rows of one model in the order of their insertion, with an index by the text of
the primary key. Rows are numbered as they come, and the index leads from key text to number.
Keys of one text, such as `1` and `"1"`, address the same row. -/

namespace GuardedQuery

namespace Store

structure Table where
  /-- Numbered rows, the oldest first. -/
  rows : List (Nat × Row)
  index : Dict Nat
  /-- How many rows have been inserted. -/
  count : Nat
  /-- The greatest integer among all primary keys so far, or zero. -/
  lastKey : Int

/-- The text by which a primary key is indexed. -/
def keyText : Value → String
  | .str s => s
  | other => other.text

namespace Table

def empty : Table := ⟨[], .empty, 0, 0⟩

instance : Inhabited Table := ⟨empty⟩

def values (t : Table) : List Row := t.rows.map Prod.snd

def number? (t : Table) (key : Value) : Option Nat := t.index.get? (keyText key)

def get? (t : Table) (key : Value) : Option Row := (t.number? key).bind (t.rows.lookup ·)

/-- Puts another row in the place of the one that has the key. -/
def replace (t : Table) (key : Value) (row : Row) : Table :=
  match t.number? key with
  | some n => { t with rows := t.rows.map fun entry => if entry.1 = n then (n, row) else entry }
  | none => t

def remove (t : Table) (key : Value) : Table :=
  match t.number? key with
  | some n =>
    { t with rows := t.rows.filter (·.1 != n), index := t.index.erase (keyText key) }
  | none => t

/-- The primary key that a row brings along; null counts as none. -/
def ownKey? (keyName : String) (row : Row) : Option Value :=
  (row.get? keyName).bind fun key => if key.isNull then none else some key

/-- The greatest of the keys so far after another one; only integers count. -/
def keyAfter (last : Int) (key : Value) : Int :=
  match key.word? with
  | some i => max last i
  | none => last

def append (t : Table) (key : Value) (row : Row) : Table where
  rows := t.rows ++ [(t.count + 1, row)]
  index := t.index.insert (keyText key) (t.count + 1)
  count := t.count + 1
  lastKey := t.lastKey

/-- Inserts a row at the end under a primary key of its own, which counts towards the greatest
key even if the row is refused. -/
def insertKeyed (t : Table) (model : String) (key : Value) (row : Row) : Except Error Row × Table :=
  let t := { t with lastKey := keyAfter t.lastKey key }
  if t.index.contains (keyText key) then (.error (.duplicateKey model (keyText key)), t)
  else (.ok row, t.append key row)

/-- Inserts a row at the end. A row without a primary key gets the integer after the greatest
one so far. -/
def insert (t : Table) (model keyName : String) (row : Row) : Except Error Row × Table :=
  match ownKey? keyName row with
  | some key => t.insertKeyed model key row
  | none =>
    if fitsWord (t.lastKey + 1) then
      t.insertKeyed model (.int (t.lastKey + 1)) (row.insert keyName (.int (t.lastKey + 1)))
    else (.error (.keysExhausted model), t)

/-- Inserts all rows, or reports the first failure. -/
def insertAll (model keyName : String) : List Row → Table → Except Error (List Row × Table)
  | [], t => .ok ([], t)
  | row :: rest, t =>
    match t.insert model keyName row with
    | (.error e, _) => .error e
    | (.ok row, t) => (insertAll model keyName rest t).map fun (rows, t) => (row :: rows, t)

end Table

end Store

end GuardedQuery
