/-! Sets of characters, kept as the ranges of their code points in increasing order.
Ranges that touch are joined. No range begins or ends at a code point that no character has, so
that two sets of the same characters have the same ranges. -/

namespace GuardedQuery

structure CharSet where
  ranges : List (Nat × Nat)
  deriving DecidableEq

namespace CharSet

def lastCode : Nat := 0x10ffff

def empty : CharSet := ⟨[]⟩

def all : CharSet := ⟨[(0, lastCode)]⟩

def single (c : Char) : CharSet := ⟨[(c.toNat, c.toNat)]⟩

/-- Whether a range holds the code point; the search ends where the ranges have passed it. -/
def scan (code : Nat) : List (Nat × Nat) → Bool
  | [] => false
  | range :: rest => if code < range.1 then false else code ≤ range.2 || scan code rest

def containsCode (s : CharSet) (code : Nat) : Bool := scan code s.ranges

def contains (s : CharSet) (c : Char) : Bool := s.containsCode c.toNat

def isEmpty (s : CharSet) : Bool := s.ranges.isEmpty

/-! Operations -/

/-- The code point of the character after the one with this code point. -/
def nextCode (code : Nat) : Nat := if code = 0xd7ff then 0xe000 else code + 1

/-- The code point of the character before the one with this code point. -/
def prevCode (code : Nat) : Nat := if code = 0xe000 then 0xd7ff else code - 1

/-- Joins ranges that overlap or touch; the first of them is `current`. -/
def joinFrom (current : Nat × Nat) : List (Nat × Nat) → List (Nat × Nat)
  | [] => [current]
  | range :: rest =>
    if range.1 ≤ nextCode current.2 then joinFrom (current.1, max current.2 range.2) rest
    else current :: joinFrom range rest

def ofRanges (ranges : List (Nat × Nat)) : CharSet :=
  match ranges.mergeSort fun a b => a.1 ≤ b.1 with
  | [] => empty
  | range :: rest => ⟨joinFrom range rest⟩

def union (s t : CharSet) : CharSet := ofRanges (s.ranges ++ t.ranges)

/-- What lies between the ranges, from `low` on. -/
def gapsFrom (low : Nat) : List (Nat × Nat) → List (Nat × Nat)
  | [] => if low ≤ lastCode then [(low, lastCode)] else []
  | range :: rest =>
    if low < range.1 then (low, prevCode range.1) :: gapsFrom (nextCode range.2) rest
    else gapsFrom (nextCode range.2) rest

def compl (s : CharSet) : CharSet := ⟨gapsFrom 0 s.ranges⟩

def inter (s t : CharSet) : CharSet := (s.compl.union t.compl).compl

def diff (s t : CharSet) : CharSet := s.inter t.compl

def symmDiff (s t : CharSet) : CharSet := (s.diff t).union (t.diff s)

def unions (sets : List CharSet) : CharSet := ofRanges (sets.flatMap ranges)

/-! Written sets -/

def hexValue (digits : List Char) : Nat :=
  digits.foldl (fun n c =>
    n * 16 + (if c.isDigit then c.toNat - '0'.toNat else c.toNat - 'a'.toNat + 10)) 0

/-- A code point, a range `first-last`, or every second code point of a range
`first-last/2`. -/
def rangesOfItem (item : List Char) : List (Nat × Nat) :=
  let (first, rest) := item.span (· != '-')
  let (last, step) := (rest.drop 1).span (· != '/')
  let first := hexValue first
  let last := if last.isEmpty then first else hexValue last
  if step.isEmpty then [(first, last)]
  else (List.range ((last - first) / 2 + 1)).map fun i => (first + 2 * i, first + 2 * i)

/-- The set written as hexadecimal items with blanks between. -/
def ofHex (lines : List String) : CharSet :=
  ofRanges (lines.flatMap fun line =>
    (line.splitOn " ").flatMap fun item => rangesOfItem item.toList)

theorem contains_empty (c : Char) : empty.contains c = false := rfl

theorem contains_single (c d : Char) : (single c).contains d = (c == d) := by
  by_cases h : c = d
  · subst h; simp [single, contains, containsCode, scan]
  · have : c.toNat ≠ d.toNat := fun e => h (Char.toNat_inj.1 e)
    simp only [single, contains, containsCode, scan, Bool.or_false]
    rw [beq_false_of_ne h]
    split
    · rfl
    · simp only [decide_eq_false_iff_not]
      omega

end CharSet

end GuardedQuery
