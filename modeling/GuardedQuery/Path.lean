/-! Field paths. A path is a list of names written with double underscores between them. -/

namespace GuardedQuery.Path

/-- Cuts at every double underscore, found from left to right without overlap. -/
def cut : List Char → List (List Char)
  | '_' :: '_' :: rest => [] :: cut rest
  | c :: rest =>
    match cut rest with
    | [] => [[c]]
    | name :: names => (c :: name) :: names
  | [] => [[]]

def segments (path : String) : List String := (cut path.toList).map String.ofList

def separator : String := "__"

def join (names : List String) : String := separator.intercalate names

theorem cut_ne_nil (cs : List Char) : cut cs ≠ [] := by
  fun_cases cut cs <;> simp_all

theorem segments_ne_nil (path : String) : segments path ≠ [] := by
  simp [segments, cut_ne_nil]

/-- The number of separators in a path. -/
def separators (path : String) : Nat := (segments path).length - 1

end GuardedQuery.Path
