import GuardedQuery.Settings.Layout

/-! Settings documents: named entries, one below the other, that are scalars or, further
indented, hold entries themselves. -/

namespace GuardedQuery.Settings

inductive Node where
  | scalar (s : Scalar)
  | entries (nodes : List (Scalar × Node))

instance : Inhabited Node := ⟨.scalar .null⟩

namespace Document

open Layout

inductive Fault where
  | malformed
  /-- The name of an entry is neither a text nor a whole number. -/
  | unnamed
  deriving DecidableEq

/-! Reading -/

mutual

/-- The entries whose names are indented alike, and the lines behind them. No name occurs twice. -/
def readEntries : Nat → Nat → List Line → Option (List (Scalar × Node) × List Line)
  | 0, _, _ => none
  | fuel + 1, indent, lines =>
    match lines.dropWhile Line.isVoid with
    | [] => some ([], [])
    | line :: rest =>
      if line.indent < indent then some ([], line :: rest)
      else if indent < line.indent then none
      else do
        let (name, behind) ← readName line
        if !isSetOff behind then none
        let (node, rest) ← readNode fuel indent behind rest
        let (nodes, rest) ← readEntries fuel indent rest
        if nodes.any (·.1 = name) then none
        return ((name, node) :: nodes, rest)

/-- What stands behind the colon of a name that is indented by `indent`. -/
def readNode : Nat → Nat → List Char → List Line → Option (Node × List Line)
  | 0, _, _, _ => none
  | fuel + 1, indent, behind, lines =>
    if isTrailer behind then
      match lines.dropWhile Line.isVoid with
      | [] => some (.scalar .null, [])
      | line :: rest =>
        if line.indent ≤ indent then some (.scalar .null, line :: rest)
        else if (readName line).isSome then do
          let (nodes, rest) ← readEntries fuel line.indent (line :: rest)
          return (.entries nodes, rest)
        else do
          let (s, rest) ← readScalar (indent + 1) line.content rest
          return (.scalar s, rest)
    else do
      let (s, rest) ← readScalar (indent + 1) (dropGaps behind) lines
      return (.scalar s, rest)

end

/-- Whether a line begins with three equal signs, which mark where a document begins or ends. -/
def isMark (sign : Char) (line : Line) : Bool :=
  line.indent = 0 && line.content.take 3 == List.replicate 3 sign &&
    beforeGap (line.content.drop 3)

/-- Whether nothing but a comment stands behind a mark. -/
def isBareMark (sign : Char) (line : Line) : Bool :=
  isMark sign line && isTrailer (line.content.drop 3)

/-- The lines of the only document, if there is one. -/
def body? (lines : List Line) : Option (List Line) :=
  let lines := match lines.dropWhile Line.isVoid with
    | line :: rest => if isBareMark '-' line then rest else line :: rest
    | [] => []
  let content := lines.takeWhile fun line => !isMark '-' line && !isMark '.' line
  let behind := lines.drop content.length
  if behind.all fun line => line.isVoid || isBareMark '.' line then some content else none

/-- The entries of a text. A text that says nothing has none, but a document that has begun
has to have some. -/
def nodes? (text : String) : Option (List (Scalar × Node)) := do
  let lines := linesOf text
  if lines.all Line.isVoid then return []
  match (← body? lines).dropWhile Line.isVoid with
  | [] => none
  | line :: rest =>
    let (nodes, behind) ← readEntries (sizeOfLines lines + 1) line.indent (line :: rest)
    if behind.isEmpty then some nodes else none

/-! Meaning -/

mutual

def valueOf : Node → Except Fault Value
  | .scalar s =>
    match s.value? with
    | some v => .ok v
    | none => .error .malformed
  | .entries nodes => .obj <$> rowOf nodes []

/-- Adds entries to a row one after another. -/
def rowOf : List (Scalar × Node) → Row → Except Fault Row
  | [], row => .ok row
  | (name, node) :: rest, row =>
    match name.name? with
    | none => .error .unnamed
    | some name => do rowOf rest (row.insert name (← valueOf node))

end

/-- Reads a document. -/
def read (text : String) : Except Fault Row :=
  match nodes? text with
  | some nodes => rowOf nodes []
  | none => .error .malformed

end Document

end GuardedQuery.Settings
