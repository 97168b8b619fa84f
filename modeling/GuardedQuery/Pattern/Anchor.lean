import GuardedQuery.Text.Trait

/-! Anchors: conditions on the place between two characters. -/

namespace GuardedQuery.Pattern

/-- The ways in which a place can lie at a word. -/
inductive WordEdge where
  /-- Words begin or end here. -/
  | either
  /-- No word begins or ends here. -/
  | neither
  | start
  | finish
  /-- No word stands before the place. -/
  | startHalf
  /-- No word stands behind the place. -/
  | finishHalf
  deriving DecidableEq

namespace WordEdge

/-- Whether an edge lies between what is before and what is after, each a word or not. -/
def holds (edge : WordEdge) (before after : Bool) : Bool :=
  match edge with
  | either => before != after
  | neither => before == after
  | start => !before && after
  | finish => before && !after
  | startHalf => !before
  | finishHalf => !after

end WordEdge

def asciiWord : CharSet := .ofHex ["30-39 41-5a 5f 61-7a"]

inductive Anchor where
  | textStart
  | textEnd
  /-- Lines may also be divided by carriage returns, alone or before a line feed. -/
  | lineStart (carriageReturns : Bool)
  | lineEnd (carriageReturns : Bool)
  | word (edge : WordEdge) (asciiOnly : Bool)
  deriving DecidableEq

namespace Anchor

/-- Whether the anchor holds between two characters; there is none beyond the text. -/
def holds (anchor : Anchor) (before after : Option Char) : Bool :=
  match anchor with
  | textStart => before.isNone
  | textEnd => after.isNone
  | lineStart false => before.all (· == '\n')
  | lineStart true => before.all fun c => c == '\n' || (c == '\r' && after != some '\n')
  | lineEnd false => after.all (· == '\n')
  | lineEnd true => after.all fun c => c == '\r' || (c == '\n' && before != some '\r')
  | word edge asciiOnly =>
    let chars := if asciiOnly then asciiWord else Trait.word
    edge.holds (before.any chars.contains) (after.any chars.contains)

end Anchor

end GuardedQuery.Pattern
