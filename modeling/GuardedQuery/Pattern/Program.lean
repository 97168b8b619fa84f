import GuardedQuery.Pattern

/-! Matching. A pattern becomes a program of small steps; all places of the program that a match
can have reached are followed together while the text is read once. -/

namespace GuardedQuery.Pattern

/-- One step of a program. A step names the place of the one that follows it. -/
inductive Step where
  | accept
  | take (c : Char) (next : Nat)
  | choose (chars : CharSet) (next : Nat)
  | check (anchor : Anchor) (next : Nat)
  | fork (first second : Nat)

namespace Step

/-- The place behind a step that takes the character. -/
def behind? (c : Char) : Step → Option Nat
  | .take d next => if c = d then some next else none
  | .choose chars next => if chars.contains c then some next else none
  | _ => none

end Step

structure Program where
  steps : Array Step
  start : Nat

namespace Program

/-! Writing a program from its end -/

abbrev Writer := StateM (Array Step)

/-- Writes a step and yields its place. -/
def emit (step : Step) : Writer Nat := fun steps => (steps.size, steps.push step)

/-- Puts a writer's step before what follows, several times. -/
def iterate (write : Nat → Writer Nat) : Nat → Nat → Writer Nat
  | 0, next => pure next
  | n + 1, next => do iterate write n (← write next)

/-- Allows some more turns, after each of which a match may go on with what follows. -/
def iterateAtMost (write : Nat → Writer Nat) (next : Nat) : Nat → Nat → Writer Nat
  | 0, entry => pure entry
  | n + 1, entry => do iterateAtMost write next n (← emit (.fork (← write entry) next))

/-- Allows any number of turns: the fork is written first so that a turn can lead back to it. -/
def iterateFreely (write : Nat → Writer Nat) (next : Nat) : Writer Nat := do
  let place ← emit (.fork next next)
  let entry ← write place
  modify (·.setIfInBounds place (.fork entry next))
  return place

def writeChars (next : Nat) : List Char → Writer Nat
  | [] => pure next
  | c :: rest => do emit (.take c (← writeChars next rest))

/-- Writes a pattern before the step at `next`, and yields the place where it begins. -/
def write : Pattern → Nat → Writer Nat
  | literal chars, next => writeChars next chars
  | set chars, next => emit (.choose chars next)
  | anchor a, next => emit (.check a next)
  | seq first second, next => do write first (← write second next)
  | alt first second, next => do
    let a ← write first next
    let b ← write second next
    emit (.fork a b)
  | rep body least most, next => do
    let rest ← match most with
      | some most => iterateAtMost (write body) next (most - least) next
      | none => iterateFreely (write body) next
    iterate (write body) least rest
  | group body, next => write body next

def ofPattern (p : Pattern) : Program :=
  let (start, steps) := write p 0 #[.accept]
  { steps, start }

/-! Running a program -/

/-- Places that a match has reached, with a mark for each. -/
structure Front where
  marks : Array Bool
  places : List Nat
  accepted : Bool

def Front.empty (size : Nat) : Front := ⟨Array.replicate size false, [], false⟩

/-- Follows all steps that take no character, from the places on. -/
def follow (steps : Array Step) (before after : Option Char) :
    Nat → List Nat → Front → Front
  | 0, _, front => front
  | _, [], front => front
  | fuel + 1, place :: rest, front =>
    if front.marks.getD place true then follow steps before after fuel rest front
    else
      let front := { front with marks := front.marks.setIfInBounds place true }
      match steps[place]? with
      | none => follow steps before after fuel rest front
      | some .accept => follow steps before after fuel rest { front with accepted := true }
      | some (.check a next) =>
        follow steps before after fuel (if a.holds before after then next :: rest else rest) front
      | some (.fork first second) =>
        follow steps before after fuel (first :: second :: rest) front
      | some (.take _ _) | some (.choose _ _) =>
        follow steps before after fuel rest { front with places := place :: front.places }

def advance (steps : Array Step) (c : Char) (places : List Nat) : List Nat :=
  places.filterMap fun place => steps[place]?.bind (Step.behind? c)

/-- Whether a match ends at this place of the text or later, where matches have got to
`places` or begin here or later. -/
def search (program : Program) (before : Option Char) (places : List Nat) : List Char → Bool
  | [] => (reach none).accepted
  | c :: rest =>
    let front := reach (some c)
    front.accepted || search program (some c) (advance program.steps c front.places) rest
where
  reach (after : Option Char) : Front :=
    let size := program.steps.size
    let places := program.start :: places
    follow program.steps before after (2 * size + places.length + 1) places (.empty size)

end Program

/-- Whether the pattern matches a part of the text. -/
def isMatch (p : Pattern) (text : String) : Bool :=
  (Program.ofPattern p).search none [] text.toList

end GuardedQuery.Pattern
