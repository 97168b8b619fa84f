import GuardedQuery.Pattern.Reader
import GuardedQuery.Text.Utf8
import Std.Data.HashMap

/-! The size of a pattern. A pattern counts as large as an automaton that reads texts byte by
byte, forward or backward, and patterns above a limit are refused. A state takes thirty-two
bytes, a transition by byte range eight more, and an alternative way four. -/

namespace GuardedQuery.Pattern

def sizeLimit : Nat := 0xa00000

structure Meter where
  states : Nat
  /-- The bytes of transitions and alternative ways. -/
  extra : Nat

def Meter.bytes (m : Meter) : Nat := 32 * m.states + m.extra

/-- Measuring ends without a result where the limit is passed. -/
abbrev Metered := StateT Meter Option

def grow (states extra : Nat) : Metered Unit := fun m =>
  let m : Meter := ⟨m.states + states, m.extra + extra⟩
  if m.bytes ≤ sizeLimit then some ((), m) else none

/-! Sets beyond ASCII. States with the same transitions are shared as far as a table of the
latest ones, where each has its slot by a hash, still holds them. -/

def mix (words : List Nat) : UInt64 :=
  words.foldl (fun h word => (h ^^^ word.toUInt64) * 0x100000001b3) 0xcbf29ce484222325

/-- States written so far, and for each slot the words and the number of its latest state. -/
structure Sharing where
  meter : Meter
  slots : Std.HashMap Nat (List Nat × Nat)

abbrev Shared := StateM Sharing

/-- The number of a state with these words, which is written if its slot does not hold it. -/
def share (slotCount extra : Nat) (words : List Nat) : Shared Nat := fun s =>
  let slot := (mix words).toNat % slotCount
  match s.slots[slot]?.filter (·.1 = words) with
  | some (_, state) => (state, s)
  | none =>
    let state := s.meter.states
    (state, ⟨⟨state + 1, s.meter.extra + extra⟩, s.slots.insert slot (words, state)⟩)

/-- Writes the states that read sequences forward, those at the end first. -/
def shareForward (target : Nat) : Nat → List (List Utf8.ByteRange) → Shared Nat
  | 0, _ => pure target
  | fuel + 1, sequences => do
    let groups := sequences.splitBy fun a b => a.head? == b.head?
    let words ← groups.foldlM (fun words group => do
      match group with
      | (range :: more) :: _ =>
        let next ←
          if more.isEmpty then pure target
          else shareForward target fuel (group.map (·.drop 1))
        return words ++ [range.first, range.last, next]
      | _ => return words) []
    share 10000 (8 * groups.length) words

/-- Writes the states that read one sequence backward; the last state begins it. -/
def shareBackward (target : Nat) (sequence : List Utf8.ByteRange) : Shared Nat :=
  sequence.foldlM (fun next range => share 1000 0 [next, range.first, range.last]) target

/-- Takes over what has been written with a table of its own. -/
def withSharing (write : Shared Unit) : Metered Unit := fun m =>
  let (_, s) := write.run ⟨m, ∅⟩
  if s.meter.bytes ≤ sizeLimit then some ((), s.meter) else none

def isAsciiSet (chars : CharSet) : Bool := chars.ranges.all fun range => range.2 < 128

def measureSet (backward : Bool) (chars : CharSet) : Metered Unit := do
  if isAsciiSet chars then grow 2 (8 * chars.ranges.length)
  else
    let sequences := Utf8.sequences chars
    let target := (← get).states
    if backward then
      grow 2 (4 * sequences.length)
      withSharing (sequences.forM fun sequence => discard (shareBackward (target + 1) sequence))
    else
      grow 1 0
      withSharing (discard (shareForward target 4 sequences))

/-! Words, when all alternatives are literals. They share what they begin with. -/

/-- Divides words at the empty ones, which end a word at this place; only one of those at the
front counts. -/
def chunks (words : List (List Nat)) : List (List (List Nat)) :=
  let leading := words.takeWhile (·.isEmpty)
  let rest := (words.drop leading.length).splitOnP (·.isEmpty)
  if leading.isEmpty then rest else [] :: rest

def addSizes (a b : Nat × Nat) : Nat × Nat := (a.1 + b.1, a.2 + b.2)

/-- The states and further bytes of all words from one place on. -/
def wordsSize : Nat → List (List Nat) → Nat × Nat
  | 0, _ => (0, 0)
  | fuel + 1, words =>
    let parts := chunks words
    let filled := parts.filter (!·.isEmpty)
    let partSize (part : List (List Nat)) : Nat × Nat :=
      let firsts := (part.filterMap (·.head?)).eraseDups
      let behind (first : Nat) : Nat × Nat :=
        let rests := (part.filter (·.head? == some first)).map (·.drop 1)
        if rests.all (·.isEmpty) then (0, 0) else wordsSize fuel rests
      (firsts.map behind).foldl addSizes (1, if firsts.length = 1 then 0 else 8 * firsts.length)
    (filled.map partSize).foldl addSizes (1, 4 * (filled.length + (parts.length - 1)))

/-- The bytes of the alternatives if they are literals only. -/
def words? (backward : Bool) (ps : List Pattern) : Option (List (List Nat)) :=
  ps.mapM fun p =>
    match p with
    | literal (c :: rest) =>
      let bytes := Utf8.bytesOf (c :: rest)
      some (if backward then bytes.reverse else bytes)
    | _ => none

/-! Patterns. Measuring yields whether the part ends in a state with alternative ways, to which
what follows adds one. -/

/-- What it takes to lead on from an end. -/
def lead (isOpen : Bool) : Metered Unit := if isOpen then grow 0 4 else pure ()

def measureTurns (turn : Metered Bool) (isOpen : Bool) : Nat → Metered Bool
  | 0 => return isOpen
  | n + 1 => do
    let ends ← turn
    lead isOpen
    measureTurns turn ends n

/-- Exactly so many turns, of which none at all takes a state too. -/
def measureExactly (turn : Metered Bool) (n : Nat) : Metered Bool := do
  if n = 0 then
    grow 1 0
    return false
  else measureTurns turn false n

def measureOptional (turn : Metered Bool) (isOpen : Bool) : Nat → Metered Unit
  | 0 => lead isOpen
  | n + 1 => do
    grow 1 8
    let ends ← turn
    lead isOpen
    measureOptional turn ends n

/-- A repetition without a bound, of a turn that takes a character or may take none. -/
def measureUnbounded (turn : Metered Bool) (takes : Bool) (least : Nat) : Metered Bool := do
  match least with
  | 0 =>
    if takes then
      grow 1 4
      lead (← turn)
      return true
    else
      lead (← turn)
      grow 3 16
      return false
  | 1 =>
    lead (← turn)
    grow 1 4
    return true
  | least + 1 =>
    let before ← measureExactly turn least
    lead (← turn)
    lead before
    grow 1 4
    return true

def measureRepetition (turn : Metered Bool) (takes : Bool) (least : Nat) (most : Option Nat) :
    Metered Bool := do
  match most with
  | none => measureUnbounded turn takes least
  | some most =>
    if least = 0 ∧ most = 1 then
      grow 1 8
      let ends ← turn
      grow 1 0
      lead ends
      return false
    else
      let before ← measureExactly turn least
      if least = most then return before
      else
        grow 1 0
        measureOptional turn before (most - least)
        return false

/-- The place of a part among alternatives. -/
inductive Place where
  | alone
  | second
  | later

/-- Joins a part to the alternatives before it. The states that all of them share are written
behind the second one. -/
def Place.close (place : Place) (isOpen : Bool) : Metered Bool := do
  match place with
  | alone => return isOpen
  | second =>
    grow 2 4
    lead isOpen
    return false
  | later =>
    grow 0 4
    lead isOpen
    return false

def measure (backward : Bool) : Pattern → Place → Metered Bool
  | literal chars, place => do
    grow (max 1 (Utf8.bytesOf chars).length) 0
    place.close false
  | set chars, place => do
    measureSet backward chars
    place.close false
  | anchor _, place => do
    grow 1 0
    place.close false
  | seq first second, place => do
    if backward then
      let middle ← measure backward second .alone
      let ends ← measure backward first .alone
      lead middle
      place.close ends
    else
      let middle ← measure backward first .alone
      let ends ← measure backward second .alone
      lead middle
      place.close ends
  | rep body least most, place => do
    let takes := body.shortest?.any (0 < ·)
    place.close (← measureRepetition (measure backward body .alone) takes least most)
  | group body, place => do
    if backward then place.close (← measure backward body .alone)
    else
      grow 1 0
      let ends ← measure backward body .alone
      grow 1 0
      lead ends
      place.close false
  | alt first second, place => do
    match place with
    | .alone =>
      match words? backward (alt first second).branches with
      | some words =>
        let longest := words.foldl (fun n word => max n word.length) 0
        let (states, extra) := wordsSize (longest + 1) words
        grow (states + 1) extra
        return false
      | none =>
        let ends ← measure backward first .alone
        grow 0 4
        lead ends
        measure backward second .second
    | place =>
      discard (place.close (← measure backward first .alone))
      measure backward second .later

/-- Whether the automaton of one direction stays within the limit. A match may begin anywhere
unless it must lie at the end where reading begins. -/
def fitsWay (backward : Bool) (p : Pattern) : Bool :=
  let fixed := if backward then p.endsAt .textEnd else p.startsAt .textStart
  let whole : Metered Unit := do
    if fixed then grow 1 0 else grow 3 16
    lead (← measure backward (if backward then p else group p) .alone)
    grow 1 0
  (whole.run ⟨0, 0⟩).isSome

def fits (p : Pattern) : Bool := fitsWay false p && fitsWay true p

/-- The pattern of a text, if it is one and is not too large. -/
def read? (text : String) (ignoreCase : Bool) : Option Pattern :=
  (ofText? text ignoreCase).filter fits

end GuardedQuery.Pattern
