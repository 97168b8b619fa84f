import GuardedQuery.Pattern.Anchor

/-! Regular expressions. Which of several matches is found plays no part, so repetitions and
alternatives have no order of preference. Patterns are built in a plain form: literals that
follow each other are one literal, sequences and alternatives lean to the right, and what
alternatives begin with alike stands before them once. -/

namespace GuardedQuery

inductive Pattern where
  /-- Takes exactly these characters. -/
  | literal (chars : List Char)
  /-- Takes one character of a set. -/
  | set (chars : CharSet)
  | anchor (anchor : Pattern.Anchor)
  | seq (first second : Pattern)
  | alt (first second : Pattern)
  | rep (body : Pattern) (least : Nat) (most : Option Nat)
  /-- A group whose part of the text could be asked for. -/
  | group (body : Pattern)
  deriving DecidableEq

namespace Pattern

def empty : Pattern := literal []

/-! Extent -/

def isZeroWidth : Pattern → Bool
  | literal chars => chars.isEmpty
  | set _ => false
  | anchor _ => true
  | seq first second | alt first second => first.isZeroWidth && second.isZeroWidth
  | rep body _ most => body.isZeroWidth || most == some 0
  | group body => body.isZeroWidth

/-- The least number of characters that a match takes, unless nothing can match. -/
def shortest? : Pattern → Option Nat
  | literal chars => some chars.length
  | set chars => if chars.isEmpty then none else some 1
  | anchor _ => some 0
  | seq first second => do return (← first.shortest?) + (← second.shortest?)
  | alt first second => do return min (← first.shortest?) (← second.shortest?)
  | rep body least _ => body.shortest?.map (· * least)
  | group body => body.shortest?

/-- Whether every match begins where the anchor holds. -/
def startsAt (a : Anchor) : Pattern → Bool
  | literal _ | set _ => false
  | anchor b => b = a
  | seq first second => first.startsAt a || (first.isZeroWidth && second.startsAt a)
  | alt first second => first.startsAt a && second.startsAt a
  | rep body least _ => least ≠ 0 && body.startsAt a
  | group body => body.startsAt a

/-- Whether every match ends where the anchor holds. -/
def endsAt (a : Anchor) : Pattern → Bool
  | literal _ | set _ => false
  | anchor b => b = a
  | seq first second => second.endsAt a || (second.isZeroWidth && first.endsAt a)
  | alt first second => first.endsAt a && second.endsAt a
  | rep body least _ => least ≠ 0 && body.endsAt a
  | group body => body.endsAt a

/-! Plain form -/

/-- A set of one character is a literal. -/
def ofSet (chars : CharSet) : Pattern :=
  match chars.ranges with
  | [(first, last)] => if first = last then literal [Char.ofNat first] else set chars
  | _ => set chars

/-- Repeats a pattern; more than one turn of what takes no character changes nothing. -/
def repetition (body : Pattern) (least : Nat) (most : Option Nat) : Pattern :=
  let (least, most) :=
    if body.isZeroWidth then (min least 1, some (min (most.getD 1) 1)) else (least, most)
  if most = some 0 ∧ least = 0 then empty
  else if most = some 1 ∧ least = 1 then body
  else rep body least most

/-- The parts that a sequence is made of. -/
def factors : Pattern → List Pattern
  | seq first second => first.factors ++ second.factors
  | literal [] => []
  | p => [p]

def joinLiterals : List Pattern → List Pattern
  | [] => []
  | literal chars :: rest =>
    match joinLiterals rest with
    | literal more :: rest => literal (chars ++ more) :: rest
    | rest => literal chars :: rest
  | p :: rest => p :: joinLiterals rest

def ofFactors : List Pattern → Pattern
  | [] => empty
  | [p] => p
  | p :: rest => seq p (ofFactors rest)

def sequence (ps : List Pattern) : Pattern := ofFactors (joinLiterals (ps.flatMap factors))

/-- The alternatives that a pattern is made of. -/
def branches : Pattern → List Pattern
  | alt first second => first.branches ++ second.branches
  | p => [p]

def ofBranches : List Pattern → Pattern
  | [] => set .empty
  | [p] => p
  | p :: rest => alt p (ofBranches rest)

def singleChar? : Pattern → Option CharSet
  | literal [c] => some (.single c)
  | _ => none

def charSet? : Pattern → Option CharSet
  | set chars => some chars
  | _ => none

def hasGroup : Pattern → Bool
  | literal _ | set _ | anchor _ => false
  | seq first second | alt first second => first.hasGroup || second.hasGroup
  | rep body _ _ => body.hasGroup
  | group _ => true

/-- The parts that two sequences begin with alike; groups are never alike. -/
def commonStart : List Pattern → List Pattern → List Pattern
  | p :: ps, q :: qs => if p = q ∧ !p.hasGroup then p :: commonStart ps qs else []
  | _, _ => []

/-- What all alternatives begin with, if each of them is a sequence. -/
def commonPrefix (ps : List Pattern) : List Pattern :=
  let parts := ps.map factors
  if parts.any (·.length < 2) then []
  else
    match parts with
    | [] => []
    | first :: rest => rest.foldl commonStart first

/-- Alternatives in plain form, where `fuel` bounds how often a common start is drawn out. -/
def alternationFrom : Nat → List Pattern → Pattern
  | 0, ps => ofBranches ps
  | fuel + 1, ps =>
    match ps.flatMap branches with
    | [p] => p
    | ps =>
      match ps.mapM singleChar? <|> ps.mapM charSet? with
      | some sets => ofSet (.unions sets)
      | none =>
        match commonPrefix ps with
        | [] => ofBranches ps
        | start =>
          let rests := ps.map fun p => sequence (p.factors.drop start.length)
          sequence (start ++ [alternationFrom fuel rests])

def alternation (ps : List Pattern) : Pattern :=
  alternationFrom (ps.foldl (fun n p => n + p.factors.length) 1) ps

end Pattern

end GuardedQuery
