import GuardedQuery.Value

/-! Reading a value from its text.
Integers that fit a signed or an unsigned machine word are exact. Every other number is
a significand of at most one word, scaled by powers of ten, each step rounded once; digits that
no longer fit the significand are dropped. Nesting is limited. -/

namespace GuardedQuery.Value.Reader

def isBlank (c : Char) : Bool := c = ' ' || c = '\n' || c = '\t' || c = '\r'

def skipBlank (cs : List Char) : List Char := cs.dropWhile isBlank

def digit? (c : Char) : Option Nat :=
  if '0' ≤ c ∧ c ≤ '9' then some (c.toNat - '0'.toNat) else none

def hex? (c : Char) : Option Nat :=
  if '0' ≤ c ∧ c ≤ '9' then some (c.toNat - '0'.toNat)
  else if 'a' ≤ c ∧ c ≤ 'f' then some (c.toNat - 'a'.toNat + 10)
  else if 'A' ≤ c ∧ c ≤ 'F' then some (c.toNat - 'A'.toNat + 10)
  else none

/-! Numbers -/

def wordLimit : Nat := 0x10000000000000000

/-- Digits that still fit the significand, their number and what follows. -/
def fitting : List Char → Nat → Nat → Nat × Nat × List Char
  | c :: cs, significand, count =>
    match digit? c with
    | some d =>
      if significand * 10 + d < wordLimit then fitting cs (significand * 10 + d) (count + 1)
      else (significand, count, c :: cs)
    | none => (significand, count, c :: cs)
  | [], significand, count => (significand, count, [])

def digitCount (cs : List Char) : Nat := (cs.takeWhile fun c => (digit? c).isSome).length

def dropDigits (cs : List Char) : List Char := cs.dropWhile fun c => (digit? c).isSome

def startsWithDigit : List Char → Bool
  | c :: _ => (digit? c).isSome
  | [] => false

def powerOfTen (n : Nat) : Float := Float.ofScientific 1 false n

/-- Scales `x` by a power of ten; fails when the result leaves the range of fractions. -/
def scale : Nat → Float → Int → Option Float
  | 0, x, _ => some x
  | fuel + 1, x, e =>
    if e.natAbs ≤ 308 then
      if 0 ≤ e then
        let y := x * powerOfTen e.natAbs
        if y.isFinite then some y else none
      else some (x / powerOfTen e.natAbs)
    else if x == 0 then some x
    else if 0 ≤ e then none
    else scale fuel (x / powerOfTen 308) (e + 308)

def fraction (negative : Bool) (significand : Nat) (exponent : Int) : Option Value := do
  let steps := exponent.natAbs / 308 + 2
  let x ← scale (min steps 100) (Float.ofNat significand) exponent
  return .num (.float (if negative then -x else x))

def readExponent (negative : Bool) (significand : Nat) (start : Int) (cs : List Char) :
    Option (Value × List Char) :=
  let (down, cs) := match cs with
    | '+' :: rest => (false, rest)
    | '-' :: rest => (true, rest)
    | _ => (false, cs)
  if !startsWithDigit cs then none
  else
    let size := (cs.takeWhile fun c => (digit? c).isSome).foldl
      (fun n c => n * 10 + (digit? c).getD 0) 0
    let rest := dropDigits cs
    if 0x80000000 ≤ size then
      if significand ≠ 0 && !down then none
      else some (.num (.float (if negative then -0.0 else 0.0)), rest)
    else
      let exponent := if down then start - size else start + size
      (fraction negative significand exponent).map (·, rest)

def readFraction (negative : Bool) (significand : Nat) (start : Int) (cs : List Char) :
    Option (Value × List Char) :=
  if !startsWithDigit cs then none
  else
    let (significand, count, rest) := fitting cs significand 0
    let exponent := start - count
    match dropDigits rest with
    | 'e' :: rest => readExponent negative significand exponent rest
    | 'E' :: rest => readExponent negative significand exponent rest
    | rest => (fraction negative significand exponent).map (·, rest)

/-- The number whose integer part has been read as `significand`. -/
def readTail (negative : Bool) (significand : Nat) : List Char → Option (Value × List Char)
  | '.' :: rest => readFraction negative significand 0 rest
  | 'e' :: rest => readExponent negative significand 0 rest
  | 'E' :: rest => readExponent negative significand 0 rest
  | rest =>
    if !negative then some (.int significand, rest)
    else if significand = 0 ∨ 0x8000000000000000 < significand then
      some (.num (.float (-(Float.ofNat significand))), rest)
    else some (.int (-significand), rest)

/-- An integer part too long for a word continues as a power of ten. -/
def readLong (negative : Bool) (significand : Nat) (cs : List Char) : Option (Value × List Char) :=
  let exponent := (digitCount cs : Int)
  match dropDigits cs with
  | '.' :: rest => readFraction negative significand exponent rest
  | 'e' :: rest => readExponent negative significand exponent rest
  | 'E' :: rest => readExponent negative significand exponent rest
  | rest => (fraction negative significand exponent).map (·, rest)

def readNumber (cs : List Char) : Option (Value × List Char) :=
  let (negative, cs) := match cs with
    | '-' :: rest => (true, rest)
    | _ => (false, cs)
  match cs with
  | '0' :: rest => if startsWithDigit rest then none else readTail negative 0 rest
  | cs =>
    if !startsWithDigit cs then none
    else
      let (significand, _, rest) := fitting cs 0 0
      if startsWithDigit rest then readLong negative significand rest
      else readTail negative significand rest

/-! Strings -/

def readHex : List Char → Option (Nat × List Char)
  | a :: b :: c :: d :: rest => do
    let a ← hex? a
    let b ← hex? b
    let c ← hex? c
    let d ← hex? d
    return (((a * 16 + b) * 16 + c) * 16 + d, rest)
  | _ => none

/-- The character of a four digit escape, which may take a second escape to complete it. -/
def readEscaped (cs : List Char) : Option (Char × List Char) := do
  let (high, rest) ← readHex cs
  if 0xDC00 ≤ high ∧ high < 0xE000 then none
  else if 0xD800 ≤ high ∧ high < 0xDC00 then
    match rest with
    | '\\' :: 'u' :: rest => do
      let (low, rest) ← readHex rest
      if 0xDC00 ≤ low ∧ low < 0xE000 then
        return (Char.ofNat (0x10000 + (high - 0xD800) * 0x400 + (low - 0xDC00)), rest)
      else none
    | _ => none
  else return (Char.ofNat high, rest)

def shortEscape? (c : Char) : Option Char :=
  if c = '"' then some '"'
  else if c = '\\' then some '\\'
  else if c = '/' then some '/'
  else if c = 'b' then some (Char.ofNat 8)
  else if c = 'f' then some (Char.ofNat 12)
  else if c = 'n' then some '\n'
  else if c = 'r' then some '\r'
  else if c = 't' then some '\t'
  else none

/-- The rest of a string after its opening quote. -/
def readString : Nat → List Char → List Char → Option (String × List Char)
  | 0, _, _ => none
  | fuel + 1, cs, done =>
    match cs with
    | [] => none
    | '"' :: rest => some (String.ofList done.reverse, rest)
    | '\\' :: 'u' :: rest => do
      let (c, rest) ← readEscaped rest
      readString fuel rest (c :: done)
    | '\\' :: c :: rest => do
      let c ← shortEscape? c
      readString fuel rest (c :: done)
    | c :: rest => if c.toNat < 32 then none else readString fuel rest (c :: done)

/-! Values -/

def expectWord (word : List Char) (value : Value) (cs : List Char) : Option (Value × List Char) :=
  if word.isPrefixOf cs then some (value, cs.drop word.length) else none

mutual

def readValue : Nat → Nat → List Char → Option (Value × List Char)
  | 0, _, _ => none
  | fuel + 1, depth, cs =>
    match skipBlank cs with
    | 'n' :: rest => expectWord ['u', 'l', 'l'] .null rest
    | 't' :: rest => expectWord ['r', 'u', 'e'] (.bool true) rest
    | 'f' :: rest => expectWord ['a', 'l', 's', 'e'] (.bool false) rest
    | '"' :: rest => do
      let (s, rest) ← readString (rest.length + 1) rest []
      return (.str s, rest)
    | '[' :: rest =>
      match depth with
      | 0 => none
      | depth + 1 =>
        match skipBlank rest with
        | ']' :: rest => some (.arr [], rest)
        | rest => do
          let (items, rest) ← readItems fuel depth rest
          return (.arr items, rest)
    | '\x7b' :: rest =>
      match depth with
      | 0 => none
      | depth + 1 =>
        match skipBlank rest with
        | '\x7d' :: rest => some (.obj [], rest)
        | rest => do
          let (entries, rest) ← readEntries fuel depth rest []
          return (.obj entries, rest)
    | rest => readNumber rest

def readItems : Nat → Nat → List Char → Option (List Value × List Char)
  | 0, _, _ => none
  | fuel + 1, depth, cs => do
    let (item, rest) ← readValue fuel depth cs
    match skipBlank rest with
    | ']' :: rest => return ([item], rest)
    | ',' :: rest => do
      let (items, rest) ← readItems fuel depth rest
      return (item :: items, rest)
    | _ => none

def readEntries : Nat → Nat → List Char → Row → Option (Row × List Char)
  | 0, _, _, _ => none
  | fuel + 1, depth, cs, entries =>
    match skipBlank cs with
    | '"' :: rest => do
      let (key, rest) ← readString (rest.length + 1) rest []
      match skipBlank rest with
      | ':' :: rest => do
        let (value, rest) ← readValue fuel depth rest
        let entries := Entries.insert key value entries
        match skipBlank rest with
        | '\x7d' :: rest => return (entries, rest)
        | ',' :: rest => readEntries fuel depth rest entries
        | _ => none
      | _ => none
    | _ => none

end

/-- Lists and objects may nest this deep. -/
def depthLimit : Nat := 127

end Reader

/-- The value written as `text`, with nothing but blanks around it. -/
def read? (text : String) : Option Value := do
  let cs := text.toList
  let (value, rest) ← Reader.readValue (2 * cs.length + 2) Reader.depthLimit cs
  if (Reader.skipBlank rest).isEmpty then some value else none

end GuardedQuery.Value
