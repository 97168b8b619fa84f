import GuardedQuery.Pattern
import GuardedQuery.Pattern.Property

/-! Reading a pattern from its text. A text that is no pattern yields nothing.
Inline flags hold until the end of the group that they stand in. -/

namespace GuardedQuery.Pattern.Reader

structure Flags where
  ignoreCase : Bool := false
  multiLine : Bool := false
  dotAll : Bool := false
  verbose : Bool := false
  /-- Sets are sets of ASCII characters. -/
  asciiOnly : Bool := false
  carriageReturns : Bool := false

/-- The deepest nesting that a pattern may have. -/
def heightLimit : Nat := 250

def countLimit : Nat := 0x100000000

/-! Blanks, and single steps over the text -/

/-- What follows a hash sign, up to the end of its line. -/
def dropComment (cs : List Char) : List Char := (cs.dropWhile (· ≠ '\n')).drop 1

def skipFrom : Nat → List Char → List Char
  | 0, cs => cs
  | fuel + 1, cs =>
    match cs with
    | c :: rest =>
      if Text.isBlank c then skipFrom fuel rest
      else if c = '#' then skipFrom fuel (dropComment rest)
      else cs
    | [] => []

/-- Skips blanks and comments if they mean nothing. -/
def skip (flags : Flags) (cs : List Char) : List Char :=
  if flags.verbose then skipFrom cs.length cs else cs

/-- Steps over one character and the blanks behind it; nothing may be left. -/
def step (flags : Flags) (cs : List Char) : List Char := skip flags (cs.drop 1)

/-- Steps over one character, behind which there must be more. -/
def step? (flags : Flags) (cs : List Char) : Option (List Char) :=
  match step flags cs with
  | [] => none
  | rest => some rest

/-- What follows blanks and one hash sign; the rest of a comment is not passed over. -/
def peek (flags : Flags) (cs : List Char) : Option Char :=
  if !flags.verbose then cs.head?
  else
    match cs.dropWhile Text.isBlank with
    | '#' :: rest => (rest.dropWhile Text.isBlank).head?
    | rest => rest.head?

/-- Steps over characters as long as they belong; what they are is kept. -/
def readWhile (flags : Flags) (belongs : Char → Bool) : Nat → List Char → List Char × List Char
  | 0, cs => ([], cs)
  | fuel + 1, cs =>
    match cs with
    | [] => ([], [])
    | c :: _ =>
      if belongs c then
        let (word, rest) := readWhile flags belongs fuel (step flags cs)
        (c :: word, rest)
      else ([], cs)

/-- The characters from an opening brace to a closing one, and the closing brace with what
follows it. -/
def readBraced? (flags : Flags) (cs : List Char) : Option (List Char × List Char) :=
  match readWhile flags (· ≠ '\x7d') cs.length (step flags cs) with
  | (_, []) => none
  | result => some result

/-! Sets under flags -/

/-- Closes a set under the loss of case. -/
def closeCase (flags : Flags) (chars : CharSet) : CharSet :=
  if !flags.ignoreCase then chars
  else Text.closeFold (if flags.asciiOnly then Text.asciiFoldPairs else Text.foldPairs) chars

def single (flags : Flags) (c : Char) : Pattern := ofSet (closeCase flags (.single c))

def anyChar? (flags : Flags) : Option CharSet :=
  if flags.asciiOnly then none
  else if flags.dotAll then some .all
  else if flags.carriageReturns then some (CharSet.ofHex ["a d"]).compl
  else some (CharSet.ofHex ["a"]).compl

def lineStart (flags : Flags) : Anchor :=
  if flags.multiLine then .lineStart flags.carriageReturns else .textStart

def lineEnd (flags : Flags) : Anchor :=
  if flags.multiLine then .lineEnd flags.carriageReturns else .textEnd

/-- A set or what it lacks, which has characters beyond ASCII. -/
def negateIf? (flags : Flags) (negated : Bool) (chars : CharSet) : Option CharSet :=
  if !negated then some chars
  else if flags.asciiOnly then none
  else some chars.compl

/-! Characters by their codes -/

def hex? (c : Char) : Option Nat :=
  if '0' ≤ c ∧ c ≤ '9' then some (c.toNat - '0'.toNat)
  else if 'a' ≤ c ∧ c ≤ 'f' then some (c.toNat - 'a'.toNat + 10)
  else if 'A' ≤ c ∧ c ≤ 'F' then some (c.toNat - 'A'.toNat + 10)
  else none

def charOfCode? (code : Nat) : Option Char :=
  if code < 0xD800 ∨ (0xDFFF < code ∧ code < 0x110000) then some (Char.ofNat code) else none

def charOfHex? (digits : List Char) : Option Char := do
  if digits.isEmpty then none
  charOfCode? (← digits.foldlM (fun code c => do return code * 16 + (← hex? c)) 0)

/-- A given number of digits, the last of which may end the text. -/
def readDigits? (flags : Flags) : Nat → List Char → Option (List Char × List Char)
  | 0, cs => some ([], cs)
  | n + 1, cs => do
    match cs with
    | c :: _ =>
      let (digits, rest) ← readDigits? flags n (step flags cs)
      return (c :: digits, rest)
    | [] => none

/-- A code point behind `\x`, `\u` or `\U`. Two digits may stand for a byte, which is no
character beyond ASCII. -/
def readHex? (flags : Flags) (kind : Char) (cs : List Char) : Option (Char × List Char) := do
  match cs with
  | '\x7b' :: _ =>
    let (digits, rest) ← readBraced? flags cs
    return (← charOfHex? digits, step flags rest)
  | _ =>
    let (digits, rest) ←
      readDigits? flags (if kind = 'x' then 2 else if kind = 'u' then 4 else 8) cs
    let c ← charOfHex? digits
    if kind = 'x' ∧ flags.asciiOnly ∧ 128 ≤ c.toNat then none
    return (c, rest)

/-! Escapes -/

def isMeta (c : Char) : Bool := "\\.+*?()|[]\x7b\x7d^$#&-~".toList.contains c

def isEscapable (c : Char) : Bool :=
  isMeta c || (c.toNat < 128 && !c.isAlphanum && c ≠ '<' && c ≠ '>')

/-- One item outside groups and brackets. -/
inductive Item where
  | literal (c : Char)
  | set (chars : CharSet)
  | anchor (anchor : Anchor)

/-- The letters behind a backslash that stand for sets, in capitals for what the sets lack. -/
def shorthand? (flags : Flags) (c : Char) : Option CharSet :=
  let chars := match c.toLower with
    | 'd' => if flags.asciiOnly then .ofHex ["30-39"] else Category.decimalNumber.earlier
    | 's' => if flags.asciiOnly then .ofHex ["9-d 20"] else Text.blanks
    | _ => if flags.asciiOnly then asciiWord else Trait.word
  negateIf? flags c.isUpper chars

def isShorthand (c : Char) : Bool := ['d', 'D', 's', 'S', 'w', 'W'].contains c

def control? : Char → Option Char
  | 'a' => some (Char.ofNat 7)
  | 'f' => some (Char.ofNat 12)
  | 't' => some '\t'
  | 'n' => some '\n'
  | 'r' => some '\r'
  | 'v' => some (Char.ofNat 11)
  | _ => none

/-- Splits a text before and behind the first place of a sign. -/
def splitAt? (sign : List Char) : List Char → Option (List Char × List Char)
  | [] => none
  | c :: rest =>
    if sign.isPrefixOf (c :: rest) then some ([], (c :: rest).drop sign.length)
    else (splitAt? sign rest).map fun (before, after) => (c :: before, after)

/-- The set of a property, where `!=` before a value denies it. -/
def namedSet? (flags : Flags) (negated : Bool) (text : List Char) : Option CharSet := do
  if flags.asciiOnly then none
  match splitAt? ['!', '='] text with
  | some (name, value) =>
    let chars ← valued? name value
    negateIf? flags (!negated) (closeCase flags chars)
  | none =>
    let chars ← match splitAt? [':'] text <|> splitAt? ['='] text with
      | some (name, value) => valued? name value
      | none => named? text
    negateIf? flags negated (closeCase flags chars)

/-- The property behind `\p` or `\P`. -/
def readProperty (flags : Flags) (negated : Bool) (cs : List Char) :
    Option (CharSet × List Char) := do
  match cs with
  | '\x7b' :: _ =>
    let (text, rest) ← readBraced? flags cs
    return (← namedSet? flags negated text, rest.drop 1)
  | '\\' :: _ => none
  | c :: _ => return (← namedSet? flags negated [c], step flags cs)
  | [] => none

def wordEdge? : String → Option WordEdge
  | "start" => some .start
  | "end" => some .finish
  | "start-half" => some .startHalf
  | "end-half" => some .finishHalf
  | _ => none

def isEdgeChar (c : Char) : Bool := c.isAlpha || c = '-'

/-- The end of a word boundary, which may name a kind of boundary in braces. -/
def readBoundary (flags : Flags) (cs : List Char) : Option (WordEdge × List Char) :=
  match cs with
  | '\x7b' :: _ =>
    match step flags cs with
    | [] => none
    | c :: rest =>
      if !isEdgeChar c then some (.either, cs)
      else
        match readWhile flags isEdgeChar cs.length (c :: rest) with
        | (name, '\x7d' :: rest) => (wordEdge? (String.ofList name)).map (·, rest)
        | _ => none
  | cs => some (.either, cs)

/-- What a backslash and the characters behind it stand for. -/
def readEscape (flags : Flags) (cs : List Char) : Option (Item × List Char) := do
  let edge (edge : WordEdge) : Item := .anchor (.word edge flags.asciiOnly)
  match cs with
  | [] => none
  | c :: rest =>
    if c.isDigit then none
    else if c = 'x' ∨ c = 'u' ∨ c = 'U' then
      let (c, rest) ← readHex? flags c (← step? flags cs)
      return (.literal c, rest)
    else if c = 'p' ∨ c = 'P' then
      let (chars, rest) ← readProperty flags (c = 'P') (← step? flags cs)
      return (.set chars, rest)
    else if isShorthand c then return (.set (← shorthand? flags c), rest)
    else if isEscapable c then return (.literal c, rest)
    else
      match control? c with
      | some c => return (.literal c, rest)
      | none =>
        match c with
        | 'A' => return (.anchor .textStart, rest)
        | 'z' => return (.anchor .textEnd, rest)
        | 'b' =>
          let (kind, rest) ← readBoundary flags rest
          return (edge kind, rest)
        | 'B' => return (edge .neither, rest)
        | '<' => return (edge .start, rest)
        | '>' => return (edge .finish, rest)
        | _ => none

/-! Brackets -/

/-- A set along with how deeply its text is nested. -/
structure SetPart where
  chars : CharSet
  height : Nat

inductive SetOp where
  | inter
  | diff
  | symmDiff

def SetOp.apply (op : SetOp) (s t : CharSet) : CharSet :=
  match op with
  | inter => s.inter t
  | diff => s.diff t
  | symmDiff => s.symmDiff t

def uniteParts (items : List SetPart) : SetPart where
  chars := .unions (items.map (·.chars))
  height := items.foldl (fun n item => max n item.height) 0 + if 2 ≤ items.length then 1 else 0

/-- The left side of an operation whose right side is still being read. -/
abbrev Pending := Option (SetPart × SetOp)

def settle (flags : Flags) (pending : Pending) (items : List SetPart) : SetPart :=
  let right := uniteParts items
  match pending with
  | none => right
  | some (left, op) =>
    { chars := op.apply (closeCase flags left.chars) (closeCase flags right.chars)
      height := max left.height right.height + 1 }

def readSetItem (flags : Flags) (cs : List Char) : Option (Item × List Char) :=
  match cs with
  | '\\' :: rest => readEscape flags rest
  | c :: rest => some (.literal c, rest)
  | [] => none

def literalIn? (flags : Flags) (c : Char) : Option Char :=
  if flags.asciiOnly ∧ 128 ≤ c.toNat then none else some c

def Item.chars? (flags : Flags) : Item → Option CharSet
  | literal c => (literalIn? flags c).map .single
  | set chars => some chars
  | anchor _ => none

def Item.char? (flags : Flags) : Item → Option Char
  | literal c => literalIn? flags c
  | _ => none

/-- A single item or a range of two literals. -/
def readRange (flags : Flags) (cs : List Char) : Option (CharSet × List Char) := do
  let (first, rest) ← readSetItem flags cs
  let rest := skip flags rest
  match rest with
  | [] => none
  | '-' :: more =>
    let next := peek flags more
    if next = some ']' ∨ next = some '-' then return (← first.chars? flags, rest)
    else
      let (last, rest) ← readSetItem flags (← step? flags rest)
      let a ← first.char? flags
      let b ← last.char? flags
      if a ≤ b then return (.ofRanges [(a.toNat, b.toNat)], rest) else none
  | _ => return (← first.chars? flags, rest)

/-- A named set such as `[:alpha:]`, if there is one at this place. -/
def asciiItem? (cs : List Char) : Option (Bool × CharSet × List Char) := do
  match cs with
  | '[' :: ':' :: rest =>
    let (negated, rest) := match rest with
      | '^' :: rest => (true, rest)
      | rest => (false, rest)
    let name := rest.takeWhile (· ≠ ':')
    match rest.drop name.length with
    | ':' :: ']' :: rest => return (negated, ← asciiSet? (String.ofList name), rest)
    | _ => none
  | _ => none

/-- Dashes at the front of a set, of which any number is allowed. -/
def leadingDashes (flags : Flags) : Nat → List SetPart → List Char →
    Option (List SetPart × List Char)
  | 0, _, _ => none
  | fuel + 1, items, cs =>
    match cs with
    | '-' :: _ => (step? flags cs).bind (leadingDashes flags fuel (⟨.single '-', 0⟩ :: items))
    | [] => none
    | cs => some (items, cs)

mutual

/-- A set from its opening bracket on; `depth` brackets are open around it. -/
def readSet (flags : Flags) : Nat → Nat → List Char → Option (SetPart × List Char)
  | 0, _, _ => none
  | fuel + 1, depth, cs => do
    if heightLimit < depth then none
    let cs ← step? flags cs
    let (negated, cs) ← match cs with
      | '^' :: _ => (step? flags cs).map (true, ·)
      | _ => some (false, cs)
    let (items, cs) ← leadingDashes flags (cs.length + 1) [] cs
    let (items, cs) ← match items, cs with
      | [], ']' :: _ => (step? flags cs).map ([⟨.single ']', 0⟩], ·)
      | items, cs => some (items, cs)
    let (part, rest) ← readSetTail flags fuel depth none items cs
    return (⟨← negateIf? flags negated (closeCase flags part.chars), part.height + 1⟩, rest)

def readSetTail (flags : Flags) :
    Nat → Nat → Pending → List SetPart → List Char → Option (SetPart × List Char)
  | 0, _, _, _, _ => none
  | fuel + 1, depth, pending, items, cs => do
    let cs := skip flags cs
    match cs with
    | [] => none
    | ']' :: rest => return (settle flags pending items, rest)
    | '&' :: '&' :: rest =>
      readSetTail flags fuel depth (some (settle flags pending items, .inter)) [] rest
    | '-' :: '-' :: rest =>
      readSetTail flags fuel depth (some (settle flags pending items, .diff)) [] rest
    | '~' :: '~' :: rest =>
      readSetTail flags fuel depth (some (settle flags pending items, .symmDiff)) [] rest
    | '[' :: _ =>
      match asciiItem? cs with
      | some (negated, chars, rest) =>
        let chars ← negateIf? flags negated (closeCase flags chars)
        readSetTail flags fuel depth pending (⟨chars, 0⟩ :: items) rest
      | none =>
        let (item, rest) ← readSet flags fuel (depth + 1) cs
        readSetTail flags fuel depth pending (item :: items) rest
    | _ =>
      let (chars, rest) ← readRange flags cs
      readSetTail flags fuel depth pending (⟨chars, 0⟩ :: items) rest

end

/-! Groups and repetitions -/

def setFlag (flags : Flags) (c : Char) (on : Bool) : Option Flags :=
  match c with
  | 'i' => some { flags with ignoreCase := on }
  | 'm' => some { flags with multiLine := on }
  | 's' => some { flags with dotAll := on }
  | 'u' => some { flags with asciiOnly := !on }
  | 'x' => some { flags with verbose := on }
  | 'R' => some { flags with carriageReturns := on }
  | 'U' => some flags
  | _ => none

/-- Flags up to a colon or a closing parenthesis; no letter and no sign may come twice. -/
def readFlags : Flags → List Char → List Char → Option (Flags × List Char × List Char)
  | _, _, [] => none
  | flags, seen, c :: rest =>
    if c = ':' ∨ c = ')' then
      if seen.head? = some '-' then none else some (flags, seen, c :: rest)
    else if seen.contains c then none
    else if c = '-' then readFlags flags ('-' :: seen) rest
    else do readFlags (← setFlag flags c (!seen.contains '-')) (c :: seen) rest

def isNameStart (c : Char) : Bool := c = '_' || Text.isAlphabetic c

def isNameChar (c : Char) : Bool :=
  c = '_' || c = '.' || c = '[' || c = ']' || Text.isAlphanumeric c

/-- The name of a group, up to its closing angle. -/
def readName (names : List String) (cs : List Char) : Option (String × List Char) :=
  let name := cs.takeWhile (· ≠ '>')
  match name, cs.drop name.length with
  | c :: more, _ :: rest =>
    let text := String.ofList name
    if isNameStart c && more.all isNameChar && !names.contains text then some (text, rest)
    else none
  | _, _ => none

def isLookAround : List Char → Bool
  | '?' :: '=' :: _ | '?' :: '!' :: _ | '?' :: '<' :: '=' :: _ | '?' :: '<' :: '!' :: _ => true
  | _ => false

/-- A count in braces, with blanks around it. -/
def readCount (flags : Flags) (cs : List Char) : Option Nat × List Char :=
  let (digits, rest) := readWhile flags Char.isDigit cs.length (cs.dropWhile Text.isBlank)
  let n := digits.foldl (fun n c => n * 10 + (c.toNat - '0'.toNat)) 0
  (if digits.isEmpty then none else some n, rest.dropWhile Text.isBlank)

/-- The bounds of a repetition, from behind the opening brace to behind the closing one. -/
def readBounds (flags : Flags) (cs : List Char) : Option (Nat × Option Nat × List Char) := do
  let (least, cs) := readCount flags cs
  let close (least : Nat) (most : Option Nat) (cs : List Char) :
      Option (Nat × Option Nat × List Char) :=
    match cs with
    | '\x7d' :: _ =>
      if countLimit ≤ least ∨ most.any (· < least) ∨ most.any (countLimit ≤ ·) then none
      else some (least, most, step flags cs)
    | _ => none
  match cs with
  | ',' :: _ =>
    let cs ← step? flags cs
    match cs with
    | '\x7d' :: _ => close (← least) none cs
    | _ =>
      let (most, cs) := readCount flags cs
      close (← least) (some (← most)) cs
  | _ => close (← least) least cs

/-- A pattern along with how deeply its text is nested. -/
structure Part where
  pattern : Pattern
  height : Nat

/-- Items of a sequence, latest first; settings of flags leave a gap that cannot be repeated. -/
abbrev Items := List (Option Part)

def tallest (parts : List Part) : Nat := parts.foldl (fun n part => max n part.height) 0

def joinItems (items : Items) : Part :=
  let parts := items.reverse.filterMap id
  { pattern := sequence (parts.map (·.pattern))
    height := tallest parts + if 2 ≤ items.length then 1 else 0 }

def repeatLast (items : Items) (least : Nat) (most : Option Nat) : Option Items :=
  match items with
  | some part :: items =>
    some (some ⟨repetition part.pattern least most, part.height + 1⟩ :: items)
  | _ => none

def dropLazy : List Char → List Char
  | '?' :: rest => rest
  | cs => cs

def Item.pattern (flags : Flags) : Item → Pattern
  | literal c => single flags c
  | set chars => ofSet chars
  | anchor a => .anchor a

/-- What has been read of a group: alternatives, latest first, then the items of the last one. -/
structure Partial where
  flags : Flags
  names : List String
  earlier : List Part
  items : Items

namespace Partial

def push (s : Partial) (part : Part) : Partial := { s with items := some part :: s.items }

def pushItem (s : Partial) (p : Pattern) : Partial := s.push ⟨p, 0⟩

def close (s : Partial) : Part :=
  match s.earlier with
  | [] => joinItems s.items
  | earlier =>
    let parts := (joinItems s.items :: earlier).reverse
    { pattern := alternation (parts.map (·.pattern)), height := tallest parts + 1 }

end Partial

/-- How a group begins. -/
inductive Opening where
  /-- Flags for what follows in the group around. -/
  | setting (flags : Flags)
  | inner (flags : Flags) (names : List String) (captures : Bool)

/-- What an opening parenthesis begins. -/
def readOpening (flags : Flags) (names : List String) (cs : List Char) :
    Option (Opening × List Char) := do
  let cs := skip flags cs
  if isLookAround cs then none
  let named (cs : List Char) : Option (Opening × List Char) := do
    let (name, rest) ← readName names cs
    return (.inner flags (name :: names) true, rest)
  match cs with
  | '?' :: 'P' :: '<' :: rest => named rest
  | '?' :: '<' :: rest => named rest
  | '?' :: rest =>
    let (flags, seen, rest) ← readFlags flags [] rest
    match rest with
    | ')' :: rest => if seen.isEmpty then none else return (.setting flags, rest)
    | _ => return (.inner flags names false, rest.drop 1)
  | rest => return (.inner flags names true, rest)

/-- Reads up to the end of the text or the parenthesis that closes the group; `depth`
parentheses are open. -/
def readGroup : Nat → Nat → Partial → List Char → Option (Partial × List Char)
  | 0, _, _, _ => none
  | fuel + 1, depth, s, cs => do
    if heightLimit < depth then none
    let cs := skip s.flags cs
    match cs with
    | [] => return (s, [])
    | ')' :: _ => return (s, cs)
    | '|' :: rest =>
      readGroup fuel depth { s with earlier := joinItems s.items :: s.earlier, items := [] } rest
    | '?' :: rest =>
      readGroup fuel depth { s with items := ← repeatLast s.items 0 (some 1) } (dropLazy rest)
    | '*' :: rest =>
      readGroup fuel depth { s with items := ← repeatLast s.items 0 none } (dropLazy rest)
    | '+' :: rest =>
      readGroup fuel depth { s with items := ← repeatLast s.items 1 none } (dropLazy rest)
    | '\x7b' :: _ =>
      let (least, most, rest) ← readBounds s.flags (← step? s.flags cs)
      readGroup fuel depth { s with items := ← repeatLast s.items least most } (dropLazy rest)
    | '[' :: _ =>
      let (part, rest) ← readSet s.flags (2 * cs.length + 2) 0 cs
      readGroup fuel depth (s.push ⟨ofSet part.chars, part.height⟩) rest
    | '\\' :: rest =>
      let (item, rest) ← readEscape s.flags rest
      readGroup fuel depth (s.pushItem (item.pattern s.flags)) rest
    | '.' :: rest => readGroup fuel depth (s.pushItem (ofSet (← anyChar? s.flags))) rest
    | '^' :: rest => readGroup fuel depth (s.pushItem (.anchor (lineStart s.flags))) rest
    | '$' :: rest => readGroup fuel depth (s.pushItem (.anchor (lineEnd s.flags))) rest
    | '(' :: rest =>
      let (opening, rest) ← readOpening s.flags s.names rest
      match opening with
      | .setting flags => readGroup fuel depth { s with flags, items := none :: s.items } rest
      | .inner flags names captures =>
        let (inner, rest) ← readGroup fuel (depth + 1) ⟨flags, names, [], []⟩ rest
        match rest with
        | ')' :: rest =>
          let part := inner.close
          let pattern := if captures then group part.pattern else part.pattern
          let s := { s with names := inner.names }
          readGroup fuel depth (s.push ⟨pattern, part.height + 1⟩) rest
        | _ => none
    | c :: rest => readGroup fuel depth (s.pushItem (single s.flags c)) rest

end Reader

/-- The pattern of a text, if it is one and not nested too deeply. -/
def ofText? (text : String) (ignoreCase : Bool) : Option Pattern := do
  let cs := text.toList
  let (whole, rest) ← Reader.readGroup (2 * cs.length + 2) 0 ⟨{ ignoreCase }, [], [], []⟩ cs
  let part := whole.close
  if rest.isEmpty && part.height ≤ Reader.heightLimit then return part.pattern else none

end GuardedQuery.Pattern
