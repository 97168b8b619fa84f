import GuardedQuery.Settings.Scalar
import GuardedQuery.Text.Letter

/-! The layout of settings documents: lines, comments, the names that lines begin with, and the
plain and quoted texts behind them. A text can run over several lines, which are joined by
blanks; an empty line between them stands for a line break. -/

namespace GuardedQuery.Settings

structure Line where
  /-- The number of leading blanks. -/
  indent : Nat
  content : List Char

namespace Layout

def isGap (c : Char) : Bool := c = ' ' || c = '\t'

def dropGaps (cs : List Char) : List Char := cs.dropWhile isGap

def trimGaps (cs : List Char) : List Char := (dropGaps cs.reverse).reverse

/-- Whether a gap or nothing follows. -/
def beforeGap (cs : List Char) : Bool := cs.head?.all isGap

/-- Whether a gap and a comment, or one of them, or nothing is left. -/
def isTrailer (cs : List Char) : Bool :=
  match dropGaps cs with
  | [] => true
  | c :: _ => c = '#' && beforeGap cs

end Layout

open Layout

namespace Line

def ofChars (cs : List Char) : Line :=
  ⟨(cs.takeWhile (· = ' ')).length, cs.dropWhile (· = ' ')⟩

def isBlank (line : Line) : Bool := line.content.all isGap

def isComment (line : Line) : Bool := (dropGaps line.content).head? = some '#'

/-- Whether the line says nothing. -/
def isVoid (line : Line) : Bool := line.isBlank || line.isComment

end Line

namespace Layout

/-- Cuts at line breaks. -/
def cutLines : List Char → List (List Char)
  | '\r' :: '\n' :: rest => [] :: cutLines rest
  | c :: rest =>
    if c = '\n' ∨ c = '\r' then [] :: cutLines rest
    else
      match cutLines rest with
      | [] => [[c]]
      | line :: lines => (c :: line) :: lines
  | [] => [[]]

/-- The lines of a text. A mark of the byte order is no part of it, and it ends at a zero. -/
def linesOf (text : String) : List Line :=
  let cs := match text.toList with
    | c :: rest => if c.toNat = 0xfeff then rest else c :: rest
    | [] => []
  (cutLines (cs.takeWhile fun c => c.toNat ≠ 0)).map Line.ofChars

/-! Plain texts -/

/-- Characters that no plain text begins with. -/
def indicators : List Char :=
  ['[', ']', Char.ofNat 0x7b, Char.ofNat 0x7d, ',', '&', '*', '!', '|', '>', '%', '@', '"', '#',
    Char.ofNat 0x27, Char.ofNat 0x60]

/-- A sign that stands alone would begin an item or a name. -/
def isMisplaced (cs : List Char) : Bool :=
  match cs with
  | [] => false
  | c :: rest => indicators.contains c || ((c = '-' || c = '?') && beforeGap rest)

/-- What ends the part of a plain text on one line. -/
inductive PlainEnd where
  | lineEnd
  | comment
  /-- A colon that makes a name of the text. -/
  | colon (behind : List Char)

def plainFrom : Char → List Char → List Char × PlainEnd
  | _, [] => ([], .lineEnd)
  | before, c :: rest =>
    if c = '#' ∧ isGap before then ([], .comment)
    else if c = ':' ∧ beforeGap rest then ([], .colon rest)
    else
      let (part, ending) := plainFrom c rest
      (c :: part, ending)

/-- The part of a plain text on one line, without the gaps around it. -/
def plainPart (cs : List Char) : List Char × PlainEnd :=
  let (part, ending) := plainFrom ' ' (dropGaps cs)
  (trimGaps part, ending)

/-- What a line break and the given number of empty lines stand for. -/
def folded (empty : Nat) : List Char := if empty = 0 then [' '] else List.replicate empty '\n'

/-- The lines that a plain text goes on with, which are indented by at least `least`. -/
def plainLines (least : Nat) : Nat → List Line → Option (List Char × List Line)
  | _, [] => some ([], [])
  | empty, line :: rest =>
    if line.isBlank then plainLines least (empty + 1) rest
    else if line.isComment ∨ line.indent < least then some ([], line :: rest)
    else
      match plainPart line.content with
      | (part, .lineEnd) =>
        (plainLines least 0 rest).map fun (more, rest) => (folded empty ++ part ++ more, rest)
      | (part, .comment) => some (folded empty ++ part, rest)
      | (_, .colon _) => none

/-- The plain text that begins with `cs` and the lines behind it. -/
def plainText (least : Nat) (cs : List Char) (lines : List Line) :
    Option (List Char × List Line) :=
  if isMisplaced cs then none
  else
    match plainPart cs with
    | (part, .lineEnd) =>
      (plainLines least 0 lines).map fun (more, rest) => (part ++ more, rest)
    | (part, .comment) => some (part, lines)
    | (_, .colon _) => none

/-! Quoted texts -/

inductive Quote where
  | single
  | double
  deriving DecidableEq

def Quote.char : Quote → Char
  | single => Char.ofNat 0x27
  | double => '"'

def Quote.ofChar? (c : Char) : Option Quote :=
  if c = single.char then some single else if c = double.char then some double else none

/-- Whether the text ends here. Within single quotes a quote is written twice. -/
def Quote.closes (quote : Quote) : List Char → Bool
  | [] => false
  | c :: rest => c = quote.char && (quote = .double || rest.head? != some c)

/-- One character of a quoted text, which can be written in several. -/
def Quote.read (quote : Quote) : List Char → Option (Char × List Char)
  | [] => none
  | c :: rest =>
    match quote with
    | .single => some (c, if c = quote.char then rest.drop 1 else rest)
    | .double =>
      if c = '\\' then
        match rest with
        | [] => none
        | kind :: rest => Scalar.readEscape kind rest
      else some (c, rest)

/-- The next line that is not empty, and how many are before it. -/
def nextLine (least : Nat) : Nat → List Line → Option (Nat × List Char × List Line)
  | _, [] => none
  | empty, line :: rest =>
    if line.isBlank then nextLine least (empty + 1) rest
    else if line.indent < least then none
    else some (empty, dropGaps line.content, rest)

/-- A quoted text behind its opening quote, what follows it on its last line and the lines behind.
The text so far and the gap after it are held with the last character first. -/
def quotedFrom (quote : Quote) (least : Nat) :
    Nat → List Char → List Char → List Char → List Line →
      Option (List Char × List Char × List Line)
  | 0, _, _, _, _ => none
  | fuel + 1, done, gap, cs, lines =>
    if quote.closes cs then some ((gap ++ done).reverse, cs.drop 1, lines)
    else if cs.isEmpty then do
      let (empty, cs, lines) ← nextLine least 0 lines
      quotedFrom quote least fuel (folded empty ++ done) [] cs lines
    else if quote = .double ∧ cs = ['\\'] then do
      let (empty, cs, lines) ← nextLine least 0 lines
      quotedFrom quote least fuel (List.replicate empty '\n' ++ gap ++ done) [] cs lines
    else if beforeGap cs then quotedFrom quote least fuel done (cs.take 1 ++ gap) (cs.drop 1) lines
    else do
      let (c, cs) ← quote.read cs
      quotedFrom quote least fuel (c :: (gap ++ done)) [] cs lines

def sizeOfLines (lines : List Line) : Nat :=
  lines.foldl (fun size line => size + line.content.length + 1) 0

def quotedText (quote : Quote) (least : Nat) (cs : List Char) (lines : List Line) :
    Option (List Char × List Char × List Line) :=
  quotedFrom quote least (cs.length + sizeOfLines lines + 1) [] [] cs lines

/-! Names and scalars -/

/-- A name and its colon stand close together. -/
def nameLimit : Nat := 1024

/-- A tab alone does not set a word or a sign off from the colon before it. -/
def isSetOff (behind : List Char) : Bool :=
  let gaps := behind.takeWhile isGap
  gaps.isEmpty || gaps.contains ' ' ||
    !(dropGaps behind).head?.any fun c => c = '-' || Text.isAlphanumeric c

def nameAt (cs : List Char) : Option (Scalar × List Char) :=
  match cs.head?.bind Quote.ofChar? with
  | some quote => do
    let (name, rest, _) ← quotedText quote 0 (cs.drop 1) []
    match dropGaps rest with
    | ':' :: behind => if beforeGap behind then some (.text (String.ofList name), behind) else none
    | _ => none
  | none =>
    if isMisplaced cs ∨ beforeGap cs then none
    else
      match plainPart cs with
      | (name, .colon behind) => some (.ofPlain (String.ofList name), behind)
      | _ => none

/-- The name that a line begins with and what stands behind its colon. -/
def readName (line : Line) : Option (Scalar × List Char) := do
  let (name, behind) ← nameAt line.content
  if nameLimit + 1 < line.content.length - behind.length then none
  return (name, behind)

/-- The scalar that begins with `cs`; the lines it goes on with are indented by at least `least`. -/
def readScalar (least : Nat) (cs : List Char) (lines : List Line) :
    Option (Scalar × List Line) :=
  match cs.head?.bind Quote.ofChar? with
  | some quote => do
    let (text, rest, lines) ← quotedText quote least (cs.drop 1) lines
    if isTrailer rest then some (.text (String.ofList text), lines) else none
  | none => (plainText least cs lines).map fun (text, lines) =>
    (.ofPlain (String.ofList text), lines)

end Layout

end GuardedQuery.Settings
