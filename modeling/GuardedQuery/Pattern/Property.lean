import GuardedQuery.Pattern.Anchor
import GuardedQuery.Text.Boundary
import GuardedQuery.Text.Edition
import GuardedQuery.Text.Shared

/-! The named sets of characters that patterns refer to. -/

namespace GuardedQuery.Pattern

/-! Sets of ASCII characters -/

/-- The set of a name between `[:` and `:]`. -/
def asciiSet? : String → Option CharSet
  | "alnum" => some (.ofHex ["30-39 41-5a 61-7a"])
  | "alpha" => some (.ofHex ["41-5a 61-7a"])
  | "ascii" => some (.ofHex ["0-7f"])
  | "blank" => some (.ofHex ["9 20"])
  | "cntrl" => some (.ofHex ["0-1f 7f"])
  | "digit" => some (.ofHex ["30-39"])
  | "graph" => some (.ofHex ["21-7e"])
  | "lower" => some (.ofHex ["61-7a"])
  | "print" => some (.ofHex ["20-7e"])
  | "punct" => some (.ofHex ["21-2f 3a-40 5b-60 7b-7e"])
  | "space" => some (.ofHex ["9-d 20"])
  | "upper" => some (.ofHex ["41-5a"])
  | "word" => some asciiWord
  | "xdigit" => some Trait.asciiHexDigit
  | _ => none

/-! Names of properties -/

/-- Names are compared without case, blanks, dashes, underscores and characters beyond ASCII.
A name may begin with `is`; an abbreviation that would read `c` alone keeps it. -/
def plainName (name : List Char) : String :=
  let plain (cs : List Char) : List Char :=
    (cs.filter fun c => c ≠ ' ' ∧ c ≠ '_' ∧ c ≠ '-' ∧ c.toNat < 128).map Char.toLower
  match name with
  | a :: b :: rest =>
    if a.toLower = 'i' ∧ b.toLower = 's' then
      if plain rest = ['c'] then "isc" else String.ofList (plain rest)
    else String.ofList (plain name)
  | name => String.ofList (plain name)

/-- The general category of a plain name, or a union of several. -/
def category? : String → Option CharSet
  | "lu" | "uppercaseletter" => some Category.uppercaseLetter.earlier
  | "ll" | "lowercaseletter" => some Category.lowercaseLetter.earlier
  | "lt" | "titlecaseletter" => some Category.titlecaseLetter.earlier
  | "lc" | "casedletter" =>
    some (Trait.ofCategories [.uppercaseLetter, .lowercaseLetter, .titlecaseLetter])
  | "lm" | "modifierletter" => some Category.modifierLetter.earlier
  | "lo" | "otherletter" => some Category.otherLetter.earlier
  | "l" | "letter" => some Trait.letter
  | "mn" | "nonspacingmark" => some Category.nonspacingMark.earlier
  | "mc" | "spacingmark" => some Category.spacingMark.earlier
  | "me" | "enclosingmark" => some Category.enclosingMark.earlier
  | "m" | "mark" | "combiningmark" => some Trait.mark
  | "nd" | "decimalnumber" | "digit" => some Category.decimalNumber.earlier
  | "nl" | "letternumber" => some Category.letterNumber.earlier
  | "no" | "othernumber" => some Category.otherNumber.earlier
  | "n" | "number" => some (Trait.ofCategories [.decimalNumber, .letterNumber, .otherNumber])
  | "pc" | "connectorpunctuation" => some Category.connectorPunctuation.earlier
  | "pd" | "dashpunctuation" => some Category.dashPunctuation.earlier
  | "ps" | "openpunctuation" => some Category.openPunctuation.earlier
  | "pe" | "closepunctuation" => some Category.closePunctuation.earlier
  | "pi" | "initialpunctuation" => some Category.initialPunctuation.earlier
  | "pf" | "finalpunctuation" => some Category.finalPunctuation.earlier
  | "po" | "otherpunctuation" => some Category.otherPunctuation.earlier
  | "p" | "punctuation" | "punct" =>
    some (Trait.ofCategories [.connectorPunctuation, .dashPunctuation, .openPunctuation,
      .closePunctuation, .initialPunctuation, .finalPunctuation, .otherPunctuation])
  | "sm" | "mathsymbol" => some Category.mathSymbol.earlier
  | "sc" | "currencysymbol" => some Category.currencySymbol.earlier
  | "sk" | "modifiersymbol" => some Category.modifierSymbol.earlier
  | "so" | "othersymbol" => some Category.otherSymbol.earlier
  | "s" | "symbol" =>
    some (Trait.ofCategories [.mathSymbol, .currencySymbol, .modifierSymbol, .otherSymbol])
  | "zs" | "spaceseparator" => some Category.spaceSeparator.earlier
  | "zl" | "lineseparator" => some Category.lineSeparator.earlier
  | "zp" | "paragraphseparator" => some Category.paragraphSeparator.earlier
  | "z" | "separator" =>
    some (Trait.ofCategories [.spaceSeparator, .lineSeparator, .paragraphSeparator])
  | "cc" | "control" | "cntrl" => some Category.control.earlier
  | "cf" | "format" => some Category.format.earlier
  | "co" | "privateuse" => some Category.privateUse.earlier
  | "cn" | "unassigned" => some Trait.unassigned
  | "c" | "other" =>
    some ((Trait.ofCategories [.control, .format, .privateUse]).union Trait.unassigned)
  | "any" => some .all
  | "assigned" => some Trait.unassigned.compl
  | "ascii" => some (.ofHex ["0-7f"])
  | _ => none

/-- The characters of a script, or all that it uses. -/
def script? (withShared : Bool) (name : String) : Option CharSet :=
  (Text.Script.find? name).map fun script =>
    if withShared then script.usedChars else script.chars

/-- Names that are short for a category and for a property besides. -/
def ambiguous : List String := ["cf", "sc", "lc"]

/-- The set that a name stands for by itself; a property comes before a category, and that
before a script. -/
def named? (name : List Char) : Option CharSet :=
  let name := plainName name
  (if ambiguous.contains name then none else Trait.find? name) <|> category? name <|>
    script? false name

/-- The set of the characters for which a property has a value. -/
def valued? (name value : List Char) : Option CharSet :=
  let value := plainName value
  match plainName name with
  | "gc" | "generalcategory" => category? value
  | "sc" | "script" => script? false value
  | "scx" | "scriptextensions" => script? true value
  | "age" => Edition.known? value
  | "gcb" | "graphemeclusterbreak" => Boundary.grapheme? value
  | "wb" | "wordbreak" => Boundary.word? value
  | "sb" | "sentencebreak" => Boundary.sentence? value
  | _ => none

end GuardedQuery.Pattern
