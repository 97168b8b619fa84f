import GuardedQuery.Text.Script
import GuardedQuery.Text.Trait

/-! Classes of characters by which texts break into graphemes, words and sentences. -/

namespace GuardedQuery.Boundary

open Trait (ofCategories)

def carriageReturn : CharSet := .ofHex ["d"]

def lineFeed : CharSet := .ofHex ["a"]

def joiner : CharSet := .ofHex ["200d"]

def ownChars (script : String) : CharSet := ((Text.Script.find? script).map (·.chars)).getD .empty

/-! Graphemes -/

def otherPrepend : CharSet := .ofHex [
  "d4e 111c2-111c3 113d1 1193f 11941 11a3a 11a84-11a89 11d46 11f02"]

def prepend : CharSet := Trait.prependedMark.union otherPrepend

def control : CharSet :=
  (CharSet.unions [ofCategories [.lineSeparator, .paragraphSeparator, .control, .format],
    Trait.unassigned.inter Trait.defaultIgnorable]).diff
    (.unions [carriageReturn, lineFeed, Trait.joinControl, Trait.prependedMark,
      Trait.graphemeExtend])

def extend : CharSet := Trait.graphemeExtend.union Trait.emojiModifier

def leadingJamo : CharSet := .ofHex ["1100-115f a960-a97c"]

def vowelJamo : CharSet := .ofHex ["1160-11a7 d7b0-d7c6 16d63 16d67-16d6a"]

def trailingJamo : CharSet := .ofHex ["11a8-11ff d7cb-d7fb"]

/-- Every twenty-eighth syllable has no trailing consonant. -/
def openSyllable : CharSet :=
  .ofRanges ((List.range 399).map fun i => (0xac00 + 28 * i, 0xac00 + 28 * i))

def closedSyllable : CharSet := (CharSet.ofHex ["ac00-d7a3"]).diff openSyllable

/-- Marks with a place of their own that do not follow their base. -/
def otherMark : CharSet := .ofHex [
  "102b-102c 1038 1062-1064 1067-106d 1083 1087-108c 108f 109a-109c 1a61 1a63-1a64 aa7b aa7d",
  "11720-11721"]

def spacingMark : CharSet :=
  (Category.spacingMark.earlier.union (.ofHex ["e33 eb3"])).diff
    (.unions [extend, otherMark, prepend, vowelJamo])

def grapheme? : String → Option CharSet
  | "cn" | "control" => some control
  | "cr" => some carriageReturn
  | "ex" | "extend" => some extend
  | "l" => some leadingJamo
  | "lf" => some lineFeed
  | "lv" => some openSyllable
  | "lvt" => some closedSyllable
  | "pp" | "prepend" => some prepend
  | "ri" | "regionalindicator" => some Trait.regionalIndicator
  | "sm" | "spacingmark" => some spacingMark
  | "t" => some trailingJamo
  | "v" => some vowelJamo
  | "zwj" => some joiner
  | _ => none

/-! Words -/

def markedExtend : CharSet := Trait.graphemeExtend.union Category.spacingMark.earlier

def wordExtend : CharSet := markedExtend.union Trait.emojiModifier

def hebrewLetter : CharSet := (ownChars "hebrew").inter Category.otherLetter.earlier

/-- Signs that stand before the number that they belong to. -/
def numberSign : CharSet := Trait.prependedMark.diff (.ofHex ["70f"])

def wordFormat : CharSet :=
  Category.format.earlier.diff (.unions [.ofHex ["200b-200d"], Trait.prependedMark, wordExtend])

def katakana : CharSet :=
  (ownChars "katakana").union (.ofHex ["3031-3035 309b-309c 30a0 30fc ff70"])

def otherWordLetter : CharSet := .ofHex [
  "b8 2c2-2c5 2d2-2d7 2de-2df 2e5-2eb 2ed 2ef-2ff 55a-55c 55e 58a 5f3 70f a708-a716 a720-a721",
  "a789-a78a ab5b"]

/-- Letters of scripts that are written without blanks between words. -/
def unspaced : CharSet := .ofHex [
  "e01-e30 e32-e33 e40-e46 e81-e82 e84 e86-e8a e8c-ea3 ea5 ea7-eb0 eb2-eb3 ebd ec0-ec4 ec6",
  "edc-edf 1000-102a 103f 1050-1055 105a-105d 1061 1065-1066 106e-1070 1075-1081 108e 1780-17b3",
  "17d7 17dc 1950-196d 1970-1974 1980-19ab 19b0-19c9 1a20-1a54 1aa7 a9e0-a9e4 a9e6-a9ef a9fa-a9fe",
  "aa60-aa76 aa7a aa7e-aaaf aab1 aab5-aab6 aab9-aabd aac0 aac2 aadb-aadd 11700-1171a 11740-11746"]

def wordLetter : CharSet :=
  (Trait.alphabetic.union otherWordLetter).diff
    (.unions [Trait.ideographic, katakana, unspaced, ownChars "hiragana", wordExtend,
      hebrewLetter])

def wordNumeric : CharSet :=
  .unions [Category.decimalNumber.earlier, numberSign, .ofHex ["66b"]]

def wordBlank : CharSet := Category.spaceSeparator.earlier.diff (.ofHex ["a0 2007 202f"])

def midLetter : CharSet := .ofHex ["3a b7 387 55f 5f4 2027 fe13 fe55 ff1a"]

def midNumber : CharSet := .ofHex [
  "2c 3b 37e 589 60c-60d 66c 7f8 2044 fe10 fe14 fe50 fe54 ff0c ff1b"]

def midBoth : CharSet := .ofHex ["2e 2018-2019 2024 fe52 ff07 ff0e"]

def newline : CharSet := .ofHex ["b-c 85 2028-2029"]

def word? : String → Option CharSet
  | "cr" => some carriageReturn
  | "dq" | "doublequote" => some (.ofHex ["22"])
  | "ex" | "extendnumlet" =>
    some (Category.connectorPunctuation.earlier.union (.ofHex ["202f"]))
  | "extend" => some wordExtend
  | "fo" | "format" => some wordFormat
  | "hl" | "hebrewletter" => some hebrewLetter
  | "ka" | "katakana" => some katakana
  | "le" | "aletter" => some wordLetter
  | "lf" => some lineFeed
  | "mb" | "midnumlet" => some midBoth
  | "ml" | "midletter" => some midLetter
  | "mn" | "midnum" => some midNumber
  | "nl" | "newline" => some newline
  | "nu" | "numeric" => some wordNumeric
  | "ri" | "regionalindicator" => some Trait.regionalIndicator
  | "sq" | "singlequote" => some (.ofHex ["27"])
  | "wsegspace" => some wordBlank
  | "zwj" => some joiner
  | _ => none

/-! Sentences -/

def sentenceExtend : CharSet := markedExtend.union joiner

def sentenceFormat : CharSet :=
  Category.format.earlier.diff (.unions [.ofHex ["200c-200d"], numberSign, sentenceExtend])

def sentenceLower : CharSet :=
  Trait.lowercase.diff (Trait.graphemeExtend.union (.ofHex ["10d0-10fa 10fd-10ff"]))

def sentenceUpper : CharSet :=
  (Category.titlecaseLetter.earlier.union Trait.uppercase).diff (.ofHex ["1c90-1cba 1cbd-1cbf"])

def sentenceLetter : CharSet :=
  (Trait.alphabetic.union (.ofHex ["5f3"])).diff
    (.unions [sentenceLower, sentenceUpper, sentenceExtend])

def ambiguousEnd : CharSet := .ofHex ["2e 2024 fe52 ff0e"]

def separator : CharSet := .ofHex ["85 2028-2029"]

def sentenceBlank : CharSet :=
  Text.blanks.diff (.unions [separator, carriageReturn, lineFeed])

def continuation : CharSet := .ofHex [
  "2c-2d 3a-3b 37e 55d 60c-60d 7f8 1802 1808 2013-2014 3001 fe10-fe11 fe13-fe14 fe31-fe32",
  "fe50-fe51 fe54-fe55 fe58 fe63 ff0c-ff0d ff1a-ff1b ff64"]

/-- Brackets and quotes. -/
def closing : CharSet :=
  .unions [ofCategories [.openPunctuation, .closePunctuation, .initialPunctuation,
    .finalPunctuation], .ofHex ["22 27 275b-2760 2e00-2e01 2e06-2e08 2e0b 1f676-1f678"]]

def sentence? : String → Option CharSet
  | "at" | "aterm" => some ambiguousEnd
  | "cl" | "close" => some closing
  | "cr" => some carriageReturn
  | "ex" | "extend" => some sentenceExtend
  | "fo" | "format" => some sentenceFormat
  | "le" | "oletter" => some sentenceLetter
  | "lf" => some lineFeed
  | "lo" | "lower" => some sentenceLower
  | "nu" | "numeric" => some (wordNumeric.union (.ofHex ["66c"]))
  | "sc" | "scontinue" => some continuation
  | "se" | "sep" => some separator
  | "sp" => some sentenceBlank
  | "st" | "sterm" => some (Trait.sentenceTerminal.diff ambiguousEnd)
  | "up" | "upper" => some sentenceUpper
  | _ => none

end GuardedQuery.Boundary
