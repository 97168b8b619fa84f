import GuardedQuery.Text.Letter

/-! Quoted text for messages. Quotes, backslashes and line controls are escaped by a letter;
marks that extend their neighbour and characters without a visible form by their code point.
Letters are shown even where they extend their neighbour. -/

namespace GuardedQuery.Text

def otherExtending : CharSet := .ofHex [
  "9be 9d7 b3e b57 bbe bd7 cc0 cc2 cc7-cc8 cca-ccb cd5-cd6 d3e d57 dcf ddf 1715 1734 1b35 1b3b",
  "1b3d 1b43-1b44 1baa 1bf2-1bf3 200c 302e-302f a953 a9c0 ff9e-ff9f 111c0 11235 1133e 1134d 11357",
  "113b8 113c2 113c5 113c7-113c9 113cf 114b0 114bd 115af 116b6 11930 1193d 11f41 16ff0-16ff1",
  "1d165-1d166 1d16d-1d172 e0020-e007f"]

def extendingChars : CharSet :=
  otherExtending.union (inCategories [.nonspacingMark, .enclosingMark])

/-- Controls, formats, separators and private characters have no form of their own. -/
def formless : List Category :=
  [.spaceSeparator, .lineSeparator, .paragraphSeparator, .control, .format, .privateUse]

def visibleChars : CharSet :=
  inCategories (Category.all.filter fun category => !formless.contains category)

def hiddenChars : CharSet := visibleChars.compl.union (extendingChars.diff letterChars)

def codeEscape (c : Char) : List Char :=
  ['\\', 'u', '\x7b'] ++ Nat.toDigits 16 c.toNat ++ ['\x7d']

def quoteChar (c : Char) : List Char :=
  if c = '"' then ['\\', '"']
  else if c = '\\' then ['\\', '\\']
  else if c = '\n' then ['\\', 'n']
  else if c = '\r' then ['\\', 'r']
  else if c = '\t' then ['\\', 't']
  else if c.toNat = 0 then ['\\', '0']
  else if 32 ≤ c.toNat ∧ c.toNat < 127 then [c]
  else if hiddenChars.contains c then codeEscape c
  else [c]

def quote (s : String) : String := "\"" ++ String.ofList (s.toList.flatMap quoteChar) ++ "\""

end GuardedQuery.Text
