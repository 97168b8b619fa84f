import GuardedQuery.Text.CharSet

/-! Characters as bytes. A range of characters is a union of sequences of byte ranges, each of
which any choice of one byte per range makes a character. -/

namespace GuardedQuery.Utf8

structure ByteRange where
  first : Nat
  last : Nat
  deriving DecidableEq

def bytesOf (chars : List Char) : List Nat :=
  (String.ofList chars).toUTF8.toList.map (·.toNat)

/-- The bytes of the character with this code point. -/
def encode (code : Nat) : List Nat :=
  if code < 0x80 then [code]
  else if code < 0x800 then [0xc0 + code / 64, 0x80 + code % 64]
  else if code < 0x10000 then
    [0xe0 + code / 4096, 0x80 + code / 64 % 64, 0x80 + code % 64]
  else
    [0xf0 + code / 262144, 0x80 + code / 4096 % 64, 0x80 + code / 64 % 64, 0x80 + code % 64]

/-- Where a range that ends in another block of this size than it begins in is to be cut, unless
it is made of whole blocks. -/
def blockCut? (low high block : Nat) : Option Nat :=
  if low / block = high / block then none
  else if low % block ≠ 0 then some (low - low % block + (block - 1))
  else if high % block ≠ block - 1 then some (high - high % block - 1)
  else none

/-- The last code point of the lower part of a range that is more than one sequence: it is cut
at what no character has, where the number of bytes grows, and at the ends of blocks. -/
def cut? (low high : Nat) : Option Nat :=
  if low < 0xe000 ∧ 0xd7ff < high then some 0xd7ff
  else
    match [0x7f, 0x7ff, 0xffff].find? fun last => low ≤ last && last < high with
    | some last => some last
    | none =>
      if high ≤ 0x7f then none
      else [64, 4096, 262144].findSome? (blockCut? low high)

/-- The sequences of a range in increasing order; `fuel` bounds how often it is cut. -/
def sequencesFrom : Nat → Nat → Nat → List (List ByteRange)
  | 0, _, _ => []
  | fuel + 1, low, high =>
    match cut? low high with
    | some last =>
      sequencesFrom fuel low last ++ sequencesFrom fuel (CharSet.nextCode last) high
    | none => [List.zipWith ByteRange.mk (encode low) (encode high)]

/-- No part of a range is cut more than ten times. -/
def sequences (chars : CharSet) : List (List ByteRange) :=
  chars.ranges.flatMap fun range => sequencesFrom 12 range.1 range.2

end GuardedQuery.Utf8
