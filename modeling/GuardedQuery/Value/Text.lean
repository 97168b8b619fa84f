import GuardedQuery.Decimal
import GuardedQuery.Value

/-! The text of a value: compact, with object entries in the order they are kept.
The same text stands in messages, in bound parameters, in primary key indexes and wherever a
number is matched as text. -/

namespace GuardedQuery

/-- Where positional notation of fractions ends: the smallest and the largest power of ten of
the leading digit that is still written without an exponent. -/
structure FractionStyle where
  leastPower : Int
  greatestPower : Int
  /-- Whether whole numbers in positional notation show a point. -/
  pointed : Bool

/-- Fractions from `0.00001` up to sixteen integer digits are positional and always show a
point; all others have an explicitly signed exponent. -/
def Value.fractionStyle : FractionStyle := ⟨-5, 15, true⟩

namespace FractionStyle

def zeros (n : Nat) : String := String.ofList (List.replicate n '0')

def exponentText (e : Int) : String :=
  (if e < 0 then "e-" else "e+") ++ toString e.natAbs

/-- The text of a positive decimal. -/
def render (style : FractionStyle) (d : Decimal) : String :=
  let digits := Nat.toDigits 10 d.digits
  let text := String.ofList digits
  let power := (digits.length : Int) - 1 + d.exponent
  if style.leastPower ≤ power && power ≤ style.greatestPower then
    if 0 ≤ d.exponent then text ++ zeros d.exponent.toNat ++ (if style.pointed then ".0" else "")
    else if 0 ≤ power then
      String.ofList (digits.take (power.toNat + 1)) ++ "." ++
        String.ofList (digits.drop (power.toNat + 1))
    else "0." ++ zeros (power.natAbs - 1) ++ text
  else if digits.length = 1 then text ++ exponentText power
  else
    String.ofList (digits.take 1) ++ "." ++ String.ofList (digits.drop 1) ++ exponentText power

end FractionStyle

namespace Number

/-- The shortest text of a finite fraction in a style. -/
def styledText (style : FractionStyle) (x : Float) : String :=
  let bits := x.toBits.toNat
  let sign := if 0x8000000000000000 ≤ bits then "-" else ""
  if x == 0 then sign ++ (if style.pointed then "0.0" else "0")
  else sign ++ style.render (Decimal.shortest (BinaryFraction.ofBits bits))

def floatText (x : Float) : String := styledText Value.fractionStyle x

def text : Number → String
  | int i => toString i
  | float x => if x.isFinite then floatText x else "null"

end Number

namespace Value

def hexDigit (n : Nat) : Char := Nat.digitChar (n % 16)

def escapeChar (c : Char) : List Char :=
  if c = '"' then ['\\', '"']
  else if c = '\\' then ['\\', '\\']
  else if c = '\n' then ['\\', 'n']
  else if c = '\r' then ['\\', 'r']
  else if c = '\t' then ['\\', 't']
  else if c.toNat = 8 then ['\\', 'b']
  else if c.toNat = 12 then ['\\', 'f']
  else if c.toNat < 32 then ['\\', 'u', '0', '0', hexDigit (c.toNat / 16), hexDigit c.toNat]
  else [c]

def quoted (s : String) : String :=
  "\"" ++ String.ofList (s.toList.flatMap escapeChar) ++ "\""

mutual

def text : Value → String
  | null => "null"
  | bool b => if b then "true" else "false"
  | num n => n.text
  | str s => quoted s
  | arr items => "[" ++ ",".intercalate (itemTexts items) ++ "]"
  | obj entries => "\x7b" ++ ",".intercalate (entryTexts entries) ++ "\x7d"

def itemTexts : List Value → List String
  | [] => []
  | item :: rest => item.text :: itemTexts rest

def entryTexts : List (String × Value) → List String
  | [] => []
  | (key, value) :: rest => (quoted key ++ ":" ++ value.text) :: entryTexts rest

end

theorem itemTexts_eq_map (items : List Value) : itemTexts items = items.map text := by
  induction items with
  | nil => rfl
  | cons item rest ih => rw [itemTexts, ih, List.map_cons]

/-- The reading of a value as plain text: a string as it is, a number or a truth value as
written, and nothing for null, lists and objects. -/
def plain? : Value → Option String
  | str s => some s
  | num n => some n.text
  | bool b => some (if b then "true" else "false")
  | _ => none

end Value

end GuardedQuery
