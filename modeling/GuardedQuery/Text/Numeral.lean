import GuardedQuery.Decimal.Nearest

/-! Numbers written in digits. -/

namespace GuardedQuery.Text

def digitsValue (digits : List Char) : Nat :=
  digits.foldl (fun n c => n * 10 + (c.toNat - '0'.toNat)) 0

def naturalOf? (digits : List Char) : Option Nat :=
  if digits.isEmpty || !digits.all Char.isDigit then none else some (digitsValue digits)

/-- A natural number: digits, possibly behind a plus. -/
def natural? (text : String) : Option Nat :=
  match text.toList with
  | '+' :: digits => naturalOf? digits
  | digits => naturalOf? digits

/-- An integer: digits, possibly behind a sign. -/
def integer? (text : String) : Option Int :=
  match text.toList with
  | '-' :: digits => (naturalOf? digits).map fun n => -(n : Int)
  | _ => (natural? text).map Int.ofNat

def exponent? : List Char → Option Int
  | [] => some 0
  | c :: rest => if c = 'e' ∨ c = 'E' then integer? (String.ofList rest) else none

/-- Digits with or without a point, then an exponent or none. -/
def decimal? (cs : List Char) : Option Decimal := do
  let whole := cs.takeWhile Char.isDigit
  let (part, rest) := match cs.dropWhile Char.isDigit with
    | '.' :: rest => (rest.takeWhile Char.isDigit, rest.dropWhile Char.isDigit)
    | rest => ([], rest)
  if whole.isEmpty && part.isEmpty then none
  return ⟨digitsValue (whole ++ part), (← exponent? rest) - part.length⟩

def unsignedFraction? (cs : List Char) : Option Float :=
  match (String.ofList cs).toLower with
  | "inf" | "infinity" => some (1.0 / 0.0)
  | "nan" => some (0.0 / 0.0)
  | _ => (decimal? cs).map Decimal.nearest

/-- A fraction in decimal digits, or one of the names of the infinite and undefined ones. -/
def fraction? (text : String) : Option Float :=
  match text.toList with
  | '-' :: rest => (unsignedFraction? rest).map fun x => -x
  | '+' :: rest => unsignedFraction? rest
  | rest => unsignedFraction? rest

end GuardedQuery.Text
