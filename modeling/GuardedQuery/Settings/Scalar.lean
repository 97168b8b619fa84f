import GuardedQuery.Text.Numeral
import GuardedQuery.Value

/-! Scalars of settings documents: what a plain text stands for, and which characters the
escapes of a quoted text denote. -/

namespace GuardedQuery.Settings

inductive Scalar where
  | null
  | truth (b : Bool)
  | whole (i : Int)
  /-- Known by its text, so that two ways to write a fraction differ. -/
  | fraction (written : String)
  | text (s : String)
  deriving DecidableEq

namespace Scalar

def hexDigit? (c : Char) : Option Nat :=
  if c.isDigit then some (c.toNat - '0'.toNat)
  else if 'a' ≤ c ∧ c ≤ 'f' then some (c.toNat - 'a'.toNat + 10)
  else if 'A' ≤ c ∧ c ≤ 'F' then some (c.toNat - 'A'.toNat + 10)
  else none

/-- A whole number in another base. -/
def based? (base : Nat) (digits : List Char) : Option Int := do
  if digits.isEmpty then none
  let ds ← digits.mapM fun c => (hexDigit? c).filter (· < base)
  return (ds.foldl (fun n d => n * base + d) 0 : Nat)

/-- A whole number in another base, possibly behind a sign. -/
def signed? (base : Nat) (digits : List Char) : Option Int :=
  match digits with
  | '+' :: digits => based? base digits
  | '-' :: digits => (based? base digits).map (- ·)
  | digits => based? base digits

/-- A whole number behind the mark of its base, or behind a plus; a sign may still follow. -/
def prefixed? (written : String) : Option Int :=
  match written.toList with
  | '0' :: 'x' :: digits => signed? 16 digits
  | '0' :: 'o' :: digits => signed? 8 digits
  | '+' :: digits => Text.integer? (String.ofList digits)
  | _ => none

/-- A whole number that fits a signed word, in any way to write it. -/
def whole? (written : String) : Option Int :=
  ((prefixed? written).filter fitsWord).or ((Text.integer? written).filter fitsWord)

/-- Names of fractions that are recognised but cannot be read. -/
def unreadableFractions : List String :=
  [".inf", ".Inf", ".INF", "+.inf", "+.Inf", "+.INF", "-.inf", "-.Inf", "-.INF", ".nan", ".NAN"]

/-- What a plain text stands for; one that is nothing else is itself. -/
def ofPlain (written : String) : Scalar :=
  match written with
  | "" | "~" | "null" => null
  | "true" => truth true
  | "false" => truth false
  | _ =>
    match whole? written with
    | some i => whole i
    | none =>
      if unreadableFractions.contains written || (Text.fraction? written).isSome then
        fraction written
      else text written

/-- The value of a scalar, unless it is a fraction that cannot be read. -/
def value? : Scalar → Option Value
  | null => some .null
  | truth b => some (.bool b)
  | whole i => some (.int i)
  | fraction written => (Text.fraction? written).map fun x => .num (.float x)
  | text s => some (.str s)

/-- The name that a scalar gives to an entry: a text or a whole number. -/
def name? : Scalar → Option String
  | text s => some s
  | whole i => some (toString i)
  | _ => none

/-! Escapes -/

def escape? (c : Char) : Option Char :=
  match c with
  | '0' => some (Char.ofNat 0)
  | 'a' => some (Char.ofNat 7)
  | 'b' => some (Char.ofNat 8)
  | 't' | '\t' => some '\t'
  | 'n' => some '\n'
  | 'v' => some (Char.ofNat 11)
  | 'f' => some (Char.ofNat 12)
  | 'r' => some '\r'
  | 'e' => some (Char.ofNat 27)
  | 'N' => some (Char.ofNat 0x85)
  | '_' => some (Char.ofNat 0xa0)
  | 'L' => some (Char.ofNat 0x2028)
  | 'P' => some (Char.ofNat 0x2029)
  | ' ' | '"' | '/' | '\\' => some c
  | _ => none

/-- The number of hexadecimal digits behind an escape. -/
def codeWidth? : Char → Option Nat
  | 'x' => some 2
  | 'u' => some 4
  | 'U' => some 8
  | _ => none

def code? (digits : List Char) : Option Char := do
  let code ← based? 16 digits
  if code.toNat.isValidChar then some (Char.ofNat code.toNat) else none

/-- The character that an escape denotes, and what follows it. -/
def readEscape (kind : Char) (rest : List Char) : Option (Char × List Char) :=
  match codeWidth? kind with
  | some width =>
    if rest.length < width then none
    else (code? (rest.take width)).map fun c => (c, rest.drop width)
  | none => (escape? kind).map fun c => (c, rest)

end Scalar

end GuardedQuery.Settings
