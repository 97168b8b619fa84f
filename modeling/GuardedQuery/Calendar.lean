import GuardedQuery.Condition
import GuardedQuery.Text.Blank

/-! Dates and times of the proleptic Gregorian calendar, as texts and as their parts. -/

namespace GuardedQuery

structure Date where
  year : Int
  month : Nat
  day : Nat
  deriving DecidableEq

/-- A time of day. In a leap second, `second` is 59 and `leap` holds. -/
structure Clock where
  hour : Nat
  minute : Nat
  second : Nat
  leap : Bool
  deriving DecidableEq

namespace Date

def isLeapYear (year : Int) : Bool :=
  year % 4 == 0 && (year % 100 != 0 || year % 400 == 0)

def monthLengths (year : Int) : List Nat :=
  [31, if isLeapYear year then 29 else 28, 31, 30, 31, 30, 31, 31, 30, 31, 30, 31]

def leastYear : Int := -262143

def greatestYear : Int := 262142

def isValid (d : Date) : Bool :=
  leastYear ≤ d.year && d.year ≤ greatestYear && 1 ≤ d.month && d.month ≤ 12 && 1 ≤ d.day &&
    d.day ≤ (monthLengths d.year).getD (d.month - 1) 0

/-- The number of the day within its year, from one. -/
def ordinal (d : Date) : Nat :=
  ((monthLengths d.year).take (d.month - 1)).foldl (· + ·) d.day

/-- Days before the first of January of a year, up to a constant that is a multiple of seven. -/
def daysBefore (year : Int) : Int :=
  let y := year - 1
  365 * y + y / 4 - y / 100 + y / 400

/-- The day of the week, from Monday as one. -/
def weekday (d : Date) : Nat := ((daysBefore d.year + d.ordinal - 1) % 7).toNat + 1

/-- Whether a year has a fifty-third week: it starts or ends on a Thursday. -/
def hasLongYear (year : Int) : Bool :=
  weekday ⟨year, 1, 1⟩ == 4 || weekday ⟨year, 12, 31⟩ == 4

def weeksIn (year : Int) : Nat := if hasLongYear year then 53 else 52

/-- The year and the number of the week that holds the Thursday of the date's week. -/
def isoWeek (d : Date) : Int × Nat :=
  let week := (d.ordinal + 10 - d.weekday) / 7
  if week = 0 then (d.year - 1, weeksIn (d.year - 1))
  else if weeksIn d.year < week then (d.year + 1, 1)
  else (d.year, week)

end Date

namespace Calendar

/-! Reading -/

def digit? (c : Char) : Option Nat :=
  if '0' ≤ c ∧ c ≤ '9' then some (c.toNat - '0'.toNat) else none

def isDigit (c : Char) : Bool := (digit? c).isSome

/-- A number of `least` to `most` digits. -/
def number (least most : Nat) (cs : List Char) : Option (Nat × List Char) :=
  let digits := (cs.take most).takeWhile isDigit
  if digits.length < least then none
  else some (digits.foldl (fun n c => n * 10 + (digit? c).getD 0) 0, cs.drop digits.length)

def literal (c : Char) : List Char → Option (List Char)
  | first :: rest => if first = c then some rest else none
  | [] => none

/-- A number of `least` to `most` digits that blanks may precede. -/
def padded (most : Nat) (cs : List Char) : Option (Nat × List Char) :=
  number 1 most (cs.dropWhile Text.isBlank)

/-- A year of up to four digits, or of any number of them after a sign. -/
def paddedYear (cs : List Char) : Option (Int × List Char) :=
  match cs.dropWhile Text.isBlank with
  | '-' :: rest => (number 1 rest.length rest).map fun (n, rest) => (-(n : Int), rest)
  | '+' :: rest => (number 1 rest.length rest).map fun (n, rest) => ((n : Int), rest)
  | rest => (number 1 4 rest).map fun (n, rest) => ((n : Int), rest)

/-- Skips a fraction of a second, which must have a digit after its point. -/
def fraction : List Char → Option (List Char)
  | '.' :: c :: rest => if isDigit c then some (rest.dropWhile isDigit) else none
  | ['.'] => none
  | cs => some cs

def clock? (hour minute second : Nat) : Option Clock :=
  if 24 ≤ hour ∨ 60 ≤ minute ∨ 60 < second then none
  else if second = 60 then some ⟨hour, minute, 59, true⟩
  else some ⟨hour, minute, second, false⟩

def date? (year : Int) (month day : Nat) : Option Date :=
  let d : Date := ⟨year, month, day⟩
  if d.isValid then some d else none

def paddedDate (cs : List Char) : Option (Date × List Char) := do
  let (year, cs) ← paddedYear cs
  let cs ← literal '-' cs
  let (month, cs) ← padded 2 cs
  let cs ← literal '-' cs
  let (day, cs) ← padded 2 cs
  return (← date? year month day, cs)

def paddedClock (cs : List Char) : Option (Clock × List Char) := do
  let (hour, cs) ← padded 2 cs
  let cs ← literal ':' cs
  let (minute, cs) ← padded 2 cs
  let cs ← literal ':' cs
  let (second, cs) ← padded 2 cs
  let cs ← fraction cs
  return (← clock? hour minute second, cs)

def complete {α : Type} : Option (α × List Char) → Option α
  | some (a, []) => some a
  | _ => none

/-- The offset from universal time: `Z`, or a sign, hours and minutes, within a day. -/
def offset (cs : List Char) : Option (List Char) := do
  match cs with
  | 'Z' :: rest | 'z' :: rest => return rest
  | sign :: rest =>
    if sign = '+' ∨ sign = '-' ∨ sign = Char.ofNat 0x2212 then
      let (hours, rest) ← number 2 2 rest
      let rest ← literal ':' rest
      let (minutes, rest) ← number 2 2 rest
      if 24 ≤ hours ∨ 60 ≤ minutes then none else return rest
    else none
  | [] => none

/-- A date and time of the internet profile: fixed widths and an offset, which is ignored. -/
def stamped? (cs : List Char) : Option (Date × Clock) := do
  let (year, cs) ← number 4 4 cs
  let cs ← literal '-' cs
  let (month, cs) ← number 2 2 cs
  let cs ← literal '-' cs
  let (day, cs) ← number 2 2 cs
  let cs ← match cs with
    | c :: rest => if c = 'T' ∨ c = 't' ∨ c = ' ' then some rest else none
    | [] => none
  let (hour, cs) ← number 2 2 cs
  let cs ← literal ':' cs
  let (minute, cs) ← number 2 2 cs
  let cs ← literal ':' cs
  let (second, cs) ← number 2 2 cs
  let cs ← fraction cs
  let cs ← offset cs
  if !cs.isEmpty then none
  return (← date? year month day, ← clock? hour minute second)

def joined? (cs : List Char) : Option (Date × Clock) := do
  let (date, cs) ← paddedDate cs
  let cs ← literal 'T' cs
  return (date, ← complete (paddedClock cs))

/-- A date and a time with any number of blanks between them. -/
def spaced? (cs : List Char) : Option (Date × Clock) := do
  let (date, cs) ← paddedDate cs
  return (date, ← complete (paddedClock (cs.dropWhile Text.isBlank)))

def dateOnly? (cs : List Char) : Option (Date × Clock) := do
  return (← complete (paddedDate cs), ⟨0, 0, 0, false⟩)

/-- The date and time of a text, by the first form that it has. -/
def moment? (text : String) : Option (Date × Clock) :=
  let cs := text.toList
  stamped? cs <|> joined? cs <|> spaced? cs <|> dateOnly? cs

def timeOfDay? (text : String) : Option Clock := complete (paddedClock text.toList)

/-! Parts -/

def pad (width n : Nat) : String :=
  let digits := Nat.toDigits 10 n
  String.ofList (List.replicate (width - digits.length) '0' ++ digits)

/-- Years outside four digits are written with their sign. -/
def yearText (year : Int) : String :=
  if year < 0 then "-" ++ pad 4 year.natAbs
  else if 10000 ≤ year then "+" ++ pad 4 year.natAbs
  else pad 4 year.natAbs

def dateText (d : Date) : String := yearText d.year ++ "-" ++ pad 2 d.month ++ "-" ++ pad 2 d.day

def clockText (c : Clock) : String :=
  pad 2 c.hour ++ ":" ++ pad 2 c.minute ++ ":" ++ pad 2 (if c.leap then 60 else c.second)

def clockPart? (c : Clock) : DatePart → Option Value
  | .hour => some (.int c.hour)
  | .minute => some (.int c.minute)
  | .second => some (.int c.second)
  | .time => some (.str (clockText c))
  | _ => none

def momentPart (d : Date) (c : Clock) : DatePart → Value
  | .year => .int d.year
  | .month => .int d.month
  | .day => .int d.day
  | .week => .int d.isoWeek.2
  | .weekDay => .int (d.weekday % 7 + 1 : Nat)
  | .isoWeekDay => .int d.weekday
  | .quarter => .int ((d.month - 1) / 3 + 1 : Nat)
  | .isoYear => .int d.isoWeek.1
  | .date => .str (dateText d)
  | part => (clockPart? c part).getD .null

/-- A part of the date or time that a value is the text of; null if there is none. -/
def part (p : DatePart) : Value → Value
  | .str text =>
    match moment? text with
    | some (d, c) => momentPart d c p
    | none => ((timeOfDay? text).bind (clockPart? · p)).getD .null
  | _ => .null

end Calendar

end GuardedQuery
