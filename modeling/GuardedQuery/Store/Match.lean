import GuardedQuery.Calendar
import GuardedQuery.Pattern.Program
import GuardedQuery.Pattern.Size
import GuardedQuery.Store.Error
import GuardedQuery.Text.Case
import GuardedQuery.Text.Part
import GuardedQuery.Value.Compare
import GuardedQuery.Value.Text

/-! Conditions on the values that a field path reaches. A condition holds of a row if it
accepts any of the values; null satisfies nothing but tests for null. -/

namespace GuardedQuery

namespace Lookup

/-- Compares two values as plain texts. -/
def onTexts (test : String → String → Bool) (actual expected : Value) : Bool :=
  match actual.plain?, expected.plain? with
  | some a, some e => test a e
  | _, _ => false

def ignoringCase (test : String → String → Bool) (a e : String) : Bool :=
  test (Text.lowercase a) (Text.lowercase e)

def atLeast (actual bound : Value) : Bool := (actual.compare? bound).any (·.isGE)

def atMost (actual bound : Value) : Bool := (actual.compare? bound).any (·.isLE)

def isBetween (actual bounds : Value) : Bool :=
  match bounds.arr? with
  | some [low, high] => atLeast actual low && atMost actual high
  | _ => false

def isAmong (actual options : Value) : Bool :=
  (options.arr?.getD []).any fun option => actual.equal option

/-- A list contains its items, a text its parts. -/
def hasPart (actual expected : Value) : Bool :=
  match actual with
  | .arr items => items.any fun item => item.equal expected
  | _ => onTexts Text.contains actual expected

def badPattern (pattern : String) : Store.Error :=
  .invalidFilter ("Invalid regular expression '" ++ pattern ++ "'")

def matchesPattern (ignoreCase : Bool) (actual expected : Value) : Except Store.Error Bool :=
  match expected.str? with
  | none => .error (.invalidFilter "Regular expression lookups need a string pattern")
  | some text =>
    match Pattern.read? text ignoreCase with
    | none => .error (badPattern text)
    | some pattern => .ok (actual.plain?.any pattern.isMatch)

/-- Compares a value that is not null. -/
def compares (lookup : Lookup) (actual expected : Value) : Except Store.Error Bool :=
  match lookup with
  | exact => .ok (actual.equal expected)
  | iexact => .ok (onTexts (ignoringCase (· == ·)) actual expected)
  | contains => .ok (hasPart actual expected)
  | icontains => .ok (onTexts (ignoringCase Text.contains) actual expected)
  | startsWith => .ok (onTexts Text.startsWith actual expected)
  | istartsWith => .ok (onTexts (ignoringCase Text.startsWith) actual expected)
  | endsWith => .ok (onTexts Text.endsWith actual expected)
  | iendsWith => .ok (onTexts (ignoringCase Text.endsWith) actual expected)
  | gt => .ok ((actual.compare? expected).any (·.isGT))
  | gte => .ok (atLeast actual expected)
  | lt => .ok ((actual.compare? expected).any (·.isLT))
  | lte => .ok (atMost actual expected)
  | oneOf => .ok (isAmong actual expected)
  | range => .ok (isBetween actual expected)
  | regex => matchesPattern false actual expected
  | iregex => matchesPattern true actual expected
  | isNull => .ok false

/-- Tests one value. What is expected of a test for null counts as true unless it is false. -/
def accepts (lookup : Lookup) (actual expected : Value) : Except Store.Error Bool :=
  if lookup = isNull then .ok (actual.isNull == expected.bool?.getD true)
  else if actual.isNull then .ok (lookup = exact && expected.isNull)
  else lookup.compares actual expected

end Lookup

namespace Condition

/-- Tests one value, or the part of the date that it stands for. -/
def accepts (c : Condition) (value : Value) : Except Store.Error Bool :=
  c.lookup.accepts (match c.part with
    | some part => Calendar.part part value
    | none => value) c.value

/-- Whether any of the values is accepted; those behind an accepted one are not tested. -/
def acceptsAny (c : Condition) : List Value → Except Store.Error Bool
  | [] => .ok false
  | value :: rest => do if ← c.accepts value then return true else c.acceptsAny rest

end Condition

end GuardedQuery
