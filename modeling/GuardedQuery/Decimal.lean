/-! The shortest decimal that reads back as a given binary fraction.
A positive fraction is `m * 2 ^ q`; the reals that round to it form an interval, whose ends
belong to it exactly when `m` is even. Grids of one, two, ... seventeen significant digits are
tried in turn, and on the first grid with a point in the interval the nearest point wins. -/

namespace GuardedQuery

/-- The value `digits * 10 ^ exponent`. -/
structure Decimal where
  digits : Nat
  exponent : Int
  deriving DecidableEq

/-- A positive binary fraction `mantissa * 2 ^ exponent`. The flag says that the next smaller
fraction is only half as far away as the next larger one. -/
structure BinaryFraction where
  mantissa : Nat
  exponent : Int
  narrowBelow : Bool

namespace BinaryFraction

/-- The leading bit of a normal fraction, which its representation leaves out. -/
def hiddenBit : Nat := 0x10000000000000

def ofBits (bits : Nat) : BinaryFraction :=
  let biased : Nat := bits / hiddenBit % 0x800
  let low := bits % hiddenBit
  if biased = 0 then ⟨low, -1074, false⟩
  else ⟨hiddenBit + low, (biased : Int) - 1075, low == 0 && biased > 1⟩

end BinaryFraction

/-- `a * base ^ e` as a quotient of naturals. -/
def scaled (a base : Nat) (e : Int) : Nat × Nat :=
  let power := Nat.pow base e.natAbs
  if e < 0 then (a, power) else (a * power, 1)

def decimalLength (n : Nat) : Nat := (Nat.toDigits 10 n).length

/-- The power of ten of the leading digit of `num / den`. -/
def leadingPower (num den : Nat) : Int :=
  if den ≤ num then (decimalLength (num / den) : Int) - 1
  else -(decimalLength ((den + num - 1) / num - 1) : Int)

namespace Decimal

/-- Drops trailing zeros; `fuel` bounds their number. -/
def trim : Nat → Decimal → Decimal
  | 0, d => d
  | fuel + 1, d =>
    if d.digits ≠ 0 ∧ d.digits % 10 = 0 then trim fuel ⟨d.digits / 10, d.exponent + 1⟩ else d

/-- The nearest point of the grid of multiples of `10 ^ k` inside the interval, if any.
A tie goes to the even multiple. -/
def onGrid (x : BinaryFraction) (k : Int) : Option Decimal :=
  let (up, down) := scaled 1 2 (x.exponent - 2)
  let (grow, shrink) := scaled 1 10 (-k)
  let value := 4 * x.mantissa * up * grow
  let low := (4 * x.mantissa - (if x.narrowBelow then 1 else 2)) * up * grow
  let high := (4 * x.mantissa + 2) * up * grow
  let unit := down * shrink
  let closed := x.mantissa % 2 == 0
  let inside (d : Nat) : Bool :=
    if closed then low ≤ d * unit && d * unit ≤ high else low < d * unit && d * unit < high
  let below := value / unit
  let above := below + 1
  let gapBelow := value - below * unit
  let gapAbove := above * unit - value
  let preferBelow := gapBelow < gapAbove || (gapBelow == gapAbove && below % 2 == 0)
  if inside below && below != 0 && (preferBelow || !inside above) then some ⟨below, k⟩
  else if inside above then some ⟨above, k⟩
  else none

def shortestFrom (x : BinaryFraction) (power : Int) : Nat → Nat → Decimal
  | 0, digits => (onGrid x (power - digits)).getD ⟨0, 0⟩
  | more + 1, digits =>
    match onGrid x (power - digits) with
    | some d => d
    | none => shortestFrom x power more (digits + 1)

/-- The shortest decimal that reads back as `x`. -/
def shortest (x : BinaryFraction) : Decimal :=
  let (up, down) := scaled x.mantissa 2 x.exponent
  trim 20 (shortestFrom x (leadingPower up down) 17 0)

end Decimal

end GuardedQuery
