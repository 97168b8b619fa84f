import GuardedQuery.Decimal

/-! The binary fraction nearest to a decimal. A quotient of naturals is scaled by a power of two
until it has as many bits as a fraction holds, and what is left of it decides the rounding; a tie
goes to the even neighbour. Below the normal range the scale is fixed, so fewer bits remain. -/

namespace GuardedQuery

namespace BinaryFraction

/-- The power of two of the leading bit of `num / den`. -/
def leadingBit (num den : Nat) : Int :=
  let guess := (num.log2 : Int) - den.log2
  let (up, down) := scaled den 2 guess
  if up ≤ num * down then guess else guess - 1

/-- The scale at which `num / den` has the bits of a fraction. -/
def scaleOf (num den : Nat) : Int := max (leadingBit num den - 52) (-1074)

/-- A quotient rounded to a natural. -/
def roundedQuotient (num den : Nat) : Nat :=
  let quotient := num / den
  let twice := 2 * (num % den)
  if den < twice ∨ (twice = den ∧ quotient % 2 = 1) then quotient + 1 else quotient

def infiniteBits : Nat := 0x7ff * hiddenBit

/-- The bits of the fraction nearest to `num / den`. A mantissa that is rounded up to the next
power of two carries into the exponent, as it should. -/
def nearestBits (num den : Nat) : Nat :=
  let scale := scaleOf num den
  let (up, down) := scaled num 2 (-scale)
  min infiniteBits ((scale + 1074).toNat * hiddenBit + roundedQuotient up (down * den))

end BinaryFraction

namespace Decimal

/-- No fraction is as large as this power of ten. -/
def greatestPower : Int := 310

/-- Half of the least fraction is larger than this power of ten. -/
def leastPower : Int := -330

/-- The fraction nearest to a decimal. -/
def nearest (d : Decimal) : Float :=
  let power := (decimalLength d.digits : Int) + d.exponent
  if d.digits = 0 ∨ power < leastPower then 0
  else if greatestPower < power then 1 / 0
  else
    let (num, den) := scaled d.digits 10 d.exponent
    Float.ofBits (UInt64.ofNat (BinaryFraction.nearestBits num den))

end Decimal

end GuardedQuery
