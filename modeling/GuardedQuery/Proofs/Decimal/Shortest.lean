import GuardedQuery.Proofs.Decimal.Rounding
import Mathlib.Data.Nat.Cast.Order.Field
import Mathlib.Tactic.FieldSimp

/-! The shortest decimal of a positive binary fraction rounds to the fraction. Every grid that is
tried yields a number in the interval of the fraction or nothing, and the last grid is so fine
that it yields one. -/

namespace GuardedQuery

/-- The number that a decimal stands for. -/
def Decimal.value (d : Decimal) : ℚ := d.digits * 10 ^ d.exponent

theorem scaled_pos (a : Nat) {base : Nat} (pos : 0 < base) (power : Int) :
    0 < (scaled a base power).2 := by
  rw [scaled]
  split
  · exact Nat.pow_pos pos
  · exact Nat.one_pos

theorem scaled_value (a base : Nat) (e : Int) :
    ((scaled a base e).1 : ℚ) / (scaled a base e).2 = a * (base : ℚ) ^ e := by
  rw [scaled]
  split
  · rename_i negative
    obtain ⟨n, rfl⟩ : ∃ n : Nat, e = -n := ⟨e.natAbs, by omega⟩
    simp [div_eq_mul_inv]
  · rename_i nonnegative
    obtain ⟨n, rfl⟩ : ∃ n : Nat, e = n := ⟨e.natAbs, by omega⟩
    simp

namespace Decimal
variable {x : BinaryFraction} {d : Decimal} {k power : Int}

/-! One grid -/

/-- The factor that makes the points of a grid and the ends of an interval natural numbers. -/
def gridUnit (x : BinaryFraction) (k : Int) : Nat :=
  (scaled 1 2 (x.exponent - 2)).2 * (scaled 1 10 (-k)).2

/-- A number of quarters of the distance between fractions, scaled alike. -/
def gridQuarters (x : BinaryFraction) (k : Int) (n : Nat) : Nat :=
  n * (scaled 1 2 (x.exponent - 2)).1 * (scaled 1 10 (-k)).1

theorem gridUnit_pos (x : BinaryFraction) (k : Int) : 0 < gridUnit x k :=
  Nat.mul_pos (scaled_pos 1 (by decide) _) (scaled_pos 1 (by decide) _)

theorem gridQuarters_value (x : BinaryFraction) (k : Int) (n : Nat) :
    (gridQuarters x k n : ℚ) * 10 ^ k = n * x.quarter * gridUnit x k := by
  have two := scaled_value 1 2 (x.exponent - 2)
  have ten := scaled_value 1 10 (-k)
  have down : ((scaled 1 2 (x.exponent - 2)).2 : ℚ) ≠ 0 :=
    Nat.cast_ne_zero.2 (scaled_pos 1 (by decide) _).ne'
  have shrink : ((scaled 1 10 (-k)).2 : ℚ) ≠ 0 :=
    Nat.cast_ne_zero.2 (scaled_pos 1 (by decide) _).ne'
  have power : (10 : ℚ) ^ k ≠ 0 := zpow_ne_zero k (by norm_num)
  rw [div_eq_iff down] at two
  rw [div_eq_iff shrink, zpow_neg] at ten
  push_cast at two ten
  rw [gridQuarters, gridUnit, BinaryFraction.quarter]
  push_cast
  rw [two, ten]
  field_simp

/-- A point of the grid is not below a number of quarters. -/
theorem gridQuarters_le_iff (n m : Nat) :
    gridQuarters x k n ≤ m * gridUnit x k ↔ n * x.quarter ≤ (⟨m, k⟩ : Decimal).value := by
  have unit : (0 : ℚ) < gridUnit x k := Nat.cast_pos.2 (gridUnit_pos x k)
  have power : (0 : ℚ) < 10 ^ k := zpow_pos (by norm_num) k
  rw [← mul_le_mul_iff_left₀ unit, ← gridQuarters_value, value, mul_right_comm,
    mul_le_mul_iff_left₀ power]
  exact_mod_cast Iff.rfl

theorem le_gridQuarters_iff (n m : Nat) :
    m * gridUnit x k ≤ gridQuarters x k n ↔ (⟨m, k⟩ : Decimal).value ≤ n * x.quarter := by
  have unit : (0 : ℚ) < gridUnit x k := Nat.cast_pos.2 (gridUnit_pos x k)
  have power : (0 : ℚ) < 10 ^ k := zpow_pos (by norm_num) k
  rw [← mul_le_mul_iff_left₀ unit, ← gridQuarters_value, value, mul_right_comm,
    mul_le_mul_iff_left₀ power]
  exact_mod_cast Iff.rfl

/-- Whether a multiple of the power of ten lies in the interval. -/
def inside (x : BinaryFraction) (k : Int) (m : Nat) : Bool :=
  let low := gridQuarters x k (4 * x.mantissa - (if x.narrowBelow then 1 else 2))
  let high := gridQuarters x k (4 * x.mantissa + 2)
  if x.mantissa % 2 == 0 then
    low ≤ m * gridUnit x k && m * gridUnit x k ≤ high
  else low < m * gridUnit x k && m * gridUnit x k < high

theorem rounds_of_inside (pos : 0 < x.mantissa) {m : Nat} (h : inside x k m = true) :
    x.Rounds (⟨m, k⟩ : Decimal).value := by
  have low : ((4 * x.mantissa - (if x.narrowBelow then 1 else 2) : Nat) : ℚ) * x.quarter =
      x.low := by
    rw [BinaryFraction.low]
    split <;> rw [Nat.cast_sub (by omega)] <;> push_cast <;> rfl
  have high : ((4 * x.mantissa + 2 : Nat) : ℚ) * x.quarter = x.high := by
    rw [BinaryFraction.high]
    push_cast
    rfl
  rw [inside] at h
  split at h
  · rename_i even
    simp only [Bool.and_eq_true, decide_eq_true_eq, gridQuarters_le_iff, le_gridQuarters_iff,
      low, high] at h
    refine ⟨h.1, h.2, fun odd => ?_⟩
    rw [odd] at even
    cases even
  · simp only [Bool.and_eq_true, decide_eq_true_eq, ← Nat.not_le, gridQuarters_le_iff,
      le_gridQuarters_iff, low, high, not_le] at h
    exact ⟨h.1.le, h.2.le, fun _ => h⟩

/-- The grid point at or below the fraction. -/
def pointBelow (x : BinaryFraction) (k : Int) : Nat :=
  gridQuarters x k (4 * x.mantissa) / gridUnit x k

/-- A grid yields the point below the fraction or the one above, whichever is inside. -/
theorem onGrid_cases (x : BinaryFraction) (k : Int) :
    (∃ m, onGrid x k = some ⟨m, k⟩ ∧ inside x k m = true) ∨
      onGrid x k = none ∧ inside x k (pointBelow x k + 1) = false := by
  obtain ⟨prefer, is⟩ : ∃ prefer : Bool, onGrid x k =
      if inside x k (pointBelow x k) && pointBelow x k != 0 &&
          (prefer || !inside x k (pointBelow x k + 1)) then some ⟨pointBelow x k, k⟩
      else if inside x k (pointBelow x k + 1) then some ⟨pointBelow x k + 1, k⟩
      else none := ⟨_, rfl⟩
  rw [is]
  split
  · rename_i h
    simp only [Bool.and_eq_true] at h
    exact .inl ⟨_, rfl, h.1.1⟩
  · split
    · rename_i above
      exact .inl ⟨_, rfl, above⟩
    · rename_i none
      exact .inr ⟨rfl, by simpa using none⟩

/-- On a grid that is finer than half the distance between fractions the point above is inside. -/
theorem inside_above (fine : (10 : ℚ) ^ k < 2 * x.quarter) :
    inside x k (pointBelow x k + 1) = true := by
  have floor : gridQuarters x k (4 * x.mantissa) < (pointBelow x k + 1) * gridUnit x k := by
    rw [pointBelow, Nat.mul_comm (_ / _ + 1)]
    exact Nat.lt_mul_div_succ _ (gridUnit_pos x k)
  have point : pointBelow x k * gridUnit x k ≤ gridQuarters x k (4 * x.mantissa) :=
    Nat.div_mul_le_self _ _
  rw [← Nat.not_le, le_gridQuarters_iff, not_le] at floor
  rw [le_gridQuarters_iff] at point
  have quarter := x.quarter_pos
  have next : (⟨pointBelow x k + 1, k⟩ : Decimal).value =
      (⟨pointBelow x k, k⟩ : Decimal).value + 10 ^ k := by
    simp only [value]
    push_cast
    ring
  have above : gridQuarters x k (4 * x.mantissa - (if x.narrowBelow then 1 else 2)) <
      (pointBelow x k + 1) * gridUnit x k := by
    rw [← Nat.not_le, le_gridQuarters_iff, not_le]
    refine lt_of_le_of_lt ?_ floor
    exact mul_le_mul_of_nonneg_right (Nat.cast_le.2 (Nat.sub_le _ _)) quarter.le
  have below : (pointBelow x k + 1) * gridUnit x k < gridQuarters x k (4 * x.mantissa + 2) := by
    rw [← Nat.not_le, gridQuarters_le_iff, not_le, next]
    push_cast at point ⊢
    linarith
  rw [inside]
  simp only [above, below, above.le, below.le, decide_true, Bool.and_self, ite_self]

/-! The grids in turn -/

/-- If not before, a number in the interval is found on the last grid. -/
theorem rounds_shortestFrom (pos : 0 < x.mantissa) {more digits : Nat}
    (fine : (10 : ℚ) ^ (power - ((digits + more : Nat) : Int)) < 2 * x.quarter) :
    x.Rounds (shortestFrom x power more digits).value := by
  induction more generalizing digits with
  | zero =>
    rw [Nat.add_zero] at fine
    rw [shortestFrom]
    rcases onGrid_cases x (power - digits) with ⟨m, found, here⟩ | ⟨_, none⟩
    · rw [found]
      exact rounds_of_inside pos here
    · rw [inside_above fine] at none
      cases none
  | succ more ih =>
    rw [shortestFrom]
    rcases onGrid_cases x (power - digits) with ⟨m, found, here⟩ | ⟨none, _⟩
    · rw [found]
      exact rounds_of_inside pos here
    · rw [none]
      refine ih ?_
      rwa [show digits + 1 + more = digits + (more + 1) by omega]

theorem value_trim (fuel : Nat) (d : Decimal) : (trim fuel d).value = d.value := by
  induction fuel generalizing d with
  | zero => rfl
  | succ fuel ih =>
    rw [trim]
    split
    · rename_i h
      obtain ⟨m, digits⟩ : ∃ m, d.digits = m * 10 := ⟨d.digits / 10, by omega⟩
      rw [ih, value, value, digits, Nat.mul_div_cancel m (by decide),
        zpow_add_one₀ (by norm_num)]
      push_cast
      ring
    · rfl

/-! The power of the leading digit -/

theorem length_pos (n : Nat) : 0 < decimalLength n := Nat.length_toDigits_pos

theorem lt_pow_length (n : Nat) : n < 10 ^ decimalLength n :=
  (Nat.length_toDigits_le_iff (by decide) (length_pos n)).1 (Nat.le_refl _)

theorem pow_length_le {n : Nat} (pos : 0 < n) : 10 ^ (decimalLength n - 1) ≤ n := by
  by_contra less
  rw [Nat.not_le] at less
  by_cases one : decimalLength n - 1 = 0
  · rw [one] at less
    omega
  · have short : decimalLength n ≤ decimalLength n - 1 :=
      (Nat.length_toDigits_le_iff (by decide) (Nat.pos_of_ne_zero one)).2 less
    have := length_pos n
    omega

theorem pow_leadingPower_le {num den : Nat} (numPos : 0 < num) (denPos : 0 < den) :
    (10 : ℚ) ^ leadingPower num den ≤ num / den := by
  rw [leadingPower]
  split
  · rename_i large
    have quotient := pow_length_le (Nat.div_pos large denPos)
    have length := length_pos (num / den)
    have power : (decimalLength (num / den) : Int) - 1 =
        ((decimalLength (num / den) - 1 : Nat) : Int) := by omega
    rw [power, zpow_natCast]
    exact le_trans (by exact_mod_cast quotient) Nat.cast_div_le
  · have bound := lt_pow_length ((den + num - 1) / num - 1)
    generalize decimalLength ((den + num - 1) / num - 1) = length at bound
    have whole : den + num - 1 < (10 ^ length + 1) * num := by
      rw [← Nat.div_lt_iff_lt_mul numPos]
      omega
    have enough : den ≤ num * 10 ^ length := by
      rw [Nat.add_one_mul, Nat.mul_comm] at whole
      omega
    rw [zpow_neg, zpow_natCast, le_div_iff₀ (Nat.cast_pos.2 denPos),
      inv_mul_le_iff₀ (by positivity)]
    rw [mul_comm]
    exact_mod_cast enough

/-- With seventeen digits the grid is finer than half the distance between fractions. -/
theorem fine_grid (fits : x.mantissa < 2 * BinaryFraction.hiddenBit)
    (least : (10 : ℚ) ^ power ≤ x.mantissa * 2 ^ x.exponent) :
    (10 : ℚ) ^ (power - 17) < 2 * x.quarter := by
  have unit : (0 : ℚ) < 2 ^ x.exponent := zpow_pos (by norm_num) _
  have mantissa : (x.mantissa : ℚ) < 2 * 0x10000000000000 := by exact_mod_cast fits
  rw [BinaryFraction.quarter, zpow_sub₀ (by norm_num), zpow_sub₀ (by norm_num)]
  norm_num
  rw [div_lt_iff₀ (by norm_num)]
  nlinarith

/-- The shortest decimal of a positive fraction rounds to it. -/
theorem rounds_shortest (pos : 0 < x.mantissa)
    (fits : x.mantissa < 2 * BinaryFraction.hiddenBit) : x.Rounds (shortest x).value := by
  have least : (10 : ℚ) ^ leadingPower (scaled x.mantissa 2 x.exponent).1
      (scaled x.mantissa 2 x.exponent).2 ≤ x.mantissa * 2 ^ x.exponent := by
    have value := scaled_value x.mantissa 2 x.exponent
    push_cast at value
    rw [← value]
    refine pow_leadingPower_le ?_ (scaled_pos _ (by decide) _)
    rw [scaled]
    split
    · exact pos
    · exact Nat.mul_pos pos (Nat.pow_pos (by decide))
  rw [shortest, value_trim]
  exact rounds_shortestFrom pos (fine_grid fits least)

end Decimal

end GuardedQuery
