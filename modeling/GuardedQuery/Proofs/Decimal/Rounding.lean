import GuardedQuery.Decimal
import Mathlib.Algebra.Order.Field.Rat
import Mathlib.Tactic.LinearCombination
import Mathlib.Tactic.Linarith
import Mathlib.Tactic.NormNum
import Mathlib.Tactic.Ring

/-! The numbers that round to a binary fraction. They form an interval, whose ends belong to it
exactly when the mantissa is even. The intervals of different bit patterns do not meet: each begins
where the one before ends, and of two neighbours only one has an even mantissa. -/

namespace GuardedQuery.BinaryFraction

/-- A quarter of the distance to the next larger fraction. -/
def quarter (x : BinaryFraction) : ℚ := 2 ^ (x.exponent - 2)

def low (x : BinaryFraction) : ℚ :=
  (4 * x.mantissa - (if x.narrowBelow then 1 else 2)) * x.quarter

def high (x : BinaryFraction) : ℚ := (4 * x.mantissa + 2) * x.quarter

structure Rounds (x : BinaryFraction) (v : ℚ) : Prop where
  least : x.low ≤ v
  greatest : v ≤ x.high
  inner : x.mantissa % 2 = 1 → x.low < v ∧ v < x.high

theorem quarter_pos (x : BinaryFraction) : 0 < x.quarter := zpow_pos (by norm_num) _

theorem low_lt_high (x : BinaryFraction) : x.low < x.high := by
  refine mul_lt_mul_of_pos_right ?_ x.quarter_pos
  split <;> linarith

/-! Neighbouring bit patterns -/

/-- The bits of finite fractions without their sign are below this. -/
def finiteBits : Nat := 0x7ff * hiddenBit

variable {a b bits biased rest : Nat} {v : ℚ}

theorem ofBits_subnormal (part : rest < hiddenBit) : ofBits rest = ⟨rest, -1074, false⟩ := by
  have none : rest / hiddenBit = 0 := Nat.div_eq_of_lt part
  simp [ofBits, none, Nat.mod_eq_of_lt part]

theorem ofBits_normal (few : biased + 1 < 0x800) (part : rest < hiddenBit) :
    ofBits (hiddenBit * (biased + 1) + rest) =
      ⟨hiddenBit + rest, (biased : Int) - 1074, rest == 0 && decide (0 < biased)⟩ := by
  have quotient : (hiddenBit * (biased + 1) + rest) / hiddenBit = biased + 1 := by
    rw [Nat.mul_add_div (by decide), Nat.div_eq_of_lt part, Nat.add_zero]
  have left : (hiddenBit * (biased + 1) + rest) % hiddenBit = rest := by
    rw [Nat.mul_add_mod, Nat.mod_eq_of_lt part]
  simp only [ofBits, quotient, left, Nat.mod_eq_of_lt few]
  simp only [Nat.add_one_ne_zero, if_false, gt_iff_lt, Nat.lt_add_left_iff_pos, mk.injEq, true_and,
    and_true]
  omega

/-- The bits of a finite fraction, without their sign, in parts. -/
theorem bits_cases (finite : bits < finiteBits) :
    bits < hiddenBit ∨ ∃ biased rest, biased + 1 < 0x7ff ∧ rest < hiddenBit ∧
      bits = hiddenBit * (biased + 1) + rest := by
  rw [finiteBits, hiddenBit] at finite
  rw [hiddenBit]
  by_cases small : bits < 0x10000000000000
  · exact .inl small
  · refine .inr ⟨bits / 0x10000000000000 - 1, bits % 0x10000000000000, ?_, ?_, ?_⟩ <;> omega

theorem mantissa_parity (finite : bits < finiteBits) :
    (ofBits bits).mantissa % 2 = bits % 2 := by
  rcases bits_cases finite with small | ⟨biased, rest, few, part, rfl⟩
  · rw [ofBits_subnormal small]
  · rw [ofBits_normal (by omega) part]
    simp only [hiddenBit]
    omega

/-- Within one power of two the intervals lie side by side. -/
theorem high_eq_low_of_next {x y : BinaryFraction} (exponent : y.exponent = x.exponent)
    (next : y.mantissa = x.mantissa + 1) (wide : y.narrowBelow = false) : x.high = y.low := by
  simp only [high, low, quarter, exponent, next, wide, Bool.false_eq_true, if_false]
  push_cast
  ring

/-- Past the last mantissa of a power of two the distances double. -/
theorem high_eq_low_of_carry {x y : BinaryFraction} (exponent : y.exponent = x.exponent + 1)
    (next : 2 * y.mantissa = x.mantissa + 1) (narrow : y.narrowBelow = true) : x.high = y.low := by
  have doubled : y.quarter = x.quarter * 2 := by
    rw [quarter, quarter, exponent, ← zpow_add_one₀ (by norm_num)]
    ring_nf
  have mantissa : (2 : ℚ) * y.mantissa = x.mantissa + 1 := by exact_mod_cast next
  rw [high, low, doubled, narrow, if_pos rfl]
  linear_combination (-4 * x.quarter) * mantissa

/-- Each interval begins where that of the bits before ends. -/
theorem high_eq_low_succ (finite : bits + 1 < finiteBits) :
    (ofBits bits).high = (ofBits (bits + 1)).low := by
  rcases bits_cases (Nat.lt_of_succ_lt finite) with small | ⟨biased, rest, few, part, rfl⟩
  · by_cases last : bits + 1 < hiddenBit
    · rw [ofBits_subnormal small, ofBits_subnormal last]
      exact high_eq_low_of_next rfl rfl rfl
    · have full : bits + 1 = hiddenBit * (0 + 1) + 0 := by omega
      rw [ofBits_subnormal small, full, ofBits_normal (by decide) (by decide)]
      exact high_eq_low_of_next rfl (by simp only; omega) rfl
  · by_cases last : rest + 1 < hiddenBit
    · rw [Nat.add_assoc, ofBits_normal (by omega) part, ofBits_normal (by omega) last]
      exact high_eq_low_of_next rfl rfl rfl
    · have carry : rest + 1 = hiddenBit := by omega
      have full : hiddenBit * (biased + 1) + rest + 1 = hiddenBit * (biased + 1 + 1) + 0 := by
        rw [Nat.add_assoc, carry, Nat.mul_add_one hiddenBit (biased + 1)]
        rfl
      rw [full, ofBits_normal (by omega) part, ofBits_normal (by omega) (by decide)]
      refine high_eq_low_of_carry ?_ ?_ (by simp) <;> simp only <;> omega

theorem high_le_low (later : a + 1 ≤ b) (finite : b < finiteBits) :
    (ofBits a).high ≤ (ofBits b).low := by
  induction b, later using Nat.le_induction with
  | base => exact le_of_eq (high_eq_low_succ finite)
  | succ b later ih =>
    have before := ih (Nat.lt_of_succ_lt finite)
    rw [← high_eq_low_succ finite]
    exact before.trans (ofBits b).low_lt_high.le

theorem not_rounds_of_lt (later : a < b) (finite : b < finiteBits) (here : (ofBits a).Rounds v) :
    ¬ (ofBits b).Rounds v := by
  intro there
  have between := high_le_low later finite
  have meet : (ofBits a).high = v ∧ v = (ofBits b).low := by
    constructor <;> linarith [here.greatest, there.least]
  -- both intervals are closed, so that the bits are even and there are bits between them
  have even (c : Nat) (finite : c < finiteBits) (closed : (ofBits c).Rounds v)
      (atEnd : v = (ofBits c).low ∨ v = (ofBits c).high) : c % 2 = 0 := by
    rw [← mantissa_parity finite]
    by_contra odd
    obtain ⟨above, below⟩ := closed.inner (by omega)
    rcases atEnd with is | is <;> linarith
  have evenA := even a (later.trans finite) here (.inr meet.1.symm)
  have evenB := even b finite there (.inl meet.2)
  have room : a + 1 < b := by omega
  have gap := high_le_low room finite
  have between := high_le_low (Nat.le_refl (a + 1)) (room.trans finite)
  have wide := (ofBits (a + 1)).low_lt_high
  linarith [meet.1, meet.2]

/-- No number rounds to fractions of different bits. -/
theorem eq_of_rounds (finiteA : a < finiteBits) (finiteB : b < finiteBits)
    (here : (ofBits a).Rounds v) (there : (ofBits b).Rounds v) : a = b := by
  rcases Nat.lt_trichotomy a b with lt | same | gt
  · exact absurd there (not_rounds_of_lt lt finiteB here)
  · exact same
  · exact absurd here (not_rounds_of_lt gt finiteA there)

end GuardedQuery.BinaryFraction
