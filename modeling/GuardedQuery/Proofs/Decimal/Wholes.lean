import GuardedQuery.Decimal.Nearest
import GuardedQuery.Proofs.Decimal.Order
import Mathlib

/-! Integers as fractions. An integer of at most 64 bits becomes the fraction with the nearest
mantissa of 53 bits, and a larger integer never stands before a smaller one: within a power of two
the mantissa grows, and a mantissa that is rounded up meets the least one of the next power. -/

namespace GuardedQuery

open Float.Model Float.Model.UnpackedFloat BinaryFraction

variable {a b k m n q : Nat} {e t i j : Int} {s : Sign}

/-! Rounded quotients -/

theorem roundedQuotient_double (a b : Nat) :
    roundedQuotient (2 * a) (2 * b) = roundedQuotient a b := by
  have quotient : 2 * a / (2 * b) = a / b := Nat.mul_div_mul_left a b (by decide)
  have rest : 2 * a % (2 * b) = 2 * (a % b) := Nat.mul_mod_mul_left 2 a b
  simp only [roundedQuotient, quotient, rest]
  refine if_congr ?_ rfl rfl
  omega

theorem roundedQuotient_scale (k a b : Nat) :
    roundedQuotient (2 ^ k * a) (2 ^ k * b) = roundedQuotient a b := by
  induction k with
  | zero => rw [Nat.pow_zero, Nat.one_mul, Nat.one_mul]
  | succ k ih => rw [Nat.pow_succ', Nat.mul_assoc, Nat.mul_assoc, roundedQuotient_double, ih]

theorem roundedQuotient_whole (k a : Nat) : roundedQuotient (2 ^ k * a) (2 ^ k) = a := by
  have scaled := roundedQuotient_scale k a 1
  rw [Nat.mul_one] at scaled
  rw [scaled]
  simp [roundedQuotient, Nat.mod_one]

theorem roundedQuotient_mono (c : Nat) (le : a ≤ b) :
    roundedQuotient a c ≤ roundedQuotient b c := by
  have whole := Nat.div_add_mod a c
  have whole' := Nat.div_add_mod b c
  rcases Nat.lt_or_eq_of_le (Nat.div_le_div_right (c := c) le) with less | same
  · simp only [roundedQuotient]
    split <;> split <;> omega
  · rw [same] at whole
    have rest : a % c ≤ b % c := by omega
    simp only [roundedQuotient, same]
    split <;> split <;> omega

/-- The first bits of a number make up a mantissa, or the power of two after the last one. -/
theorem roundedQuotient_bounds (pos : m ≠ 0) (k : Nat) :
    2 ^ k ≤ roundedQuotient (2 ^ k * m) (2 ^ m.log2) ∧
      roundedQuotient (2 ^ k * m) (2 ^ m.log2) ≤ 2 ^ (k + 1) := by
  have low : 2 ^ m.log2 * 2 ^ k ≤ 2 ^ k * m := by
    rw [Nat.mul_comm]
    exact Nat.mul_le_mul_left _ (Nat.log2_self_le pos)
  have high : 2 ^ k * m ≤ 2 ^ m.log2 * 2 ^ (k + 1) := by
    have twice : 2 ^ m.log2 * 2 ^ (k + 1) = 2 ^ k * 2 ^ (m.log2 + 1) := by ring
    rw [twice]
    exact Nat.mul_le_mul_left _ Nat.lt_log2_self.le
  have least := roundedQuotient_mono (2 ^ m.log2) low
  have greatest := roundedQuotient_mono (2 ^ m.log2) high
  rw [roundedQuotient_whole] at least greatest
  exact ⟨least, greatest⟩

theorem log2_eq (low : 2 ^ k ≤ m) (high : m < 2 ^ (k + 1)) : m.log2 = k := by
  have pos : m ≠ 0 := by
    have := Nat.two_pow_pos k
    omega
  exact (Nat.log2_eq_iff pos).2 ⟨low, high⟩

theorem log2_scale (pos : n ≠ 0) (k : Nat) : (2 ^ k * n).log2 = k + n.log2 := by
  refine log2_eq ?_ ?_
  · rw [Nat.pow_add]
    exact Nat.mul_le_mul_left _ (Nat.log2_self_le pos)
  · rw [Nat.add_assoc, Nat.pow_add]
    exact Nat.mul_lt_mul_of_pos_left Nat.lt_log2_self (Nat.two_pow_pos k)

/-! Shifts -/

/-- What shifts leave of a mantissa: the quotient, whether the rest is at least half of what was
shifted out, and whether it is neither nothing nor half of it. -/
theorem shift_eq (m n : Nat) :
    Nat.repeat ExtendedMantissa.shiftRightOne n ⟨m, false, false⟩ =
      ⟨m / 2 ^ n, decide (2 ^ n ≤ 2 * (m % 2 ^ n)),
        decide (m % 2 ^ n ≠ 0 ∧ 2 * (m % 2 ^ n) ≠ 2 ^ n)⟩ := by
  induction n with
  | zero => simp [Nat.repeat, Nat.mod_one]
  | succ n ih =>
    have power : 2 ^ (n + 1) = 2 * 2 ^ n := Nat.pow_succ'
    have rest : m % 2 ^ (n + 1) = m % 2 ^ n + 2 ^ n * (m / 2 ^ n % 2) := by
      rw [Nat.pow_succ, Nat.mod_mul]
    have part : m % 2 ^ n < 2 ^ n := Nat.mod_lt m (Nat.two_pow_pos n)
    have quotient : m / 2 ^ n / 2 = m / 2 ^ (n + 1) := by
      rw [Nat.div_div_eq_div_mul, ← Nat.pow_succ]
    rw [Nat.repeat, ih, ExtendedMantissa.shiftRightOne]
    simp only [quotient, ExtendedMantissa.mk.injEq, true_and]
    rw [rest, power, ← Bool.decide_or, decide_eq_decide]
    -- the bit shifted out last is the half, and all before it only count together
    rcases Nat.mod_two_eq_zero_or_one (m / 2 ^ n) with even | odd
    · rw [even, Nat.mul_zero, Nat.add_zero]
      refine ⟨(decide_eq_false ?_).symm, ?_⟩ <;> omega
    · rw [odd, Nat.mul_one]
      refine ⟨(decide_eq_true ?_).symm, ?_⟩ <;> omega

/-- Shifts round to the nearest quotient, a half to the even one. -/
theorem roundedMantissa_shift (m n : Nat) :
    (Nat.repeat ExtendedMantissa.shiftRightOne n ⟨m, false, false⟩).roundedMantissa =
      roundedQuotient m (2 ^ n) := by
  have positive : 0 < 2 ^ n := Nat.two_pow_pos n
  rw [shift_eq, roundedQuotient]
  generalize m % 2 ^ n = rest
  generalize m / 2 ^ n = quotient
  generalize 2 ^ n = unit at positive ⊢
  obtain nothing | below | half | above :
      rest = 0 ∨ (rest ≠ 0 ∧ 2 * rest < unit) ∨ 2 * rest = unit ∨ unit < 2 * rest := by omega
  · rw [decide_eq_false (by omega), decide_eq_false (by omega), if_neg (by omega)]
    rfl
  · rw [decide_eq_false (by omega), decide_eq_true (by omega), if_neg (by omega)]
    rfl
  · rw [decide_eq_true (by omega), decide_eq_false (by omega)]
    change quotient + quotient % 2 = _
    split <;> omega
  · rw [decide_eq_true (by omega), decide_eq_true (by omega), if_pos (.inl above)]
    rfl

theorem targetExponent_eq (m : Nat) (e : Int) :
    Format.binary64.targetExponent (totalExponent m e) =
      max ((m.log2 : Int) + e - 52) (-1074) := by
  simp only [Format.targetExponent, totalExponent, Format.mantissaBits, Format.minExponent]
  omega

theorem shiftToTargetExponent_eq (target : max ((m.log2 : Int) + e - 52) (-1074) = t) :
    shiftToTargetExponent .binary64 m e .exact =
      (Nat.repeat ExtendedMantissa.shiftRightOne (t - e).toNat ⟨m, false, false⟩,
        e + (t - e).toNat) := by
  rw [shiftToTargetExponent, targetExponent_eq, target]
  rfl

/-! Rounding -/

/-- A rounded mantissa with its exponent. One that was rounded up to the next power of two is
halved. -/
def settled (s : Sign) (q : Nat) (e : Int) : UnpackedFloat :=
  if fits : 2 ^ 52 ≤ q ∧ q < 2 ^ 53 then
    .finite s q e (Nat.lt_of_lt_of_le (by decide) fits.1)
  else .finite s (2 ^ 52) (e + 1) (by decide)

theorem exists_settled_eq (q : Nat) (e : Int) :
    ∃ m d pos, ∀ s, settled s q e = .finite s m d pos := by
  by_cases fits : 2 ^ 52 ≤ q ∧ q < 2 ^ 53
  · exact ⟨_, _, _, fun s => dif_pos fits⟩
  · exact ⟨_, _, _, fun s => dif_neg fits⟩

/-- A mantissa with enough bits is rounded to its first 53. -/
theorem roundWithAccuracy_eq (large : 2 ^ 52 ≤ m) (normal : -1074 ≤ (m.log2 : Int) + e - 52) :
    roundWithAccuracy .binary64 s m e .exact =
      settled s (roundedQuotient (2 ^ 52 * m) (2 ^ m.log2)) (m.log2 + e - 52) := by
  have nonzero : m ≠ 0 := by omega
  have width : 52 ≤ m.log2 := (Nat.le_log2 nonzero).2 large
  have bounds := roundedQuotient_bounds nonzero 52
  have quotient : roundedQuotient m (2 ^ (m.log2 - 52)) =
      roundedQuotient (2 ^ 52 * m) (2 ^ m.log2) := by
    rw [← roundedQuotient_scale 52 m, ← Nat.pow_add, Nat.add_sub_cancel' width]
  have first := shiftToTargetExponent_eq (m := m) (e := e) (max_eq_left normal)
  have count : ((m.log2 : Int) + e - 52 - e).toNat = m.log2 - 52 := by omega
  have exponent : e + ((m.log2 - 52 : Nat) : Int) = m.log2 + e - 52 := by omega
  rw [count, exponent] at first
  rw [roundWithAccuracy, first]
  simp only
  rw [roundedMantissa_shift, quotient, settled]
  generalize roundedQuotient (2 ^ 52 * m) (2 ^ m.log2) = q at bounds ⊢
  generalize (m.log2 : Int) + e - 52 = t at normal
  -- only a mantissa that was rounded up to a power of two is shifted again
  by_cases carry : q < 2 ^ 53
  · have width : q.log2 = 52 := log2_eq bounds.1 carry
    have second : shiftToTargetExponent .binary64 q t .exact = (⟨q, false, false⟩, t) := by
      rw [shiftToTargetExponent_eq (t := t) (by omega), Int.sub_self]
      exact congrArg (Prod.mk _) (Int.add_zero t)
    have nonzero : q ≠ 0 := by omega
    rw [second, dif_pos (And.intro bounds.1 carry)]
    exact dif_neg nonzero
  · have full : q = 2 ^ 53 := by omega
    have width : (2 ^ 53).log2 = 53 := Nat.log2_two_pow
    have second : shiftToTargetExponent .binary64 (2 ^ 53) t .exact =
        (⟨2 ^ 52, false, false⟩, t + 1) := by
      have once : (t + 1 - t).toNat = 1 := by omega
      rw [shiftToTargetExponent_eq (t := t + 1) (by omega), once]
      rfl
    rw [full, second]
    rfl

/-! Bits -/

/-- A fraction with all bits of its mantissa is read back from its bits. -/
theorem unpack_pack_normal (pos : 0 < m) (low : 2 ^ 52 ≤ m) (high : m < 2 ^ 53)
    (least : -1074 ≤ e) (greatest : e ≤ 971) :
    UnpackedFloat.unpack .binary64 (UnpackedFloat.pack .binary64 (.finite s m e pos)) =
      .finite s m e pos := by
  have width : m.log2 = 52 := log2_eq low high
  have biased : (e + Format.binary64.exponentBias +
      Format.binary64.mantissaBitsWithoutImplicit).toNat = (e + 1075).toNat := by
    change (e + (1023 : Nat) + (52 : Nat)).toNat = _
    omega
  have packed : UnpackedFloat.pack .binary64 (.finite s m e pos) =
      packComponents .binary64 s (BitVec.ofNat 11 (e + 1075).toNat) (BitVec.ofNat 52 m) := by
    have full : 52 + 1 = Format.binary64.mantissaBits := rfl
    rw [UnpackedFloat.pack]
    simp only [biased, width]
    rw [if_neg (by omega), if_pos full]
  have exponent : (BitVec.ofNat 11 (e + 1075).toNat).toNat = (e + 1075).toNat := by
    rw [BitVec.toNat_ofNat, Nat.mod_eq_of_lt (by omega)]
  have bounded : BitVec.ofNat 11 (e + 1075).toNat ≠ -1#11 := by
    rw [Ne, ← BitVec.toNat_inj, exponent]
    exact (by omega : (e + 1075).toNat ≠ 2047)
  have normal : BitVec.ofNat 11 (e + 1075).toNat ≠ 0#11 := by
    rw [Ne, ← BitVec.toNat_inj, exponent]
    exact (by omega : (e + 1075).toNat ≠ 0)
  have mantissa : (1#1 ++ BitVec.ofNat 52 m).toNat = m := by
    rw [BitVec.toNat_append, ← Nat.shiftLeft_add_eq_or_of_lt (BitVec.ofNat 52 m).isLt,
      BitVec.toNat_ofNat, Nat.shiftLeft_eq]
    exact (by omega : 1 * 2 ^ 52 + m % 2 ^ 52 = m)
  rw [packed, UnpackedFloat.unpack]
  simp only [unpackExponent_packComponents, unpackMantissa_packComponents,
    unpackSign_packComponents, Sign.ofBitVec_toBitVec]
  rw [if_neg bounded, if_neg normal]
  simp only [mantissa, exponent, UnpackedFloat.finite.injEq, true_and]
  exact (by omega : ((e + 1075).toNat : Int) - ((1023 : Nat) + (52 : Nat)) = e)

theorem unpack_pack_settled (least : -1074 ≤ e) (greatest : e ≤ 970) :
    UnpackedFloat.unpack .binary64 (UnpackedFloat.pack .binary64 (settled s q e)) =
      settled s q e := by
  rw [settled]
  split
  case isTrue fits => exact unpack_pack_normal _ fits.1 fits.2 least (by omega)
  case isFalse => exact unpack_pack_normal _ le_rfl (by decide) (by omega) (by omega)

/-! Whole fractions -/

/-- The fraction of a positive integer behind a sign: its first 53 bits, rounded. -/
def wholeFraction (s : Sign) (n : Nat) : UnpackedFloat :=
  settled s (roundedQuotient (2 ^ 52 * n) (2 ^ n.log2)) (n.log2 - 52)

theorem exists_wholeFraction_eq (n : Nat) :
    ∃ m e pos, ∀ s, wholeFraction s n = .finite s m e pos :=
  exists_settled_eq _ _

theorem unpack_pack_wholeFraction (pos : n ≠ 0) (machine : n < 2 ^ 64) :
    UnpackedFloat.unpack .binary64 (UnpackedFloat.pack .binary64 (wholeFraction s n)) =
      wholeFraction s n := by
  have width : n.log2 < 64 := (Nat.log2_lt pos).2 machine
  exact unpack_pack_settled (by omega) (by omega)

theorem roundWithAccuracy_scale (k : Nat) (pos : n ≠ 0) (large : 2 ^ 52 ≤ 2 ^ k * n) :
    roundWithAccuracy .binary64 s (2 ^ k * n) (-k) .exact = wholeFraction s n := by
  have exponent : ((k + n.log2 : Nat) : Int) + -k - 52 = n.log2 - 52 := by omega
  rw [roundWithAccuracy_eq large (by rw [log2_scale pos]; omega), log2_scale pos, exponent,
    Nat.pow_add, Nat.mul_left_comm, roundedQuotient_scale]
  rfl

theorem mul_finite (spec : Format) {s s' : Sign} {m m' : Nat} {e e' : Int} (pos : 0 < m)
    (pos' : 0 < m') :
    UnpackedFloat.mul spec (.finite s m e pos) (.finite s' m' e' pos') =
      roundWithAccuracy spec (s * s') (m * m') (e + e') .exact := rfl

theorem ofScientific_eq (pos : n ≠ 0) :
    UnpackedFloat.ofScientific .binary64 n 0 = wholeFraction .positive n := by
  have low : ¬ (0 : Int) < -((2 ^ Format.binary64.exponentBits : Int) + n.log2) := by
    have : (2 ^ Format.binary64.exponentBits : Int) = 2048 := rfl
    omega
  have high : ¬ (0 : Int) > 2 ^ Format.binary64.exponentBits := by decide
  have bits : Format.binary64.mantissaBits = 53 := rfl
  have shifted : n <<< 53 * 10 ^ Int.toNat 0 = 2 ^ 53 * n := by
    rw [Int.toNat_zero, Nat.shiftLeft_eq, Nat.pow_zero, Nat.mul_one, Nat.mul_comm]
  rw [UnpackedFloat.ofScientific, dif_neg pos, if_neg high, if_neg low, if_pos (Int.le_refl 0),
    mul_finite, bits, shifted, Int.add_zero]
  exact roundWithAccuracy_scale 53 pos (by omega)

theorem unpack_ofNat_large (large : 2 ^ 53 ≤ n) (machine : n < 2 ^ 64) :
    (Float.ofNat n).toModel.unpack = wholeFraction .positive n := by
  have rounded : (Float.ofNat n).toModel.unpack =
      UnpackedFloat.unpack .binary64
        (UnpackedFloat.pack .binary64 (UnpackedFloat.ofScientific .binary64 n 0)) := by
    rw [Float.ofNat]
    change (Float.ofScientific n false 0).toModel.unpack = _
    rw [Float.ofScientific, dif_neg (by omega)]
    rfl
  rw [rounded, ofScientific_eq (by omega), unpack_pack_wholeFraction (by omega) machine]

/-- The mantissa of an integer with no more bits than a mantissa. -/
theorem small_bounds (pos : n ≠ 0) (small : n < 2 ^ 53) :
    n.log2 ≤ 52 ∧ 2 ^ 52 ≤ 2 ^ (52 - n.log2) * n ∧ 2 ^ (52 - n.log2) * n < 2 ^ 53 := by
  have width : n.log2 ≤ 52 := by
    have := (Nat.log2_lt pos).2 small
    omega
  have log : (2 ^ (52 - n.log2) * n).log2 = 52 := by
    rw [log2_scale pos, Nat.sub_add_cancel width]
  have nonzero : 2 ^ (52 - n.log2) * n ≠ 0 := Nat.mul_ne_zero (Nat.two_pow_pos _).ne' pos
  exact ⟨width, (Nat.log2_eq_iff nonzero).1 log⟩

theorem wholeFraction_small (pos : n ≠ 0) (small : n < 2 ^ 53) :
    ∃ mantissa_pos, wholeFraction s n =
      .finite s (2 ^ (52 - n.log2) * n) (n.log2 - 52) mantissa_pos := by
  obtain ⟨width, bounds⟩ := small_bounds pos small
  have power : 2 ^ 52 * n = 2 ^ n.log2 * (2 ^ (52 - n.log2) * n) := by
    rw [← Nat.mul_assoc, ← Nat.pow_add, Nat.add_sub_cancel' width]
  refine ⟨Nat.lt_of_lt_of_le (by decide) bounds.1, ?_⟩
  rw [wholeFraction, power, roundedQuotient_whole, settled, dif_pos bounds]

theorem ofInt_small (pos : n ≠ 0) (small : n < 2 ^ 53) :
    UnpackedFloat.ofInt .binary64 n = wholeFraction .positive n := by
  obtain ⟨width, large, _⟩ := small_bounds pos small
  have positive : compare (n : Int) 0 = .gt := compare_gt_iff_gt.2 (by omega)
  have target : Format.binary64.targetExponent (totalExponent n 0) = (n.log2 : Int) - 52 := by
    rw [targetExponent_eq]
    omega
  have shift : (0 - ((n.log2 : Int) - 52)).toNat = 52 - n.log2 := by omega
  have decreased : decreaseExponent n 0 (n.log2 - 52) =
      (2 ^ (52 - n.log2) * n, -((52 - n.log2 : Nat) : Int)) := by
    simp only [decreaseExponent, shift]
    rw [Nat.shiftLeft_eq, Nat.mul_comm, Int.zero_sub]
  rw [UnpackedFloat.ofInt, UnpackedFloat.normalize, positive]
  simp only [UnpackedFloat.round, Int.toNat_natCast]
  rw [target, decreased]
  exact roundWithAccuracy_scale _ pos large

/-- A small integer is a fraction already, and taking it once does not round it. -/
theorem mul_one_small (pos : n ≠ 0) (small : n < 2 ^ 53) :
    UnpackedFloat.mul .binary64 (wholeFraction .positive n)
        (.finite .positive (2 ^ 52) (-52) (by decide)) =
      wholeFraction .positive n := by
  obtain ⟨width, large, _⟩ := small_bounds pos small
  obtain ⟨mantissa_pos, whole⟩ := wholeFraction_small (s := .positive) pos small
  have mantissa : 2 ^ (52 - n.log2) * n * 2 ^ 52 = 2 ^ (104 - n.log2) * n := by
    rw [Nat.mul_right_comm, ← Nat.pow_add]
    exact congrArg (2 ^ · * n) (by omega)
  have exponent : (n.log2 : Int) - 52 + -52 = -((104 - n.log2 : Nat) : Int) := by omega
  have enough : 2 ^ 52 ≤ 2 ^ (104 - n.log2) * n := by
    rw [← mantissa]
    omega
  rw [whole, mul_finite, mantissa, exponent, ← whole]
  exact roundWithAccuracy_scale _ pos enough

theorem unpack_ofNat_small (pos : n ≠ 0) (small : n < 2 ^ 53) :
    (Float.ofNat n).toModel.unpack = wholeFraction .positive n := by
  have whole : n.toUInt64.toFloat.toModel.unpack = wholeFraction .positive n := by
    have word : n.toUInt64.toNat = n := Nat.mod_eq_of_lt (by omega)
    have rounded : n.toUInt64.toFloat.toModel.unpack = UnpackedFloat.unpack .binary64
        (UnpackedFloat.pack .binary64 (UnpackedFloat.ofInt .binary64 n.toUInt64.toNat)) := rfl
    rw [rounded, word, ofInt_small pos small, unpack_pack_wholeFraction pos (by omega)]
  have one : (Float.ofBits 0x3ff0000000000000).toModel.unpack =
      .finite .positive (2 ^ 52) (-52) (by decide) := rfl
  have product : (Float.ofNat n).toModel.unpack = UnpackedFloat.unpack .binary64
      (UnpackedFloat.pack .binary64 (UnpackedFloat.mul .binary64 n.toUInt64.toFloat.toModel.unpack
        (Float.ofBits 0x3ff0000000000000).toModel.unpack)) := by
    rw [Float.ofNat]
    change (Float.ofScientific n false 0).toModel.unpack = _
    rw [Float.ofScientific, dif_pos ⟨small, by decide⟩]
    rfl
  rw [product, whole, one, mul_one_small pos small, unpack_pack_wholeFraction pos (by omega)]

theorem unpack_ofNat (pos : n ≠ 0) (machine : n < 2 ^ 64) :
    (Float.ofNat n).toModel.unpack = wholeFraction .positive n := by
  rcases Nat.lt_or_ge n (2 ^ 53) with small | large
  · exact unpack_ofNat_small pos small
  · exact unpack_ofNat_large large machine

/-- The fraction of an integer: the zero, or that of its absolute value behind its sign. -/
def signedFraction (i : Int) : UnpackedFloat :=
  if i = 0 then .zero .positive
  else wholeFraction (if 0 < i then .positive else .negative) i.natAbs

theorem signedFraction_of_pos (pos : 0 < i) :
    signedFraction i = wholeFraction .positive i.natAbs := by
  rw [signedFraction, if_neg (by omega), if_pos pos]

theorem signedFraction_of_neg (neg : i < 0) :
    signedFraction i = wholeFraction .negative i.natAbs := by
  rw [signedFraction, if_neg (by omega), if_neg (by omega)]

theorem unpack_ofInt (low : -2 ^ 64 < i) (high : i < 2 ^ 64) :
    (Float.ofInt i).toModel.unpack = signedFraction i := by
  cases i with
  | ofNat n =>
    rw [Int.ofNat_eq_natCast] at high ⊢
    by_cases zero : n = 0
    · rw [zero]
      rfl
    · rw [signedFraction_of_pos (by omega), Int.natAbs_natCast]
      exact unpack_ofNat zero (by omega)
  | negSucc n =>
    have negated : (Float.ofInt (.negSucc n)).toModel.unpack = UnpackedFloat.unpack .binary64
        (UnpackedFloat.pack .binary64 (Float.ofNat (n + 1)).toModel.unpack.neg) := rfl
    have sign : (wholeFraction .positive (n + 1)).neg = wholeFraction .negative (n + 1) := by
      obtain ⟨_, _, _, is⟩ := exists_wholeFraction_eq (n + 1)
      rw [is, is]
      rfl
    rw [signedFraction_of_neg (by omega), Int.natAbs_negSucc, negated,
      unpack_ofNat (by omega) (by omega), sign, unpack_pack_wholeFraction (by omega) (by omega)]

/-! The order of integers -/

theorem place_positive_le_iff {m' : Nat} {e' : Int} (pos : 0 < m) (pos' : 0 < m') :
    place (.finite .positive m e pos) ≤ place (.finite .positive m' e' pos') ↔
      e < e' ∨ e = e' ∧ m ≤ m' := by
  rw [place, place, Prod.Lex.toLex_le_toLex, Prod.Lex.toLex_le_toLex]
  simp

theorem place_negative_le_iff {m' : Nat} {e' : Int} (pos : 0 < m) (pos' : 0 < m') :
    place (.finite .negative m e pos) ≤ place (.finite .negative m' e' pos') ↔
      place (.finite .positive m' e' pos') ≤ place (.finite .positive m e pos) := by
  rw [place_positive_le_iff, place, place, Prod.Lex.toLex_le_toLex, Prod.Lex.toLex_le_toLex]
  simp [eq_comm]

theorem place_settled_le {q' : Nat} {e' : Int} (bounds : 2 ^ 52 ≤ q ∧ q ≤ 2 ^ 53)
    (bounds' : 2 ^ 52 ≤ q' ∧ q' ≤ 2 ^ 53) (le : e < e' ∨ e = e' ∧ q ≤ q') :
    place (settled .positive q e) ≤ place (settled .positive q' e') := by
  rw [settled, settled]
  split <;> split <;> rw [place_positive_le_iff] <;> omega

theorem place_wholeFraction_le (pos : m ≠ 0) (le : m ≤ n) :
    place (wholeFraction .positive m) ≤ place (wholeFraction .positive n) := by
  have pos' : n ≠ 0 := by omega
  refine place_settled_le (roundedQuotient_bounds pos 52) (roundedQuotient_bounds pos' 52) ?_
  have width : m.log2 ≤ n.log2 := (Nat.le_log2 pos').2 (le_trans (Nat.log2_self_le pos) le)
  rcases Nat.lt_or_eq_of_le width with less | same
  · exact .inl (by omega)
  · rw [same]
    exact .inr ⟨rfl, roundedQuotient_mono _ (Nat.mul_le_mul_left _ le)⟩

theorem place_negative_wholeFraction_le (pos : m ≠ 0) (le : m ≤ n) :
    place (wholeFraction .negative n) ≤ place (wholeFraction .negative m) := by
  have mirrored := place_wholeFraction_le pos le
  obtain ⟨_, _, _, isM⟩ := exists_wholeFraction_eq m
  obtain ⟨_, _, _, isN⟩ := exists_wholeFraction_eq n
  rw [isM, isN] at mirrored ⊢
  exact (place_negative_le_iff _ _).2 mirrored

theorem place_zero_le (nonneg : 0 ≤ i) :
    place (.zero .positive) ≤ place (signedFraction i) := by
  rcases Int.le_iff_lt_or_eq.1 nonneg with positive | rfl
  · obtain ⟨_, _, _, is⟩ := exists_wholeFraction_eq i.natAbs
    rw [signedFraction_of_pos positive, is, place, place, Prod.Lex.toLex_le_toLex]
    exact .inl Int.zero_lt_one
  · exact le_rfl

theorem place_le_zero (nonpos : i ≤ 0) :
    place (signedFraction i) ≤ place (.zero .positive) := by
  rcases Int.le_iff_lt_or_eq.1 nonpos with negative | rfl
  · obtain ⟨_, _, _, is⟩ := exists_wholeFraction_eq i.natAbs
    rw [signedFraction_of_neg negative, is, place, place, Prod.Lex.toLex_le_toLex]
    exact .inl (Int.negSucc_lt_zero 0)
  · exact le_rfl

theorem place_signedFraction_mono (le : i ≤ j) :
    place (signedFraction i) ≤ place (signedFraction j) := by
  rcases lt_or_ge 0 i with positive | nonpos
  · rw [signedFraction_of_pos positive, signedFraction_of_pos (by omega)]
    exact place_wholeFraction_le (by omega) (by omega)
  · rcases lt_or_ge j 0 with negative | nonneg
    · rw [signedFraction_of_neg negative, signedFraction_of_neg (by omega)]
      exact place_negative_wholeFraction_le (by omega) (by omega)
    · exact (place_le_zero nonpos).trans (place_zero_le nonneg)

/-- Integers are in order as fractions, where different ones can fall together. -/
theorem place_ofInt_mono (low : -2 ^ 64 < i) (high : j < 2 ^ 64) (le : i ≤ j) :
    place (Float.ofInt i).toModel.unpack ≤ place (Float.ofInt j).toModel.unpack := by
  rw [unpack_ofInt low (by omega), unpack_ofInt (by omega) high]
  exact place_signedFraction_mono le

/-- An integer with no more bits than a mantissa keeps them all. -/
theorem place_signedFraction_small (small : i.natAbs < 2 ^ 53) :
    place (signedFraction i) = toLex (i.sign,
      toLex (i.sign * ((i.natAbs.log2 : Int) - 52), 2 ^ (52 - i.natAbs.log2) * i)) := by
  rcases lt_trichotomy i 0 with negative | rfl | positive
  · obtain ⟨_, is⟩ := wholeFraction_small (s := .negative) (by omega : i.natAbs ≠ 0) small
    have absolute : (i.natAbs : Int) = -i := by omega
    rw [signedFraction_of_neg negative, is, place, Int.sign_eq_neg_one_of_neg negative]
    push_cast [absolute]
    ring_nf
  · rfl
  · obtain ⟨_, is⟩ := wholeFraction_small (s := .positive) (by omega : i.natAbs ≠ 0) small
    have absolute : (i.natAbs : Int) = i := by omega
    rw [signedFraction_of_pos positive, is, place, Int.sign_eq_one_of_pos positive]
    push_cast [absolute]
    ring_nf

/-- Integers with no more bits than a mantissa do not fall together. -/
theorem place_ofInt_inj (small : i.natAbs < 2 ^ 53) (small' : j.natAbs < 2 ^ 53)
    (same : place (Float.ofInt i).toModel.unpack = place (Float.ofInt j).toModel.unpack) :
    i = j := by
  rw [unpack_ofInt (by omega) (by omega), unpack_ofInt (by omega) (by omega),
    place_signedFraction_small small, place_signedFraction_small small'] at same
  obtain ⟨sign, exponent, mantissa⟩ : i.sign = j.sign ∧
      i.sign * ((i.natAbs.log2 : Int) - 52) = j.sign * ((j.natAbs.log2 : Int) - 52) ∧
      2 ^ (52 - i.natAbs.log2) * i = 2 ^ (52 - j.natAbs.log2) * j := by
    simpa only [toLex_inj, Prod.mk.injEq] using same
  by_cases zero : i.sign = 0
  · have zero' := sign.symm.trans zero
    rw [Int.sign_eq_zero_iff_zero] at zero zero'
    rw [zero, zero']
  · rw [← sign] at exponent
    have width : i.natAbs.log2 = j.natAbs.log2 := by
      have := mul_left_cancel₀ zero exponent
      omega
    rw [width] at mantissa
    exact mul_left_cancel₀ (pow_ne_zero _ two_ne_zero) mantissa

theorem isNaN_ofInt (low : -2 ^ 64 < i) (high : i < 2 ^ 64) : (Float.ofInt i).isNaN = false := by
  change (Float.ofInt i).toModel.unpack.isNaN = false
  obtain ⟨_, _, _, is⟩ := exists_wholeFraction_eq i.natAbs
  rw [unpack_ofInt low high]
  rcases lt_trichotomy i 0 with negative | rfl | positive
  · rw [signedFraction_of_neg negative, is]
    rfl
  · rfl
  · rw [signedFraction_of_pos positive, is]
    rfl

end GuardedQuery
