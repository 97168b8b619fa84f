import GuardedQuery.Proofs.Decimal.Rounding
import GuardedQuery.Value.Text

/-! The bits of fractions. A finite fraction is its sign and the binary fraction that the other bits
stand for, which is positive unless the fraction is one of the zeros. -/

namespace GuardedQuery

open Float.Model

theorem unpackExponent_toNat (bits : BitVec 64) :
    (@UnpackedFloat.unpackExponent .binary64 bits).toNat =
      bits.toNat / 0x10000000000000 % 0x800 := by
  simp only [UnpackedFloat.unpackExponent, BitVec.toNat_cast, BitVec.extractLsb_toNat,
    Nat.shiftRight_eq_div_pow]

theorem unpackMantissa_toNat (bits : BitVec 64) :
    (@UnpackedFloat.unpackMantissa .binary64 bits).toNat =
      bits.toNat % 0x10000000000000 := by
  simp only [UnpackedFloat.unpackMantissa, BitVec.toNat_cast, BitVec.extractLsb_toNat,
    Nat.shiftRight_eq_div_pow]
  simp

/-- What bits unpack to is told by their exponent and their mantissa. -/
theorem unpack_cases (bits : BitVec 64) :
    let exponent := bits.toNat / 0x10000000000000 % 0x800
    let mantissa := bits.toNat % 0x10000000000000
    (exponent = 0x7ff ∧ (UnpackedFloat.unpack .binary64 bits).isFinite = false ∧
        (UnpackedFloat.unpack .binary64 bits).beq (.zero .positive) = false) ∨
      (exponent = 0 ∧ mantissa = 0 ∧
        (UnpackedFloat.unpack .binary64 bits).beq (.zero .positive) = true) ∨
      (exponent ≠ 0x7ff ∧ (exponent ≠ 0 ∨ mantissa ≠ 0) ∧
        (UnpackedFloat.unpack .binary64 bits).beq (.zero .positive) = false) := by
  intro exponent mantissa
  have full : @UnpackedFloat.unpackExponent .binary64 bits = -1#11 ↔
      exponent = 0x7ff := by
    rw [← BitVec.toNat_inj, unpackExponent_toNat]
    rfl
  have least : @UnpackedFloat.unpackExponent .binary64 bits = 0#11 ↔
      exponent = 0 := by
    rw [← BitVec.toNat_inj, unpackExponent_toNat]
    rfl
  have blank : @UnpackedFloat.unpackMantissa .binary64 bits = 0#52 ↔
      mantissa = 0 := by
    rw [← BitVec.toNat_inj, unpackMantissa_toNat]
    rfl
  have signed (s : UnpackedFloat.Sign) (m : Nat) (e : Int) (pos : 0 < m) :
      (UnpackedFloat.finite s m e pos).beq (.zero .positive) = false := by
    cases s <;> rfl
  have unbounded (s : UnpackedFloat.Sign) :
      (UnpackedFloat.infinity s).beq (.zero .positive) = false := by
    cases s <;> rfl
  delta UnpackedFloat.unpack
  by_cases special : exponent = 0x7ff
  · rw [if_pos (full.2 special)]
    refine .inl ⟨special, ?_⟩
    split
    · exact ⟨rfl, unbounded _⟩
    · exact ⟨rfl, rfl⟩
  · rw [if_neg (special ∘ full.1)]
    by_cases small : exponent = 0
    · rw [if_pos (least.2 small)]
      by_cases zero : mantissa = 0
      · rw [dif_pos (blank.2 zero)]
        exact .inr (.inl ⟨small, zero, rfl⟩)
      · rw [dif_neg (zero ∘ blank.1)]
        exact .inr (.inr ⟨special, .inr zero, signed _ _ _ _⟩)
    · rw [if_neg (small ∘ least.1)]
      exact .inr (.inr ⟨special, .inl small, signed _ _ _ _⟩)

namespace Number
variable {x y : Float}

/-- The bits of a fraction without its sign. -/
def magnitude (x : Float) : Nat := x.toBits.toNat % 0x8000000000000000

/-- Whether the bits of a fraction have the sign. -/
def isNegative (x : Float) : Bool := 0x8000000000000000 ≤ x.toBits.toNat

theorem eq_of_magnitude (sign : isNegative x = isNegative y)
    (same : magnitude x = magnitude y) : x = y := by
  have bits : x.toBits = y.toBits := by
    refine UInt64.toNat_inj.1 ?_
    have boundX := x.toBits.toNat_lt
    have boundY := y.toBits.toNat_lt
    simp only [isNegative, decide_eq_decide] at sign
    simp only [magnitude] at same
    omega
  obtain ⟨⟨_, _⟩⟩ := x
  obtain ⟨⟨_, _⟩⟩ := y
  cases bits
  rfl

theorem ofBits_toBits (x : Float) :
    BinaryFraction.ofBits x.toBits.toNat = BinaryFraction.ofBits (magnitude x) := by
  have exponent : x.toBits.toNat / 0x10000000000000 % 0x800 =
      magnitude x / 0x10000000000000 % 0x800 := by
    rw [magnitude]
    omega
  have mantissa : x.toBits.toNat % 0x10000000000000 = magnitude x % 0x10000000000000 := by
    rw [magnitude]
    omega
  simp only [BinaryFraction.ofBits, BinaryFraction.hiddenBit, exponent, mantissa]
  rfl

theorem magnitude_lt (finite : x.isFinite = true) : magnitude x < BinaryFraction.finiteBits := by
  change (UnpackedFloat.unpack .binary64 x.toBits.toBitVec).isFinite = true at finite
  rw [magnitude, BinaryFraction.finiteBits, BinaryFraction.hiddenBit]
  rcases unpack_cases x.toBits.toBitVec with ⟨_, infinite, _⟩ | ⟨small, _⟩ | ⟨normal, _⟩
  · rw [finite] at infinite
    cases infinite
  · rw [UInt64.toNat_toBitVec] at small
    omega
  · rw [UInt64.toNat_toBitVec] at normal
    omega

theorem beq_zero_iff (x : Float) : (x == 0) = true ↔ magnitude x = 0 := by
  change (UnpackedFloat.unpack .binary64 x.toBits.toBitVec).beq (.zero .positive) = true ↔ _
  rw [magnitude]
  rcases unpack_cases x.toBits.toBitVec with ⟨large, _, differs⟩ | ⟨small, least, same⟩ |
    ⟨_, positive, differs⟩
  · rw [UInt64.toNat_toBitVec] at large
    rw [differs]
    exact iff_of_false (by simp) (by omega)
  · rw [UInt64.toNat_toBitVec] at small least
    exact iff_of_true same (by omega)
  · rw [UInt64.toNat_toBitVec] at positive
    rw [differs]
    exact iff_of_false (by simp) (by omega)

/-- The binary fraction of a finite fraction other than the zeros is positive. -/
theorem mantissa_pos (nonzero : magnitude x ≠ 0) (finite : x.isFinite = true) :
    0 < (BinaryFraction.ofBits (magnitude x)).mantissa := by
  rcases BinaryFraction.bits_cases (magnitude_lt finite) with small | ⟨_, rest, _, part, is⟩
  · rw [BinaryFraction.ofBits_subnormal small]
    exact Nat.pos_of_ne_zero nonzero
  · rw [is, BinaryFraction.ofBits_normal (by omega) part]
    exact Nat.lt_of_lt_of_le (by decide) (Nat.le_add_right _ _)

theorem mantissa_lt (finite : x.isFinite = true) :
    (BinaryFraction.ofBits (magnitude x)).mantissa < 2 * BinaryFraction.hiddenBit := by
  rcases BinaryFraction.bits_cases (magnitude_lt finite) with small | ⟨_, rest, _, part, is⟩
  · rw [BinaryFraction.ofBits_subnormal small]
    exact Nat.lt_of_lt_of_le small (Nat.le_mul_of_pos_left _ (by decide))
  · rw [is, BinaryFraction.ofBits_normal (by omega) part]
    simp only
    omega

end Number

end GuardedQuery
