import GuardedQuery.Proofs.Value.Text
import GuardedQuery.Value.Compare

/-! Values that equal themselves. A fraction equals itself unless it is undefined, and no integer
becomes an undefined fraction, however large it is. So a value of a request equals itself. A list
equals none of its own items. -/

namespace GuardedQuery

open Float.Model

/-! Fractions that are numbers -/

theorem unpack_isNaN {bits : BitVec 64}
    (number : @UnpackedFloat.unpackExponent .binary64 bits ≠ -1#11 ∨
      @UnpackedFloat.unpackMantissa .binary64 bits = 0#52) :
    (UnpackedFloat.unpack .binary64 bits).isNaN = false := by
  delta UnpackedFloat.unpack
  by_cases special : @UnpackedFloat.unpackExponent .binary64 bits = -1#11
  · rw [if_pos special, if_pos (number.resolve_left (not_not_intro special))]
    rfl
  · rw [if_neg special]
    by_cases least : @UnpackedFloat.unpackExponent .binary64 bits = 0#11
    · rw [if_pos least]
      by_cases blank : @UnpackedFloat.unpackMantissa .binary64 bits = 0#52
      · rw [dif_pos blank]
        rfl
      · rw [dif_neg blank]
        rfl
    · rw [if_neg least]
      rfl

/-- Only what is undefined becomes undefined when it is written as bits. -/
theorem unpack_pack_isNaN {f : UnpackedFloat} (number : f.isNaN = false) :
    (UnpackedFloat.unpack .binary64 (UnpackedFloat.pack .binary64 f)).isNaN = false := by
  refine unpack_isNaN ?_
  fun_cases UnpackedFloat.pack with
  | case1 => cases number
  | case2 s => simp [UnpackedFloat.packedInfinity]
  | case3 s => simp [UnpackedFloat.packedZero]
  | case4 s m e pos biased large => simp [UnpackedFloat.packedInfinity]
  | case5 s m e pos bits biased small normal =>
    -- the exponent of all ones is left to what is not finite
    left
    have bound : biased + 1 < 2 ^ 11 := Nat.lt_of_not_ge small
    rw [UnpackedFloat.unpackExponent_packComponents, Ne, ← BitVec.toNat_inj, BitVec.toNat_ofNat,
      BitVec.toNat_neg]
    simp only [BitVec.toNat_ofNat]
    omega
  | case6 s m e pos bits biased small subnormal => simp

theorem beq_self_of_isNaN {f : UnpackedFloat} (number : f.isNaN = false) : f.beq f = true := by
  cases f with
  | notANumber => cases number
  | infinity s => cases s <;> rfl
  | zero s => rfl
  | finite s m e pos =>
    have same : (compare e e).then (compare m m) = .eq := by simp
    cases s with
    | positive => exact congrArg (fun o => some o == some Ordering.eq) same
    | negative => exact congrArg (fun o : Ordering => some o.swap == some Ordering.eq) same

theorem float_beq_self {x : Float} (number : x.isNaN = false) : (x == x) = true :=
  beq_self_of_isNaN number

theorem isNaN_of_isFinite {x : Float} (finite : x.isFinite = true) : x.isNaN = false := by
  change x.toModel.unpack.isFinite = true at finite
  change x.toModel.unpack.isNaN = false
  cases unpacked : x.toModel.unpack with
  | notANumber =>
    rw [unpacked] at finite
    cases finite
  | infinity | zero | finite => rfl

/-! Integers as fractions -/

theorem mul_finite_isNaN (spec : Format) {s s' : UnpackedFloat.Sign} {m m' : Nat} {e e' : Int}
    (pos : 0 < m) (pos' : 0 < m') :
    (UnpackedFloat.mul spec (.finite s m e pos) (.finite s' m' e' pos')).isNaN = false := by
  delta UnpackedFloat.mul UnpackedFloat.roundWithAccuracy
  exact (apply_dite UnpackedFloat.isNaN _ _ _).trans (ite_self false)

theorem ofScientific_isNaN (m : Nat) :
    (UnpackedFloat.ofScientific .binary64 m 0).isNaN = false := by
  have low : ¬ (0 : Int) < -((2 ^ Format.binary64.exponentBits : Int) + m.log2) := by
    have : (2 ^ Format.binary64.exponentBits : Int) = 2048 := rfl
    omega
  have high : ¬ (0 : Int) > 2 ^ Format.binary64.exponentBits := by decide
  rw [UnpackedFloat.ofScientific]
  by_cases zero : m = 0
  · rw [dif_pos zero]
    rfl
  · rw [dif_neg zero, if_neg high, if_neg low, if_pos (Int.le_refl 0)]
    exact mul_finite_isNaN _ _ _

theorem neg_isNaN {f : UnpackedFloat} (number : f.isNaN = false) : f.neg.isNaN = false := by
  cases f with
  | notANumber => cases number
  | infinity | zero | finite => rfl

theorem ofNat_isNaN {n : Nat} (large : 2 ^ 53 ≤ n) : (Float.ofNat n).isNaN = false := by
  have rounded : Float.ofNat n = .ofModel (Float.Model.ofScientific n 0) := by
    rw [Float.ofNat]
    change Float.ofScientific n false 0 = _
    rw [Float.ofScientific, dif_neg (by omega)]
    rfl
  rw [rounded]
  exact unpack_pack_isNaN (ofScientific_isNaN n)

/-- Integers that do not fit a word are compared as fractions. -/
theorem ofInt_isNaN {i : Int} (outside : fitsWord i = false) : (Float.ofInt i).isNaN = false := by
  simp only [fitsWord, Bool.and_eq_false_iff, decide_eq_false_iff_not] at outside
  cases i with
  | ofNat n =>
    refine ofNat_isNaN ?_
    simp only [Int.ofNat_eq_natCast] at outside
    omega
  | negSucc n =>
    have number : (Float.ofNat (n + 1)).toModel.unpack.isNaN = false :=
      ofNat_isNaN (by omega)
    exact unpack_pack_isNaN (neg_isNaN number)

namespace Number
variable {n : Number}

theorem equal_self (finite : n.Finite) : n.equal n = true := by
  rw [equal]
  cases word : n.word? with
  | some i => exact beq_self_eq_true i
  | none =>
    cases n with
    | int i =>
      have outside : fitsWord i = false := by simpa [word?] using word
      exact float_beq_self (ofInt_isNaN outside)
    | float x => exact float_beq_self (isNaN_of_isFinite finite)

theorem same_self (finite : n.Finite) : n.same n = true := by
  cases n with
  | int i => exact beq_self_eq_true i
  | float x => exact float_beq_self (isNaN_of_isFinite finite)

end Number

namespace Value
variable {v : Value}

theorem sameItems_self {items : List Value} (each : ∀ item ∈ items, item.same item = true) :
    sameItems items items = true := by
  induction items with
  | nil => rfl
  | cons item rest ih =>
    obtain ⟨here, others⟩ := List.forall_mem_cons.1 each
    rw [sameItems, here, ih others]
    rfl

theorem sameEntries_self {entries : List (String × Value)}
    (each : ∀ entry ∈ entries, entry.2.same entry.2 = true) :
    sameEntries entries entries = true := by
  induction entries with
  | nil => rfl
  | cons entry rest ih =>
    obtain ⟨here, others⟩ := List.forall_mem_cons.1 each
    rw [sameEntries, here, ih others, beq_self_eq_true]
    rfl

theorem same_self (finite : v.Finite) : v.same v = true := by
  induction finite with
  | null => rfl
  | bool b => exact beq_self_eq_true b
  | int i => exact Number.same_self (n := .int i) trivial
  | @float x finite => exact Number.same_self (n := .float x) finite
  | str s => exact beq_self_eq_true s
  | arr _ ih => exact sameItems_self ih
  | obj _ ih => exact sameEntries_self ih

theorem equal_self (finite : v.Finite) : v.equal v = true := by
  cases v with
  | num n => exact Number.equal_self (number_finite finite)
  | null | bool | str | arr | obj => exact same_self finite

theorem exists_same_of_sameItems {xs ys : List Value} (same : sameItems xs ys = true) {y : Value}
    (mem : y ∈ ys) : ∃ x ∈ xs, x.same y = true := by
  induction xs generalizing ys with
  | nil =>
    cases ys with
    | nil => cases mem
    | cons => cases same
  | cons x rest ih =>
    cases ys with
    | nil => cases same
    | cons first others =>
      rw [sameItems, Bool.and_eq_true] at same
      rcases List.mem_cons.1 mem with rfl | later
      · exact ⟨x, List.mem_cons_self, same.1⟩
      · obtain ⟨other, among, found⟩ := ih same.2 later
        exact ⟨other, List.mem_cons_of_mem _ among, found⟩

/-- No item of a list is the list itself: it would have an item that is that item again. -/
theorem not_same_of_mem (v : Value) (items : List Value) (mem : v ∈ items) :
    ¬ v.same (.arr items) = true := by
  intro same
  match v with
  | .arr xs =>
    obtain ⟨x, inner, again⟩ := exists_same_of_sameItems same mem
    have smaller := List.sizeOf_lt_of_mem inner
    exact not_same_of_mem x xs inner again
  | .null | .bool _ | .num _ | .str _ | .obj _ => cases same
termination_by sizeOf v
decreasing_by
  simp
  omega

theorem not_equal_of_mem {items : List Value} (mem : v ∈ items) :
    ¬ v.equal (.arr items) = true := by
  cases v with
  | num n => exact Bool.false_ne_true
  | null | bool | str | arr | obj => exact not_same_of_mem _ items mem

end Value

end GuardedQuery
