import GuardedQuery.Proofs.Decimal.Wholes
import GuardedQuery.Proofs.Value.Equality

/-! The order that rows are sorted by. Two words are compared exactly and any other two numbers as
fractions. Words keep their order as fractions, so both comparisons agree, except that different
words can fall together with one fraction. Such a fraction equals both of them, and that is all that
keeps the order from being transitive. -/

namespace GuardedQuery

namespace Number
variable {a b c : Number} {i j : Int}

theorem word?_eq_some_iff : a.word? = some i ↔ a = .int i ∧ fitsWord i = true := by
  cases a with
  | int k =>
    rw [word?, Option.ite_none_right_eq_some, Option.some.injEq, int.injEq, and_comm]
    exact and_congr_right fun is => by rw [is]
  | float x => simp [word?]

/-- Where a number stands as a fraction. -/
def spot (n : Number) : ℤ ×ₗ ℤ ×ₗ ℤ := place n.toFloat.toModel.unpack

/-- The order of two numbers, of words exactly and of others by where they stand. -/
def order (a b : Number) : Ordering :=
  match a.word?, b.word? with
  | some i, some j => compare i j
  | _, _ => compare a.spot b.spot

theorem order_of_words (left : a.word? = some i) (right : b.word? = some j) :
    a.order b = compare i j := by
  rw [order, left, right]

theorem order_of_fractions (mixed : ¬ (a.word?.isSome ∧ b.word?.isSome)) :
    a.order b = compare a.spot b.spot := by
  rw [order]
  split
  case h_1 left right =>
    rw [left, right] at mixed
    exact absurd ⟨rfl, rfl⟩ mixed
  case h_2 => rfl

theorem isNaN_toFloat (finite : a.Finite) : a.toFloat.isNaN = false := by
  cases a with
  | int i =>
    cases word : fitsWord i with
    | true =>
      rw [fitsWord_iff] at word
      exact isNaN_ofInt (by omega) (by omega)
    | false => exact ofInt_isNaN word
  | float x => exact isNaN_of_isFinite finite

theorem beq_toFloat_iff (finite : a.Finite) (finite' : b.Finite) :
    (a.toFloat == b.toFloat) = true ↔ a.spot = b.spot :=
  beq_iff_place (isNaN_toFloat finite) (isNaN_toFloat finite')

theorem beq_ofInt_iff (i j : Int) :
    (Float.ofInt i == Float.ofInt j) = true ↔ (int i).spot = (int j).spot :=
  beq_toFloat_iff (a := .int i) (b := .int j) trivial trivial

theorem compare_fractions (finite : a.Finite) (finite' : b.Finite) :
    (if a.toFloat < b.toFloat then some Ordering.lt
      else if a.toFloat == b.toFloat then some .eq
      else if b.toFloat < a.toFloat then some .gt else none) = some (compare a.spot b.spot) := by
  have number := isNaN_toFloat finite
  have number' := isNaN_toFloat finite'
  simp only [lt_iff_place number number', lt_iff_place number' number,
    beq_toFloat_iff finite finite']
  change (if a.spot < b.spot then _ else if a.spot = b.spot then _
    else if b.spot < a.spot then _ else _) = _
  rcases lt_trichotomy a.spot b.spot with less | same | greater
  · rw [if_pos less, compare_lt_iff_lt.2 less]
  · rw [if_neg same.not_lt, if_pos same, compare_eq_iff_eq.2 same]
  · rw [if_neg greater.not_gt, if_neg greater.ne', if_pos greater, compare_gt_iff_gt.2 greater]

/-- Any two numbers of values without undefined fractions are compared. -/
theorem compare?_eq_order (finite : a.Finite) (finite' : b.Finite) :
    a.compare? b = some (a.order b) := by
  have fractions := compare_fractions finite finite'
  rw [compare?, order]
  cases a.word? <;> cases b.word?
  case some.some => rfl
  all_goals exact fractions

theorem equal_iff_order (finite : a.Finite) (finite' : b.Finite) :
    a.equal b = true ↔ a.order b = .eq := by
  have fractions : (a.toFloat == b.toFloat) = true ↔ compare a.spot b.spot = .eq :=
    (beq_toFloat_iff finite finite').trans compare_eq_iff_eq.symm
  rw [equal, order]
  cases a.word? <;> cases b.word?
  case some.some => exact beq_iff_eq.trans compare_eq_iff_eq.symm
  all_goals exact fractions

theorem order_self (a : Number) : a.order a = .eq := by
  cases word : a.word? with
  | some i => rw [order_of_words word word, compare_eq_iff_eq]
  | none => rw [order_of_fractions (by simp [word]), compare_eq_iff_eq]

theorem order_swap (a b : Number) : b.order a = (a.order b).swap := by
  rw [order, order]
  cases a.word? <;> cases b.word? <;> exact Std.OrientedOrd.eq_swap

/-! Numbers between words -/

theorem spot_int_mono (low : -2 ^ 63 ≤ i) (high : j < 2 ^ 64) (le : i ≤ j) :
    (int i).spot ≤ (int j).spot :=
  place_ofInt_mono (by omega) high le

/-- Words are in order as fractions. -/
theorem spot_le_of_isLE (le : (a.order b).isLE = true) : a.spot ≤ b.spot := by
  by_cases words : a.word?.isSome ∧ b.word?.isSome
  · obtain ⟨i, left⟩ := Option.isSome_iff_exists.1 words.1
    obtain ⟨j, right⟩ := Option.isSome_iff_exists.1 words.2
    rw [order_of_words left right, Std.isLE_compare] at le
    obtain ⟨rfl, fits⟩ := word?_eq_some_iff.1 left
    obtain ⟨rfl, fits'⟩ := word?_eq_some_iff.1 right
    rw [fitsWord_iff] at fits fits'
    exact spot_int_mono (by omega) (by omega) le
  · rw [order_of_fractions words] at le
    exact compare_le_iff_le.1 (Ordering.isLE_iff_ne_gt.1 le)

/-- The second number is no word, and the first and the third are different words that it equals. -/
structure Blurs (a b c : Number) : Prop where
  first : a.word?.isSome
  last : c.word?.isSome
  apart : a ≠ c
  between : b.word? = none
  left : (a.toFloat == b.toFloat) = true
  right : (b.toFloat == c.toFloat) = true

/-- Words with no more bits than the mantissa of a fraction are told apart by every third number. -/
theorem not_blurs_of_small (finite : b.Finite) (small : i.natAbs < 2 ^ 53)
    (small' : j.natAbs < 2 ^ 53) : ¬ Blurs (.int i) b (.int j) := by
  intro blurs
  have left := (beq_toFloat_iff (a := .int i) trivial finite).1 blurs.left
  have right := (beq_toFloat_iff (b := .int j) finite trivial).1 blurs.right
  exact blurs.apart (congrArg int (place_ofInt_inj small small' (left.trans right)))

theorem Blurs.reverse (finite : a.Finite) (finite' : b.Finite) (finite'' : c.Finite)
    (blurs : Blurs a b c) : Blurs c b a where
  first := blurs.last
  last := blurs.first
  apart := blurs.apart.symm
  between := blurs.between
  left := by
    rw [beq_toFloat_iff finite'' finite', ← (beq_toFloat_iff finite' finite'').1 blurs.right]
  right := by
    rw [beq_toFloat_iff finite' finite, ← (beq_toFloat_iff finite finite').1 blurs.left]

theorem order_trans (finite : a.Finite) (finite' : b.Finite) (finite'' : c.Finite)
    (le : (a.order b).isLE = true) (le' : (b.order c).isLE = true) :
    (a.order c).isLE = true ∨ Blurs a b c := by
  have before := spot_le_of_isLE le
  have after := spot_le_of_isLE le'
  by_cases words : a.word?.isSome ∧ c.word?.isSome
  · obtain ⟨i, first⟩ := Option.isSome_iff_exists.1 words.1
    obtain ⟨k, last⟩ := Option.isSome_iff_exists.1 words.2
    cases between : b.word? with
    | some j =>
      rw [order_of_words first between, Std.isLE_compare] at le
      rw [order_of_words between last, Std.isLE_compare] at le'
      rw [order_of_words first last, Std.isLE_compare]
      exact .inl (le.trans le')
    | none =>
      by_cases found : (a.order c).isLE = true
      · exact .inl found
      · -- words in the wrong order stand the other way round, so all three stand in one place
        have greater : a.order c = .gt := by rwa [Ordering.isLE_iff_ne_gt, not_not] at found
        have back : (c.order a).isLE = true := by
          rw [order_swap a c, greater]
          rfl
        have around := spot_le_of_isLE back
        refine .inr ⟨words.1, words.2, ?_, between,
          (beq_toFloat_iff finite finite').2 (le_antisymm before (after.trans around)),
          (beq_toFloat_iff finite' finite'').2 (le_antisymm after (around.trans before))⟩
        rintro rfl
        exact found (by rw [order_self]; rfl)
  · rw [order_of_fractions words]
    exact .inl (Ordering.isLE_iff_ne_gt.2 (compare_le_iff_le.2 (before.trans after)))

theorem Blurs.order_eq (finite : a.Finite) (finite' : b.Finite) (finite'' : c.Finite)
    (blurs : Blurs a b c) : a.order b = .eq ∧ b.order c = .eq := by
  rw [order_of_fractions (by simp [blurs.between]), order_of_fractions (by simp [blurs.between]),
    compare_eq_iff_eq, compare_eq_iff_eq, ← beq_toFloat_iff finite finite',
    ← beq_toFloat_iff finite' finite'']
  exact ⟨blurs.left, blurs.right⟩

theorem Blurs.order_ne (blurs : Blurs a b c) : a.order c ≠ .eq := by
  obtain ⟨i, first⟩ := Option.isSome_iff_exists.1 blurs.first
  obtain ⟨k, last⟩ := Option.isSome_iff_exists.1 blurs.last
  rw [order_of_words first last, Ne, compare_eq_iff_eq]
  rintro rfl
  exact blurs.apart ((word?_eq_some_iff.1 first).1.trans (word?_eq_some_iff.1 last).1.symm)

/-! Machine integers -/

theorem compare_spots_eq_iff (low : -2 ^ 63 ≤ i) (low' : -2 ^ 63 ≤ j) (high : i < 2 ^ 64)
    (high' : j < 2 ^ 64) :
    compare (int i).spot (int j).spot = compare i j ↔ i = j ∨ (int i).spot ≠ (int j).spot := by
  rcases lt_trichotomy i j with less | rfl | greater
  · have le := spot_int_mono low high' less.le
    rw [compare_lt_iff_lt.2 less, compare_lt_iff_lt, le.lt_iff_ne]
    exact (or_iff_right less.ne).symm
  · exact iff_of_true (by rw [compare_eq_iff_eq.2 rfl, compare_eq_iff_eq.2 rfl]) (.inl rfl)
  · have le := spot_int_mono low' high greater.le
    rw [compare_gt_iff_gt.2 greater, compare_gt_iff_gt, le.lt_iff_ne, ne_comm]
    exact (or_iff_right greater.ne').symm

/-- Integers that are not both words are compared exactly unless they fall together as fractions. -/
theorem order_int_iff (low : -2 ^ 63 ≤ i) (low' : -2 ^ 63 ≤ j) (high : i < 2 ^ 64)
    (high' : j < 2 ^ 64) :
    (int i).order (int j) = compare i j ↔
      (fitsWord i = true ∧ fitsWord j = true) ∨ i = j ∨ (int i).spot ≠ (int j).spot := by
  by_cases words : fitsWord i = true ∧ fitsWord j = true
  · exact iff_of_true (order_of_words (word?_int words.1) (word?_int words.2)) (.inl words)
  · have mixed : ¬ ((int i).word?.isSome ∧ (int j).word?.isSome) := by simpa [word?] using words
    rw [order_of_fractions mixed, compare_spots_eq_iff low low' high high']
    exact (or_iff_right words).symm

end Number

namespace Value
variable {a b c : Value}

/-! Kinds -/

/-- The order within a kind, in which there is none among lists or objects. -/
def within (a b : Value) : Ordering := (a.compare? b).getD .eq

theorem within_num {x y : Number} (finite : x.Finite) (finite' : y.Finite) :
    (num x).within (num y) = x.order y :=
  congrArg (Option.getD · Ordering.eq) (Number.compare?_eq_order finite finite')

theorem within_swap (finite : a.Finite) (finite' : b.Finite) :
    b.within a = (a.within b).swap := by
  cases a <;> cases b
  case num.num x y =>
    rw [within_num (number_finite finite) (number_finite finite'),
      within_num (number_finite finite') (number_finite finite)]
    exact Number.order_swap x y
  case bool.bool => exact Std.OrientedOrd.eq_swap
  case str.str => exact Std.OrientedOrd.eq_swap
  all_goals rfl

theorem exists_bool_of_rank (kind : a.rank = 1) : ∃ p, a = bool p := by
  cases a <;> first | exact ⟨_, rfl⟩ | cases kind

theorem exists_num_of_rank (kind : a.rank = 2) : ∃ x, a = num x := by
  cases a <;> first | exact ⟨_, rfl⟩ | cases kind

theorem exists_str_of_rank (kind : a.rank = 3) : ∃ s, a = str s := by
  cases a <;> first | exact ⟨_, rfl⟩ | cases kind

/-- The second number is no word, and the first and the third are different words that it equals. -/
inductive Blurs : Value → Value → Value → Prop where
  | of {x y z : Number} (numbers : x.Blurs y z) : Blurs (num x) (num y) (num z)

theorem Blurs.reverse (finite : a.Finite) (finite' : b.Finite) (finite'' : c.Finite)
    (blurs : Blurs a b c) : Blurs c b a := by
  obtain ⟨numbers⟩ := blurs
  exact .of (numbers.reverse (number_finite finite) (number_finite finite')
    (number_finite finite''))

theorem within_trans (finite : a.Finite) (finite' : b.Finite) (finite'' : c.Finite)
    (kind : b.rank = a.rank) (kind' : c.rank = a.rank) (le : (a.within b).isLE = true)
    (le' : (b.within c).isLE = true) : (a.within c).isLE = true ∨ Blurs a b c := by
  cases a with
  | bool p =>
    obtain ⟨q, rfl⟩ := exists_bool_of_rank kind
    obtain ⟨r, rfl⟩ := exists_bool_of_rank kind'
    exact .inl (Std.TransOrd.isLE_trans (b := q) le le')
  | num x =>
    obtain ⟨y, rfl⟩ := exists_num_of_rank kind
    obtain ⟨z, rfl⟩ := exists_num_of_rank kind'
    rw [within_num (number_finite finite) (number_finite finite')] at le
    rw [within_num (number_finite finite') (number_finite finite'')] at le'
    rw [within_num (number_finite finite) (number_finite finite'')]
    have kept := Number.order_trans (number_finite finite) (number_finite finite')
      (number_finite finite'') le le'
    exact kept.imp_right .of
  | str s =>
    obtain ⟨t, rfl⟩ := exists_str_of_rank kind
    obtain ⟨u, rfl⟩ := exists_str_of_rank kind'
    exact .inl (Std.TransOrd.isLE_trans (b := t) le le')
  | null | arr | obj => cases c <;> exact .inl rfl

/-! All values -/

theorem order_eq : a.order b = (compare a.rank b.rank).then (a.within b) := rfl

theorem order_isLE_iff : (a.order b).isLE = true ↔
    a.rank < b.rank ∨ a.rank = b.rank ∧ (a.within b).isLE = true := by
  rw [order_eq, Ordering.isLE_then_iff_or, compare_lt_iff_lt, compare_eq_iff_eq]

theorem order_swap (finite : a.Finite) (finite' : b.Finite) : b.order a = (a.order b).swap := by
  rw [order_eq, order_eq, Ordering.swap_then, within_swap finite finite', Std.OrientedOrd.eq_swap]

theorem order_self (finite : a.Finite) : a.order a = .eq := by
  have swapped := order_swap finite finite
  cases is : a.order a with
  | eq => rfl
  | lt | gt =>
    rw [is] at swapped
    cases swapped

theorem order_trans (finite : a.Finite) (finite' : b.Finite) (finite'' : c.Finite)
    (le : (a.order b).isLE = true) (le' : (b.order c).isLE = true) :
    (a.order c).isLE = true ∨ Blurs a b c := by
  rw [order_isLE_iff] at le le' ⊢
  rcases le with less | ⟨same, le⟩
  · exact .inl (.inl (by omega))
  · rcases le' with less | ⟨same', le'⟩
    · exact .inl (.inl (by omega))
    · have kept := within_trans finite finite' finite'' same.symm (same.trans same').symm le le'
      exact kept.imp_left fun le => .inr ⟨same.trans same', le⟩

theorem order_num {x y : Number} (finite : x.Finite) (finite' : y.Finite) :
    (num x).order (num y) = x.order y :=
  within_num finite finite'

/-- Values that are equal by the order stand before and behind each other. -/
theorem order_eq_of_isLE (finite : a.Finite) (finite' : b.Finite) (le : (a.order b).isLE = true)
    (ge : (b.order a).isLE = true) : a.order b = .eq := by
  rw [order_swap finite finite'] at ge
  cases is : a.order b with
  | eq => rfl
  | lt =>
    rw [is] at ge
    cases ge
  | gt =>
    rw [is] at le
    cases le

theorem not_blurs_iff (finite : a.Finite) (finite' : b.Finite) (finite'' : c.Finite) :
    (((a.order b).isLE = true → (b.order c).isLE = true → (a.order c).isLE = true) ∧
      (a.order b = .eq → b.order c = .eq → a.order c = .eq)) ↔ ¬ Blurs a b c := by
  constructor
  · rintro ⟨_, trans⟩ ⟨numbers⟩
    have finite := number_finite finite
    have finite' := number_finite finite'
    have finite'' := number_finite finite''
    obtain ⟨left, right⟩ := numbers.order_eq finite finite' finite''
    rw [order_num finite finite', order_num finite' finite'', order_num finite finite''] at trans
    exact numbers.order_ne (trans left right)
  · intro clear
    have forth (le : (a.order b).isLE = true) (le' : (b.order c).isLE = true) :=
      (order_trans finite finite' finite'' le le').resolve_right clear
    refine ⟨forth, fun same same' => ?_⟩
    have back : (c.order a).isLE = true := by
      refine (order_trans finite'' finite' finite ?_ ?_).resolve_right fun blurs =>
        clear (blurs.reverse finite'' finite' finite)
      · rw [order_swap finite' finite'', same']
        rfl
      · rw [order_swap finite finite', same]
        rfl
    exact order_eq_of_isLE finite finite'' (forth (by rw [same]; rfl) (by rw [same']; rfl)) back

/-- Any two values compare one way and the other way round, and a value equals itself. The order is
transitive on three values, also where it finds them equal, exactly if the middle one is not a
number that blurs the two others. Of the integers of machines it decides exactly those that are
words or do not fall together as fractions. -/
theorem order_is_total_preorder_iff (finite : a.Finite) (finite' : b.Finite)
    (finite'' : c.Finite) :
    a.order a = .eq ∧ b.order a = (a.order b).swap ∧
    ((((a.order b).isLE = true → (b.order c).isLE = true → (a.order c).isLE = true) ∧
      (a.order b = .eq → b.order c = .eq → a.order c = .eq)) ↔ ¬ Blurs a b c) ∧
    ∀ i j : Int, -2 ^ 63 ≤ i → i < 2 ^ 64 → -2 ^ 63 ≤ j → j < 2 ^ 64 →
      (((int i).compare? (int j) = some (compare i j) ∧ ((int i).equal (int j) = true ↔ i = j)) ↔
        (fitsWord i = true ∧ fitsWord j = true) ∨ i = j ∨
          (Float.ofInt i == Float.ofInt j) = false) := by
  refine ⟨order_self finite, order_swap finite finite', not_blurs_iff finite finite' finite'', ?_⟩
  intro i j low high low' high'
  have apart : (Float.ofInt i == Float.ofInt j) = false ↔
      (Number.int i).spot ≠ (Number.int j).spot := by
    rw [← Bool.not_eq_true]
    exact not_congr (Number.beq_ofInt_iff i j)
  have compared : (int i).compare? (int j) = some (compare i j) ↔
      (Number.int i).order (.int j) = compare i j := by
    change (Number.int i).compare? (.int j) = _ ↔ _
    rw [Number.compare?_eq_order (a := .int i) (b := .int j) trivial trivial, Option.some.injEq]
  have equal : (int i).equal (int j) = true ↔ (Number.int i).order (.int j) = .eq :=
    Number.equal_iff_order (a := .int i) (b := .int j) trivial trivial
  rw [compared, equal, apart, ← Number.order_int_iff low low' high high', and_iff_left_iff_imp]
  intro exactly
  rw [exactly, compare_eq_iff_eq]

end Value

namespace Heights

def lower : Value := .int 9007199254740992

def upper : Value := .int 9007199254740993

/-- The fraction that both words become. -/
def middle : Value := .num (.float (.ofBits 0x4340000000000000))

/-- Going through a fraction a word equals the one before it, and the first two integers above the
words are one to the order. -/
theorem heights_fall_together :
    lower.Finite ∧ middle.Finite ∧ upper.Finite ∧
    upper.order middle = .eq ∧ middle.order lower = .eq ∧ upper.order lower = .gt ∧
    (Value.int 0x8000000000000000).compare? (.int 0x8000000000000001) = some .eq ∧
    (Value.int 0x8000000000000000).equal (.int 0x8000000000000001) = true :=
  ⟨.int _, .float rfl, .int _, rfl, rfl, rfl, rfl, rfl⟩

/-- Two and a half stands between two and three. -/
theorem half_keeps_the_order :
    (Value.int 2).order (.num (.float 2.5)) = .lt ∧
    (Value.num (.float 2.5)).order (.int 3) = .lt ∧
    ((Value.int 2).order (.int 3)).isLE = true ∧
    (Value.int 0x7fffffffffffffff).compare? (.int 0x8000000000000800) = some .lt := by
  have before : (Value.int 2).order (.num (.float 2.5)) = .lt := by decide +kernel
  have after : (Value.num (.float 2.5)).order (.int 3) = .lt := by decide +kernel
  obtain ⟨_, _, transitive, decided⟩ := Value.order_is_total_preorder_iff
    (a := .int 2) (b := .num (.float 2.5)) (c := .int 3) (.int 2) (.float (by decide +kernel))
    (.int 3)
  have clear : ¬ (Value.int 2).Blurs (.num (.float 2.5)) (.int 3) := by
    rintro ⟨numbers⟩
    exact absurd numbers.left (by decide +kernel)
  refine ⟨before, after, (transitive.2 clear).1 (by rw [before]; rfl) (by rw [after]; rfl), ?_⟩
  have apart := decided 0x7fffffffffffffff 0x8000000000000800 (by decide) (by decide) (by decide)
    (by decide)
  exact (apart.2 (.inr (.inr (by decide +kernel)))).1

end Heights

end GuardedQuery
