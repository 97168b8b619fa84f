import GuardedQuery.Value.Compare
import Mathlib.Algebra.Order.Group.Unbundled.Int
import Mathlib.Data.Prod.Lex
import Mathlib.Order.Compare

/-! The line of fractions. Every fraction that is a number has a place on it: its kind and sign come
first, then its exponent, then its mantissa. Fractions are compared by their places, so comparing
them is a linear order in which the two zeros are one. -/

namespace GuardedQuery

open Float.Model

/-- Where a fraction stands; what is undefined has no place of its own. -/
def place : UnpackedFloat → ℤ ×ₗ ℤ ×ₗ ℤ
  | .infinity .positive => toLex (2, toLex (0, 0))
  | .finite .positive mantissa exponent _ => toLex (1, toLex (exponent, (mantissa : ℤ)))
  | .zero _ | .notANumber => toLex (0, toLex (0, 0))
  | .finite .negative mantissa exponent _ => toLex (-1, toLex (-exponent, -(mantissa : ℤ)))
  | .infinity .negative => toLex (-2, toLex (0, 0))

theorem compare_natCast (m n : ℕ) : compare (m : ℤ) n = compare m n := by
  rw [← cmp_eq_compare, ← cmp_eq_compare]
  exact Int.natCast_strictMono.cmp_map_eq m n

theorem compare_neg (i j : ℤ) : compare (-i) (-j) = (compare i j).swap := by
  have falls : StrictAnti (fun i : ℤ => -i) := fun _ _ => Int.neg_lt_neg
  rw [← cmp_eq_compare, ← cmp_eq_compare, cmp_swap]
  exact falls.cmp_map_eq i j

theorem compare_eq_place {a b : UnpackedFloat} (ha : a.isNaN = false) (hb : b.isNaN = false) :
    a.compare b = some (compare (place a) (place b)) := by
  cases a with
  | notANumber => cases ha
  | infinity s =>
    cases b with
    | notANumber => cases hb
    | infinity t => cases s <;> cases t <;> rfl
    | zero t => cases s <;> rfl
    | finite t m e pos => cases s <;> cases t <;> rfl
  | zero s =>
    cases b with
    | notANumber => cases hb
    | infinity t => cases t <;> rfl
    | zero t => rfl
    | finite t m e pos => cases t <;> rfl
  | finite s m e pos =>
    cases b with
    | notANumber => cases hb
    | infinity t => cases s <;> cases t <;> rfl
    | zero t => cases s <;> rfl
    | finite t n d pos' =>
      cases s <;> cases t
      case positive.negative | negative.positive => rfl
      case positive.positive =>
        change some ((compare e d).then (compare m n)) =
          some ((compare e d).then (compare (m : ℤ) n))
        rw [compare_natCast]
      case negative.negative =>
        change some ((compare e d).then (compare m n)).swap =
          some ((compare (-e) (-d)).then (compare (-(m : ℤ)) (-n)))
        rw [compare_neg, compare_neg, compare_natCast, Ordering.swap_then]

variable {x y : Float}

theorem lt_iff_place (hx : x.isNaN = false) (hy : y.isNaN = false) :
    x < y ↔ place x.toModel.unpack < place y.toModel.unpack := by
  have compared : (x < y) = (decide ((x.toModel.unpack.compare y.toModel.unpack == some .lt) = true)
      = true) := rfl
  rw [compared, decide_eq_true_iff, compare_eq_place hx hy, beq_iff_eq, Option.some.injEq,
    compare_lt_iff_lt]

theorem beq_iff_place (hx : x.isNaN = false) (hy : y.isNaN = false) :
    (x == y) = true ↔ place x.toModel.unpack = place y.toModel.unpack := by
  have compared : (x == y) = (x.toModel.unpack.compare y.toModel.unpack == some .eq) := rfl
  rw [compared, compare_eq_place hx hy, beq_iff_eq, Option.some.injEq, compare_eq_iff_eq]

end GuardedQuery
