/-
The order of floats. Those that are numbers are in a line: the infinities at its ends, zero of
either sign in the middle, and between them the finite floats in the order of their exponents and
digits, on the negative side the other way round. A float has its place on that line (`place`), and
comparing floats is comparing their places, as long as both are numbers (`lt_iff_place`,
`le_iff_place`, `beq_iff_place`). NaN is neither below a number nor at least as large (`not_lt_iff`,
`isNaN_of_le`).
-/
import Mathlib.Data.Prod.Lex
import Screenplay.Proofs.Number.Magnitude

namespace Screenplay.Number

open Float.Model (UnpackedFloat)
open Float.Model.UnpackedFloat (Sign)

def direction : Sign → ℤ
  | .negative => -1
  | .positive => 1

/-- The side of the line, on it the exponent, and the digits. -/
def placeOf : UnpackedFloat → ℤ ×ₗ ℤ ×ₗ ℤ
  | .notANumber => toLex (0, toLex (0, 0))
  | .zero _ => toLex (0, toLex (0, 0))
  | .finite s m e _ => toLex (direction s, toLex (direction s * e, direction s * m))
  | .infinity s => toLex (2 * direction s, toLex (0, 0))

/-- The place of a float among the numbers. -/
def place (x : Float) : ℤ ×ₗ ℤ ×ₗ ℤ := placeOf x.toModel.unpack

theorem compare_toLex (a b c d e f : ℤ) :
    compare (toLex (a, toLex (b, c)) : ℤ ×ₗ ℤ ×ₗ ℤ) (toLex (d, toLex (e, f))) =
      (compare a d).then ((compare b e).then (compare c f)) := rfl

theorem compare_natCast (m n : ℕ) : compare (m : ℤ) (n : ℤ) = compare m n := by
  rw [← cmp_eq_compare, ← cmp_eq_compare, Nat.strictMono_cast.cmp_map_eq]

theorem compare_neg (a b : ℤ) : compare (-a) (-b) = (compare a b).swap := by
  rw [← cmp_eq_compare, ← cmp_eq_compare, StrictAnti.cmp_map_eq (fun _ _ h => neg_lt_neg h), cmp_swap]

/-- **Numbers are compared by their places.** -/
theorem compare_eq {u v : UnpackedFloat} (hu : u ≠ .notANumber) (hv : v ≠ .notANumber) :
    u.compare v = some (compare (placeOf u) (placeOf v)) := by
  cases u with
  | notANumber => exact absurd rfl hu
  | infinity s =>
    cases v with
    | notANumber => exact absurd rfl hv
    | infinity t => cases s <;> cases t <;> rfl
    | zero t => cases s <;> rfl
    | finite t => cases s <;> cases t <;> rfl
  | zero s =>
    cases v with
    | notANumber => exact absurd rfl hv
    | infinity t => cases t <;> rfl
    | zero t => rfl
    | finite t => cases t <;> rfl
  | finite s m e hm =>
    cases v with
    | notANumber => exact absurd rfl hv
    | infinity t => cases s <;> cases t <;> rfl
    | zero t => cases s <;> rfl
    | finite t n f hn =>
      -- only two finite floats on the same side are compared by more than their sides
      cases s <;> cases t
      · rw [placeOf, placeOf, compare_toLex]
        simp only [direction, neg_one_mul, compare_neg, compare_natCast, ← Ordering.swap_then]
        rfl
      · rfl
      · rfl
      · rw [placeOf, placeOf, compare_toLex]
        simp only [direction, one_mul, compare_natCast]
        rfl

theorem le_iff_unpack (x y : Float) :
    x ≤ y ↔ (x.toModel.unpack.compare y.toModel.unpack).any (·.isLE) = true := by
  show decide (Float.Model.le x.toModel y.toModel = true) = true ↔ _
  rw [decide_eq_true_iff, Float.Model.le, UnpackedFloat.le]

section

variable {x y : Float} (hx : x.isNaN = false) (hy : y.isNaN = false)
include hx hy

theorem compare_unpack :
    x.toModel.unpack.compare y.toModel.unpack = some (compare (place x) (place y)) :=
  compare_eq (fun h => by rw [(isNaN_iff x).2 h] at hx; cases hx)
    (fun h => by rw [(isNaN_iff y).2 h] at hy; cases hy)

theorem lt_iff_place : x < y ↔ place x < place y := by
  rw [lt_iff_unpack, compare_unpack hx hy, Option.some_inj, compare_lt_iff_lt]

theorem le_iff_place : x ≤ y ↔ place x ≤ place y := by
  rw [le_iff_unpack, compare_unpack hx hy, Option.any_some, Ordering.isLE_iff_ne_gt, compare_gt_iff_gt, not_lt]

theorem beq_iff_place : (x == y) = true ↔ place x = place y := by
  have hbeq : (x == y) = true ↔ x.toModel.unpack.compare y.toModel.unpack = some .eq := by
    show (x.toModel.unpack.compare y.toModel.unpack == some .eq) = true ↔ _
    rw [beq_iff_eq]
  rw [hbeq, compare_unpack hx hy, Option.some_inj, compare_eq_iff_eq]

end

/-! ## No numbers -/

theorem compare_notANumber (u : UnpackedFloat) : u.compare .notANumber = none := by
  cases u <;> rfl

theorem isNaN_of_le {x y : Float} (h : x ≤ y) : y.isNaN = false := by
  refine Bool.eq_false_iff.2 fun hy => ?_
  rw [le_iff_unpack, (isNaN_iff y).1 hy, compare_notANumber] at h
  cases h

/-- What is not below a number is at least as large, or no number. -/
theorem not_lt_iff {x y : Float} (hy : y.isNaN = false) : ¬ x < y ↔ x.isNaN = true ∨ y ≤ x := by
  cases hx : x.isNaN with
  | false => rw [lt_iff_place hx hy, le_iff_place hy hx, not_lt, or_iff_right Bool.false_ne_true]
  | true =>
    refine iff_of_true (fun hlt => ?_) (.inl rfl)
    rw [lt_iff_unpack, (isNaN_iff x).1 hx] at hlt
    cases hlt

end Screenplay.Number
