import Mathlib.Data.Int.Order.Basic
import Mathlib.Data.Prod.Lex
import CongestionFabric.Foundation.Rounding

/-!
Contract: binary64 numbers are ordered linearly, NaN apart.

Owns the place of a number in the order, the fact that the comparisons of the format
compare these places, and the laws of `std::max` that follow.
-/

namespace Foundation.Binary64

open Float.Model
open Float.Model.UnpackedFloat

/-! ## Places -/

/-- Where a number stands: first its kind, from negative to positive infinity, then
among finite numbers of one sign its exponent and its mantissa. -/
private def place : UnpackedFloat → Int ×ₗ Int ×ₗ Int
  | .infinity .negative => toLex (-2, toLex (0, 0))
  | .finite .negative mantissa exponent _ => toLex (-1, toLex (-exponent, -(mantissa : Int)))
  | .notANumber | .zero _ => toLex (0, toLex (0, 0))
  | .finite .positive mantissa exponent _ => toLex (1, toLex (exponent, (mantissa : Int)))
  | .infinity .positive => toLex (2, toLex (0, 0))

/-- A pattern that is not a NaN. -/
def IsNumber (value : Binary64) : Prop := value.unpack ≠ .notANumber

private theorem compare_neg_neg (number other : Int) :
    compare (-number) (-other) = (compare number other).swap := by
  rcases lt_trichotomy number other with less | rfl | greater
  · rw [compare_gt_iff_gt.mpr (Int.neg_lt_neg less), compare_lt_iff_lt.mpr less]
    rfl
  · simp
  · rw [compare_lt_iff_lt.mpr (Int.neg_lt_neg greater), compare_gt_iff_gt.mpr greater]
    rfl

private theorem compare_natCast (mantissa other : Nat) :
    compare (mantissa : Int) other = compare mantissa other := by
  rcases lt_trichotomy mantissa other with less | rfl | greater
  · rw [compare_lt_iff_lt.mpr (Int.ofNat_lt.mpr less), compare_lt_iff_lt.mpr less]
  · simp
  · rw [compare_gt_iff_gt.mpr (Int.ofNat_lt.mpr greater), compare_gt_iff_gt.mpr greater]

private theorem compare_place {left right : UnpackedFloat} (leftNumber : left ≠ .notANumber)
    (rightNumber : right ≠ .notANumber) :
    left.compare right = some (compare (place left) (place right)) := by
  have split : ∀ (kind otherKind exponent otherExponent mantissa otherMantissa : Int),
      compare (toLex (kind, toLex (exponent, mantissa)))
          (toLex (otherKind, toLex (otherExponent, otherMantissa))) =
        (compare kind otherKind).then ((compare exponent otherExponent).then
          (compare mantissa otherMantissa)) := fun _ _ _ _ _ _ => rfl
  cases left with
  | notANumber => exact absurd rfl leftNumber
  | infinity sign =>
      cases right with
      | notANumber => exact absurd rfl rightNumber
      | infinity other => cases sign <;> cases other <;> rfl
      | zero other => cases sign <;> rfl
      | finite other _ _ _ => cases sign <;> cases other <;> rfl
  | zero sign =>
      cases right with
      | notANumber => exact absurd rfl rightNumber
      | infinity other => cases other <;> rfl
      | zero other => rfl
      | finite other _ _ _ => cases other <;> rfl
  | finite sign mantissa exponent positive =>
      cases right with
      | notANumber => exact absurd rfl rightNumber
      | infinity other => cases sign <;> cases other <;> rfl
      | zero other => cases sign <;> rfl
      | finite other otherMantissa otherExponent _ =>
          cases sign <;> cases other
          · simp only [UnpackedFloat.compare, place, split]
            rw [compare_neg_neg exponent, compare_neg_neg (mantissa : Int), compare_natCast,
              ← Ordering.swap_then]
            rfl
          · rfl
          · rfl
          · simp only [UnpackedFloat.compare, place, split]
            rw [compare_natCast]
            rfl

/-! ## Laws -/

section Laws

variable {left right value : Binary64}

private theorem lt_iff (leftNumber : left.IsNumber) (rightNumber : right.IsNumber) :
    left < right ↔ place left.unpack < place right.unpack := by
  change (left.unpack.compare right.unpack == some .lt) = true ↔ _
  rw [compare_place leftNumber rightNumber, beq_iff_eq, Option.some_inj, compare_lt_iff_lt]

private theorem le_iff (leftNumber : left.IsNumber) (rightNumber : right.IsNumber) :
    left ≤ right ↔ place left.unpack ≤ place right.unpack := by
  change (left.unpack.compare right.unpack).any (·.isLE) = true ↔ _
  rw [compare_place leftNumber rightNumber, Option.any_some, Ordering.isLE_iff_ne_gt]
  exact compare_le_iff_le

/-- `std::max` is at least its second argument. -/
theorem le_stdMax_right (leftNumber : left.IsNumber) (rightNumber : right.IsNumber) :
    right ≤ Arithmetic.stdMax left right := by
  unfold Arithmetic.stdMax
  split
  · exact (le_iff rightNumber rightNumber).mpr (le_refl _)
  · next notLess =>
    rw [lt_iff leftNumber rightNumber, not_lt] at notLess
    exact (le_iff rightNumber leftNumber).mpr notLess

/-- `std::max` is at least what its first argument is at least. -/
theorem le_stdMax_of_le (number : value.IsNumber) (leftNumber : left.IsNumber)
    (rightNumber : right.IsNumber) (below : value ≤ left) :
    value ≤ Arithmetic.stdMax left right := by
  unfold Arithmetic.stdMax
  split
  · next less =>
    rw [lt_iff leftNumber rightNumber] at less
    rw [le_iff number leftNumber] at below
    exact (le_iff number rightNumber).mpr (le_of_lt (lt_of_le_of_lt below less))
  · exact below

/-- An integer is converted to a number. -/
theorem ofUInt64_isNumber (value : UInt64) :
    IsNumber (Arithmetic.ofUInt64 value : Binary64) := by
  intro unordered
  have finite := ofUInt64_isFinite value
  change (Arithmetic.ofUInt64 value : Binary64).unpack.isFinite = true at finite
  rw [unordered] at finite
  exact absurd finite (by decide)

end Laws

end Foundation.Binary64
