import Mathlib.Algebra.BigOperators.Ring.List
import Mathlib.Algebra.Field.Basic
import Mathlib.Algebra.CharZero.Defs
import Mathlib.Data.Nat.Cast.Basic

/-!
Contract: amounts that are divided among the members of a list.

Owns the portion of an amount that falls to a part of a whole, and that the portions
of all parts, like even portions, are together the amount.

Does not own: rounding, and what is left over by it.
-/

namespace Foundation

variable {K A : Type} [Field K]

/-- What of an amount falls to a part of a whole. -/
def portion (amount whole part : K) : K := amount * (part / whole)

/-- Nothing is lost and nothing added when an amount is divided in proportion. -/
theorem sum_portion (amount : K) (part : A → K) {members : List A}
    (nonzero : (members.map part).sum ≠ 0) :
    (members.map fun member => portion amount (members.map part).sum (part member)).sum =
      amount := by
  unfold portion
  simp only [div_eq_mul_inv]
  rw [List.sum_map_mul_left, List.sum_map_mul_right, mul_inv_cancel₀ nonzero, mul_one]

/-- Nor when it is divided evenly. -/
theorem sum_even [CharZero K] (amount : K) {members : List A} (nonempty : members ≠ []) :
    (members.map fun _ => amount / (members.length : K)).sum = amount := by
  have positive : (members.length : K) ≠ 0 :=
    Nat.cast_ne_zero.mpr fun empty => nonempty (List.length_eq_zero_iff.mp empty)
  rw [List.map_const', List.sum_replicate, nsmul_eq_mul, mul_div_cancel₀ amount positive]

end Foundation
