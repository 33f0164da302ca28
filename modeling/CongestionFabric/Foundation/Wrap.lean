import Mathlib.Algebra.BigOperators.Group.List.Basic
import Mathlib.Algebra.Order.Ring.Nat

/-!
Contract: sums that a loop accumulates in 64-bit words.

Owns what an accumulated word is as a number, for a loop that adds to it in every
round or only in some.

Does not own: the state a loop keeps beside the word.
-/

namespace Foundation

variable {A S : Type}

/-- A word to which every round of a loop adds an amount holds the sum of the
amounts modulo its range. -/
theorem toNat_foldl {step : S → A → S} (word : S → UInt64) (amount : A → UInt64)
    (adds : ∀ state item, word (step state item) = word state + amount item)
    (items : List A) (state : S) :
    (word (items.foldl step state)).toNat =
      ((word state).toNat + (items.map fun item => (amount item).toNat).sum) % 2 ^ 64 := by
  induction items generalizing state with
  | nil =>
      have small := (word state).toNat_lt
      rw [List.foldl_nil, List.map_nil, List.sum_nil, Nat.add_zero, Nat.mod_eq_of_lt small]
  | cons item rest inductionHypothesis =>
      rw [List.foldl_cons, inductionHypothesis, adds, UInt64.toNat_add, List.map_cons,
        List.sum_cons, Nat.mod_add_mod, Nat.add_assoc]

/-- The rounds that add nothing can be left out of the sum. -/
theorem sum_map_filter (chosen : A → Bool) (amount : A → UInt64) (items : List A) :
    (items.map fun item => (if chosen item then amount item else 0).toNat).sum =
      ((items.filter chosen).map fun item => (amount item).toNat).sum := by
  have none : ∀ rest : List A, (rest.map fun _ => (0 : UInt64).toNat).sum = 0 := by
    intro rest
    simp
  simp only [apply_ite UInt64.toNat]
  rw [List.sum_map_ite, none, Nat.add_zero]
  simp only [Bool.decide_eq_true]

end Foundation
