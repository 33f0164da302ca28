import CongestionFabric.Foundation.Arithmetic
import Mathlib.Algebra.BigOperators.Group.List.Basic
import Mathlib.Algebra.Order.Field.Rat
import Mathlib.Tactic.Linarith
import Mathlib.Tactic.NormNum

/-!
Contract: the arithmetic of a C++ `double` without rounding.

Owns:
- numbers as exact rationals, with the infinities and the NaN that a program can
  test for and start a search from;
- the operations on them, which agree with the rationals wherever all operands
  and the result are numbers;
- sums of lists;
- the order on numbers, and how a difference moves with its first operand.

Does not own: the sign of zero, which a rational does not have.
-/

namespace Foundation

/-- A value of the exact reading of `double`. -/
inductive Exact where
  | number (value : ℚ)
  | infinite (negative : Bool)
  | notANumber
deriving DecidableEq

namespace Exact

def add : Exact → Exact → Exact
  | number left, number right => number (left + right)
  | infinite left, infinite right => if left = right then infinite left else notANumber
  | infinite sign, number _ | number _, infinite sign => infinite sign
  | _, _ => notANumber

def neg : Exact → Exact
  | number value => number (-value)
  | infinite negative => infinite !negative
  | notANumber => notANumber

def mul : Exact → Exact → Exact
  | number left, number right => number (left * right)
  | infinite left, infinite right => infinite (left ^^ right)
  | infinite sign, number value | number value, infinite sign =>
      if value = 0 then notANumber else infinite (sign ^^ decide (value < 0))
  | _, _ => notANumber

/-- A number over zero is an infinity of its sign. -/
def div : Exact → Exact → Exact
  | number left, number right =>
      if right = 0 then if left = 0 then notANumber else infinite (decide (left < 0))
      else number (left / right)
  | infinite sign, number value => infinite (sign ^^ decide (value < 0))
  | number _, infinite _ => number 0
  | _, _ => notANumber

def lt : Exact → Exact → Bool
  | number left, number right => decide (left < right)
  | infinite left, infinite right => left && !right
  | number _, infinite negative => !negative
  | infinite negative, number _ => negative
  | _, _ => false

def le : Exact → Exact → Bool
  | number left, number right => decide (left ≤ right)
  | infinite left, infinite right => left || !right
  | number _, infinite negative => !negative
  | infinite negative, number _ => negative
  | _, _ => false

instance : Arithmetic Exact where
  ofScientific mantissa negative exponent :=
    number (OfScientific.ofScientific mantissa negative exponent)
  add := add
  sub left right := add left (neg right)
  mul := mul
  div := div
  neg := neg
  lt left right := lt left right = true
  le left right := le left right = true
  decidableLt left right := inferInstanceAs (Decidable (lt left right = true))
  decidableLe left right := inferInstanceAs (Decidable (le left right = true))
  isFinite
    | number _ => true
    | _ => false
  ofUInt64 value := number value.toNat
  infinity := infinite false
  largest := number ((2 ^ 53 - 1) * 2 ^ 971)

example : (1.5 : Exact) / 0.5 = 3.0 := by decide +kernel

/-! ## Numbers -/

theorem ofScientific_eq (mantissa : Nat) (negative : Bool) (exponent : Nat) :
    (OfScientific.ofScientific mantissa negative exponent : Exact) =
      number (OfScientific.ofScientific mantissa negative exponent) := rfl

@[simp] theorem zero_eq : (0.0 : Exact) = number 0 := by
  rw [ofScientific_eq]
  norm_num

@[simp] theorem one_eq : (1.0 : Exact) = number 1 := by
  rw [ofScientific_eq]
  norm_num

@[simp] theorem ofUInt64_eq (value : UInt64) :
    (Arithmetic.ofUInt64 value : Exact) = number value.toNat := rfl

@[simp] theorem number_add (left right : ℚ) :
    number left + number right = number (left + right) := rfl

@[simp] theorem number_sub (left right : ℚ) :
    number left - number right = number (left - right) :=
  congrArg number (sub_eq_add_neg left right).symm

@[simp] theorem number_mul (left right : ℚ) :
    number left * number right = number (left * right) := rfl

theorem number_div {right : ℚ} (left : ℚ) (divisor : right ≠ 0) :
    number left / number right = number (left / right) :=
  if_neg divisor

theorem infinite_div {divisor : ℚ} (negative : Bool) (positive : 0 < divisor) :
    infinite negative / number divisor = infinite negative := by
  change infinite _ = infinite _
  rw [decide_eq_false positive.not_gt, Bool.xor_false]

@[simp] theorem neg_number (value : ℚ) : -number value = number (-value) := rfl

@[simp] theorem number_lt {left right : ℚ} : number left < number right ↔ left < right :=
  decide_eq_true_iff

@[simp] theorem number_le {left right : ℚ} : number left ≤ number right ↔ left ≤ right :=
  decide_eq_true_iff

@[simp] theorem isFinite_number (value : ℚ) : Arithmetic.isFinite (number value) = true := rfl

theorem isFinite_iff {value : Exact} :
    Arithmetic.isFinite value = true ↔ ∃ rational, value = number rational := by
  constructor
  · intro finite
    cases value with
    | number rational => exact ⟨rational, rfl⟩
    | infinite negative => exact absurd finite Bool.false_ne_true
    | notANumber => exact absurd finite Bool.false_ne_true
  · rintro ⟨rational, rfl⟩
    rfl

/-- The rational of a number. -/
def toRat : Exact → ℚ
  | number value => value
  | infinite _ | notANumber => 0

theorem number_toRat {value : Exact} (finite : Arithmetic.isFinite value = true) :
    number value.toRat = value := by
  obtain ⟨rational, rfl⟩ := isFinite_iff.mp finite
  rfl

@[simp] theorem stdMax_number (left right : ℚ) :
    Arithmetic.stdMax (number left) (number right) = number (max left right) := by
  unfold Arithmetic.stdMax
  simp only [number_lt]
  split
  · next less => rw [max_eq_right less.le]
  · next notLess => rw [max_eq_left (not_lt.mp notLess)]

@[simp] theorem stdMin_number (left right : ℚ) :
    Arithmetic.stdMin (number left) (number right) = number (min left right) := by
  unfold Arithmetic.stdMin
  simp only [number_lt]
  split
  · next less => rw [min_eq_right less.le]
  · next notLess => rw [min_eq_left (not_lt.mp notLess)]

/-- The sum of a list. -/
def total (values : List Exact) : Exact := values.foldr (fun value rest => value + rest) 0.0

/-- Numbers sum to the number that is their sum. -/
@[simp] theorem total_number (values : List ℚ) :
    total (values.map number) = number values.sum := by
  induction values with
  | nil => exact zero_eq
  | cons value rest inductionHypothesis =>
      show number value + total (rest.map number) = number (value :: rest).sum
      rw [inductionHypothesis, number_add, List.sum_cons]

section Loops

variable {A : Type} {value : A → Exact} {amount : A → ℚ}

/-- What is a number item by item sums to the number that is the sum. -/
theorem total_map {items : List A} (each : ∀ item ∈ items, value item = number (amount item)) :
    total (items.map value) = number (items.map amount).sum := by
  rw [List.map_congr_left each, ← total_number, List.map_map]
  rfl

/-- The same for a loop that adds item after item. -/
theorem foldl_add_number (items : List A) :
    ∀ start : ℚ, (∀ item ∈ items, value item = number (amount item)) →
      items.foldl (fun sum item => sum + value item) (number start) =
        number (start + (items.map amount).sum) := by
  induction items with
  | nil =>
      intro start _
      rw [List.foldl_nil, List.map_nil, List.sum_nil, add_zero]
  | cons item rest inductionHypothesis =>
      intro start each
      rw [List.foldl_cons, each item List.mem_cons_self, number_add,
        inductionHypothesis _ fun other member => each other (List.mem_cons_of_mem _ member),
        List.map_cons, List.sum_cons, add_assoc]

end Loops

/-! ## Order -/

section Monotone

variable {smaller larger threshold : ℚ} {value bound : Exact}

/-- A value below a number is below every larger one. -/
theorem lt_number_of_le (le : smaller ≤ larger) (below : bound < number smaller) :
    bound < number larger := by
  cases bound with
  | number bound =>
      rw [number_lt] at below ⊢
      exact below.trans_le le
  | infinite negative => exact below
  | notANumber => exact below

/-- A value above a number is above every smaller one. -/
theorem lt_of_number_le (le : smaller ≤ larger) (above : number larger < value) :
    number smaller < value := by
  cases value with
  | number value =>
      rw [number_lt] at above ⊢
      exact le.trans_lt above
  | infinite negative => exact above
  | notANumber => exact above

/-- A difference grows with its first operand, whatever is subtracted. -/
theorem lt_sub_of_le (le : smaller ≤ larger) (below : bound < number smaller - value) :
    bound < number larger - value := by
  cases value with
  | infinite negative => exact below
  | notANumber => exact below
  | number value =>
      rw [number_sub] at below ⊢
      exact lt_number_of_le (sub_le_sub_right le value) below

theorem sub_lt_of_le (le : smaller ≤ larger) (below : number larger - value < bound) :
    number smaller - value < bound := by
  cases value with
  | infinite negative => exact below
  | notANumber => exact below
  | number value =>
      rw [number_sub] at below ⊢
      exact lt_of_number_le (sub_le_sub_right le value) below

/-- A quotient that passes a positive threshold passes it for every smaller
positive divisor. -/
theorem lt_div_of_le (positive : 0 < smaller) (le : smaller ≤ larger) (above : 0 < threshold)
    (passes : number threshold < value / number larger) :
    number threshold < value / number smaller := by
  have divides := positive.trans_le le
  cases value with
  | notANumber => exact passes
  | infinite negative =>
      rw [infinite_div negative divides] at passes
      rw [infinite_div negative positive]
      exact passes
  | number value =>
      rw [number_div value divides.ne', number_lt, lt_div_iff₀ divides] at passes
      rw [number_div value positive.ne', number_lt, lt_div_iff₀ positive]
      exact (mul_le_mul_of_nonneg_left le above.le).trans_lt passes

theorem le_div_of_le (positive : 0 < smaller) (le : smaller ≤ larger) (above : 0 < threshold)
    (passes : number threshold ≤ value / number larger) :
    number threshold ≤ value / number smaller := by
  have divides := positive.trans_le le
  cases value with
  | notANumber => exact passes
  | infinite negative =>
      rw [infinite_div negative divides] at passes
      rw [infinite_div negative positive]
      exact passes
  | number value =>
      rw [number_div value divides.ne', number_le, le_div_iff₀ divides] at passes
      rw [number_div value positive.ne', number_le, le_div_iff₀ positive]
      exact (mul_le_mul_of_nonneg_left le above.le).trans passes

/-- A value above a positive number is more than once that number. -/
theorem one_lt_div_of_lt (positive : 0 < smaller) (above : number smaller < value) :
    number 1 < value / number smaller := by
  cases value with
  | number value =>
      rw [number_lt] at above
      rw [number_div value positive.ne', number_lt, lt_div_iff₀ positive, one_mul]
      exact above
  | infinite negative =>
      rw [infinite_div negative positive]
      exact above
  | notANumber => exact above

theorem not_le_of_lt (above : bound < value) : ¬value ≤ bound := by
  cases value <;> cases bound <;> simp_all [LT.lt, LE.le, lt, le]

end Monotone

end Exact

end Foundation
