import Mathlib.Algebra.Order.Ring.Nat
import Mathlib.Tactic.SplitIfs

/-!
Contract: counters that hand out numbers.

Owns the property of a 64-bit counter that the numbers it is about to hand out
are not zero and not in use, and how it fares when numbers are handed out, given
back or compared as mathematical integers.

Does not own: what the numbers name.
-/

namespace Foundation

/-- The next numbers of a counter, as many as the budget, are neither zero nor
used. -/
def Supplies (budget : Nat) (counter : UInt64) (used : UInt64 → Prop) : Prop :=
  ∀ ahead < budget, counter + .ofNat ahead ≠ 0 ∧ ¬used (counter + .ofNat ahead)

namespace Supplies

variable {budget smaller : Nat} {counter : UInt64} {used after : UInt64 → Prop}

theorem mono (supplies : Supplies budget counter used) (within : smaller ≤ budget) :
    Supplies smaller counter used :=
  fun ahead below => supplies ahead (Nat.lt_of_lt_of_le below within)

/-- The number that is handed out next. -/
theorem first (supplies : Supplies budget counter used) (positive : 0 < budget) :
    counter ≠ 0 ∧ ¬used counter := by
  have here := supplies 0 positive
  rwa [show counter + .ofNat 0 = counter from UInt64.add_zero _] at here

/-- No number is handed out. -/
theorem keep (supplies : Supplies budget counter used)
    (origin : ∀ number, after number → used number) : Supplies budget counter after :=
  fun ahead below =>
    ⟨(supplies ahead below).1, fun isUsed => (supplies ahead below).2 (origin _ isUsed)⟩

/-- One number is handed out. -/
theorem issue (supplies : Supplies (budget + 1) counter used) (small : budget < 2 ^ 64 - 1)
    (origin : ∀ number, after number → used number ∨ number = counter) :
    Supplies budget (counter + 1) after := by
  intro ahead below
  have next := supplies (ahead + 1) (Nat.succ_lt_succ below)
  have moved : counter + 1 + .ofNat ahead = counter + .ofNat (ahead + 1) := by
    rw [UInt64.add_assoc, UInt64.ofNat_add, UInt64.add_comm 1]
    rfl
  rw [moved]
  refine ⟨next.1, fun isUsed => ?_⟩
  rcases origin _ isUsed with earlier | same
  · exact next.2 earlier
  · -- The counter comes back to a number only after all of them.
    have distance : (UInt64.ofNat (ahead + 1)).toNat = 0 := by
      rw [UInt64.add_eq_left.mp same]
      rfl
    rw [UInt64.toNat_ofNat_of_lt' (by change ahead + 1 < 2 ^ 64; omega)] at distance
    omega

/-- At most one number is handed out. -/
theorem step {issued : Nat} (supplies : Supplies (budget + issued) counter used)
    (small : budget < 2 ^ 64 - 1) (one : issued ≤ 1)
    (origin : ∀ number, after number → used number ∨ issued = 1 ∧ number = counter) :
    Supplies budget (counter + .ofNat issued) after := by
  rcases Nat.le_one_iff_eq_zero_or_eq_one.mp one with rfl | rfl
  · rw [show counter + .ofNat 0 = counter from UInt64.add_zero _]
    exact supplies.keep fun number isUsed => (origin number isUsed).resolve_right (by simp)
  · exact supplies.issue small fun number isUsed => (origin number isUsed).imp_right And.right

end Supplies

/-- The counter and the budget fit below the largest number, and every number in
use lies outside of what they cover. -/
theorem supplies_of_range {budget : Nat} {counter : UInt64} {used : UInt64 → Prop}
    (positive : 0 < counter.toNat) (fits : counter.toNat + budget ≤ 2 ^ 64)
    (outside : ∀ number, used number →
      number.toNat < counter.toNat ∨ counter.toNat + budget ≤ number.toNat) :
    Supplies budget counter used := by
  intro ahead below
  have value : (counter + .ofNat ahead).toNat = counter.toNat + ahead := by
    rw [UInt64.toNat_add, UInt64.toNat_ofNat_of_lt' (by change ahead < 2 ^ 64; omega)]
    exact Nat.mod_eq_of_lt (by omega)
  constructor
  · intro zero
    rw [zero] at value
    change 0 = _ at value
    omega
  · intro isUsed
    have apart := outside _ isUsed
    rw [value] at apart
    omega

end Foundation
