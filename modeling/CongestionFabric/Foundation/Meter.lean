import CongestionFabric.Foundation.Run
import Mathlib.Algebra.BigOperators.Group.List.Basic
import Mathlib.Algebra.Order.Ring.Defs
import Mathlib.Tactic.Linarith
import Mathlib.Tactic.Ring

/-!
Contract: amortised accounting along runs, and the meter as its user.

Owns:
- the rule that pays for what the steps of a run spend together from the fall of
  a balance;
- the meter: a level that grows with time, at a fixed rate and up to a limit, and
  from which amounts are drawn;
- the bound on what is drawn in any window of any sequence of acts.

Does not own: a clock. Times come with the acts, and may repeat or go back.
-/

namespace Foundation

/-! ## Amortised accounting -/

section Amortised

variable {S E K : Type} [AddCommMonoid K] [PartialOrder K] [IsOrderedAddMonoid K]
  {step : S → E → S → Prop} {start final : S} {history : List (S × E)}

/-- When every step is paid for by the fall of a balance, so is a run. -/
theorem Run.spent_add_balance_le (run : Run step start history final)
    (balance : S → K) (spent : S → E → K)
    (paid : ∀ {state label next}, step state label next →
      spent state label + balance next ≤ balance state) :
    (history.map fun taken => spent taken.1 taken.2).sum + balance final ≤ balance start := by
  induction run with
  | nil =>
      rw [List.map_nil, List.sum_nil, zero_add]
  | @snoc history state next label previous last inductionHypothesis =>
      rw [List.map_append, List.sum_append, List.map_singleton, List.sum_singleton, add_assoc]
      have here : spent state label + balance next ≤ balance state := paid last
      exact (add_le_add_right here _).trans inductionHypothesis

end Amortised

/-! ## Meters -/

variable {K : Type} [CommRing K] [LinearOrder K] [IsStrictOrderedRing K]

/-- What a meter is set to. -/
structure MeterTerms (K : Type) [CommRing K] [LinearOrder K] where
  rate : K
  limit : K
  rateNonneg : 0 ≤ rate
  limitNonneg : 0 ≤ limit

/-- A meter: the level it holds, and the latest time it was advanced to. -/
structure Meter (terms : MeterTerms K) where
  level : K
  seen : K
  levelNonneg : 0 ≤ level
  levelLeLimit : level ≤ terms.limit

/-- What is done to a meter. -/
inductive MeterAct (K : Type) where
  | advance (time : K)
  | draw (amount : K)

/-- The later of a time and the one an act advances to. -/
def MeterAct.later (time : K) : MeterAct K → K
  | .advance now => max time now
  | .draw _ => time

namespace Meter

variable {terms : MeterTerms K}

/-- A full meter that starts at time `0`. -/
def full (terms : MeterTerms K) : Meter terms where
  level := terms.limit
  seen := 0
  levelNonneg := terms.limitNonneg
  levelLeLimit := le_rfl

/-- The level after a time that is later than all before it. -/
def grown (meter : Meter terms) (now : K) : K :=
  min terms.limit (meter.level + (now - meter.seen) * terms.rate)

theorem grown_nonneg (meter : Meter terms) {now : K} (later : meter.seen ≤ now) :
    0 ≤ meter.grown now := by
  have earned : 0 ≤ (now - meter.seen) * terms.rate :=
    mul_nonneg (sub_nonneg.mpr later) terms.rateNonneg
  exact le_min terms.limitNonneg (add_nonneg meter.levelNonneg earned)

/-- An amount is granted when it is on the meter; a negative one never is. -/
def Grants (meter : Meter terms) (amount : K) : Prop := 0 ≤ amount ∧ amount ≤ meter.level

instance (meter : Meter terms) (amount : K) : Decidable (meter.Grants amount) :=
  inferInstanceAs (Decidable (_ ∧ _))

/-- The meter after an act. -/
def after (meter : Meter terms) : MeterAct K → Meter terms
  | .advance now =>
      if later : meter.seen < now then
        { level := meter.grown now
          seen := now
          levelNonneg := meter.grown_nonneg later.le
          levelLeLimit := min_le_left _ _ }
      else
        meter
  | .draw amount =>
      if granted : meter.Grants amount then
        { meter with
          level := meter.level - amount
          levelNonneg := sub_nonneg.mpr granted.2
          levelLeLimit := (sub_le_self _ granted.1).trans meter.levelLeLimit }
      else
        meter

/-- What an act draws. -/
def drawn (meter : Meter terms) : MeterAct K → K
  | .advance _ => 0
  | .draw amount => if meter.Grants amount then amount else 0

theorem after_seen (meter : Meter terms) (act : MeterAct K) :
    (meter.after act).seen = act.later meter.seen := by
  cases act with
  | advance now =>
      simp only [after, MeterAct.later]
      split
      · next later => exact (max_eq_right later.le).symm
      · next earlier => exact (max_eq_left (not_lt.mp earlier)).symm
  | draw amount =>
      simp only [after, MeterAct.later]
      split
      · rfl
      · rfl

/-- The latest time of a sequence of acts. -/
theorem follow_seen (acts : List (MeterAct K)) :
    ∀ meter : Meter terms,
      (follow after acts meter).seen = acts.foldl MeterAct.later meter.seen := by
  induction acts with
  | nil =>
      intro meter
      rfl
  | cons act rest inductionHypothesis =>
      intro meter
      rw [follow, inductionHypothesis, after_seen, List.foldl_cons]

/-- The level, less what the time so far was worth. -/
def balance (meter : Meter terms) : K := meter.level - terms.rate * meter.seen

/-- What an act draws is paid from the balance; a clamped level only loses. -/
theorem drawn_add_balance_le (meter : Meter terms) (act : MeterAct K) :
    meter.drawn act + (meter.after act).balance ≤ meter.balance := by
  cases act with
  | advance now =>
      simp only [drawn, after]
      split
      · have clamped : meter.grown now ≤ meter.level + (now - meter.seen) * terms.rate :=
          min_le_right _ _
        unfold balance
        linarith
      · exact (zero_add _).le
  | draw amount =>
      simp only [drawn, after]
      split
      · unfold balance
        linarith
      · exact (zero_add _).le

/-- In any window of acts no more is drawn than a full meter holds and the time
between its ends is worth. -/
theorem drawn_le (meter : Meter terms) (acts : List (MeterAct K)) :
    ((followed after acts meter).map fun taken => taken.1.drawn taken.2).sum ≤
      terms.limit + terms.rate * (acts.foldl MeterAct.later meter.seen - meter.seen) := by
  have run : Run (fun state act next => after state act = next) meter
      (followed after acts meter) (follow after acts meter) :=
    run_follow (fun _ _ => rfl) acts .nil
  have paid := run.spent_add_balance_le balance drawn (by
    rintro state act next rfl
    exact drawn_add_balance_le state act)
  unfold balance at paid
  rw [follow_seen] at paid
  have rest := (follow after acts meter).levelNonneg
  have most := meter.levelLeLimit
  linarith

end Meter

end Foundation
