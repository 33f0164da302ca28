import Mathlib.Init

/-!
Contract: systems whose states can be saved and restored.

Owns the states that copies of a system reach when a copy may also be restored from
what any copy saved, and the invariant rule for them.

Does not own: what saving writes, nor how much of a state it keeps.
-/

namespace Foundation

variable {S E : Type}

/-- The states that the copies of a system reach. `restore saved target next` says
that restoring a copy in state `target` from what was saved in state `saved` leads
to `next`. -/
inductive Restarted (step : S → E → S → Prop) (restore : S → S → S → Prop) (start : S) : S → Prop
  | start : Restarted step restore start start
  | step {state next : S} {label : E} (reached : Restarted step restore start state)
      (taken : step state label next) : Restarted step restore start next
  | restore {saved target next : S} (written : Restarted step restore start saved)
      (reached : Restarted step restore start target) (restored : restore saved target next) :
      Restarted step restore start next

/-- What holds first, survives every step, and survives a restoration from a state
in which it held, holds of every copy. -/
theorem Restarted.invariant {step : S → E → S → Prop} {restore : S → S → S → Prop}
    {start final : S} (reached : Restarted step restore start final) (property : S → Prop)
    (initial : property start)
    (preserved : ∀ {state label next}, property state → step state label next → property next)
    (carried : ∀ {saved target next}, property saved → property target →
      restore saved target next → property next) : property final := by
  induction reached with
  | start => exact initial
  | step _ taken inductionHypothesis => exact preserved inductionHypothesis taken
  | restore _ _ restored savedHypothesis targetHypothesis =>
      exact carried savedHypothesis targetHypothesis restored

end Foundation
