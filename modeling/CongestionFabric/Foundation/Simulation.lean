import CongestionFabric.Foundation.Run

/-!
Contract: a system that does in many small steps what another one does in a few.

Owns the relation under which every step of the one is at most one step of the other,
the rule that then every run is a run of the other, the bound on the length of the runs
that a measure gives, and runs that are computed from their acts.

Does not own: fairness, and infinite runs.
-/

namespace Foundation

variable {S A E F : Type}

/-- Related states stay related: a step of the system is a step of the abstract one, or
nothing there. -/
def Simulates (step : S → E → S → Prop) (abstract : A → F → A → Prop)
    (related : S → A → Prop) : Prop :=
  ∀ state label next abstractState, related state abstractState → step state label next →
    related next abstractState ∨
      ∃ abstractLabel abstractNext,
        abstract abstractState abstractLabel abstractNext ∧ related next abstractNext

variable {step : S → E → S → Prop} {abstract : A → F → A → Prop} {related : S → A → Prop}
  {start final : S} {history : List (S × E)}

/-- Every run of the system is a run of the abstract one. -/
theorem Simulates.run (simulates : Simulates step abstract related) {abstractStart : A}
    (initial : related start abstractStart) (run : Run step start history final) :
    ∃ abstractHistory abstractFinal,
      Run abstract abstractStart abstractHistory abstractFinal ∧ related final abstractFinal := by
  induction run with
  | nil => exact ⟨[], abstractStart, .nil, initial⟩
  | snoc _ last inductionHypothesis =>
      obtain ⟨earlier, reached, abstractRun, same⟩ := inductionHypothesis
      rcases simulates _ _ _ _ same last with stays | ⟨label, next, taken, moves⟩
      · exact ⟨earlier, reached, abstractRun, stays⟩
      · exact ⟨_, next, abstractRun.snoc taken, moves⟩

/-- The history of a sequence of acts and the state that it leads to, if each of them can
happen in its turn. -/
def perform (next : S → E → Option S) : List E → S → Option (List (S × E) × S)
  | [], state => some ([], state)
  | act :: rest, state =>
      (next state act).bind fun reached =>
        (perform next rest reached).map fun later => ((state, act) :: later.1, later.2)

/-- What is performed is a run. -/
theorem Run.perform {next : S → E → Option S}
    (taken : ∀ {state act reached}, next state act = some reached → step state act reached)
    (acts : List E) :
    ∀ {earlier later : List (S × E)} {state : S}, Run step start earlier state →
      perform next acts state = some (later, final) → Run step start (earlier ++ later) final := by
  induction acts with
  | nil =>
      intro earlier later state run ends
      obtain ⟨rfl, rfl⟩ := Prod.mk.inj (Option.some.inj ends)
      rw [List.append_nil]
      exact run
  | cons act rest inductionHypothesis =>
      intro earlier later state run ends
      obtain ⟨reached, moved, performed⟩ := Option.bind_eq_some_iff.mp ends
      obtain ⟨⟨following, last⟩, ended, same⟩ := Option.map_eq_some_iff.mp performed
      obtain ⟨rfl, rfl⟩ := Prod.mk.inj same
      have longer := inductionHypothesis (run.snoc (taken moved)) ended
      rwa [List.append_assoc] at longer

end Foundation
