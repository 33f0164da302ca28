import CongestionFabric.Foundation.Run

/-!
Contract: what an observer can tell of the runs of a transition system.

Owns the machine that a view of the states turns a system into, the rule that the
runs of the system are those of the machine, and noninterference: labels that the
machine ignores change neither the view nor the answers to the others. Owns the same
for two runs that a relation between their states keeps together.

Does not own: any particular system.
-/

namespace Foundation

/-- A machine that answers every label. -/
structure Machine (V E O : Type) where
  next : V → E → V
  answer : V → E → O

namespace Machine

variable {V E O : Type}

/-- The answers to the labels that satisfy `visible`, all labels being taken. -/
def answersTo (machine : Machine V E O) (visible : E → Bool) : List E → V → List O
  | [], _ => []
  | label :: rest, state =>
      if visible label then
        machine.answer state label :: machine.answersTo visible rest (machine.next state label)
      else machine.answersTo visible rest (machine.next state label)

/-- The labels that are not visible change nothing. -/
def Ignores (machine : Machine V E O) (visible : E → Bool) : Prop :=
  ∀ state label, visible label = false → machine.next state label = state

variable {machine : Machine V E O} {visible : E → Bool} {state : V} {labels : List E} {last : E}

theorem answersTo_snoc (labels : List E) :
    ∀ state, machine.answersTo visible (labels ++ [last]) state =
      machine.answersTo visible labels state ++
        if visible last then [machine.answer (labels.foldl machine.next state) last] else [] := by
  induction labels with
  | nil =>
      intro state
      rfl
  | cons label rest inductionHypothesis =>
      intro state
      rw [List.cons_append, answersTo, answersTo, inductionHypothesis, List.foldl_cons]
      split
      · rw [List.cons_append]
      · rfl

/-- Without the labels the machine ignores it goes through the same states. -/
theorem Ignores.foldl_filter (ignores : machine.Ignores visible) (labels : List E) :
    ∀ state, (labels.filter visible).foldl machine.next state =
      labels.foldl machine.next state := by
  induction labels with
  | nil =>
      intro state
      rfl
  | cons label rest inductionHypothesis =>
      intro state
      cases seen : visible label with
      | true =>
          rw [List.filter_cons_of_pos seen, List.foldl_cons, List.foldl_cons, inductionHypothesis]
      | false =>
          rw [List.filter_cons_of_neg (by simp [seen]), List.foldl_cons, ignores _ _ seen,
            inductionHypothesis]

/-- And it gives the same answers to the others. -/
theorem Ignores.answersTo_filter (ignores : machine.Ignores visible) (labels : List E) :
    ∀ state, machine.answersTo visible (labels.filter visible) state =
      machine.answersTo visible labels state := by
  induction labels with
  | nil =>
      intro state
      rfl
  | cons label rest inductionHypothesis =>
      intro state
      cases seen : visible label with
      | true =>
          rw [List.filter_cons_of_pos seen, answersTo, answersTo, if_pos seen, if_pos seen,
            inductionHypothesis]
      | false =>
          rw [List.filter_cons_of_neg (by simp [seen]), answersTo, if_neg (by simp [seen]),
            ignores _ _ seen, inductionHypothesis]

end Machine

variable {S V E O : Type}

/-- Seen through `view`, every step of the system is one of the machine, and `output`
is what the machine answers. -/
structure Refines (step : S → E → S → Prop) (output : S → E → O) (view : S → V)
    (machine : Machine V E O) : Prop where
  next : ∀ {state label after}, step state label after →
    view after = machine.next (view state) label
  answer : ∀ state label, output state label = machine.answer (view state) label

/-- What a run returns at the labels that satisfy `visible`. -/
def outputs (output : S → E → O) (visible : E → Bool) (history : List (S × E)) : List O :=
  (history.filter fun taken => visible taken.2).map fun taken => output taken.1 taken.2

theorem outputs_snoc {output : S → E → O} {visible : E → Bool} {history : List (S × E)}
    {state : S} {label : E} :
    outputs output visible (history ++ [(state, label)]) =
      outputs output visible history ++ if visible label then [output state label] else [] := by
  unfold outputs
  rw [List.filter_append, List.map_append]
  cases seen : visible label with
  | true => simp [seen]
  | false => simp [seen]

variable {step : S → E → S → Prop} {output : S → E → O} {view : S → V} {machine : Machine V E O}
  {visible : E → Bool} {start final other otherFinal : S} {history otherHistory : List (S × E)}

/-- A run of the system is a run of the machine. -/
theorem Refines.run (refines : Refines step output view machine)
    (run : Run step start history final) :
    view final = (history.map Prod.snd).foldl machine.next (view start) ∧
      ∀ visible, outputs output visible history =
        machine.answersTo visible (history.map Prod.snd) (view start) := by
  induction run with
  | nil => exact ⟨rfl, fun _ => rfl⟩
  | snoc _ last inductionHypothesis =>
      obtain ⟨same, answers⟩ := inductionHypothesis
      rw [List.map_append, List.map_cons, List.map_nil, List.foldl_append, ← same]
      refine ⟨refines.next last, fun visible => ?_⟩
      rw [outputs_snoc, answers, Machine.answersTo_snoc, ← same, refines.answer]

/-- Two runs from states that look alike, with the same visible labels, end in states
that look alike and return the same at the visible labels. -/
theorem Refines.noninterference (refines : Refines step output view machine)
    (ignores : machine.Ignores visible) (run : Run step start history final)
    (otherRun : Run step other otherHistory otherFinal) (alike : view start = view other)
    (same : (history.map Prod.snd).filter visible = (otherHistory.map Prod.snd).filter visible) :
    view final = view otherFinal ∧
      outputs output visible history = outputs output visible otherHistory := by
  obtain ⟨ends, answers⟩ := refines.run run
  obtain ⟨otherEnds, otherAnswers⟩ := refines.run otherRun
  constructor
  · rw [ends, otherEnds, ← ignores.foldl_filter, same, ignores.foldl_filter, alike]
  · rw [answers, otherAnswers, ← ignores.answersTo_filter, same, ignores.answersTo_filter, alike]

/-! ## Two runs side by side -/

/-- The conditions, one step each, under which two runs stay related: a step that is not
visible may be taken on one side alone, and two visible steps that are `seen` alike keep
the relation when both are taken, and return the same. -/
structure Unwinds (step : S → E → S → Prop) (allowed : S → E → Prop) (related : S → S → Prop)
    (visible : E → Bool) {P : Type} (seen : S → E → P) (output : S → E → O) : Prop where
  symm : ∀ {left right}, related left right → related right left
  hidden : ∀ {left right label next}, related left right → allowed left label →
    visible label = false → step left label next → related next right
  together : ∀ {left right label next other otherNext}, related left right →
    allowed left label → allowed right other → visible label = true → visible other = true →
    seen left label = seen right other → step left label next → step right other otherNext →
    related next otherNext ∧ output left label = output right other

namespace Unwinds

variable {P : Type} {allowed : S → E → Prop} {related : S → S → Prop} {seen : S → E → P}

/-- Steps that are not visible, taken on the right alone. -/
private theorem alone (unwinds : Unwinds step allowed related visible seen output)
    (begun : related final other) (otherRun : Run step other otherHistory otherFinal)
    (met : ∀ taken ∈ otherHistory, allowed taken.1 taken.2)
    (none : outputs seen visible otherHistory = []) :
    related final otherFinal ∧ outputs output visible otherHistory = [] := by
  induction otherRun with
  | nil => exact ⟨begun, rfl⟩
  | @snoc earlier state next label _ last inductionHypothesis =>
      rw [outputs_snoc] at none ⊢
      obtain ⟨earlierNone, lastNone⟩ := List.append_eq_nil_iff.mp none
      obtain ⟨alike, quiet⟩ := inductionHypothesis
        (fun taken member => met taken (List.mem_append_left _ member)) earlierNone
      have here := met (state, label) (List.mem_append_right _ (List.mem_singleton.mpr rfl))
      cases shown : visible label with
      | true =>
          rw [shown] at lastNone
          exact absurd lastNone (by simp)
      | false =>
          rw [quiet]
          exact ⟨unwinds.symm (unwinds.hidden (unwinds.symm alike) here shown last), rfl⟩

/-- Two runs from related states, whose visible steps are seen alike, end in related
states and return the same at their visible steps. -/
theorem noninterference (unwinds : Unwinds step allowed related visible seen output)
    (run : Run step start history final) (alike : related start other)
    (otherRun : Run step other otherHistory otherFinal)
    (met : ∀ taken ∈ history, allowed taken.1 taken.2)
    (otherMet : ∀ taken ∈ otherHistory, allowed taken.1 taken.2)
    (same : outputs seen visible history = outputs seen visible otherHistory) :
    related final otherFinal ∧
      outputs output visible history = outputs output visible otherHistory := by
  induction run generalizing otherHistory otherFinal with
  | nil =>
      obtain ⟨still, quiet⟩ := unwinds.alone alike otherRun otherMet same.symm
      exact ⟨still, quiet.symm⟩
  | @snoc earlier state next label _ last inductionHypothesis =>
      have earlierMet := fun taken member => met taken (List.mem_append_left _ member)
      have here := met (state, label) (List.mem_append_right _ (List.mem_singleton.mpr rfl))
      rw [outputs_snoc] at same ⊢
      cases shown : visible label with
      | false =>
          rw [shown, if_neg Bool.false_ne_true, List.append_nil] at same
          obtain ⟨still, answers⟩ := inductionHypothesis otherRun earlierMet otherMet same
          rw [if_neg Bool.false_ne_true, List.append_nil]
          exact ⟨unwinds.hidden still here shown last, answers⟩
      | true =>
          rw [shown, if_pos rfl] at same
          rw [if_pos rfl]
          -- The matching step of the other run is its last visible one.
          induction otherRun with
          | nil => exact absurd same (by simp [outputs])
          | @snoc otherEarlier otherState otherNext otherLabel otherBefore otherLast
              otherHypothesis =>
              have otherEarlierMet :=
                fun taken member => otherMet taken (List.mem_append_left _ member)
              have otherHere := otherMet (otherState, otherLabel)
                (List.mem_append_right _ (List.mem_singleton.mpr rfl))
              rw [outputs_snoc] at same ⊢
              cases otherShown : visible otherLabel with
              | false =>
                  rw [otherShown, if_neg Bool.false_ne_true, List.append_nil] at same
                  rw [if_neg Bool.false_ne_true, List.append_nil]
                  obtain ⟨still, answers⟩ := otherHypothesis otherEarlierMet same
                  exact ⟨unwinds.symm
                    (unwinds.hidden (unwinds.symm still) otherHere otherShown otherLast), answers⟩
              | true =>
                  rw [otherShown, if_pos rfl] at same
                  rw [if_pos rfl]
                  obtain ⟨before, both⟩ := List.append_inj' same rfl
                  obtain ⟨still, answers⟩ :=
                    inductionHypothesis otherBefore earlierMet otherEarlierMet before
                  obtain ⟨together, returned⟩ := unwinds.together still here otherHere shown
                    otherShown (List.singleton_inj.mp both) last otherLast
                  exact ⟨together, by rw [answers, returned]⟩

end Unwinds

end Foundation
