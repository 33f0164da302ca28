import Mathlib.Data.List.Induction

/-!
Contract: finite runs of a labelled transition system.

Owns:
- runs that record, for every step, the state it started from and its label;
- properties of every state along a run, with the history up to that state;
- the invariant rules: preservation by one step, preservation under a condition
  on the steps, and the rule that identifies a condition on the steps with a
  property of the states;
- the last step of a history that did a certain thing.

Does not own: any particular system, fairness, or infinite behaviour.
-/

namespace Foundation

variable {S E : Type}

/-- A run from `start`. The history lists, oldest first, the state in which
each step was taken together with its label. -/
inductive Run (step : S → E → S → Prop) (start : S) : List (S × E) → S → Prop
  | nil : Run step start [] start
  | snoc {history : List (S × E)} {state next : S} {label : E}
      (previous : Run step start history state) (last : step state label next) :
      Run step start (history ++ [(state, label)]) next

/-- `property` holds in every state of a run, the first and the last included,
of the history that led to that state. -/
def Throughout (history : List (S × E)) (final : S) (property : List (S × E) → S → Prop) : Prop :=
  (∀ before state label after, history = before ++ (state, label) :: after →
      property before state) ∧
    property history final

/-- `condition` holds of every step of a run: of the history that led to it, the
state it is taken in and its label. -/
def EveryStep (history : List (S × E)) (condition : List (S × E) → S → E → Prop) : Prop :=
  ∀ before state label after, history = before ++ (state, label) :: after →
    condition before state label

theorem everyStep_nil {condition : List (S × E) → S → E → Prop} : EveryStep [] condition := by
  intro before state label after split
  simp at split

/-- The steps of a longer run are those of the shorter one and the last. -/
theorem everyStep_snoc {history : List (S × E)} {state : S} {label : E}
    {condition : List (S × E) → S → E → Prop} :
    EveryStep (history ++ [(state, label)]) condition ↔
      EveryStep history condition ∧ condition history state label := by
  refine ⟨fun all => ⟨?_, ?_⟩, fun all => ?_⟩
  · intro before earlier earlierLabel after split
    exact all before earlier earlierLabel (after ++ [(state, label)]) (by simp [split])
  · exact all history state label [] rfl
  · intro before earlier earlierLabel after split
    rcases List.eq_nil_or_concat after with empty | ⟨rest, last, afterEq⟩
    · subst empty
      obtain ⟨same, lastSame⟩ := List.append_inj' split rfl
      obtain ⟨rfl, rfl⟩ := Prod.mk.inj (List.cons.inj lastSame).1
      exact same ▸ all.2
    · rw [List.concat_eq_append] at afterEq
      subst afterEq
      rw [← List.cons_append, ← List.append_assoc] at split
      exact all.1 before earlier earlierLabel rest (List.append_inj' split rfl).1

/-- Whether all steps meet a decidable condition can be computed. -/
theorem everyStep_iff_take {history : List (S × E)} {condition : List (S × E) → S → E → Prop} :
    EveryStep history condition ↔
      ∀ index : Fin history.length,
        condition (history.take index) history[index].1 history[index].2 := by
  constructor
  · intro all index
    apply all _ _ _ (history.drop (index + 1))
    have split := (List.take_append_drop index history).symm
    rwa [List.drop_eq_getElem_cons index.isLt] at split
  · intro all before state label after split
    have located := all ⟨before.length, by simp [split]⟩
    simpa [split] using located

instance {history : List (S × E)} {condition : List (S × E) → S → E → Prop}
    [∀ before state label, Decidable (condition before state label)] :
    Decidable (EveryStep history condition) :=
  decidable_of_iff _ everyStep_iff_take.symm

instance {history : List (S × E)} {final : S} {property : List (S × E) → S → Prop}
    [∀ before state, Decidable (property before state)] :
    Decidable (Throughout history final property) :=
  inferInstanceAs (Decidable
    (EveryStep history (fun before state _ => property before state) ∧ property history final))

theorem throughout_nil {final : S} {property : List (S × E) → S → Prop} :
    Throughout [] final property ↔ property [] final := by
  simp [Throughout]

/-- The states of a longer run are those of the shorter one and the last. -/
theorem throughout_snoc {history : List (S × E)} {state next : S} {label : E}
    {property : List (S × E) → S → Prop} :
    Throughout (history ++ [(state, label)]) next property ↔
      Throughout history state property ∧ property (history ++ [(state, label)]) next :=
  and_congr_left fun _ =>
    (everyStep_snoc : EveryStep (history ++ [(state, label)])
      (fun before state _ => property before state) ↔ _)

/-- What follows from a property in every state holds throughout with it. -/
theorem Throughout.mono {history : List (S × E)} {final : S}
    {property weaker : List (S × E) → S → Prop} (holds : Throughout history final property)
    (follows : ∀ before state, property before state → weaker before state) :
    Throughout history final weaker :=
  ⟨fun before state label after split =>
      follows before state (holds.1 before state label after split),
    follows history final holds.2⟩

/-- Two properties that say the same of every state with a third one, which holds
throughout, hold throughout together. -/
theorem Throughout.congr {history : List (S × E)} {final : S}
    {inv property other : List (S × E) → S → Prop} (holds : Throughout history final inv)
    (same : ∀ before state, inv before state → (property before state ↔ other before state)) :
    Throughout history final property ↔ Throughout history final other := by
  constructor
  · intro first
    exact ⟨fun before state label after split =>
        (same before state (holds.1 before state label after split)).mp
          (first.1 before state label after split),
      (same history final holds.2).mp first.2⟩
  · intro second
    exact ⟨fun before state label after split =>
        (same before state (holds.1 before state label after split)).mpr
          (second.1 before state label after split),
      (same history final holds.2).mpr second.2⟩

namespace Run

variable {step : S → E → S → Prop} {start final : S} {history : List (S × E)}

/-- Safety: what holds first and survives every step holds last. -/
theorem invariant (run : Run step start history final) (property : S → Prop)
    (initial : property start)
    (preserved : ∀ {state label next}, property state → step state label next → property next) :
    property final := by
  induction run with
  | nil => exact initial
  | snoc _ last inductionHypothesis => exact preserved inductionHypothesis last

/-- The same for every state on the way and a property that looks at the history. -/
theorem throughout_invariant (run : Run step start history final)
    (property : List (S × E) → S → Prop) (initial : property [] start)
    (preserved : ∀ {history state label next}, property history state → step state label next →
      property (history ++ [(state, label)]) next) :
    Throughout history final property := by
  induction run with
  | nil => exact throughout_nil.mpr initial
  | snoc previous last inductionHypothesis =>
      exact throughout_snoc.mpr ⟨inductionHypothesis, preserved inductionHypothesis.2 last⟩

/-- Safety under a condition on the steps taken, where property and condition
look at the history. -/
theorem invariant_of_everyStep {condition : List (S × E) → S → E → Prop}
    (run : Run step start history final) (property : List (S × E) → S → Prop)
    (initial : property [] start)
    (preserved : ∀ {history state label next}, property history state →
      condition history state label → step state label next →
        property (history ++ [(state, label)]) next)
    (met : EveryStep history condition) : property history final := by
  induction run with
  | nil => exact initial
  | snoc _ last inductionHypothesis =>
      obtain ⟨earlier, here⟩ := everyStep_snoc.mp met
      exact preserved (inductionHypothesis earlier) here last

/-- The same for every state on the way. -/
theorem throughout_of_everyStep {condition : List (S × E) → S → E → Prop}
    (run : Run step start history final) (property : List (S × E) → S → Prop)
    (initial : property [] start)
    (preserved : ∀ {history state label next}, property history state →
      condition history state label → step state label next →
        property (history ++ [(state, label)]) next)
    (met : EveryStep history condition) : Throughout history final property := by
  induction run with
  | nil => exact throughout_nil.mpr initial
  | snoc _ last inductionHypothesis =>
      obtain ⟨earlier, here⟩ := everyStep_snoc.mp met
      have throughout := inductionHypothesis earlier
      exact throughout_snoc.mpr ⟨throughout, preserved throughout.2 here last⟩

/-- When one step keeps a property exactly if it meets a condition, the property
holds at the start and all steps of a run meet the condition exactly if the
property holds throughout. Both may look at the history. -/
theorem everyStep_iff_throughout {property : List (S × E) → S → Prop}
    {condition : List (S × E) → S → E → Prop} (run : Run step start history final)
    (exact_step : ∀ {history state label next}, property history state →
      step state label next →
        (condition history state label ↔ property (history ++ [(state, label)]) next)) :
    property [] start ∧ EveryStep history condition ↔ Throughout history final property := by
  induction run with
  | nil => rw [throughout_nil, and_iff_left everyStep_nil]
  | snoc previous last inductionHypothesis =>
      rw [throughout_snoc, everyStep_snoc, ← and_assoc, inductionHypothesis]
      exact and_congr_right fun throughout => exact_step throughout.2 last

/-- When a condition on the steps keeps an invariant, and among states that
satisfy it the condition says of a step what another does, all steps of a run
meet the one exactly if they all meet the other. -/
theorem everyStep_iff_everyStep {condition property : List (S × E) → S → E → Prop}
    (run : Run step start history final) (inv : S → Prop) (initial : inv start)
    (preserved : ∀ {history state label next}, inv state → condition history state label →
      step state label next → inv next)
    (exact_step : ∀ {history state label next}, inv state → step state label next →
      (condition history state label ↔ property history state label)) :
    EveryStep history condition ↔ EveryStep history property := by
  have both : (EveryStep history condition ↔ EveryStep history property) ∧
      (EveryStep history condition → inv final) := by
    induction run with
    | nil => exact ⟨iff_of_true everyStep_nil everyStep_nil, fun _ => initial⟩
    | snoc previous last inductionHypothesis =>
        obtain ⟨same, kept⟩ := inductionHypothesis
        refine ⟨?_, fun met => ?_⟩
        · rw [everyStep_snoc, everyStep_snoc, ← same]
          exact and_congr_right fun met => exact_step (kept met) last
        · obtain ⟨earlier, here⟩ := everyStep_snoc.mp met
          exact preserved (kept earlier) here last
  exact both.1

/-- When, among states that satisfy an invariant, one step keeps a property
exactly if it meets a condition, the steps of a run all meet the condition
exactly if the property holds throughout. -/
theorem forall_iff_throughout {property : S → Prop} (run : Run step start history final)
    (inv : S → Prop) (condition : S → E → Prop) (initial : inv start) (holds : property start)
    (preserved : ∀ {state label next}, inv state → step state label next → inv next)
    (exact_step : ∀ {state label next}, inv state → property state → step state label next →
      (condition state label ↔ property next)) :
    (∀ taken ∈ history, condition taken.1 taken.2) ↔
      Throughout history final fun _ state => property state := by
  induction run with
  | nil => simpa [throughout_nil] using holds
  | @snoc history state next label previous last inductionHypothesis =>
      have kept := previous.invariant inv initial preserved
      rw [throughout_snoc, ← inductionHypothesis]
      simp only [List.mem_append, List.mem_singleton, or_imp, forall_and, forall_eq]
      refine and_congr_right fun met => ?_
      exact exact_step kept (inductionHypothesis.mp met).2 last

end Run

/-! ## The last step of a kind -/

section LastAct

variable {A : Type} {act : S → E → Option A} {history : List (S × E)} {state : S} {label : E}
  {value : A}

/-- What the last step of a history did that did something. -/
def lastAct (act : S → E → Option A) (history : List (S × E)) : Option A :=
  (history.filterMap fun taken => act taken.1 taken.2).getLast?

theorem lastAct_nil : lastAct act [] = none := rfl

theorem lastAct_snoc :
    lastAct act (history ++ [(state, label)]) = (act state label).or (lastAct act history) := by
  unfold lastAct
  rw [List.filterMap_append]
  cases did : act state label with
  | none => simp [did]
  | some value => simp [did]

/-- The history splits at the last step that did something. -/
theorem exists_of_lastAct_eq_some (last : lastAct act history = some value) :
    ∃ before state label after, history = before ++ (state, label) :: after ∧
      act state label = some value ∧ ∀ taken ∈ after, act taken.1 taken.2 = none := by
  induction history using List.reverseRecOn with
  | nil => exact absurd last (by simp [lastAct_nil])
  | append_singleton earlier taken inductionHypothesis =>
      obtain ⟨state, label⟩ := taken
      rw [lastAct_snoc] at last
      cases did : act state label with
      | some found =>
          rw [did, Option.some_or] at last
          exact ⟨earlier, state, label, [], rfl, did.trans last, by simp⟩
      | none =>
          rw [did, Option.none_or] at last
          obtain ⟨before, atState, atLabel, after, rfl, here, quiet⟩ := inductionHypothesis last
          refine ⟨before, atState, atLabel, after ++ [(state, label)], by simp, here, ?_⟩
          intro taken member
          rcases List.mem_append.mp member with inside | isLast
          · exact quiet taken inside
          · rw [List.mem_singleton.mp isLast]
            exact did

end LastAct

/-! ## Runs that follow a chosen successor -/

/-- The state that a list of labels leads to, where every label has a chosen
successor. -/
def follow (next : S → E → S) : List E → S → S
  | [], state => state
  | label :: rest, state => follow next rest (next state label)

/-- The states in which the labels are taken. -/
def followed (next : S → E → S) : List E → S → List (S × E)
  | [], _ => []
  | label :: rest, state => (state, label) :: followed next rest (next state label)

theorem run_follow {step : S → E → S → Prop} {next : S → E → S} {start : S}
    (chosen : ∀ state label, step state label (next state label)) (labels : List E) :
    ∀ {history : List (S × E)} {state : S}, Run step start history state →
      Run step start (history ++ followed next labels state) (follow next labels state) := by
  induction labels with
  | nil =>
      intro history state run
      rw [followed, List.append_nil]
      exact run
  | cons label rest inductionHypothesis =>
      intro history state run
      have longer := inductionHypothesis (run.snoc (chosen state label))
      rw [List.append_assoc] at longer
      exact longer

end Foundation
