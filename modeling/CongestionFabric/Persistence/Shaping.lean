import CongestionFabric.Engine.Advice
import CongestionFabric.Engine.DomainEffect
import CongestionFabric.Persistence.Snapshot

/-!
Contract: applications of shaping actions, in any order and any number of times.

Owns the statement that an application moves the generation of the domain forward and
that an action which is not newer is refused, the applications of actions that are not
newer, and the theorem that the statement holds of every application of a run exactly
if the run has none of these.

`apply_local_shaping` stores the generation of the action without a look at the one of
the domain.
-/

namespace CongestionFabric

open Foundation

section Engine

variable {R : Type} [Arithmetic R] {limits : EngineLimits} {now : UInt64} {state : Impl R}
  {id : CongestionDomainId} {domain : CongestionDomain R} {action : BackpressureAction R}

/-- The action is not newer than the generation of the domain. -/
def BackpressureAction.notNewer (action : BackpressureAction R) (domain : CongestionDomain R) :
    Bool :=
  action.generation.value ≤ domain.backpressureGeneration.value

/-- The operation is no application of an action to a domain, or the application is in
order: a restrictive action that is accepted moves the generation of the domain
forward; an action that is not newer leaves the domain unchanged, and a restrictive one
is refused. -/
def Op.ShapesInOrder (limits : EngineLimits) (now : UInt64) (state : Impl R) (op : Op R) : Prop :=
  ∀ id action domain, op = .applyLocalShaping id action → state.domains.find? id = some domain →
    (intentIsRestrictive action.intent = true → (exec limits now op state).1 = .verdict true →
      ∃ after, (exec limits now op state).2.domains.find? id = some after ∧
        domain.backpressureGeneration.value < after.backpressureGeneration.value) ∧
    (action.notNewer domain = true →
      (exec limits now op state).2.domains.find? id = some domain ∧
        (intentIsRestrictive action.intent = true →
          (exec limits now op state).1 = .verdict false))

/-- The operation applies a valid restrictive action to a domain that has its
generation or a later one. -/
def Op.replays (state : Impl R) : Op R → Bool
  | .applyLocalShaping id action =>
      action.valid && intentIsRestrictive action.intent &&
        (state.domains.find? id).any fun domain => action.notNewer domain
  | _ => false

private theorem shapesInOrder_iff {op : Op R} :
    op.replays state = false ↔ op.ShapesInOrder limits now state := by
  have result : ∀ id action, (exec limits now (.applyLocalShaping id action) state).1 =
      .verdict (state.applyLocalShaping id action).1 := fun _ _ => rfl
  have after : ∀ id action, (exec limits now (.applyLocalShaping id action) state).2 =
      (state.applyLocalShaping id action).2 := fun _ _ => rfl
  constructor
  · intro newer id action domain applies stored
    subst applies
    rw [result, after]
    rcases Impl.applyLocalShaping_cases stored with ⟨-, refused⟩ | ⟨-, harmless, ignored⟩ |
      ⟨valid, restrictive, -, applied⟩
    · rw [refused]
      exact ⟨fun _ accepted => absurd accepted (by simp), fun _ => ⟨stored, fun _ => rfl⟩⟩
    · rw [ignored, harmless]
      exact ⟨fun impossible => absurd impossible (by simp),
        fun _ => ⟨stored, fun impossible => absurd impossible (by simp)⟩⟩
    · have forward : action.notNewer domain = false := by
        simpa only [Op.replays, valid, restrictive, stored, Bool.true_and, Option.any_some]
          using newer
      refine ⟨fun _ _ => ⟨_, applied, ?_⟩, fun notNewer => ?_⟩
      · exact UInt64.not_le.mp (of_decide_eq_false forward)
      · exact absurd (forward.symm.trans notNewer) (by simp)
  · intro inOrder
    cases op with
    | applyLocalShaping id action =>
        simp only [Op.replays]
        rw [← Bool.not_eq_true, Bool.and_eq_true, Bool.and_eq_true, Option.any_eq_true]
        rintro ⟨⟨valid, restrictive⟩, domain, stored, notNewer⟩
        have refused := ((inOrder id action domain rfl stored).2 notNewer).2 restrictive
        rw [result] at refused
        rcases Impl.applyLocalShaping_cases stored with ⟨invalid, -⟩ | ⟨-, harmless, -⟩ |
          ⟨-, -, accepted, -⟩
        · exact absurd (invalid.symm.trans valid) (by simp)
        · exact absurd (harmless.symm.trans restrictive) (by simp)
        · rw [accepted] at refused
          exact absurd (Result.verdict.inj refused) (by simp)
    | _ => rfl

end Engine

/-! ## Runs -/

/-- The event is no application, or one that is in order. A load replaces the domains
with their generations. -/
def Event.ShapesInOrder (limits : EngineLimits) (state : Impl Binary64) : Event → Prop
  | .engine (.call now op) => op.ShapesInOrder limits now state
  | _ => True

/-- The event applies a valid restrictive action that is not newer. -/
def Event.replays (state : Impl Binary64) : Event → Bool
  | .engine (.call _ op) => op.replays state
  | _ => false

/-- Along every run, whatever actions callers keep, reorder and repeat: every
application is in order exactly if no valid restrictive action is applied to a domain
that has its generation or a later one. -/
theorem shapesInOrder_everyStep_iff {limits : EngineLimits}
    {history : List (Impl Binary64 × Event)} {final : Impl Binary64}
    (run : Run (FileStep limits) Impl.fresh history final) :
    EveryStep history (fun _ state event => event.replays state = false) ↔
      EveryStep history fun _ state event => event.ShapesInOrder limits state := by
  apply run.everyStep_iff_everyStep (fun _ => True) trivial
  · exact fun _ _ _ => trivial
  · intro _ state event _ _ _
    match event with
    | .load file => exact iff_of_true rfl trivial
    | .engine .rehash => exact iff_of_true rfl trivial
    | .engine (.call now op) => exact shapesInOrder_iff

/-- A domain whose offered load exceeds its capacity. -/
private def congests : List Event :=
  [.engine (.call 1 (.createDomain DomainKind.nicTx (.ofTheoretical 1000.0))),
    .engine (.call 2 (.publishMeasurement ⟨1⟩
      { kind := MeasurementKind.offeredBytesPerSec, value := 2000.0 } ⟨0⟩ ⟨0⟩)),
    .engine (.call 3 (.recomputeDomain ⟨1⟩))]

/-- What `eval_backpressure` advises for it. -/
private def advised : BackpressureAction Binary64 :=
  (follow (fun state event => event.next {} state) congests Impl.fresh).evalBackpressure
    Binary64.toDecimal ⟨1⟩

/-- The action is applied once. -/
private def shapesOnce : List Event :=
  congests ++ [.engine (.call 4 (.applyLocalShaping ⟨1⟩ advised))]

theorem shapesOnce_inOrder :
    EveryStep ([] ++ followed (fun state event => event.next {} state) shapesOnce Impl.fresh)
      fun _ state event => event.ShapesInOrder {} state :=
  (shapesInOrder_everyStep_iff (run_follow (fileStep_next {}) shapesOnce Run.nil)).mp
    (by decide +kernel)

/-- A caller that kept the action applies it again, and is accepted. -/
theorem shapesOnce_replayed :
    ¬∀ (limits : EngineLimits) (history : List (Impl Binary64 × Event)) (state : Impl Binary64)
      (event : Event), Run (FileStep limits) Impl.fresh history state →
        event.ShapesInOrder limits state := by
  intro always
  have inOrder : Op.ShapesInOrder {} 5 _ (.applyLocalShaping ⟨1⟩ advised) :=
    always {} _ _ (.engine (.call 5 (.applyLocalShaping ⟨1⟩ advised)))
      (run_follow (fileStep_next {}) shapesOnce Run.nil)
  exact absurd (shapesInOrder_iff.mpr inOrder) (by decide +kernel)

end CongestionFabric
