import CongestionFabric.Engine.Finality
import CongestionFabric.Persistence.Loaded

/-!
Contract: flows whose owner is gone.

Owns the statements about the flows that a fence or a recovery takes from their
owner, in every state an engine reaches, loads included: nothing is accounted to
them any more, and nothing finishes them.

The transition table lets a flow that awaits revalidation be validated or
declared again, but no operation takes these two transitions.
-/

namespace CongestionFabric

open Foundation

variable {limits : EngineLimits} {history : List (Impl Binary64 × Event)}
  {continuation : List (Impl Binary64 × Label Binary64)} {state final : Impl Binary64}
  {now : UInt64} {op : Op Binary64} {id : FlowId} {flow : Flow Binary64}

/-! ## Nothing is accounted on behalf of the dead -/

/-- The operation takes flows from their owner. -/
def Op.abandons : Op Binary64 → Bool
  | .fenceWorker _ _ | .fenceSource _ _ | .recoverDynamicEvidence => true
  | _ => false

private theorem abandons_counters (abandons : op.abandons = true) :
    (flowAfter limits now op state id flow).counters = flow.counters := by
  have fence : ∀ owned, (flow.fence owned).counters = flow.counters := by
    intro owned
    unfold Flow.fence
    split <;> rfl
  cases op with
  | fenceWorker worker deadBoot =>
      unfold flowAfter
      dsimp only
      split
      · exact fence _
      · rfl
  | fenceSource source deadBoot =>
      unfold flowAfter
      dsimp only
      split
      · exact fence _
      · rfl
  | recoverDynamicEvidence =>
      unfold flowAfter Flow.requireRevalidation
      dsimp only
      split <;> rfl
  | _ => exact absurd abandons Bool.false_ne_true

/-- From every reachable state: a flow that a fence or a recovery leaves STALE or
awaiting revalidation keeps its counters and stays in these two states, whatever
calls follow. -/
theorem abandoned_flow_frozen {abandoned : Flow Binary64}
    (reached : Run (FileStep limits) Impl.fresh history state) (abandons : op.abandons = true)
    (stored : state.flows.find? id = some flow)
    (made : (exec limits now op state).2.flows.find? id = some abandoned)
    (parked : abandoned.state = .stale ∨ abandoned.state = .revalidationRequired)
    (later : Run (Step limits) (exec limits now op state).2 continuation final) :
    ∃ after, final.flows.find? id = some after ∧ after.counters = flow.counters ∧
      (after.state = .stale ∨ after.state = .revalidationRequired) := by
  have found : (exec limits now op state).2.flows.find? id =
      some (flowAfter limits now op state id flow) := exec_flow stored
  obtain rfl := Option.some.inj (found.symm.trans made)
  have isParked : (flowAfter limits now op state id flow).state.isParked = true := by
    simpa [FlowState.isParked] using parked
  have sound := (Impl.WellAccounted.of_reached reached).exec limits now op
  obtain ⟨after, last, inherits⟩ := inherits_of_run sound made
    (FlowState.inert_of_isParked isParked) later
  refine ⟨after, last, inherits.counters.trans (abandons_counters abandons), ?_⟩
  rcases inherits.state with same | ⟨-, still⟩
  · rw [same]
    exact parked
  · simpa [FlowState.isParked] using still

private def declareAbandoned : List Event :=
  [.engine (.call 1 (.registerWorker ⟨1⟩ ⟨1⟩)), .engine (.call 1 (.registerSource ⟨1⟩ ⟨1⟩)),
    .engine (.call 1 (.createDomain DomainKind.nicTx {})),
    .engine (.call 2 (.declareFlow (.ofFirst 100)))]

private def declaredEngine : Impl Binary64 :=
  follow (fun state event => event.next {} state) declareAbandoned Impl.fresh

/-- The flow has completed 7 of its 100 bytes. -/
private def runningEngine : Impl Binary64 :=
  follow (fun state event => event.next {} state)
    (declareAbandoned ++ [.engine (.call 3 (.admitFlow ⟨⟨1⟩, ⟨1⟩⟩)),
      .engine (.call 4 (.startFlow ⟨⟨1⟩, ⟨1⟩⟩ ⟨1⟩)),
      .engine (.call 5 (.flowProgress ⟨⟨1⟩, ⟨1⟩⟩ ⟨1⟩ 7))]) Impl.fresh

/-- Every call of the owner, with the dead boot. -/
private def replayed : List (UInt64 × Op Binary64) :=
  [(7, .startFlow ⟨⟨1⟩, ⟨1⟩⟩ ⟨1⟩), (7, .flowProgress ⟨⟨1⟩, ⟨1⟩⟩ ⟨1⟩ 1),
    (7, .flowComplete ⟨⟨1⟩, ⟨1⟩⟩ ⟨1⟩), (7, .flowCancel ⟨⟨1⟩, ⟨1⟩⟩ ⟨1⟩ 1),
    (7, .flowFail ⟨⟨1⟩, ⟨1⟩⟩ ⟨1⟩), (7, .revalidateFlow ⟨⟨1⟩, ⟨1⟩⟩ ⟨1⟩),
    (8, .advanceFlowGeneration ⟨⟨1⟩, ⟨1⟩⟩ ⟨2⟩), (9, .startFlow ⟨⟨1⟩, ⟨2⟩⟩ ⟨1⟩)]

private theorem running_stored : (runningEngine.flows.find? ⟨1⟩).isSome = true := by
  decide +kernel

private theorem running_fenced :
    ((exec {} 6 (.fenceWorker ⟨1⟩ ⟨1⟩) runningEngine).2.flows.find? ⟨1⟩).isSome = true := by
  decide +kernel

theorem replayed_flow_frozen :
    ∃ after, (execAll {} replayed (exec {} 6 (.fenceWorker ⟨1⟩ ⟨1⟩) runningEngine).2).flows.find?
        ⟨1⟩ = some after ∧
      after.counters = ((runningEngine.flows.find? ⟨1⟩).get running_stored).counters ∧
      (after.state = .stale ∨ after.state = .revalidationRequired) :=
  abandoned_flow_frozen (run_follow (fileStep_next {}) _ Run.nil) rfl
    (Option.some_get running_stored).symm (Option.some_get running_fenced).symm
    (by decide +kernel) (run_execAll replayed Run.nil)

/-! ## Nothing finishes an abandoned flow -/

/-- Some continuation without files finishes the flow. -/
def Impl.CanFinish (limits : EngineLimits) (state : Impl Binary64) (id : FlowId) : Prop :=
  ∃ continuation final, Run (Step limits) state continuation final ∧
    ∃ flow, final.flows.find? id = some flow ∧
      (flow.state = .completed ∨ flow.state = .cancelled ∨ flow.state = .failed)

private theorem not_canFinish (sound : state.WellAccounted)
    (stored : state.flows.find? id = some flow) (inert : flow.state.live = false)
    (notTerminal : flow.isTerminal = false) : ¬state.CanFinish limits id := by
  rintro ⟨continuation, final, later, after, found, finished⟩
  obtain ⟨record, last, inherits⟩ := inherits_of_run sound stored inert later
  obtain rfl := Option.some.inj (found.symm.trans last)
  have terminal : after.state.isTerminal = true := by
    rcases finished with finished | finished | finished <;>
      simp [finished, FlowState.isTerminal]
  rcases inherits.state with same | ⟨-, parked⟩
  · rw [Flow.isTerminal, ← same, terminal] at notTerminal
    exact absurd notTerminal (by simp)
  · cases reached : after.state <;>
      simp_all [FlowState.isParked, FlowState.isTerminal]

/-- The owner of a live flow can cancel it. -/
private theorem canFinish_of_live (sound : state.WellAccounted)
    (stored : state.flows.find? id = some flow) (live : flow.state.live = true) :
    state.CanFinish limits id := by
  refine ⟨_, _, Run.nil.snoc (.call state 0 (.flowCancel ⟨id, flow.ref.generation⟩
    flow.ownerBoot 0)), _, exec_flow stored, Or.inr (Or.inl ?_)⟩
  simp only [flowAfter, EntityRef.names, and_self, if_true]
  rcases (sound id flow stored).cancel 0 flow.ownerBoot 0 with
    ⟨refused, -⟩ | ⟨-, -, cancelled, -, accepted⟩
  · exact absurd ⟨rfl, live⟩ refused
  · rw [accepted]

/-- From every reachable state, a flow that is not terminal can be finished
exactly if it is DECLARED, ADMITTED, QUEUED or ACTIVE. -/
theorem canFinish_iff_live (reached : Run (FileStep limits) Impl.fresh history state)
    (stored : state.flows.find? id = some flow) (notTerminal : flow.isTerminal = false) :
    state.CanFinish limits id ↔ flow.state.live = true := by
  have sound := Impl.WellAccounted.of_reached reached
  constructor
  · intro finishes
    cases live : flow.state.live with
    | true => rfl
    | false => exact absurd finishes (not_canFinish sound stored live notTerminal)
  · exact canFinish_of_live sound stored

private theorem declared_stored : (declaredEngine.flows.find? ⟨1⟩).isSome = true := by
  decide +kernel

theorem declaredEngine_canFinish : declaredEngine.CanFinish {} ⟨1⟩ :=
  (canFinish_iff_live (run_follow (fileStep_next {}) declareAbandoned Run.nil)
    (Option.some_get declared_stored).symm (by decide +kernel)).mpr (by decide +kernel)

private def fencedEngine : Impl Binary64 :=
  follow (fun state event => event.next {} state)
    (declareAbandoned ++ [.engine (.call 3 (.fenceWorker ⟨1⟩ ⟨1⟩))]) Impl.fresh

private theorem fenced_stored : (fencedEngine.flows.find? ⟨1⟩).isSome = true := by
  decide +kernel

/-- A flow made STALE by a fence is never finished. -/
theorem fencedEngine_stuck :
    ¬∀ (limits : EngineLimits) (history : List (Impl Binary64 × Event)) (state : Impl Binary64)
      (id : FlowId) (flow : Flow Binary64), Run (FileStep limits) Impl.fresh history state →
        state.flows.find? id = some flow → flow.isTerminal = false →
        state.CanFinish limits id := by
  intro always
  have reached : Run (FileStep {}) Impl.fresh _ fencedEngine :=
    run_follow (fileStep_next {}) _ Run.nil
  have stored := (Option.some_get fenced_stored).symm
  exact not_canFinish (Impl.WellAccounted.of_reached reached) stored (by decide +kernel)
    (by decide +kernel) (always {} _ _ ⟨1⟩ _ reached stored (by decide +kernel))

end CongestionFabric
