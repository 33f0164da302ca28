import CongestionFabric.Engine.Assessment
import CongestionFabric.Engine.Authority
import CongestionFabric.Foundation.Run

/-!
Contract: the engine as a transition system over its public mutating operations.

Owns the operations with their results, one execution function, and the step
relation (an operation at some clock reading, or a change of enumeration order).

Does not own: `load`, which needs the codec, the operations that only read, and
what an operation does to the parts of the state.
-/

namespace CongestionFabric

open Foundation

variable {R : Type} [Arithmetic R]

/-! ## Operations and results -/

/-- The public mutating operations, with their arguments. -/
inductive Op (R : Type) [Arithmetic R] where
  | advanceEpoch (next : CoordinatorEpoch)
  | registerWorker (worker : WorkerId) (boot : WorkerBootId)
  | registerSource (source : SourceId) (boot : SourceBootId)
  | fenceWorker (worker : WorkerId) (deadBoot : WorkerBootId)
  | fenceSource (source : SourceId) (deadBoot : SourceBootId)
  | createDomain (kind : Enum8 DomainKind) (capacity : CapacityProfile R)
  | removeDomain (id : CongestionDomainId)
  | declareFlow (options : FlowOptions R)
  | admitFlow (ref : EntityRef FlowTag)
  | queueFlow (ref : EntityRef FlowTag)
  | startFlow (ref : EntityRef FlowTag) (boot : WorkerBootId)
  | flowProgress (ref : EntityRef FlowTag) (boot : WorkerBootId) (completedDelta : UInt64)
  | flowComplete (ref : EntityRef FlowTag) (boot : WorkerBootId)
  | flowCancel (ref : EntityRef FlowTag) (boot : WorkerBootId) (cancelledSoFar : UInt64)
  | flowFail (ref : EntityRef FlowTag) (boot : WorkerBootId)
  | advanceFlowGeneration (ref : EntityRef FlowTag) (next : FlowGeneration)
  | revalidateFlow (ref : EntityRef FlowTag) (boot : WorkerBootId)
  | publishMeasurement (domain : CongestionDomainId) (measurement : Measurement R)
      (owner : WorkerId) (ownerBoot : WorkerBootId)
  | recomputeDomain (id : CongestionDomainId)
  | applyLocalShaping (id : CongestionDomainId) (action : BackpressureAction R)
  | recoverDynamicEvidence

/-- What an operation returns. -/
inductive Result (R : Type) [Arithmetic R] where
  | verdict (accepted : Bool)
  | domainRef (ref : EntityRef CongestionDomainTag)
  | flowRef (ref : EntityRef FlowTag)
  | assessment (assessment : CongestionAssessment R)
  | nothing

/-- The result reports failure: `false`, or a reference that is not valid. -/
def Result.failed : Result R → Bool
  | .verdict accepted => !accepted
  | .domainRef ref => !ref.id.isValid
  | .flowRef ref => !ref.id.isValid
  | .assessment _ | .nothing => false

/-- Run one operation at a clock reading. -/
def exec (limits : EngineLimits) (now : UInt64) (op : Op R) (state : Impl R) :
    Result R × Impl R :=
  match op with
  | .advanceEpoch next => (state.advanceEpoch next).map .verdict id
  | .registerWorker worker boot => (state.registerWorker worker boot).map .verdict id
  | .registerSource source boot => (state.registerSource source boot).map .verdict id
  | .fenceWorker worker deadBoot => (state.fenceWorker worker deadBoot).map .verdict id
  | .fenceSource source deadBoot => (state.fenceSource source deadBoot).map .verdict id
  | .createDomain kind capacity => (state.createDomain limits kind capacity).map .domainRef id
  | .removeDomain domain => (state.removeDomain domain).map .verdict id
  | .declareFlow options => (state.declareFlow limits now options).map .flowRef id
  | .admitFlow ref => (state.admitFlow ref).map .verdict id
  | .queueFlow ref => (state.queueFlow limits ref).map .verdict id
  | .startFlow ref boot => (state.startFlow now ref boot).map .verdict id
  | .flowProgress ref boot delta => (state.flowProgress now ref boot delta).map .verdict id
  | .flowComplete ref boot => (state.flowComplete now ref boot).map .verdict id
  | .flowCancel ref boot soFar => (state.flowCancel now ref boot soFar).map .verdict id
  | .flowFail ref boot => (state.flowFail now ref boot).map .verdict id
  | .advanceFlowGeneration ref next => (state.advanceFlowGeneration ref next).map .verdict id
  | .revalidateFlow ref boot => (state.revalidateFlow ref boot).map .verdict id
  | .publishMeasurement domain measurement owner ownerBoot =>
      (state.publishMeasurement domain measurement owner ownerBoot).map .verdict id
  | .recomputeDomain domain => (state.recomputeDomain limits now domain).map .assessment id
  | .applyLocalShaping domain action => (state.applyLocalShaping domain action).map .verdict id
  | .recoverDynamicEvidence => (.nothing, state.recoverDynamicEvidence)

/-! ## Steps -/

/-- One step of the engine: a call at a clock reading, or a container that
rehashes and from then on enumerates its entries in another order. -/
inductive Label (R : Type) [Arithmetic R] where
  | call (now : UInt64) (op : Op R)
  | rehash

inductive Step (limits : EngineLimits) : Impl R → Label R → Impl R → Prop
  | call (state : Impl R) (now : UInt64) (op : Op R) :
      Step limits state (.call now op) (exec limits now op state).2
  | rehash {state next : Impl R} (same : state.Reordered next) :
      Step limits state .rehash next

/-- A sequence of calls, each with its clock reading. -/
def execAll (limits : EngineLimits) : List (UInt64 × Op R) → Impl R → Impl R
  | [], state => state
  | (now, op) :: rest, state => execAll limits rest (exec limits now op state).2

/-- The states in which the calls of a sequence are made, with their labels. -/
def trace (limits : EngineLimits) : List (UInt64 × Op R) → Impl R → List (Impl R × Label R)
  | [], _ => []
  | (now, op) :: rest, state =>
      (state, .call now op) :: trace limits rest (exec limits now op state).2

/-- A sequence of calls is a run. -/
theorem run_execAll {limits : EngineLimits} {start : Impl R} (calls : List (UInt64 × Op R)) :
    ∀ {history : List (Impl R × Label R)} {state : Impl R},
      Run (Step limits) start history state →
        Run (Step limits) start (history ++ trace limits calls state)
          (execAll limits calls state) := by
  induction calls with
  | nil =>
      intro history state run
      rw [trace, List.append_nil]
      exact run
  | cons head tail inductionHypothesis =>
      intro history state run
      have longer := inductionHypothesis (run.snoc (Step.call state head.1 head.2))
      rw [List.append_assoc] at longer
      exact longer

end CongestionFabric
