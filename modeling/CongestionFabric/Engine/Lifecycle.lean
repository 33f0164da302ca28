import CongestionFabric.Engine.State

/-!
Contract: the guarded flow lifecycle (`declare_flow` to `revalidate_flow` of
`engine.cpp`).

Owns, for every operation, the body that runs on the flow's own record and the
operation on the engine. A body returns its verdict together with the record as
the source leaves it, so writes made before a late refusal stay visible.

Does not own: what the bodies preserve.
-/

namespace CongestionFabric

open Foundation

variable {R : Type} [Arithmetic R]

/-! ## Bodies on one flow record -/

namespace Flow

/-- The record `declare_flow` builds. -/
def declare (id : FlowId) (now : UInt64) (options : FlowOptions R) : Flow R where
  ref := { id := id, generation := ⟨1⟩ }
  ownerWorker := options.ownerWorker
  ownerBoot := options.ownerBoot
  source := options.source
  sourceBoot := options.sourceBoot
  workload := options.workload
  execution := options.execution
  trafficClass := options.trafficClass
  domain := options.domain
  path := options.path
  expectedBytes := ⟨options.expectedBytes⟩
  submittedBytes := ⟨options.submittedBytes⟩
  priority := options.priority
  latencySensitivity := options.latencySensitivity
  throughputTargetBps := options.throughputTargetBps
  burstAllowanceBytes := options.burstAllowanceBytes
  deadlineMs := options.deadlineMs
  fairness := options.fairness
  provenance := options.provenance
  description := options.description
  declaredMs := now

/-- `admit_flow`: the counter is written before it is compared. -/
def admission (domainExists : Bool) (flow : Flow R) : Bool × Flow R :=
  if !flowTransitionAllowed flow.state .admitted then (false, flow)
  else if !domainExists then (false, flow)
  else
    match flow.admittedBytes.add flow.submittedBytes.value with
    | none => (false, flow)
    | some admitted =>
        if admitted.value > flow.submittedBytes.value then
          (false, { flow with admittedBytes := admitted })
        else
          (true, { flow with admittedBytes := admitted, state := .admitted })

/-- `queue_flow`, given whether the domain exists and its current depth. -/
def queue (limits : EngineLimits) (domainExists : Bool) (queued : UInt64) (flow : Flow R) :
    Bool × Flow R :=
  if !flowTransitionAllowed flow.state .queued then (false, flow)
  else if !domainExists then (false, flow)
  else if queued + 1 > limits.maxQueueDepthOps then (false, flow)
  else (true, { flow with state := .queued })

/-- `start_flow`: the state and the in-flight counter are written before the
last checks. -/
def start (now : UInt64) (boot : WorkerBootId) (flow : Flow R) : Bool × Flow R :=
  if flow.ownerBoot ≠ boot then (false, flow)
  else if flow.state.isStaleOrSuperseded then (false, flow)
  else if flow.state ≠ .queued && flow.state ≠ .admitted && flow.state ≠ .validating then
    (false, flow)
  else
    match flow.inFlightBytes.add flow.admittedBytes.value with
    | none => (false, { flow with state := .active })
    | some inFlight =>
        if inFlight.value > flow.admittedBytes.value then
          (false, { flow with state := .active, inFlightBytes := inFlight })
        else
          (true, { flow with
            state := .active
            inFlightBytes := inFlight
            startedMs := now
            lastProgressMs := now })

/-- `flow_progress`. -/
def progress (now : UInt64) (boot : WorkerBootId) (completedDelta : UInt64) (flow : Flow R) :
    Bool × Flow R :=
  if flow.ownerBoot ≠ boot then (false, flow)
  else if flow.state.isStaleOrSuperseded then (false, flow)
  else if !flow.state.canProgress then (false, flow)
  else
    match Checked.add flow.completedBytes.value completedDelta with
    | none => (false, flow)
    | some newCompleted =>
        if newCompleted > flow.admittedBytes.value then (false, flow)
        else
          match Checked.sub flow.inFlightBytes.value
              (min completedDelta flow.inFlightBytes.value) with
          | none => (false, flow)
          | some newInFlight =>
              (true, { flow with
                completedBytes := ⟨newCompleted⟩
                inFlightBytes := ⟨newInFlight⟩
                lastProgressMs := now })

/-- `flow_complete`; the subtraction is the unchecked one of the source. -/
def complete (now : UInt64) (boot : WorkerBootId) (flow : Flow R) : Bool × Flow R :=
  if flow.ownerBoot ≠ boot then (false, flow)
  else if flow.state = .cancelled || flow.state = .failed || flow.state = .completed then
    (false, flow)
  else if !flowTransitionAllowed flow.state .completed then (false, flow)
  else
    match flow.completedBytes.add (flow.admittedBytes.value - flow.completedBytes.value) with
    | none => (false, flow)
    | some completed =>
        if completed.value > flow.admittedBytes.value then
          (false, { flow with completedBytes := completed })
        else
          (true, { flow with
            completedBytes := completed
            inFlightBytes := {}
            state := .completed
            lastProgressMs := now })

/-- `flow_cancel`: the cancelled counter is written before the last check, whose
sum is the unchecked one of the source. -/
def cancel (now : UInt64) (boot : WorkerBootId) (cancelledSoFar : UInt64) (flow : Flow R) :
    Bool × Flow R :=
  if flow.ownerBoot ≠ boot then (false, flow)
  else if flow.state.isStaleOrSuperseded then (false, flow)
  else if !flowTransitionAllowed flow.state .cancelled then (false, flow)
  else
    let remaining := flow.admittedBytes.value - flow.completedBytes.value
    match flow.cancelledBytes.add (min cancelledSoFar remaining) with
    | none => (false, flow)
    | some cancelled =>
        if flow.completedBytes.value + cancelled.value > flow.admittedBytes.value then
          (false, { flow with cancelledBytes := cancelled })
        else
          (true, { flow with
            cancelledBytes := cancelled
            inFlightBytes := {}
            state := .cancelled
            lastProgressMs := now })

/-- `flow_fail`. -/
def fail (now : UInt64) (boot : WorkerBootId) (flow : Flow R) : Bool × Flow R :=
  if flow.ownerBoot ≠ boot then (false, flow)
  else if !flowTransitionAllowed flow.state .failed then (false, flow)
  else
    match flow.failedBytes.add (flow.admittedBytes.value - flow.completedBytes.value) with
    | none => (false, flow)
    | some failed =>
        (true, { flow with
          failedBytes := failed
          inFlightBytes := {}
          state := .failed
          lastProgressMs := now })

/-- `revalidate_flow`. -/
def revalidate (boot : WorkerBootId) (flow : Flow R) : Bool × Flow R :=
  if flow.ownerBoot ≠ boot then (false, flow)
  else if !flowTransitionAllowed flow.state .revalidationRequired then (false, flow)
  else (true, { flow with state := .revalidationRequired })

/-- `advance_flow_generation`; a STALE flow also leaves that state. -/
def advanceGeneration (next : FlowGeneration) (flow : Flow R) : Bool × Flow R :=
  if !next.isValid || next.value ≤ flow.ref.generation.value then (false, flow)
  else
    (true, { flow with
      ref := { flow.ref with generation := next }
      state := if flow.state = .stale then .revalidationRequired else flow.state })

end Flow

/-! ## Operations -/

/-- The domain's answer to a started flow: a pending revalidation is dropped. -/
def CongestionDomain.clearRevalidation (domain : CongestionDomain R) : CongestionDomain R :=
  if domain.state.awaitsRevalidation then { domain with state := .unknown } else domain

theorem CongestionDomain.clearRevalidation_eq (domain : CongestionDomain R) :
    domain.clearRevalidation = { domain with
      state := if domain.state.awaitsRevalidation then .unknown else domain.state } := by
  unfold CongestionDomain.clearRevalidation
  split <;> rfl

namespace Impl

/-- The part of `declare_flow` after its checks: the identifier is taken from the
counter, and an identifier already in the map keeps its old record. -/
def storeFlow (limits : EngineLimits) (now : UInt64) (options : FlowOptions R)
    (state : Impl R) : EntityRef FlowTag × Impl R :=
  let id : FlowId := ⟨state.nextFlow⟩
  let flows := state.flows.emplace id (Flow.declare id now options)
  let history := state.flowHistory ++ [id]
  let ref := match flows.find? id with
    | some flow => flow.ref
    | none => {}
  (ref, { state with
    flows := flows
    nextFlow := state.nextFlow + 1
    activeFlows := state.activeFlows + 1
    flowHistory :=
      if history.length > limits.maxFlowHistory.toNat then history.tail else history })

/-- `declare_flow`. -/
def declareFlow (limits : EngineLimits) (now : UInt64) (options : FlowOptions R)
    (state : Impl R) : EntityRef FlowTag × Impl R :=
  if !options.ownerWorker.isValid || !options.ownerBoot.isValid then ({}, state)
  else if !options.source.isValid || !options.sourceBoot.isValid then ({}, state)
  else if state.workerBoot.find? options.ownerWorker ≠ some options.ownerBoot then ({}, state)
  else if state.sourceBoot.find? options.source ≠ some options.sourceBoot then ({}, state)
  else if !options.domain.id.isValid then ({}, state)
  else if !state.domains.contains options.domain.id then ({}, state)
  else if state.activeFlows ≥ limits.maxActiveFlows then ({}, state)
  else state.storeFlow limits now options

/-- `admit_flow`; the reference is appended to the domain's list. -/
def admitFlow (ref : EntityRef FlowTag) (state : Impl R) : Bool × Impl R :=
  state.onFlow ref (fun flow => flow.admission (state.domains.contains flow.domain.id))
    fun flow after => after.onDomain flow.domain.id fun domain =>
      { domain with flows := domain.flows ++ [ref] }

/-- The queue depth `queue_flow` counts. -/
def queuedFlows (state : Impl R) (domain : CongestionDomainId) : UInt64 :=
  match state.domains.find? domain with
  | none => 0
  | some domain => domain.flows.foldl (fun queued ref =>
      match findFlow state.flows ref with
      | none => queued
      | some flow => if flow.state = .queued then queued + 1 else queued) 0

/-- `queue_flow`. -/
def queueFlow (limits : EngineLimits) (ref : EntityRef FlowTag) (state : Impl R) :
    Bool × Impl R :=
  state.onFlow ref
    (fun flow => flow.queue limits (state.domains.contains flow.domain.id)
      (state.queuedFlows flow.domain.id))
    fun _ after => after

/-- `start_flow`. -/
def startFlow (now : UInt64) (ref : EntityRef FlowTag) (boot : WorkerBootId)
    (state : Impl R) : Bool × Impl R :=
  state.onFlow ref (Flow.start now boot) fun flow after =>
    after.onDomain flow.domain.id CongestionDomain.clearRevalidation

/-- `flow_progress`. -/
def flowProgress (now : UInt64) (ref : EntityRef FlowTag) (boot : WorkerBootId)
    (completedDelta : UInt64) (state : Impl R) : Bool × Impl R :=
  state.onFlow ref (Flow.progress now boot completedDelta) fun _ after => after

/-- The number of slots in use when one is given back. -/
def freed (slots : UInt64) : UInt64 := if slots > 0 then slots - 1 else slots

/-- The slot a finished flow gives back. -/
def releaseSlot (state : Impl R) : Impl R :=
  if state.activeFlows > 0 then { state with activeFlows := state.activeFlows - 1 } else state

theorem releaseSlot_eq (state : Impl R) :
    state.releaseSlot = { state with activeFlows := freed state.activeFlows } := by
  unfold releaseSlot freed
  split <;> rfl

/-- `flow_complete`. -/
def flowComplete (now : UInt64) (ref : EntityRef FlowTag) (boot : WorkerBootId)
    (state : Impl R) : Bool × Impl R :=
  state.onFlow ref (Flow.complete now boot) fun _ after => after.releaseSlot

/-- `flow_cancel`. -/
def flowCancel (now : UInt64) (ref : EntityRef FlowTag) (boot : WorkerBootId)
    (cancelledSoFar : UInt64) (state : Impl R) : Bool × Impl R :=
  state.onFlow ref (Flow.cancel now boot cancelledSoFar) fun _ after => after.releaseSlot

/-- `flow_fail`. -/
def flowFail (now : UInt64) (ref : EntityRef FlowTag) (boot : WorkerBootId)
    (state : Impl R) : Bool × Impl R :=
  state.onFlow ref (Flow.fail now boot) fun _ after => after.releaseSlot

/-- `revalidate_flow`. -/
def revalidateFlow (ref : EntityRef FlowTag) (boot : WorkerBootId) (state : Impl R) :
    Bool × Impl R :=
  state.onFlow ref (Flow.revalidate boot) fun _ after => after

/-- `advance_flow_generation`: the generation of the reference is not compared. -/
def advanceFlowGeneration (ref : EntityRef FlowTag) (next : FlowGeneration) (state : Impl R) :
    Bool × Impl R :=
  match state.flows.find? ref.id with
  | none => (false, state)
  | some flow =>
      ((flow.advanceGeneration next).1,
        { state with flows := state.flows.modify ref.id (flow.advanceGeneration next).2 })

end Impl

end CongestionFabric
