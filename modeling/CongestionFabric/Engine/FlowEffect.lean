import Mathlib.Tactic.MkIffOfInductiveProp
import CongestionFabric.Engine.Operation

/-!
Contract: what one operation does to one flow, and to the state around the flows
and the domains.

Owns the record of an existing flow after every operation, where the flows of a
state come from, what no operation changes of a flow, and what becomes of the
boot tables.

Does not own: domains.
-/

namespace CongestionFabric

open Foundation

variable {R : Type} [Arithmetic R]

/-! ## The record of a flow -/

/-- The reference names this flow at its current generation. -/
def EntityRef.names (ref : EntityRef FlowTag) (id : FlowId) (flow : Flow R) : Prop :=
  id = ref.id ∧ flow.ref.generation = ref.generation

instance (ref : EntityRef FlowTag) (id : FlowId) (flow : Flow R) :
    Decidable (ref.names id flow) :=
  inferInstanceAs (Decidable (_ ∧ _))

/-- The record of an existing flow after an operation. -/
def flowAfter (limits : EngineLimits) (now : UInt64) (op : Op R) (state : Impl R) (id : FlowId)
    (flow : Flow R) : Flow R :=
  match op with
  | .fenceWorker worker deadBoot =>
      if (fenceBoot state.workerBoot worker deadBoot).isSome then
        flow.fence (flow.ownerWorker = worker && flow.ownerBoot = deadBoot)
      else flow
  | .fenceSource source deadBoot =>
      if (fenceBoot state.sourceBoot source deadBoot).isSome then
        flow.fence (flow.source = source && flow.sourceBoot = deadBoot)
      else flow
  | .admitFlow ref =>
      if ref.names id flow then (flow.admission (state.domains.contains flow.domain.id)).2 else flow
  | .queueFlow ref =>
      if ref.names id flow then
        (flow.queue limits (state.domains.contains flow.domain.id)
          (state.queuedFlows flow.domain.id)).2
      else flow
  | .startFlow ref boot => if ref.names id flow then (flow.start now boot).2 else flow
  | .flowProgress ref boot delta =>
      if ref.names id flow then (flow.progress now boot delta).2 else flow
  | .flowComplete ref boot => if ref.names id flow then (flow.complete now boot).2 else flow
  | .flowCancel ref boot soFar =>
      if ref.names id flow then (flow.cancel now boot soFar).2 else flow
  | .flowFail ref boot => if ref.names id flow then (flow.fail now boot).2 else flow
  | .advanceFlowGeneration ref next =>
      if id = ref.id then (flow.advanceGeneration next).2 else flow
  | .revalidateFlow ref boot => if ref.names id flow then (flow.revalidate boot).2 else flow
  | .recoverDynamicEvidence => flow.requireRevalidation
  | _ => flow

/-- The checks `declare_flow` makes on the authority of its caller and on the
room for a flow. -/
@[mk_iff] structure Declarable (limits : EngineLimits) (options : FlowOptions R) (state : Impl R) :
    Prop where
  ownerWorker : options.ownerWorker.value ≠ 0
  ownerBoot : options.ownerBoot.value ≠ 0
  source : options.source.value ≠ 0
  sourceBoot : options.sourceBoot.value ≠ 0
  workerRecorded : state.workerBoot.find? options.ownerWorker = some options.ownerBoot
  sourceRecorded : state.sourceBoot.find? options.source = some options.sourceBoot
  domainId : options.domain.id.value ≠ 0
  domainExists : state.domains.contains options.domain.id = true
  room : state.activeFlows < limits.maxActiveFlows

instance (limits : EngineLimits) (options : FlowOptions R) (state : Impl R) :
    Decidable (Declarable limits options state) :=
  decidable_of_iff _ (declarable_iff limits options state).symm

variable {limits : EngineLimits} {now : UInt64} {op : Op R} {options : FlowOptions R}
  {state : Impl R} {id : FlowId} {flow : Flow R}

theorem declareFlow_of_declarable (allowed : Declarable limits options state) :
    state.declareFlow limits now options = state.storeFlow limits now options := by
  have owner := Id.isValid_eq_true.mpr allowed.ownerWorker
  have ownerBoot := Generation.isValid_eq_true.mpr allowed.ownerBoot
  have source := Id.isValid_eq_true.mpr allowed.source
  have sourceBoot := Generation.isValid_eq_true.mpr allowed.sourceBoot
  have domain := Id.isValid_eq_true.mpr allowed.domainId
  simp [Impl.declareFlow, owner, ownerBoot, source, sourceBoot, domain, allowed.workerRecorded,
    allowed.sourceRecorded, allowed.domainExists, UInt64.not_le.mpr allowed.room]

theorem declareFlow_of_not_declarable (refused : ¬Declarable limits options state) :
    state.declareFlow limits now options = ({}, state) := by
  have check : ∀ {condition : Prop} [Decidable condition] {rest : EntityRef FlowTag × Impl R},
      (¬condition → rest = ({}, state)) →
        (if condition then ({}, state) else rest) = ({}, state) := by
    intro condition _ rest passed
    split
    · rfl
    · next passes => exact passed passes
  refine check fun badOwner => check fun badSource => check fun unrecordedWorker =>
    check fun unrecordedSource => check fun badDomain => check fun noDomain => check fun full => ?_
  simp only [Bool.or_eq_true, Bool.not_eq_true', Id.isValid, Generation.isValid, not_or,
    Bool.not_eq_false, bne_iff_ne] at badOwner badSource badDomain noDomain
  exact absurd ⟨badOwner.1, badOwner.2, badSource.1, badSource.2, not_not.mp unrecordedWorker,
    not_not.mp unrecordedSource, badDomain, noDomain, UInt64.not_le.mp full⟩ refused

/-- What can have become of a flow: nothing, or the effect of the one operation
that reached it. -/
theorem flowAfter_elim {motive : Flow R → Prop} (same : motive flow)
    (fenceWorker : ∀ worker deadBoot, op = .fenceWorker worker deadBoot →
      (fenceBoot state.workerBoot worker deadBoot).isSome = true →
      motive (flow.fence (flow.ownerWorker = worker && flow.ownerBoot = deadBoot)))
    (fenceSource : ∀ source deadBoot, op = .fenceSource source deadBoot →
      (fenceBoot state.sourceBoot source deadBoot).isSome = true →
      motive (flow.fence (flow.source = source && flow.sourceBoot = deadBoot)))
    (admission : ∀ ref, op = .admitFlow ref → ref.names id flow →
      motive (flow.admission (state.domains.contains flow.domain.id)).2)
    (queue : ∀ ref, op = .queueFlow ref → ref.names id flow →
      motive (flow.queue limits (state.domains.contains flow.domain.id)
        (state.queuedFlows flow.domain.id)).2)
    (start : ∀ ref boot, op = .startFlow ref boot → ref.names id flow →
      motive (flow.start now boot).2)
    (progress : ∀ ref boot delta, op = .flowProgress ref boot delta → ref.names id flow →
      motive (flow.progress now boot delta).2)
    (complete : ∀ ref boot, op = .flowComplete ref boot → ref.names id flow →
      motive (flow.complete now boot).2)
    (cancel : ∀ ref boot soFar, op = .flowCancel ref boot soFar → ref.names id flow →
      motive (flow.cancel now boot soFar).2)
    (fail : ∀ ref boot, op = .flowFail ref boot → ref.names id flow →
      motive (flow.fail now boot).2)
    (advance : ∀ ref next, op = .advanceFlowGeneration ref next → id = ref.id →
      motive (flow.advanceGeneration next).2)
    (revalidate : ∀ ref boot, op = .revalidateFlow ref boot → ref.names id flow →
      motive (flow.revalidate boot).2)
    (recover : op = .recoverDynamicEvidence → motive flow.requireRevalidation) :
    motive (flowAfter limits now op state id flow) := by
  have branch : ∀ {condition : Prop} [Decidable condition] {record : Flow R},
      (condition → motive record) → motive (if condition then record else flow) := by
    intro condition _ record reached
    split
    · exact reached ‹_›
    · exact same
  unfold flowAfter
  cases op with
  | fenceWorker worker deadBoot => exact branch (fenceWorker _ _ rfl)
  | fenceSource source deadBoot => exact branch (fenceSource _ _ rfl)
  | admitFlow ref => exact branch (admission _ rfl)
  | queueFlow ref => exact branch (queue _ rfl)
  | startFlow ref boot => exact branch (start _ _ rfl)
  | flowProgress ref boot delta => exact branch (progress _ _ _ rfl)
  | flowComplete ref boot => exact branch (complete _ _ rfl)
  | flowCancel ref boot soFar => exact branch (cancel _ _ _ rfl)
  | flowFail ref boot => exact branch (fail _ _ rfl)
  | advanceFlowGeneration ref next => exact branch (advance _ _ rfl)
  | revalidateFlow ref boot => exact branch (revalidate _ _ rfl)
  | recoverDynamicEvidence => exact recover rfl
  | _ => exact same

/-- A body that leaves the flow map alone once the record is written changes at
most the record its reference names. -/
private theorem onFlow_find? {ref : EntityRef FlowTag} {body : Flow R → Bool × Flow R}
    {after : Flow R → Impl R → Impl R}
    (frame : ∀ flow state, (after flow state).flows = state.flows) :
    (state.onFlow ref body after).2.flows.find? id =
      (state.flows.find? id).map fun flow => if ref.names id flow then (body flow).2 else flow := by
  unfold Impl.onFlow
  cases found : findFlow state.flows ref with
  | none =>
      cases stored : state.flows.find? id with
      | none => simp
      | some flow =>
          have other : ¬ref.names id flow := by
            rintro ⟨rfl, current⟩
            rw [findFlow_eq_some.mpr ⟨stored, current⟩] at found
            exact absurd found (by simp)
          simp [other]
  | some flow =>
      obtain ⟨stored, current⟩ := findFlow_eq_some.mp found
      have written : ∀ written : Bool × Impl R, written.2.flows =
          state.flows.modify ref.id (body flow).2 → written.2.flows.find? id =
            (state.flows.find? id).map fun flow =>
              if ref.names id flow then (body flow).2 else flow := by
        intro written same
        rw [same, UnorderedMap.find?_modify]
        by_cases here : id = ref.id
        · subst here
          simp [stored, EntityRef.names, current]
        · simp [here, EntityRef.names]
      apply written
      dsimp only
      split
      · exact frame _ _
      · rfl

private theorem onDomain_flows (state : Impl R) (domain : CongestionDomainId)
    (update : CongestionDomain R → CongestionDomain R) :
    (state.onDomain domain update).flows = state.flows := by
  rw [Impl.onDomain_eq]

private theorem releaseSlot_flows (state : Impl R) : state.releaseSlot.flows = state.flows := by
  unfold Impl.releaseSlot
  split <;> rfl

private theorem find?_of_flows_eq {next : Impl R} (same : next.flows = state.flows) :
    next.flows.find? id = (state.flows.find? id).map fun flow => flow := by
  rw [same, Option.map_id']

/-- Every operation but `declare_flow` rewrites the records in place. -/
private theorem exec_find? (notDeclare : ∀ options, op ≠ .declareFlow options) :
    (exec limits now op state).2.flows.find? id =
      (state.flows.find? id).map (flowAfter limits now op state id) := by
  cases op with
  | declareFlow options => exact absurd rfl (notDeclare options)
  | fenceWorker worker deadBoot =>
      simp only [exec, Prod.map_snd, id_eq, Impl.fenceWorker]
      cases fenced : fenceBoot state.workerBoot worker deadBoot <;>
        cases stored : state.flows.find? id <;> simp [flowAfter, fenced, stored]
  | fenceSource source deadBoot =>
      simp only [exec, Prod.map_snd, id_eq, Impl.fenceSource]
      cases fenced : fenceBoot state.sourceBoot source deadBoot <;>
        cases stored : state.flows.find? id <;> simp [flowAfter, fenced, stored]
  | admitFlow ref =>
      change (state.admitFlow ref).2.flows.find? id = _
      rw [Impl.admitFlow, onFlow_find? fun _ _ => onDomain_flows ..]
      rfl
  | queueFlow ref =>
      change (state.queueFlow limits ref).2.flows.find? id = _
      rw [Impl.queueFlow, onFlow_find? fun _ _ => rfl]
      rfl
  | startFlow ref boot =>
      change (state.startFlow now ref boot).2.flows.find? id = _
      rw [Impl.startFlow, onFlow_find? fun _ _ => onDomain_flows ..]
      rfl
  | flowProgress ref boot delta =>
      change (state.flowProgress now ref boot delta).2.flows.find? id = _
      rw [Impl.flowProgress, onFlow_find? fun _ _ => rfl]
      rfl
  | flowComplete ref boot =>
      change (state.flowComplete now ref boot).2.flows.find? id = _
      rw [Impl.flowComplete, onFlow_find? fun _ _ => releaseSlot_flows _]
      rfl
  | flowCancel ref boot soFar =>
      change (state.flowCancel now ref boot soFar).2.flows.find? id = _
      rw [Impl.flowCancel, onFlow_find? fun _ _ => releaseSlot_flows _]
      rfl
  | flowFail ref boot =>
      change (state.flowFail now ref boot).2.flows.find? id = _
      rw [Impl.flowFail, onFlow_find? fun _ _ => releaseSlot_flows _]
      rfl
  | revalidateFlow ref boot =>
      change (state.revalidateFlow ref boot).2.flows.find? id = _
      rw [Impl.revalidateFlow, onFlow_find? fun _ _ => rfl]
      rfl
  | advanceFlowGeneration ref next =>
      simp only [exec, Prod.map_snd, id_eq, Impl.advanceFlowGeneration]
      by_cases here : id = ref.id
      · subst here
        cases stored : state.flows.find? ref.id <;> simp [flowAfter, stored]
      · cases state.flows.find? ref.id <;> cases stored : state.flows.find? id <;>
          simp [flowAfter, here, stored]
  | recoverDynamicEvidence =>
      exact UnorderedMap.find?_mapValues _ _ _
  | registerWorker worker boot => exact find?_of_flows_eq rfl
  | registerSource source boot => exact find?_of_flows_eq rfl
  | advanceEpoch next =>
      apply find?_of_flows_eq
      simp only [exec, Prod.map_snd, id_eq, Impl.advanceEpoch]
      split <;> rfl
  | createDomain kind capacity =>
      apply find?_of_flows_eq
      simp only [exec, Prod.map_snd, id_eq, Impl.createDomain]
      split_ifs <;> rfl
  | removeDomain domain =>
      apply find?_of_flows_eq
      simp only [exec, Prod.map_snd, id_eq, Impl.removeDomain]
      split <;> rfl
  | publishMeasurement domain measurement owner ownerBoot =>
      apply find?_of_flows_eq
      simp only [exec, Prod.map_snd, id_eq, Impl.publishMeasurement]
      cases state.domains.find? domain <;> split_ifs <;> rfl
  | recomputeDomain domain =>
      apply find?_of_flows_eq
      simp only [exec, Prod.map_snd, id_eq, Impl.recomputeDomain]
      split <;> rfl
  | applyLocalShaping domain action =>
      apply find?_of_flows_eq
      simp only [exec, Prod.map_snd, id_eq, Impl.applyLocalShaping]
      cases state.domains.find? domain <;> split_ifs <;> rfl

theorem declareFlow_find? (allowed : Declarable limits options state) :
    (state.declareFlow limits now options).2.flows.find? id =
      if state.flows.find? ⟨state.nextFlow⟩ = none ∧ id = ⟨state.nextFlow⟩ then
        some (.declare ⟨state.nextFlow⟩ now options)
      else state.flows.find? id := by
  rw [declareFlow_of_declarable allowed]
  exact UnorderedMap.find?_emplace _ _ _ _

/-- A flow that exists is still there after an operation, with the record
`flowAfter` gives. -/
theorem exec_flow (stored : state.flows.find? id = some flow) :
    (exec limits now op state).2.flows.find? id =
      some (flowAfter limits now op state id flow) := by
  by_cases declares : ∃ options, op = .declareFlow options
  · obtain ⟨options, rfl⟩ := declares
    change (state.declareFlow limits now options).2.flows.find? id = some flow
    by_cases allowed : Declarable limits options state
    · rw [declareFlow_find? allowed, if_neg, stored]
      rintro ⟨absent, rfl⟩
      exact absurd (absent.symm.trans stored) (by simp)
    · rw [declareFlow_of_not_declarable allowed, stored]
  · rw [exec_find? fun options same => declares ⟨options, same⟩, stored]
    rfl

/-- Where the flows of a state come from: each was there before the operation,
or the operation declared it under the next free number. -/
theorem exec_flow_origin {after : Flow R}
    (stored : (exec limits now op state).2.flows.find? id = some after) :
    (∃ flow, state.flows.find? id = some flow ∧
        after = flowAfter limits now op state id flow) ∨
      ∃ options, op = .declareFlow options ∧ Declarable limits options state ∧
        state.flows.find? id = none ∧ id = ⟨state.nextFlow⟩ ∧
        after = .declare id now options := by
  by_cases declares : ∃ options, op = .declareFlow options
  · obtain ⟨options, rfl⟩ := declares
    change (state.declareFlow limits now options).2.flows.find? id = _ at stored
    by_cases allowed : Declarable limits options state
    · rw [declareFlow_find? allowed] at stored
      split_ifs at stored with new
      · obtain ⟨absent, rfl⟩ := new
        exact Or.inr ⟨options, rfl, allowed, absent, rfl, (Option.some.inj stored).symm⟩
      · exact Or.inl ⟨after, stored, rfl⟩
    · rw [declareFlow_of_not_declarable allowed] at stored
      exact Or.inl ⟨after, stored, rfl⟩
  · rw [exec_find? fun options same => declares ⟨options, same⟩] at stored
    obtain ⟨flow, found, rfl⟩ := Option.map_eq_some_iff.mp stored
    exact Or.inl ⟨flow, found, rfl⟩

/-- A property of all flows after an operation, when it holds of a flow just
declared: it holds of every existing flow with its new record. -/
theorem forall_flow_exec_iff {motive : Flow R → Prop}
    (declared : ∀ options, motive (.declare ⟨state.nextFlow⟩ now options)) :
    (∀ id after, (exec limits now op state).2.flows.find? id = some after → motive after) ↔
      ∀ id flow, state.flows.find? id = some flow →
        motive (flowAfter limits now op state id flow) := by
  constructor
  · intro all id flow stored
    exact all id _ (exec_flow stored)
  · intro all id after stored
    rcases exec_flow_origin stored with ⟨flow, found, rfl⟩ | ⟨options, -, -, -, rfl, rfl⟩
    · exact all id flow found
    · exact declared options

/-! ## What an operation never changes of a flow -/

/-- The two records were declared with the same owner, source, domain and
options. -/
structure Flow.SameOrigin (left right : Flow R) : Prop where
  id : left.ref.id = right.ref.id
  ownerWorker : left.ownerWorker = right.ownerWorker
  ownerBoot : left.ownerBoot = right.ownerBoot
  source : left.source = right.source
  sourceBoot : left.sourceBoot = right.sourceBoot
  domain : left.domain = right.domain
  trafficClass : left.trafficClass = right.trafficClass
  fairness : left.fairness = right.fairness
  provenance : left.provenance = right.provenance
  description : left.description = right.description

/-- What an operation can have made of the flow: its state, byte counts and two
times are written, and only `advance_flow_generation` writes its reference. -/
def Flow.Written (op : Op R) (id : FlowId) (flow after : Flow R) : Prop :=
  ∃ ref state admitted inFlight completed failed cancelled started progressed,
    after = { flow with
      ref := ref
      state := state
      admittedBytes := admitted
      inFlightBytes := inFlight
      completedBytes := completed
      failedBytes := failed
      cancelledBytes := cancelled
      startedMs := started
      lastProgressMs := progressed } ∧
    (ref = flow.ref ∨
      ∃ named next, op = .advanceFlowGeneration named next ∧ id = named.id ∧
        flow.ref.generation.value < next.value ∧ ref = { flow.ref with generation := next })

theorem flowAfter_written (limits : EngineLimits) (now : UInt64) (op : Op R) (state : Impl R)
    (id : FlowId) (flow : Flow R) :
    flow.Written op id (flowAfter limits now op state id flow) := by
  apply flowAfter_elim
  case same => exact ⟨_, _, _, _, _, _, _, _, _, rfl, Or.inl rfl⟩
  case fenceWorker =>
    intro worker deadBoot _ _
    unfold Flow.fence
    split <;> exact ⟨_, _, _, _, _, _, _, _, _, rfl, Or.inl rfl⟩
  case fenceSource =>
    intro source deadBoot _ _
    unfold Flow.fence
    split <;> exact ⟨_, _, _, _, _, _, _, _, _, rfl, Or.inl rfl⟩
  case admission =>
    intro ref _ _
    unfold Flow.admission
    repeat' split
    all_goals exact ⟨_, _, _, _, _, _, _, _, _, rfl, Or.inl rfl⟩
  case queue =>
    intro ref _ _
    unfold Flow.queue
    repeat' split
    all_goals exact ⟨_, _, _, _, _, _, _, _, _, rfl, Or.inl rfl⟩
  case start =>
    intro ref boot _ _
    unfold Flow.start
    repeat' split
    all_goals exact ⟨_, _, _, _, _, _, _, _, _, rfl, Or.inl rfl⟩
  case progress =>
    intro ref boot delta _ _
    unfold Flow.progress
    repeat' split
    all_goals exact ⟨_, _, _, _, _, _, _, _, _, rfl, Or.inl rfl⟩
  case complete =>
    intro ref boot _ _
    unfold Flow.complete
    repeat' split
    all_goals exact ⟨_, _, _, _, _, _, _, _, _, rfl, Or.inl rfl⟩
  case cancel =>
    intro ref boot soFar _ _
    unfold Flow.cancel
    dsimp only
    repeat' split
    all_goals exact ⟨_, _, _, _, _, _, _, _, _, rfl, Or.inl rfl⟩
  case fail =>
    intro ref boot _ _
    unfold Flow.fail
    repeat' split
    all_goals exact ⟨_, _, _, _, _, _, _, _, _, rfl, Or.inl rfl⟩
  case advance =>
    rintro ref following rfl here
    unfold Flow.advanceGeneration
    split
    · exact ⟨_, _, _, _, _, _, _, _, _, rfl, Or.inl rfl⟩
    · next newer =>
        simp only [Bool.or_eq_true, decide_eq_true_eq, not_or] at newer
        exact ⟨_, _, _, _, _, _, _, _, _, rfl,
          Or.inr ⟨ref, following, rfl, here, UInt64.not_le.mp newer.2, rfl⟩⟩
  case revalidate =>
    intro ref boot _ _
    unfold Flow.revalidate
    repeat' split
    all_goals exact ⟨_, _, _, _, _, _, _, _, _, rfl, Or.inl rfl⟩
  case recover =>
    intro _
    unfold Flow.requireRevalidation
    split <;> exact ⟨_, _, _, _, _, _, _, _, _, rfl, Or.inl rfl⟩

theorem flowAfter_sameOrigin (limits : EngineLimits) (now : UInt64) (op : Op R) (state : Impl R)
    (id : FlowId) (flow : Flow R) :
    (flowAfter limits now op state id flow).SameOrigin flow := by
  obtain ⟨ref, _, _, _, _, _, _, _, _, written, moved⟩ :=
    flowAfter_written limits now op state id flow
  have identifier : ref.id = flow.ref.id := by
    rcases moved with rfl | ⟨-, next, -, -, -, rfl⟩ <;> rfl
  rw [written]
  exact ⟨identifier, rfl, rfl, rfl, rfl, rfl, rfl, rfl, rfl, rfl⟩

/-! ## What an operation does to the rest of the state -/

/-- The state without the parts that operations on one flow write: flows,
domains and the number of slots in use. -/
def Impl.outer (state : Impl R) : Impl R :=
  { state with flows := .empty, domains := .empty, activeFlows := 0 }

/-- A flow operation leaves the outer state alone if its continuation does. -/
private theorem onFlow_outer {ref : EntityRef FlowTag}
    {body : Flow R → Bool × Flow R} {after : Flow R → Impl R → Impl R}
    (frame : ∀ flow state, (after flow state).outer = state.outer) :
    (state.onFlow ref body after).2.outer = state.outer :=
  Impl.onFlow_frame (fun _ _ => rfl) frame

private theorem releaseSlot_outer (state : Impl R) : state.releaseSlot.outer = state.outer := by
  unfold Impl.releaseSlot
  split <;> rfl

private theorem onDomain_outer (state : Impl R) (domain : CongestionDomainId)
    (update : CongestionDomain R → CongestionDomain R) :
    (state.onDomain domain update).outer = state.outer := by
  rw [Impl.onDomain_eq]
  rfl

/-- The operations that address one existing flow. -/
def Op.onOneFlow : Op R → Bool
  | .admitFlow _ | .queueFlow _ | .startFlow _ _ | .flowProgress _ _ _ | .flowComplete _ _
  | .flowCancel _ _ _ | .flowFail _ _ | .advanceFlowGeneration _ _ | .revalidateFlow _ _ => true
  | _ => false

/-- An operation on one flow changes flows, domains and the slot count only. -/
theorem exec_outer (oneFlow : op.onOneFlow = true) :
    (exec limits now op state).2.outer = state.outer := by
  cases op with
  | admitFlow ref =>
      change (state.admitFlow ref).2.outer = _
      exact onFlow_outer fun _ _ => onDomain_outer ..
  | queueFlow ref =>
      change (state.queueFlow limits ref).2.outer = _
      exact onFlow_outer fun _ _ => rfl
  | startFlow ref boot =>
      change (state.startFlow now ref boot).2.outer = _
      exact onFlow_outer fun _ _ => onDomain_outer ..
  | flowProgress ref boot delta =>
      change (state.flowProgress now ref boot delta).2.outer = _
      exact onFlow_outer fun _ _ => rfl
  | flowComplete ref boot =>
      change (state.flowComplete now ref boot).2.outer = _
      exact onFlow_outer fun _ _ => releaseSlot_outer _
  | flowCancel ref boot soFar =>
      change (state.flowCancel now ref boot soFar).2.outer = _
      exact onFlow_outer fun _ _ => releaseSlot_outer _
  | flowFail ref boot =>
      change (state.flowFail now ref boot).2.outer = _
      exact onFlow_outer fun _ _ => releaseSlot_outer _
  | revalidateFlow ref boot =>
      change (state.revalidateFlow ref boot).2.outer = _
      exact onFlow_outer fun _ _ => rfl
  | advanceFlowGeneration ref next =>
      simp only [exec, Prod.map_snd, id_eq, Impl.advanceFlowGeneration]
      split <;> rfl
  | _ => simp [Op.onOneFlow] at oneFlow

/-- The worker table after an operation. -/
def workerBootAfter (op : Op R) (state : Impl R) : UnorderedMap WorkerId WorkerBootId :=
  match op with
  | .registerWorker worker boot => (registerBoot state.workerBoot worker boot).2
  | .fenceWorker worker deadBoot =>
      (fenceBoot state.workerBoot worker deadBoot).getD state.workerBoot
  | _ => state.workerBoot

/-- The source table after an operation. -/
def sourceBootAfter (op : Op R) (state : Impl R) : UnorderedMap SourceId SourceBootId :=
  match op with
  | .registerSource source boot => (registerBoot state.sourceBoot source boot).2
  | .fenceSource source deadBoot =>
      (fenceBoot state.sourceBoot source deadBoot).getD state.sourceBoot
  | _ => state.sourceBoot

/-- Only registrations and fences move the boot tables. -/
theorem exec_tables (limits : EngineLimits) (now : UInt64) (op : Op R) (state : Impl R) :
    (exec limits now op state).2.workerBoot = workerBootAfter op state ∧
      (exec limits now op state).2.sourceBoot = sourceBootAfter op state := by
  by_cases oneFlow : op.onOneFlow = true
  · have same : (exec limits now op state).2.outer = state.outer := exec_outer oneFlow
    have tables := congrArg (fun outer => (outer.workerBoot, outer.sourceBoot)) same
    cases op <;> first | exact Prod.mk.inj tables | simp [Op.onOneFlow] at oneFlow
  · cases op with
    | registerWorker worker boot => exact ⟨rfl, rfl⟩
    | registerSource source boot => exact ⟨rfl, rfl⟩
    | recoverDynamicEvidence => exact ⟨rfl, rfl⟩
    | fenceWorker worker deadBoot =>
        simp only [exec, Prod.map_snd, id_eq, Impl.fenceWorker, workerBootAfter, sourceBootAfter]
        cases fenceBoot state.workerBoot worker deadBoot <;> exact ⟨rfl, rfl⟩
    | fenceSource source deadBoot =>
        simp only [exec, Prod.map_snd, id_eq, Impl.fenceSource, workerBootAfter, sourceBootAfter]
        cases fenceBoot state.sourceBoot source deadBoot <;> exact ⟨rfl, rfl⟩
    | declareFlow options =>
        by_cases allowed : Declarable limits options state
        · simp only [exec, Prod.map_snd, id_eq, declareFlow_of_declarable allowed]
          exact ⟨rfl, rfl⟩
        · simp only [exec, Prod.map_snd, id_eq, declareFlow_of_not_declarable allowed]
          exact ⟨rfl, rfl⟩
    | advanceEpoch next =>
        simp only [exec, Prod.map_snd, id_eq, Impl.advanceEpoch]
        split <;> exact ⟨rfl, rfl⟩
    | createDomain kind capacity =>
        simp only [exec, Prod.map_snd, id_eq, Impl.createDomain]
        split_ifs <;> exact ⟨rfl, rfl⟩
    | removeDomain domain =>
        simp only [exec, Prod.map_snd, id_eq, Impl.removeDomain]
        split <;> exact ⟨rfl, rfl⟩
    | publishMeasurement domain measurement owner ownerBoot =>
        simp only [exec, Prod.map_snd, id_eq, Impl.publishMeasurement]
        cases state.domains.find? domain <;> split_ifs <;> exact ⟨rfl, rfl⟩
    | recomputeDomain domain =>
        simp only [exec, Prod.map_snd, id_eq, Impl.recomputeDomain]
        split <;> exact ⟨rfl, rfl⟩
    | applyLocalShaping domain action =>
        simp only [exec, Prod.map_snd, id_eq, Impl.applyLocalShaping]
        cases state.domains.find? domain <;> split_ifs <;> exact ⟨rfl, rfl⟩
    | _ => exact absurd rfl oneFlow

end CongestionFabric
