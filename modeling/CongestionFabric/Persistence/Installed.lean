import CongestionFabric.Engine.Finality
import CongestionFabric.Persistence.Bounds
import CongestionFabric.Persistence.Loaded

/-!
Contract: the loader as a whole, on every sequence of bytes.

Owns what an accepted file installs, the refusal of every operation on a flow
that nobody can act on, and the theorem that a load stays in its buffers and
either changes nothing or installs an engine with all of this.

Does not own: the fields the loader takes over unchecked.
-/

namespace CongestionFabric

open Foundation

/-! ## Flows that nobody can act on -/

/-- The flow that an operation admits, queues, starts, advances or finishes. -/
def Op.worksOn : Op Binary64 → Option FlowId
  | .admitFlow ref | .queueFlow ref | .startFlow ref _ | .flowProgress ref _ _
  | .flowComplete ref _ | .flowCancel ref _ _ | .flowFail ref _ => some ref.id
  | _ => none

section Refusal

variable {limits : EngineLimits} {now : UInt64} {op : Op Binary64} {state : Impl Binary64}
  {id : FlowId} {flow : Flow Binary64} {ref : EntityRef FlowTag}

/-- An operation whose body refuses the record of the flow is refused. -/
private theorem onFlow_refuses {body : Flow Binary64 → Bool × Flow Binary64}
    {after : Flow Binary64 → Impl Binary64 → Impl Binary64}
    (stored : state.flows.find? id = some flow) (named : ref.id = id)
    (refuses : (body flow).1 = false) : (state.onFlow ref body after).1 = false := by
  rw [← Bool.not_eq_true, Impl.onFlow_accepted]
  rintro ⟨found, isFound, accepted⟩
  obtain ⟨stillStored, -⟩ := findFlow_eq_some.mp isFound
  rw [named, stored] at stillStored
  obtain rfl := Option.some.inj stillStored
  rw [refuses] at accepted
  exact absurd accepted (by simp)

/-- On a flow in no live state each of the seven operations is refused. -/
theorem refused_of_inert (sound : state.WellAccounted)
    (stored : state.flows.find? id = some flow) (inert : flow.state.live = false)
    (works : op.worksOn = some id) : (exec limits now op state).1.failed = true := by
  have accounted := sound id flow stored
  have notLive : ∀ {live : FlowState}, live.live = true → flow.state ≠ live := by
    rintro live isLive rfl
    rw [inert] at isLive
    exact absurd isLive (by simp)
  cases op with
  | admitFlow ref =>
      change (!(state.admitFlow ref).1) = true
      rw [Impl.admitFlow, onFlow_refuses stored (Option.some.inj works) ?_, Bool.not_false]
      rcases accounted.admission _ with ⟨-, refused⟩ | ⟨declared, -⟩
      · rw [refused]
      · exact absurd declared (notLive rfl)
  | queueFlow ref =>
      change (!(state.queueFlow limits ref).1) = true
      rw [Impl.queueFlow, onFlow_refuses stored (Option.some.inj works) ?_, Bool.not_false]
      rcases flow.queue_cases limits _ _ with refused | ⟨admitted, -⟩
      · rw [refused]
      · exact absurd admitted (notLive rfl)
  | startFlow ref boot =>
      change (!(state.startFlow now ref boot).1) = true
      rw [Impl.startFlow, onFlow_refuses stored (Option.some.inj works) ?_, Bool.not_false]
      rcases accounted.start now boot with ⟨-, refused⟩ | ⟨-, queued | admitted, -⟩
      · rw [refused]
      · exact absurd queued (notLive rfl)
      · exact absurd admitted (notLive rfl)
  | flowProgress ref boot delta =>
      change (!(state.flowProgress now ref boot delta).1) = true
      rw [Impl.flowProgress, onFlow_refuses stored (Option.some.inj works) ?_, Bool.not_false]
      rcases accounted.progress now boot delta with ⟨-, refused⟩ | ⟨-, queued | active, -⟩
      · rw [refused]
      · exact absurd queued (notLive rfl)
      · exact absurd active (notLive rfl)
  | flowComplete ref boot =>
      change (!(state.flowComplete now ref boot).1) = true
      rw [Impl.flowComplete, onFlow_refuses stored (Option.some.inj works) ?_, Bool.not_false]
      rcases accounted.complete now boot with ⟨-, refused⟩ | ⟨-, active, -⟩
      · rw [refused]
      · exact absurd active (notLive rfl)
  | flowCancel ref boot soFar =>
      change (!(state.flowCancel now ref boot soFar).1) = true
      rw [Impl.flowCancel, onFlow_refuses stored (Option.some.inj works) ?_, Bool.not_false]
      rcases accounted.cancel now boot soFar with ⟨-, refused⟩ | ⟨-, live, -⟩
      · rw [refused]
      · exact absurd rfl (notLive live)
  | flowFail ref boot =>
      change (!(state.flowFail now ref boot).1) = true
      rw [Impl.flowFail, onFlow_refuses stored (Option.some.inj works) ?_, Bool.not_false]
      rcases accounted.fail now boot with ⟨-, refused⟩ | ⟨-, live, -⟩
      · rw [refused]
      · exact absurd rfl (notLive live)
  | _ => exact absurd works (by simp [Op.worksOn])

end Refusal

/-! ## Accepted files -/

/-- What an accepted file leaves in the engine. -/
structure Impl.Installed (limits : EngineLimits) (engine : Impl Binary64) : Prop where
  epoch : engine.epoch.value ≠ 0
  workerBoot : ∀ id boot, engine.workerBoot.find? id = some boot →
    id.value ≠ 0 ∧ boot.value ≠ 0
  sourceBoot : ∀ id boot, engine.sourceBoot.find? id = some boot →
    id.value ≠ 0 ∧ boot.value ≠ 0
  domains : ∀ id domain, engine.domains.find? id = some domain →
    id.value ≠ 0 ∧ domain.ref.id = id ∧
      (domain.state = .unknown ∨ domain.state = .revalidationRequired)
  flows : ∀ id flow, engine.flows.find? id = some flow →
    id.value ≠ 0 ∧ flow.ref.id = id ∧ flow.accountingValid = true
  /-- Nothing succeeds on a loaded flow, now or after any sequence of calls. -/
  inert : ∀ id flow, engine.flows.find? id = some flow →
    ∀ history later, Run (Step limits) engine history later →
      ∀ now op, op.worksOn = some id → (exec limits now op later).1.failed = true

variable {persisted : Persisted} {state : Impl Binary64}

/-- The recovery pass writes states, and generations of queues. -/
private theorem committed_domain (checked : persisted.Checked) {id : CongestionDomainId}
    {after : CongestionDomain Binary64}
    (stored : (state.commit persisted).revalidateAll.domains.find? id = some after) :
    id.value ≠ 0 ∧ after.ref.id = id ∧
      (after.state = .unknown ∨ after.state = .revalidationRequired) := by
  obtain ⟨domain, found, rfl⟩ := Impl.committed_domain_iff.mp stored
  have loadable := checked.domains id domain found
  obtain ⟨_, _, recovered⟩ := domain.requireRevalidation_eq
  rw [recovered]
  refine ⟨loadable.key, loadable.ref, ?_⟩
  dsimp only
  split
  · exact Or.inl rfl
  · exact Or.inr rfl

private theorem committed_flow (checked : persisted.Checked) {id : FlowId} {after : Flow Binary64}
    (stored : (state.commit persisted).revalidateAll.flows.find? id = some after) :
    id.value ≠ 0 ∧ after.ref.id = id ∧ after.accountingValid = true ∧
      after.state.live = false := by
  obtain ⟨flow, found, rfl⟩ := Impl.committed_flow_iff.mp stored
  have loadable := checked.flows id flow found
  have inert := flow.requireRevalidation_inert.2
  have same : flow.requireRevalidation.ref = flow.ref ∧
      flow.requireRevalidation.accountingValid = flow.accountingValid := by
    unfold Flow.requireRevalidation
    split
    · exact ⟨rfl, rfl⟩
    · exact ⟨rfl, rfl⟩
  rw [same.1, same.2]
  exact ⟨loadable.key, loadable.ref, loadable.accounting, inert⟩

theorem Persisted.Checked.installed (checked : persisted.Checked) (limits : EngineLimits)
    (state : Impl Binary64) : (state.commit persisted).revalidateAll.Installed limits where
  epoch := checked.epoch
  workerBoot := checked.workerBoot
  sourceBoot := checked.sourceBoot
  domains _ _ stored := committed_domain checked stored
  flows _ _ stored := by
    obtain ⟨key, ref, accounting, -⟩ := committed_flow checked stored
    exact ⟨key, ref, accounting⟩
  inert id flow stored history later run now op works := by
    have sound : (state.commit persisted).revalidateAll.WellAccounted :=
      checked.wellAccounted state
    obtain ⟨-, -, -, inert⟩ := committed_flow checked stored
    obtain ⟨after, found, inherits⟩ := inherits_of_run sound stored inert run
    have accounted := run.invariant Impl.WellAccounted sound fun kept taken => kept.step taken
    exact refused_of_inert accounted found (inherits.inert inert) works

/-- Whatever the file, `load` touches no memory outside of its buffers, and it
either returns false and leaves the engine as it was or returns true and installs
domains without authority and flows that nothing can be done to. -/
theorem load_total (limits : EngineLimits) (file : Option Bytes) (state : Impl Binary64) :
    state.loadBuffer file = some (state.load file) ∧
      (state.load file = (false, state) ∨
        ∃ installed, state.load file = (true, installed) ∧ installed.Installed limits) := by
  refine ⟨loadBuffer_eq file state, ?_⟩
  rcases Impl.load_cases file state with refused | ⟨bytes, persisted, -, decoded, accepted⟩
  · exact Or.inl refused
  · exact Or.inr ⟨_, accepted, (checked_of_decode decoded).installed limits state⟩

end CongestionFabric
