import CongestionFabric.Engine.DomainEffect
import CongestionFabric.Foundation.Alike

/-!
Contract: two states that differ only in what one boot of a worker published.

Owns the fields of a domain record that a published value can reach, the relation
between records and between states that agree on everything else, and the fact
that every operation keeps it, also a publication by that boot in which the two
sides give different values.

A rate may differ only while the boot owns it. The other measurements have no
recorded owner, so nothing is said about them.
-/

namespace CongestionFabric

open Foundation

variable {R : Type} [Arithmetic R]

/-! ## Records -/

/-- All that later operations ask of a cached state: whether it is UNKNOWN, waits
for revalidation, or was assessed. -/
def CongestionState.posture (state : CongestionState) : CongestionState :=
  if state = .unknown then .unknown
  else if state.awaitsRevalidation then .revalidationRequired
  else .idle

namespace CongestionDomain

/-- The fields of a record that a published value can reach. -/
structure Values (R : Type) [Arithmetic R] where
  measurements : MeasurementSet R
  state : CongestionState
  stateProvenance : Enum8 MeasurementProvenance
  shaping : TokenBucket R
  episodes : List (CongestionEpisode R)
  currentEpisode : CongestionEpisode R
  offeredBps : R
  admittedBps : R
  servicedBps : R
  utilisation : R
  effectiveBps : R

def values (domain : CongestionDomain R) : Values R where
  measurements := domain.measurements
  state := domain.state
  stateProvenance := domain.stateProvenance
  shaping := domain.shaping
  episodes := domain.episodes
  currentEpisode := domain.currentEpisode
  offeredBps := domain.offeredBps
  admittedBps := domain.admittedBps
  servicedBps := domain.servicedBps
  utilisation := domain.utilisation
  effectiveBps := domain.effectiveBps

def withValues (domain : CongestionDomain R) (values : Values R) : CongestionDomain R :=
  { domain with
    measurements := values.measurements
    state := values.state
    stateProvenance := values.stateProvenance
    shaping := values.shaping
    episodes := values.episodes
    currentEpisode := values.currentEpisode
    offeredBps := values.offeredBps
    admittedBps := values.admittedBps
    servicedBps := values.servicedBps
    utilisation := values.utilisation
    effectiveBps := values.effectiveBps }

/-- The records agree except for those fields; and in these on the posture, and on
every rate that the boot does not own. -/
structure Twin (worker : WorkerId) (boot : WorkerBootId) (left right : CongestionDomain R) :
    Prop where
  rest : left = right.withValues left.values
  posture : left.state.posture = right.state.posture
  offered : right.ownsOffered worker boot = false → left.offeredBps = right.offeredBps
  serviced : right.ownsServiced worker boot = false → left.servicedBps = right.servicedBps

end CongestionDomain

theorem CongestionState.posture_awaits (state : CongestionState) :
    state.posture.awaitsRevalidation = state.awaitsRevalidation := by
  cases state <;> rfl

theorem CongestionState.posture_eq_unknown {state : CongestionState} :
    state.posture = .unknown ↔ state = .unknown := by
  cases state <;> decide

private theorem signals_posture (signals : Signals R) : signals.state.posture = .idle := by
  have either : ∀ {condition : Prop} [Decidable condition] {first second : CongestionState},
      first.posture = .idle → second.posture = .idle →
        (if condition then first else second).posture = .idle := by
    intro condition _ first second one other
    split
    · exact one
    · exact other
  unfold Signals.state
  dsimp only
  repeat' apply either
  all_goals rfl

/-- The posture of an assessment does not depend on any value. -/
private theorem assess_posture (state : Impl R) (domain : CongestionDomain R) :
    (state.assess domain).state.posture =
      if domain.state.awaitsRevalidation then .revalidationRequired
      else if domain.capacity.effective.isSome then .idle else .unknown := by
  unfold Impl.assess classify
  split
  · rfl
  · cases domain.capacity.effective with
    | none => rfl
    | some eff =>
        dsimp only
        split
        · rfl
        · exact signals_posture _

/-- An assessment awaits revalidation exactly if the domain does. -/
theorem assess_awaits (state : Impl R) (domain : CongestionDomain R) :
    (state.assess domain).state.awaitsRevalidation = domain.state.awaitsRevalidation := by
  rw [← CongestionState.posture_awaits, assess_posture]
  cases domain.state.awaitsRevalidation with
  | true => rfl
  | false => cases domain.capacity.effective.isSome <;> rfl

namespace CongestionDomain.Twin

variable {worker : WorkerId} {boot : WorkerBootId} {left right : CongestionDomain R}

theorem refl (domain : CongestionDomain R) : domain.Twin worker boot domain :=
  ⟨rfl, rfl, fun _ => rfl, fun _ => rfl⟩

theorem awaits_eq (twin : left.Twin worker boot right) :
    left.state.awaitsRevalidation = right.state.awaitsRevalidation := by
  rw [← left.state.posture_awaits, twin.posture, right.state.posture_awaits]

theorem unknown_iff (twin : left.Twin worker boot right) :
    left.state = .unknown ↔ right.state = .unknown := by
  rw [← CongestionState.posture_eq_unknown, twin.posture, CongestionState.posture_eq_unknown]

theorem clearRevalidation (twin : left.Twin worker boot right) :
    left.clearRevalidation.Twin worker boot right.clearRevalidation := by
  unfold CongestionDomain.clearRevalidation
  rw [twin.awaits_eq]
  obtain ⟨rest, posture, offered, serviced⟩ := twin
  split
  · exact ⟨by rw [rest]; rfl, rfl, offered, serviced⟩
  · exact ⟨rest, posture, offered, serviced⟩

theorem requireRevalidation (twin : left.Twin worker boot right) :
    left.requireRevalidation.Twin worker boot right.requireRevalidation := by
  unfold CongestionDomain.requireRevalidation
  by_cases unknown : right.state = .unknown
  · rw [if_pos unknown, if_pos (twin.unknown_iff.mpr unknown)]
    exact twin
  · rw [if_neg unknown, if_neg (unknown ∘ twin.unknown_iff.mp)]
    obtain ⟨rest, -, offered, serviced⟩ := twin
    exact ⟨by rw [rest]; rfl, rfl, offered, serviced⟩

theorem ratedBy_eq (twin : left.Twin worker boot right) (identity : WorkerId × WorkerBootId) :
    left.ratedBy identity = right.ratedBy identity := by
  rw [twin.rest]
  rfl

theorem dropEvidence (twin : left.Twin worker boot right) (dead : WorkerId)
    (deadBoot : WorkerBootId) (invalidated : Bool) :
    (left.dropEvidence dead deadBoot invalidated).1 =
        (right.dropEvidence dead deadBoot invalidated).1 ∧
      (left.dropEvidence dead deadBoot invalidated).2.Twin worker boot
        (right.dropEvidence dead deadBoot invalidated).2 := by
  obtain ⟨any, set, fields⟩ := left.dropEvidence_eq dead deadBoot invalidated
  obtain ⟨anyToo, setToo, fieldsToo⟩ := right.dropEvidence_eq dead deadBoot invalidated
  rw [twin.ratedBy_eq, ← setToo] at set
  subst set
  rw [fields, fieldsToo]
  have unknown : decide (left.state ≠ .unknown) = decide (right.state ≠ .unknown) :=
    decide_eq_decide.mpr (not_congr twin.unknown_iff)
  have sameOffered : left.ownsOffered dead deadBoot = right.ownsOffered dead deadBoot := by
    rw [twin.rest]
    rfl
  have sameServiced : left.ownsServiced dead deadBoot = right.ownsServiced dead deadBoot := by
    rw [twin.rest]
    rfl
  rw [unknown, sameOffered, sameServiced]
  obtain ⟨rest, posture, offered, serviced⟩ := twin
  refine ⟨rfl, by rw [rest]; rfl, ?_, ?_, ?_⟩
  · dsimp only
    split
    · rfl
    · exact posture
  · -- Unless the rate is dropped, its owner stays.
    cases owns : right.ownsOffered dead deadBoot with
    | true => exact fun _ => rfl
    | false => exact offered
  · cases owns : right.ownsServiced dead deadBoot with
    | true => exact fun _ => rfl
    | false => exact serviced

/-- Publications that give the same value, or whose values only that boot is
answerable for. -/
theorem record (twin : left.Twin worker boot right) (measurement : Measurement R) (value : R)
    {owner : WorkerId} {ownerBoot : WorkerBootId}
    (same : measurement.value = value ∨
      owner.isValid = true ∧ owner = worker ∧ ownerBoot = boot) :
    (left.record measurement owner ownerBoot).Twin worker boot
      (right.record { measurement with value := value } owner ownerBoot) := by
  obtain ⟨rest, posture, offered, serviced⟩ := twin.clearRevalidation
  have hidden : (owner.isValid && owner = worker && ownerBoot = boot) = false →
      measurement.value = value := by
    intro other
    refine same.resolve_right fun ⟨valid, isWorker, isBoot⟩ => ?_
    rw [valid, decide_eq_true isWorker, decide_eq_true isBoot] at other
    exact absurd other (by simp)
  unfold CongestionDomain.record
  dsimp only
  by_cases offers : measurement.kind = (MeasurementKind.offeredBytesPerSec : Enum8 _)
  · rw [if_pos offers, if_pos offers]
    exact ⟨by rw [rest]; rfl, posture, hidden, serviced⟩
  rw [if_neg offers, if_neg offers]
  by_cases admits : measurement.kind = (MeasurementKind.admittedBytesPerSec : Enum8 _)
  · rw [if_pos admits, if_pos admits]
    exact ⟨by rw [rest]; rfl, posture, offered, serviced⟩
  rw [if_neg admits, if_neg admits]
  by_cases completes : measurement.kind = (MeasurementKind.completedBytesPerSec : Enum8 _)
  · rw [if_pos completes, if_pos completes]
    exact ⟨by rw [rest]; rfl, posture, offered, hidden⟩
  rw [if_neg completes, if_neg completes]
  split_ifs
  · exact ⟨by rw [rest]; rfl, posture, offered, serviced⟩
  · exact ⟨by rw [rest]; rfl, posture, offered, serviced⟩
  · exact ⟨by rw [rest]; rfl, posture, offered, serviced⟩

private theorem recomputed_rest (limits : EngineLimits) (now : UInt64) (state : Impl R)
    (domain : CongestionDomain R) :
    ∃ values : Values R, (state.recomputed limits now domain).2 = domain.withValues values ∧
      values.state = (state.assess domain).state ∧ values.offeredBps = domain.offeredBps ∧
      values.servicedBps = domain.servicedBps := by
  obtain ⟨event, episodes, current, written⟩ := state.recomputed_eq limits now domain
  refine ⟨(state.recomputed limits now domain).2.values, ?_⟩
  rw [written]
  exact ⟨rfl, rfl, rfl, rfl⟩

theorem recomputed (twin : left.Twin worker boot right) (limits : EngineLimits) (now : UInt64)
    (state other : Impl R) :
    (state.recomputed limits now left).2.Twin worker boot
      (other.recomputed limits now right).2 := by
  obtain ⟨values, written, assessed, offers, services⟩ := recomputed_rest limits now state left
  obtain ⟨valuesToo, writtenToo, assessedToo, offersToo, servicesToo⟩ :=
    recomputed_rest limits now other right
  have capacity : left.capacity = right.capacity := by
    rw [twin.rest]
    rfl
  rw [written, writtenToo]
  refine ⟨by rw [twin.rest]; rfl, ?_, fun free => ?_, fun free => ?_⟩
  · change values.state.posture = valuesToo.state.posture
    rw [assessed, assessedToo, assess_posture, assess_posture, twin.awaits_eq, capacity]
  · exact offers.trans ((twin.offered free).trans offersToo.symm)
  · exact services.trans ((twin.serviced free).trans servicesToo.symm)

end CongestionDomain.Twin

/-! ## States -/

/-- The states agree except for the number of the next event and, behind each
domain, for what the boot may have published. -/
structure Impl.Twins (worker : WorkerId) (boot : WorkerBootId) (left right : Impl R) : Prop where
  rest : left = { right with domains := left.domains, nextEvent := left.nextEvent }
  domains : left.domains.Alike (CongestionDomain.Twin worker boot) right.domains

namespace Impl.Twins

variable {worker : WorkerId} {boot : WorkerBootId} {left right : Impl R}

theorem refl (state : Impl R) : state.Twins worker boot state :=
  ⟨rfl, .refl .refl _⟩

theorem flows_eq (twins : left.Twins worker boot right) : left.flows = right.flows := by
  rw [twins.rest]

theorem workerBoot_eq (twins : left.Twins worker boot right) :
    left.workerBoot = right.workerBoot := by
  rw [twins.rest]

/-- An update of the state that looks at neither domains nor events. -/
private theorem update (twins : left.Twins worker boot right) (update : Impl R → Impl R)
    (apart : ∀ state : Impl R, update state =
      { update { state with domains := .empty, nextEvent := 0 } with
        domains := state.domains, nextEvent := state.nextEvent }) :
    (update left).Twins worker boot (update right) := by
  have same : update { left with domains := .empty, nextEvent := 0 } =
      update { right with domains := .empty, nextEvent := 0 } := by
    rw [twins.rest]
  rw [apart left, apart right, same]
  exact ⟨rfl, twins.domains⟩

/-- A flow operation whose body does not look at values, with a continuation that
keeps the relation. -/
private theorem onFlow (twins : left.Twins worker boot right) (ref : EntityRef FlowTag)
    (body : Flow R → Bool × Flow R) {after : Flow R → Impl R → Impl R}
    (kept : ∀ flow {left right : Impl R}, left.Twins worker boot right →
      (after flow left).Twins worker boot (after flow right)) :
    (left.onFlow ref body after).2.Twins worker boot (right.onFlow ref body after).2 := by
  unfold Impl.onFlow
  rw [twins.flows_eq]
  cases findFlow right.flows ref with
  | none => exact twins
  | some flow =>
      have written : ({ left with flows := right.flows.modify ref.id (body flow).2 } :
          Impl R).Twins worker boot
            { right with flows := right.flows.modify ref.id (body flow).2 } := by
        refine ⟨?_, twins.domains⟩
        rw [twins.rest]
      dsimp only
      split
      · exact kept _ written
      · exact written

private theorem onDomain (twins : left.Twins worker boot right) (id : CongestionDomainId)
    {update : CongestionDomain R → CongestionDomain R}
    (kept : ∀ {left right : CongestionDomain R}, left.Twin worker boot right →
      (update left).Twin worker boot (update right)) :
    (left.onDomain id update).Twins worker boot (right.onDomain id update) := by
  rw [Impl.onDomain_eq, Impl.onDomain_eq]
  refine ⟨?_, twins.domains.mapValues fun key first second twin => ?_⟩
  · rw [twins.rest]
  · split
    · exact kept twin
    · exact twin

private theorem queuedFlows_eq (twins : left.Twins worker boot right) (id : CongestionDomainId) :
    left.queuedFlows id = right.queuedFlows id := by
  unfold Impl.queuedFlows
  rw [twins.flows_eq]
  rcases twins.domains.find? id with ⟨first, second⟩ | ⟨domain, other, first, second, twin⟩
  · rw [first, second]
  · have flows : domain.flows = other.flows := by
      rw [twin.rest]
      rfl
    rw [first, second]
    dsimp only
    rw [flows]

private theorem releaseSlot (twins : left.Twins worker boot right) :
    left.releaseSlot.Twins worker boot right.releaseSlot := by
  refine twins.update Impl.releaseSlot fun state => ?_
  unfold Impl.releaseSlot
  dsimp only
  split <;> rfl

/-- The same publication on both sides, or one by that boot with two values. -/
theorem publishMeasurement (twins : left.Twins worker boot right) (id : CongestionDomainId)
    (measurement : Measurement R) (value : R) {owner : WorkerId} {ownerBoot : WorkerBootId}
    (published : ({ measurement with value := value } : Measurement R).valid = measurement.valid)
    (same : measurement.value = value ∨
      owner.isValid = true ∧ owner = worker ∧ ownerBoot = boot) :
    (left.publishMeasurement id measurement owner ownerBoot).2.Twins worker boot
      (right.publishMeasurement id { measurement with value := value } owner ownerBoot).2 := by
  unfold Impl.publishMeasurement
  rw [published, twins.workerBoot_eq]
  split
  · exact twins
  · rcases twins.domains.find? id with ⟨first, second⟩ | ⟨domain, other, first, second, twin⟩
    · rw [first, second]
      exact twins
    · rw [first, second]
      dsimp only
      split
      · exact twins
      · refine ⟨?_, twins.domains.modify (twin.record measurement value same) id⟩
        rw [twins.rest]

private theorem recomputeDomain (twins : left.Twins worker boot right) (limits : EngineLimits)
    (now : UInt64) (id : CongestionDomainId) :
    (left.recomputeDomain limits now id).2.Twins worker boot
      (right.recomputeDomain limits now id).2 := by
  unfold Impl.recomputeDomain
  rcases twins.domains.find? id with ⟨first, second⟩ | ⟨domain, other, first, second, twin⟩
  · rw [first, second]
    exact twins
  · rw [first, second]
    refine ⟨?_, twins.domains.modify (twin.recomputed limits now left right) id⟩
    dsimp only
    rw [twins.rest]

private theorem applyLocalShaping (twins : left.Twins worker boot right)
    (id : CongestionDomainId) (action : BackpressureAction R) :
    (left.applyLocalShaping id action).2.Twins worker boot
      (right.applyLocalShaping id action).2 := by
  unfold Impl.applyLocalShaping
  split
  · exact twins
  · split
    · exact twins
    · rcases twins.domains.find? id with ⟨first, second⟩ | ⟨domain, other, first, second, twin⟩
      · rw [first, second]
        exact twins
      · rw [first, second]
        refine ⟨?_, twins.domains.modify ?_ id⟩
        · rw [twins.rest]
        · exact ⟨by rw [twin.rest]; rfl, twin.posture, twin.offered, twin.serviced⟩

private theorem createDomain (twins : left.Twins worker boot right) (limits : EngineLimits)
    (kind : Enum8 DomainKind) (capacity : CapacityProfile R) :
    (left.createDomain limits kind capacity).2.Twins worker boot
      (right.createDomain limits kind capacity).2 := by
  have counter : left.nextDomain = right.nextDomain := by rw [twins.rest]
  unfold Impl.createDomain
  rw [twins.domains.size_eq]
  split
  · exact twins
  · split
    · exact twins
    · unfold Impl.storeDomain
      dsimp only
      rw [counter]
      refine ⟨?_, twins.domains.emplace (.refl _) _⟩
      rw [twins.rest]

private theorem removeDomain (twins : left.Twins worker boot right) (id : CongestionDomainId) :
    (left.removeDomain id).2.Twins worker boot (right.removeDomain id).2 := by
  unfold Impl.removeDomain
  rw [twins.domains.contains_eq]
  split
  · refine ⟨?_, twins.domains.erase id⟩
    rw [twins.rest]
  · exact twins

private theorem fenceWorker (twins : left.Twins worker boot right) (dead : WorkerId)
    (deadBoot : WorkerBootId) :
    (left.fenceWorker dead deadBoot).2.Twins worker boot (right.fenceWorker dead deadBoot).2 := by
  unfold Impl.fenceWorker
  rw [twins.workerBoot_eq]
  cases fenceBoot right.workerBoot dead deadBoot with
  | none => exact twins
  | some workerBoot =>
      refine ⟨?_, twins.domains.mapAccumulate (fun flag _ _ _ twin =>
        twin.dropEvidence dead deadBoot flag) false⟩
      dsimp only
      rw [twins.rest]

private theorem declareFlow (twins : left.Twins worker boot right) (limits : EngineLimits)
    (now : UInt64) (options : FlowOptions R) :
    (left.declareFlow limits now options).2.Twins worker boot
      (right.declareFlow limits now options).2 := by
  have stored : (left.storeFlow limits now options).2.Twins worker boot
      (right.storeFlow limits now options).2 :=
    twins.update (fun state => (state.storeFlow limits now options).2) fun _ => rfl
  have sources : left.sourceBoot = right.sourceBoot := by rw [twins.rest]
  have slots : left.activeFlows = right.activeFlows := by rw [twins.rest]
  have alike : Declarable limits options left ↔ Declarable limits options right := by
    rw [declarable_iff, declarable_iff, twins.workerBoot_eq, sources, slots,
      twins.domains.contains_eq]
  by_cases allowed : Declarable limits options right
  · rw [declareFlow_of_declarable allowed, declareFlow_of_declarable (alike.mpr allowed)]
    exact stored
  · rw [declareFlow_of_not_declarable allowed, declareFlow_of_not_declarable (allowed ∘ alike.mp)]
    exact twins

private theorem revalidateAll (twins : left.Twins worker boot right) :
    left.revalidateAll.Twins worker boot right.revalidateAll := by
  refine ⟨?_, twins.domains.mapValues fun _ _ _ twin => twin.requireRevalidation⟩
  unfold Impl.revalidateAll
  dsimp only
  rw [twins.rest]

/-- Every operation keeps the relation. -/
theorem exec (twins : left.Twins worker boot right) (limits : EngineLimits) (now : UInt64)
    (op : Op R) :
    (exec limits now op left).2.Twins worker boot (exec limits now op right).2 := by
  cases op with
  | advanceEpoch next =>
      refine twins.update (fun state => (state.advanceEpoch next).2) fun state => ?_
      unfold Impl.advanceEpoch
      dsimp only
      split <;> rfl
  | registerWorker name boot =>
      exact twins.update (fun state => (state.registerWorker name boot).2) fun _ => rfl
  | registerSource source boot =>
      exact twins.update (fun state => (state.registerSource source boot).2) fun _ => rfl
  | fenceWorker dead deadBoot => exact twins.fenceWorker dead deadBoot
  | fenceSource source deadBoot =>
      refine twins.update (fun state => (state.fenceSource source deadBoot).2) fun state => ?_
      unfold Impl.fenceSource
      dsimp only
      split <;> rfl
  | createDomain kind capacity => exact twins.createDomain limits kind capacity
  | removeDomain id => exact twins.removeDomain id
  | declareFlow options => exact twins.declareFlow limits now options
  | admitFlow ref =>
      have bodies : (fun flow : Flow R => flow.admission (left.domains.contains flow.domain.id)) =
          fun flow => flow.admission (right.domains.contains flow.domain.id) := by
        funext flow
        rw [twins.domains.contains_eq]
      change (left.admitFlow ref).2.Twins worker boot (right.admitFlow ref).2
      unfold Impl.admitFlow
      rw [bodies]
      refine twins.onFlow ref _ fun flow left right twins => twins.onDomain _ fun twin => ?_
      refine ⟨?_, twin.posture, twin.offered, twin.serviced⟩
      rw [twin.rest]
      rfl
  | queueFlow ref =>
      have bodies : (fun flow : Flow R => flow.queue limits
            (left.domains.contains flow.domain.id) (left.queuedFlows flow.domain.id)) =
          fun flow => flow.queue limits (right.domains.contains flow.domain.id)
            (right.queuedFlows flow.domain.id) := by
        funext flow
        rw [twins.domains.contains_eq, twins.queuedFlows_eq]
      change (left.queueFlow limits ref).2.Twins worker boot (right.queueFlow limits ref).2
      unfold Impl.queueFlow
      rw [bodies]
      exact twins.onFlow ref _ fun _ _ _ twins => twins
  | startFlow ref owner =>
      change (left.startFlow now ref owner).2.Twins worker boot (right.startFlow now ref owner).2
      unfold Impl.startFlow
      exact twins.onFlow ref _ fun flow _ _ twins =>
        twins.onDomain flow.domain.id fun twin => twin.clearRevalidation
  | flowProgress ref owner delta => exact twins.onFlow ref _ fun _ _ _ twins => twins
  | flowComplete ref owner => exact twins.onFlow ref _ fun _ _ _ twins => twins.releaseSlot
  | flowCancel ref owner soFar => exact twins.onFlow ref _ fun _ _ _ twins => twins.releaseSlot
  | flowFail ref owner => exact twins.onFlow ref _ fun _ _ _ twins => twins.releaseSlot
  | advanceFlowGeneration ref next =>
      refine twins.update (fun state => (state.advanceFlowGeneration ref next).2) fun state => ?_
      unfold Impl.advanceFlowGeneration
      dsimp only
      split <;> rfl
  | revalidateFlow ref owner => exact twins.onFlow ref _ fun _ _ _ twins => twins
  | publishMeasurement id measurement owner ownerBoot =>
      exact twins.publishMeasurement id measurement measurement.value rfl (Or.inl rfl)
  | recomputeDomain id => exact twins.recomputeDomain limits now id
  | applyLocalShaping id action => exact twins.applyLocalShaping id action
  | recoverDynamicEvidence =>
      have marked : ({ left with recovered := true } : Impl R).Twins worker boot
          { right with recovered := true } :=
        twins.update (fun state => { state with recovered := true }) fun _ => rfl
      exact marked.revalidateAll

end Impl.Twins

/-- The maps of the two states are enumerated in the same order. -/
structure Impl.SameOrder (left right : Impl R) : Prop where
  workerBoot : left.workerBoot.keys = right.workerBoot.keys
  sourceBoot : left.sourceBoot.keys = right.sourceBoot.keys
  domains : left.domains.keys = right.domains.keys
  flows : left.flows.keys = right.flows.keys

theorem Impl.Twins.sameOrder {worker : WorkerId} {boot : WorkerBootId} {left right : Impl R}
    (twins : left.Twins worker boot right) : left.SameOrder right where
  workerBoot := by rw [twins.workerBoot_eq]
  sourceBoot := by rw [twins.rest]
  domains := twins.domains.keys_eq
  flows := by rw [twins.flows_eq]

/-- Containers that rehash alike stay alike. -/
theorem Impl.Twins.reorder {worker : WorkerId} {boot : WorkerBootId}
    {left right leftNext rightNext : Impl R} (twins : left.Twins worker boot right)
    (leftSame : left.Reordered leftNext) (rightSame : right.Reordered rightNext)
    (order : leftNext.SameOrder rightNext) : leftNext.Twins worker boot rightNext := by
  have together : ∀ {K V : Type} [DecidableEq K] {first second firstNext secondNext :
      UnorderedMap K V}, first = second → first.Same firstNext → second.Same secondNext →
      firstNext.keys = secondNext.keys → firstNext = secondNext := by
    rintro K V _ first _ firstNext secondNext rfl firstSame secondSame keys
    exact ((UnorderedMap.Alike.refl (fun _ => rfl) first).reorder firstSame secondSame keys).eq
  have workers := together twins.workerBoot_eq leftSame.workerBoot rightSame.workerBoot
    order.workerBoot
  have sources := together (by rw [twins.rest]) leftSame.sourceBoot rightSame.sourceBoot
    order.sourceBoot
  have flows := together twins.flows_eq leftSame.flows rightSame.flows order.flows
  refine ⟨?_, twins.domains.reorder leftSame.domains rightSame.domains order.domains⟩
  have reordered : ∀ {state next : Impl R}, state.Reordered next → next = { state with
      workerBoot := next.workerBoot
      sourceBoot := next.sourceBoot
      domains := next.domains
      flows := next.flows } := by
    intro state next same
    rw [same.rest]
  have event : leftNext.nextEvent = left.nextEvent := by rw [reordered leftSame]
  rw [event]
  conv_lhs => rw [reordered leftSame, workers, sources, flows, twins.rest]
  conv_rhs => rw [reordered rightSame]

/-! ## Assessments -/

/-- The latest SERVICE_LATENCY of the domain passes the inflation test. -/
def Impl.slow (state : Impl R) (id : CongestionDomainId) : Bool :=
  (state.domains.find? id).any fun domain => domain.capacity.effective.any (latencyHigh domain)

/-- The assessment of the domain hangs on that test: no revalidation is pending,
there is a capacity and traffic, bytes are queued, more is offered than serviced,
and no flow starves. -/
def Impl.hangsOnLatency (state : Impl R) (id : CongestionDomainId) : Bool :=
  (state.domains.find? id).any fun domain =>
    let aggregate := aggregateDomain domain state.flows
    !domain.state.awaitsRevalidation && domain.capacity.effective.isSome &&
      !decide (domain.offeredBps ≤ 0.0 ∧ domain.servicedBps ≤ 0.0 ∧ aggregate.queuedOps = 0 ∧
        aggregate.inFlightOps = 0) &&
      decide (aggregate.queuedBytes > 0) &&
      decide (domain.offeredBps - domain.servicedBps > 1e-9) &&
      !starvation (liveFlows domain state.flows)

/-- The decisions of `classify` while the queue grows. -/
private theorem signals_state_of_growing {signals : Signals R} (queue : signals.queuedBytes > 0)
    (growing : signals.deficit > 1e-9) :
    signals.state =
      if signals.latencyHigh = true ∨ signals.starvation = true then .severelyCongested
      else if signals.deficit > 0.2 * signals.eff then .congested else .queueing := by
  unfold Signals.state
  dsimp only
  by_cases severe : signals.latencyHigh = true ∨ signals.starvation = true
  · rw [if_pos ⟨queue, growing, severe⟩, if_pos severe]
  · have low : ¬signals.latencyHigh = true := fun high => severe (Or.inl high)
    rw [if_neg fun all => severe all.2.2, if_neg severe]
    by_cases deep : signals.deficit > 0.2 * signals.eff
    · rw [if_pos ⟨queue, growing, Or.inl deep⟩, if_pos deep]
    · rw [if_neg fun all => all.2.2.elim deep low, if_neg deep, if_pos ⟨queue, growing⟩]

/-- Otherwise the latency is not looked at. -/
private theorem signals_state_of_calm {signals : Signals R} (slow : Bool)
    (calm : ¬(signals.queuedBytes > 0 ∧ signals.deficit > 1e-9)) :
    signals.state = ({ signals with latencyHigh := slow } : Signals R).state := by
  have never : ∀ rest : Prop, ¬(signals.queuedBytes > 0 ∧ signals.deficit > 1e-9 ∧ rest) :=
    fun rest all => calm ⟨all.1, all.2.1⟩
  have deficit : ({ signals with latencyHigh := slow } : Signals R).deficit = signals.deficit := rfl
  have sat : ({ signals with latencyHigh := slow } : Signals R).sat = signals.sat := rfl
  have ratio : ({ signals with latencyHigh := slow } : Signals R).servRatio =
    signals.servRatio := rfl
  unfold Signals.state
  rw [deficit, sat, ratio]
  dsimp only
  rw [if_neg (never _), if_neg (never _), if_neg (never _), if_neg (never _)]

private theorem signals_state_eq_iff (signals : Signals R) (slow : Bool) :
    signals.state = ({ signals with latencyHigh := slow } : Signals R).state ↔
      signals.latencyHigh = slow ∨
        (decide (signals.queuedBytes > 0) && decide (signals.deficit > 1e-9) &&
          !signals.starvation) = false := by
  by_cases grows : signals.queuedBytes > 0 ∧ signals.deficit > 1e-9
  · obtain ⟨queue, growing⟩ := grows
    have other : (if signals.deficit > 0.2 * signals.eff then CongestionState.congested
        else .queueing) ≠ .severelyCongested := by
      split <;> simp
    have deficit : ({ signals with latencyHigh := slow } : Signals R).deficit > 1e-9 := growing
    rw [signals_state_of_growing queue growing, signals_state_of_growing (by exact queue) deficit,
      decide_eq_true queue, decide_eq_true growing]
    change (if _ then _ else if signals.deficit > 0.2 * signals.eff then _ else _) =
      (if slow = true ∨ signals.starvation = true then _
        else if signals.deficit > 0.2 * signals.eff then _ else _) ↔ _
    cases signals.starvation with
    | true => simp
    | false =>
        cases signals.latencyHigh with
        | true =>
            cases slow with
            | true => simp
            | false => simpa using other.symm
        | false =>
            cases slow with
            | true => simpa using other
            | false => simp
  · have calm : (decide (signals.queuedBytes > 0) && decide (signals.deficit > 1e-9)) = false := by
      rw [Bool.eq_false_iff, ne_eq, Bool.and_eq_true, decide_eq_true_eq, decide_eq_true_eq]
      exact grows
    rw [calm, Bool.false_and]
    exact iff_of_true (signals_state_of_calm slow grows) (Or.inr rfl)

/-- Records that differ only in their measurements classify alike exactly if the
latency test agrees or does not decide. -/
private theorem classify_eq_iff {domain : CongestionDomain R} {values : CongestionDomain.Values R}
    {flows : UnorderedMap FlowId (Flow R)} {revalidation : Bool}
    (offered : values.offeredBps = domain.offeredBps)
    (serviced : values.servicedBps = domain.servicedBps) :
    classify (domain.withValues values) (aggregateDomain domain flows) flows revalidation =
        classify domain (aggregateDomain domain flows) flows revalidation ↔
      domain.capacity.effective.any (latencyHigh (domain.withValues values)) =
          domain.capacity.effective.any (latencyHigh domain) ∨
        (!revalidation && domain.capacity.effective.isSome &&
          !decide (domain.offeredBps ≤ 0.0 ∧ domain.servicedBps ≤ 0.0 ∧
            (aggregateDomain domain flows).queuedOps = 0 ∧
            (aggregateDomain domain flows).inFlightOps = 0) &&
          decide ((aggregateDomain domain flows).queuedBytes > 0) &&
          decide (domain.offeredBps - domain.servicedBps > 1e-9) &&
          !starvation (liveFlows domain flows)) = false := by
  have capacity : (domain.withValues values).capacity = domain.capacity := rfl
  have offeredToo : (domain.withValues values).offeredBps = domain.offeredBps := offered
  have servicedToo : (domain.withValues values).servicedBps = domain.servicedBps := serviced
  have live : liveFlows (domain.withValues values) flows = liveFlows domain flows := rfl
  have provenance : assessedProvenance (domain.withValues values) = assessedProvenance domain := rfl
  have idle : (domain.withValues values).servicedProvenance = domain.servicedProvenance := rfl
  unfold classify
  rw [capacity, offeredToo, servicedToo, live, provenance, idle]
  cases revalidation with
  | true => simp
  | false =>
      cases domain.capacity.effective with
      | none => simp
      | some eff =>
          by_cases quiet : domain.offeredBps ≤ 0.0 ∧ domain.servicedBps ≤ 0.0 ∧
              (aggregateDomain domain flows).queuedOps = 0 ∧
              (aggregateDomain domain flows).inFlightOps = 0
          · simp [quiet]
          · rw [if_neg Bool.false_ne_true, if_neg Bool.false_ne_true]
            dsimp only
            rw [if_neg quiet, if_neg quiet, decide_eq_false quiet]
            have decided := signals_state_eq_iff
              { eff := eff
                offered := domain.offeredBps
                serviced := domain.servicedBps
                queuedBytes := (aggregateDomain domain flows).queuedBytes
                latencyHigh := latencyHigh (domain.withValues values) eff
                starvation := starvation (liveFlows domain flows) } (latencyHigh domain eff)
            refine Iff.trans ⟨congrArg CongestionAssessment.state, fun same => ?_⟩
              (decided.trans ?_)
            · rw [CongestionAssessment.mk.injEq]
              exact ⟨same, rfl, rfl, rfl, rfl⟩
            · rfl

/-- Where the boot owns no rate of a domain, the assessments of the two states are
the same exactly if the latency test agrees or does not decide. -/
theorem Impl.Twins.assessCongestion_eq_iff {worker : WorkerId} {boot : WorkerBootId}
    {left right : Impl R} {id : CongestionDomainId} (twins : left.Twins worker boot right)
    (others : ∀ domain, left.domains.find? id = some domain →
      domain.ratedBy (worker, boot) = false) :
    left.assessCongestion id = right.assessCongestion id ↔
      left.slow id = right.slow id ∨ left.hangsOnLatency id = false := by
  unfold Impl.assessCongestion Impl.slow Impl.hangsOnLatency
  rcases twins.domains.find? id with ⟨first, second⟩ | ⟨domain, other, first, second, twin⟩
  · rw [first, second]
    simp
  · have unrated := others domain first
    rw [twin.ratedBy_eq, CongestionDomain.ratedBy, Bool.or_eq_false_iff] at unrated
    have offered := twin.offered unrated.1
    have serviced := twin.serviced unrated.2
    have awaits := twin.awaits_eq
    obtain ⟨values, rfl⟩ : ∃ values, domain = other.withValues values := ⟨_, twin.rest⟩
    rw [first, second]
    unfold Impl.assess
    simp only [Option.any_some]
    rw [twins.flows_eq, awaits, offered, serviced]
    exact classify_eq_iff offered serviced

end CongestionFabric
