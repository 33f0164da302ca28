import CongestionFabric.Engine.Applicable
import CongestionFabric.Engine.Bindings
import CongestionFabric.Foundation.Apportion
import Mathlib.Algebra.BigOperators.Ring.Finset

/-!
Contract: what the shares of a fairness report add up to, with rates read as exact
numbers, and which flows they name.

Owns:
- the sums of the observed shares and of the even and weighted targets over any
  list of participants;
- the participants of a domain as distinct flows, which rests on the lists of the
  domains and on the keys of the flows;
- the report of a domain under any fairness configuration.

Does not own: guaranteed and capped targets, which need not add up, and which
engines are reached.
-/

namespace CongestionFabric

open Foundation

/-! ## Targets -/

section Targets

variable {R : Type} [Arithmetic R] {config : FairnessConfig R} {eff count weights : R}

theorem FairnessConfig.target_of_equalShare
    (model : config.model = (FairnessModel.equalShare : Enum8 _)) :
    config.target eff count weights = eff / count := by
  unfold FairnessConfig.target
  rw [model]
  rfl

theorem FairnessConfig.target_of_weighted
    (model : config.model = (FairnessModel.weightedShare : Enum8 _) ∨
      config.model = (FairnessModel.callerWeights : Enum8 _)) (positive : weights > 0.0) :
    config.target eff count weights = eff * (config.shareWeight / weights) := by
  have weighted : (decide (config.model = (FairnessModel.weightedShare : Enum8 _)) ||
      decide (config.model = (FairnessModel.callerWeights : Enum8 _))) = true := by
    simpa using model
  unfold FairnessConfig.target
  dsimp only
  rw [if_pos weighted, if_pos positive]

/-- `total_weight` of `evaluate_fairness`. -/
def totalWeight (parts : List (Flow R)) : R :=
  parts.foldl (fun total flow => total + flow.fairness.shareWeight) 0.0

variable {domain : CongestionDomain R} (parts : List (Flow R)) (flow : Flow R)

/-- A flow is held to the model of the domain, whatever its own configuration says. -/
theorem targetShareBps_of_equalShare
    (model : domain.defaultFairness.model = (FairnessModel.equalShare : Enum8 _)) :
    (domain.share parts flow).targetShareBps =
      domain.capacity.effective.getD 0.0 / Arithmetic.ofUInt64 (.ofNat parts.length) := by
  show FairnessConfig.target _ _ _ _ = _
  exact FairnessConfig.target_of_equalShare model

theorem targetShareBps_of_weighted
    (model : domain.defaultFairness.model = (FairnessModel.weightedShare : Enum8 _) ∨
      domain.defaultFairness.model = (FairnessModel.callerWeights : Enum8 _))
    (positive : totalWeight parts > 0.0) :
    (domain.share parts flow).targetShareBps =
      domain.capacity.effective.getD 0.0 * (flow.fairness.shareWeight / totalWeight parts) := by
  show FairnessConfig.target _ _ _ _ = _
  exact FairnessConfig.target_of_weighted model positive

end Targets

/-! ## Sums over participants -/

section Sums

variable {domain : CongestionDomain Exact} {parts : List (Flow Exact)}

/-- The number of participants as the report divides by it. -/
private theorem count_number (sized : parts.length < 2 ^ 64) :
    (Arithmetic.ofUInt64 (.ofNat parts.length) : Exact) = .number parts.length := by
  rw [Exact.ofUInt64_eq, UInt64.toNat_ofNat_of_lt' sized]

/-- An even portion of a number. -/
private theorem div_count (amount : ℚ) (nonempty : parts ≠ []) (sized : parts.length < 2 ^ 64) :
    Exact.number amount / Arithmetic.ofUInt64 (.ofNat parts.length) =
      .number (amount / parts.length) := by
  have positive : (parts.length : ℚ) ≠ 0 :=
    Nat.cast_ne_zero.mpr fun empty => nonempty (List.length_eq_zero_iff.mp empty)
  rw [count_number sized, Exact.number_div amount positive]

/-- The observed shares distribute the serviced rate: in proportion to the completed
bytes, or evenly where none are completed. -/
theorem total_observedShareBps (finite : domain.ratesFinite = true) (nonempty : parts ≠ [])
    (sized : parts.length < 2 ^ 64) (fit : totalBytes Flow.completedBytes parts < 2 ^ 64) :
    Exact.total (parts.map fun flow => (domain.share parts flow).observedShareBps) =
      domain.servicedBps := by
  obtain ⟨serviced, number⟩ := Exact.isFinite_iff.mp (Bool.and_eq_true_iff.mp finite).2
  have whole : (totalCompleted parts).toNat = totalBytes Flow.completedBytes parts := by
    rw [toNat_totalCompleted, Nat.mod_eq_of_lt fit]
  by_cases completed : totalCompleted parts > 0
  · have positive : 0 < totalBytes Flow.completedBytes parts := by
      rw [← whole]
      exact UInt64.lt_iff_toNat_lt.mp completed
    have sum : (parts.map fun flow => (flow.completedBytes.value.toNat : ℚ)).sum =
        totalBytes Flow.completedBytes parts := by
      rw [totalBytes, Nat.cast_list_sum, List.map_map]
      rfl
    have nonzero : (parts.map fun flow => (flow.completedBytes.value.toNat : ℚ)).sum ≠ 0 := by
      rw [sum]
      exact Nat.cast_ne_zero.mpr positive.ne'
    have each : ∀ flow ∈ parts, (domain.share parts flow).observedShareBps =
        .number (portion serviced
          (parts.map fun flow => (flow.completedBytes.value.toNat : ℚ)).sum
          flow.completedBytes.value.toNat) := by
      intro flow _
      rw [share_observedShareBps, if_pos completed, number, Exact.ofUInt64_eq,
        Exact.ofUInt64_eq, whole, ← sum, Exact.number_div _ nonzero, Exact.number_mul]
      rfl
    rw [Exact.total_map each, sum_portion serviced _ nonzero, number]
  · have each : ∀ flow ∈ parts,
        (domain.share parts flow).observedShareBps = .number (serviced / parts.length) := by
      intro flow _
      rw [share_observedShareBps, if_neg completed, number, div_count serviced nonempty sized]
    rw [Exact.total_map each, sum_even serviced nonempty, number]

/-- The capacity that is distributed is a number, also where none is known. -/
private theorem effective_getD (domain : CongestionDomain Exact) :
    ∃ eff : ℚ, domain.capacity.effective.getD 0.0 = .number eff := by
  cases known : domain.capacity.effective with
  | none => exact ⟨0, Exact.zero_eq⟩
  | some bound =>
      obtain ⟨eff, number, -⟩ := CapacityProfile.effective_number known
      exact ⟨eff, number⟩

/-- Equal targets distribute the effective capacity. -/
theorem total_targetShareBps_of_equalShare
    (model : domain.defaultFairness.model = (FairnessModel.equalShare : Enum8 _))
    (nonempty : parts ≠ []) (sized : parts.length < 2 ^ 64) :
    Exact.total (parts.map fun flow => (domain.share parts flow).targetShareBps) =
      domain.capacity.effective.getD 0.0 := by
  obtain ⟨eff, number⟩ := effective_getD domain
  have each : ∀ flow ∈ parts,
      (domain.share parts flow).targetShareBps = .number (eff / parts.length) := by
    intro flow _
    rw [targetShareBps_of_equalShare parts flow model, number, div_count eff nonempty sized]
  rw [Exact.total_map each, sum_even eff nonempty, number]

/-- A weight that is not infinite counts as a positive number. -/
private theorem shareWeight_number {config : FairnessConfig Exact}
    (bounded : config.weight ≠ .infinite false) :
    config.shareWeight = .number config.shareWeight.toRat ∧ 0 < config.shareWeight.toRat := by
  unfold FairnessConfig.shareWeight
  rw [Exact.zero_eq, Exact.one_eq]
  cases weight : config.weight with
  | number rational =>
      by_cases positive : Exact.number rational > .number 0
      · rw [if_pos positive]
        exact ⟨rfl, Exact.number_lt.mp positive⟩
      · rw [if_neg positive]
        exact ⟨rfl, one_pos⟩
  | infinite negative =>
      cases negative with
      | false => exact absurd weight bounded
      | true => exact ⟨rfl, one_pos⟩
  | notANumber => exact ⟨rfl, one_pos⟩

/-- Weighted targets distribute the effective capacity. -/
theorem total_targetShareBps_of_weighted
    (model : domain.defaultFairness.model = (FairnessModel.weightedShare : Enum8 _) ∨
      domain.defaultFairness.model = (FairnessModel.callerWeights : Enum8 _))
    (nonempty : parts ≠ []) (bounded : ∀ flow ∈ parts, flow.fairness.weight ≠ .infinite false) :
    Exact.total (parts.map fun flow => (domain.share parts flow).targetShareBps) =
      domain.capacity.effective.getD 0.0 := by
  obtain ⟨eff, number⟩ := effective_getD domain
  let weight : Flow Exact → ℚ := fun flow => flow.fairness.shareWeight.toRat
  have weights : ∀ flow ∈ parts, flow.fairness.shareWeight = .number (weight flow) :=
    fun flow member => (shareWeight_number (bounded flow member)).1
  have positive : 0 < (parts.map weight).sum := by
    apply List.sum_pos
    · intro value member
      obtain ⟨flow, inside, rfl⟩ := List.mem_map.mp member
      exact (shareWeight_number (bounded flow inside)).2
    · exact fun empty => nonempty (List.map_eq_nil_iff.mp empty)
  have total : totalWeight parts = .number (parts.map weight).sum := by
    rw [totalWeight, Exact.zero_eq, Exact.foldl_add_number parts 0 weights, zero_add]
  have above : totalWeight parts > 0.0 := by
    rw [total, Exact.zero_eq]
    exact Exact.number_lt.mpr positive
  have each : ∀ flow ∈ parts, (domain.share parts flow).targetShareBps =
      .number (portion eff (parts.map weight).sum (weight flow)) := by
    intro flow member
    rw [targetShareBps_of_weighted parts flow model above, number, total, weights flow member,
      Exact.number_div _ positive.ne', Exact.number_mul]
    rfl
  rw [Exact.total_map each, sum_portion eff weight positive.ne', number]

end Sums

/-! ## Distinct participants -/

section Participants

variable {R : Type} [Arithmetic R] {limits : EngineLimits} {state next : Impl R}
  {holds : Flow R → Prop}

/-- What a selection from a list names is in the order of the list. -/
private theorem sublist_filterMap {A B C : Type} {select : A → Option B} {name : B → C}
    {key : A → C} (names : ∀ item chosen, select item = some chosen → name chosen = key item)
    (items : List A) : List.Sublist ((items.filterMap select).map name) (items.map key) := by
  induction items with
  | nil => exact List.Sublist.refl []
  | cons item rest inductionHypothesis =>
      cases selected : select item with
      | none =>
          rw [List.filterMap_cons_none selected, List.map_cons]
          exact inductionHypothesis.cons _
      | some chosen =>
          rw [List.filterMap_cons_some selected, List.map_cons, List.map_cons,
            names item chosen selected]
          exact inductionHypothesis.cons_cons _

private theorem found_of_included {flows : UnorderedMap FlowId (Flow R)}
    {ref : EntityRef FlowTag} {flow : Flow R}
    (included : ((findFlow flows ref).filter fun flow => !flow.state.isStaleOrSuperseded) =
      some flow) :
    flows.find? ref.id = some flow ∧ flow.state.isStaleOrSuperseded = false := by
  obtain ⟨resolved, current⟩ := Option.filter_eq_some_iff.mp included
  exact ⟨(findFlow_eq_some.mp resolved).1, by simpa using current⟩

/-- A participant is a flow that is neither finished nor out of date. -/
theorem Impl.FlowsKeyed.live {domain : CongestionDomain R} {flow : Flow R}
    (keyed : state.FlowsKeyed) (member : flow ∈ liveFlows domain state.flows) :
    state.flows.find? flow.ref.id = some flow ∧ flow.isTerminal = false ∧
      flow.state.isStaleOrSuperseded = false := by
  rw [liveFlows_eq_filter] at member
  obtain ⟨listed, unfinished⟩ := List.mem_filter.mp member
  obtain ⟨ref, -, included⟩ := List.mem_filterMap.mp listed
  obtain ⟨found, current⟩ := found_of_included included
  rw [keyed ref.id flow found]
  exact ⟨found, by simpa using unfinished, current⟩

/-- A domain lists no flow twice, so none participates twice. -/
theorem Impl.FlowsKeyed.nodup_liveFlows {id : CongestionDomainId} {domain : CongestionDomain R}
    (keyed : state.FlowsKeyed) (binds : state.Binds holds)
    (stored : state.domains.find? id = some domain) :
    ((liveFlows domain state.flows).map fun flow => flow.ref.id).Nodup := by
  have listed : ((includedFlows domain state.flows).map fun flow => flow.ref.id).Nodup := by
    have named := sublist_filterMap (fun ref flow included =>
      keyed ref.id flow (found_of_included included).1) domain.flows
    exact named.nodup (binds.distinct id domain stored)
  rw [liveFlows_eq_filter]
  exact (List.filter_sublist.map _).nodup listed

end Participants

/-! ## Reports -/

/-- The shares of a report give out what the domain services, and, where targets are
even or weighted, its effective capacity; and they name distinct flows that can still
go on. -/
structure FairnessReport.Conserves (report : FairnessReport Exact)
    (domain : CongestionDomain Exact) (flows : UnorderedMap FlowId (Flow Exact)) : Prop where
  observed : Exact.total (report.shares.map FairnessShare.observedShareBps) = domain.servicedBps
  equal : report.model = (FairnessModel.equalShare : Enum8 _) →
    Exact.total (report.shares.map FairnessShare.targetShareBps) =
      domain.capacity.effective.getD 0.0
  weighted : report.model = (FairnessModel.weightedShare : Enum8 _) ∨
      report.model = (FairnessModel.callerWeights : Enum8 _) →
    (∀ flow ∈ liveFlows domain flows, flow.fairness.weight ≠ .infinite false) →
    Exact.total (report.shares.map FairnessShare.targetShareBps) =
      domain.capacity.effective.getD 0.0
  distinct : (report.shares.map FairnessShare.flow).Nodup
  live : ∀ share ∈ report.shares, ∃ flow, flows.find? share.flow = some flow ∧
    flow.ref.generation = share.flowGeneration ∧ flow.isTerminal = false ∧
    flow.state.isStaleOrSuperseded = false

/-- The engine with another fairness configuration for a domain. A domain is created
with the default one, and no operation sets it. -/
def Impl.withFairness {R : Type} [Arithmetic R] (state : Impl R) (id : CongestionDomainId)
    (fairness : FairnessConfig R) : Impl R :=
  state.onDomain id fun domain => { domain with defaultFairness := fairness }

section Reports

variable {state : Impl Exact} {id : CongestionDomainId} {domain : CongestionDomain Exact}

theorem Impl.evaluateFairness_of_stored (stored : state.domains.find? id = some domain) :
    state.evaluateFairness id =
      { domain := id
        model := domain.defaultFairness.model
        shares := (liveFlows domain state.flows).map
          (domain.share (liveFlows domain state.flows)) } := by
  unfold Impl.evaluateFairness
  rw [stored]

/-- The report of a domain, and that of the same domain under any fairness
configuration. -/
theorem Impl.evaluateFairness_conserves (keyed : state.FlowsKeyed)
    (binds : state.Binds fun _ => True) (stored : state.domains.find? id = some domain)
    (finite : domain.ratesFinite = true) (participates : liveFlows domain state.flows ≠ [])
    (sized : (liveFlows domain state.flows).length < 2 ^ 64)
    (fit : totalBytes Flow.completedBytes (liveFlows domain state.flows) < 2 ^ 64) :
    (state.evaluateFairness id).Conserves domain state.flows ∧
      ∀ fairness, ((state.withFairness id fairness).evaluateFairness id).Conserves domain
        state.flows := by
  have configured : ∀ {other : Impl Exact} (fairness : FairnessConfig Exact),
      other.flows = state.flows →
      other.domains.find? id = some { domain with defaultFairness := fairness } →
      (other.evaluateFairness id).Conserves domain state.flows := by
    intro other fairness same found
    rw [Impl.evaluateFairness_of_stored found, same]
    constructor
    case observed =>
      rw [List.map_map]
      exact total_observedShareBps (by exact finite) participates sized fit
    case equal =>
      intro model
      rw [List.map_map]
      exact total_targetShareBps_of_equalShare model participates sized
    case weighted =>
      intro model bounded
      rw [List.map_map]
      exact total_targetShareBps_of_weighted model participates bounded
    case distinct =>
      rw [List.map_map]
      show ((liveFlows domain state.flows).map fun flow => flow.ref.id).Nodup
      exact keyed.nodup_liveFlows binds stored
    case live =>
      intro share member
      obtain ⟨flow, inside, rfl⟩ := List.mem_map.mp member
      obtain ⟨here, live⟩ := keyed.live inside
      exact ⟨flow, here, rfl, live⟩
  refine ⟨configured domain.defaultFairness rfl stored, fun fairness => ?_⟩
  apply configured fairness
  · rw [Impl.withFairness, Impl.onDomain_eq]
  · rw [Impl.withFairness, Impl.onDomain_eq, UnorderedMap.find?_mapValues, stored]
    simp

end Reports

end CongestionFabric
