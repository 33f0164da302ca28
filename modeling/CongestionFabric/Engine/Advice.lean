import CongestionFabric.Engine.Query

/-!
Contract: the advice the engine derives from a domain and its flows
(`evaluate_fairness` and `eval_backpressure` of `engine.cpp`).

Owns the fairness report with the target and the observed share of every live flow,
and the action intent with its target flow, cause and cost.

Does not own: the application of an action, which is `apply_local_shaping`.
-/

namespace CongestionFabric

open Foundation

variable {R : Type} [Arithmetic R]

/-! ## Fairness -/

/-- `FairnessShare`. -/
structure FairnessShare (R : Type) [Arithmetic R] where
  flow : FlowId := {}
  flowGeneration : FlowGeneration := {}
  config : FairnessConfig R := {}
  targetShareBps : R := 0.0
  observedShareBps : R := 0.0
  fairnessDeficitBps : R := 0.0
  starved : Bool := false
  provenance : Enum8 MeasurementProvenance := MeasurementProvenance.unknown

/-- `FairnessReport`. -/
structure FairnessReport (R : Type) [Arithmetic R] where
  domain : CongestionDomainId := {}
  model : Enum8 FairnessModel := FairnessModel.unknown
  shares : List (FairnessShare R) := []

/-- The weight of a participant; one that is not positive counts as 1. -/
def FairnessConfig.shareWeight (config : FairnessConfig R) : R :=
  if config.weight > 0.0 then config.weight else 1.0

/-- The target share of a participant under the model of its configuration. -/
def FairnessConfig.target (config : FairnessConfig R) (eff count totalWeight : R) : R :=
  let equal := eff / count
  if config.model = (FairnessModel.weightedShare : Enum8 _) ||
      config.model = (FairnessModel.callerWeights : Enum8 _) then
    if totalWeight > 0.0 then eff * (config.shareWeight / totalWeight) else equal
  else if config.model = (FairnessModel.minimumGuaranteedShare : Enum8 _) then
    Arithmetic.stdMax config.minimumGuaranteeBps equal
  else if config.model = (FairnessModel.cappedShare : Enum8 _) then
    Arithmetic.stdMin equal (if config.capBps > 0.0 then config.capBps else Arithmetic.largest)
  else
    equal

/-- The share of one of the participants `parts` of a domain. The serviced rate is
distributed in proportion to the completed bytes. -/
def CongestionDomain.share (domain : CongestionDomain R) (parts : List (Flow R))
    (flow : Flow R) : FairnessShare R :=
  let eff := domain.capacity.effective.getD 0.0
  let count : R := Arithmetic.ofUInt64 (.ofNat parts.length)
  let totalCompleted := parts.foldl (fun total flow => total + flow.completedBytes.value) 0
  let totalWeight := parts.foldl (fun total flow => total + flow.fairness.shareWeight) 0.0
  let config := { flow.fairness with model := domain.defaultFairness.model }
  let target := config.target eff count totalWeight
  let observed := if totalCompleted > 0 then
      domain.servicedBps * (Arithmetic.ofUInt64 flow.completedBytes.value /
        Arithmetic.ofUInt64 totalCompleted)
    else domain.servicedBps / count
  { flow := flow.ref.id
    flowGeneration := flow.ref.generation
    config := config
    targetShareBps := target
    observedShareBps := observed
    fairnessDeficitBps := Arithmetic.stdMax 0.0 (target - observed)
    starved := decide (eff > 0.0) && decide (observed < 0.05 * eff) &&
      decide (domain.servicedBps > 0.0)
    provenance := MeasurementProvenance.derived }

/-- `evaluate_fairness`. -/
def Impl.evaluateFairness (id : CongestionDomainId) (state : Impl R) : FairnessReport R :=
  match state.domains.find? id with
  | none => { domain := id }
  | some domain =>
      let parts := liveFlows domain state.flows
      { domain := id
        model := domain.defaultFairness.model
        shares := parts.map (domain.share parts) }

/-! ## Backpressure -/

/-- The first flow with the most bytes in flight, among those with any. -/
def mostInFlight (flows : List (Flow R)) : Option (Flow R) :=
  flows.foldl (fun most flow =>
    if flow.inFlightBytes.value > (most.map fun flow => flow.inFlightBytes.value).getD 0
    then some flow else most) none

/-- The intent for a domain in the given state. -/
def CongestionState.intent (state : CongestionState) : ActionIntent :=
  if state = .severelyCongested then .pauseNewTraffic
  else if state = .congested then .throttle
  else .admitLimited

/-- `eval_backpressure`. Every state from SATURATED on passes the first test, in the
order of the enumerators. -/
def Impl.evalBackpressure (text : R → Bytes) (id : CongestionDomainId) (state : Impl R) :
    BackpressureAction R :=
  match state.domains.find? id with
  | none => {}
  | some domain =>
      if Enumeration.toU8 domain.state < Enumeration.toU8 CongestionState.saturated then
        { intent := ActionIntent.noAction }
      else
        let deficit := domain.offeredBps - domain.servicedBps
        if deficit ≤ 0.0 then { intent := ActionIntent.noAction }
        else
          let dominant := mostInFlight (liveFlows domain state.flows)
          { intent := domain.state.intent
            targetFlow := (dominant.map fun flow =>
              { id := flow.ref.id, generation := flow.ref.generation }).getD {}
            targetDomain := domain.ref
            cause := ascii "offered exceeds effective capacity; deficit=" ++ text deficit
            expectedBenefitBps := Arithmetic.stdMax 0.0 deficit
            estimatedCostBps := (dominant.map Flow.throughputTargetBps).getD 0.0
            costMs := 1.0
            policyGeneration := domain.defaultFairness.policyGeneration
            generation := domain.backpressureGeneration.next
            provenance := domain.servicedProvenance
            epoch := state.epoch
            validityWindowMs := 1000.0
            preconditions := [ascii "flow generation current",
              ascii "domain congestion current"] }

/-- The state and the rates of the domain make `eval_backpressure` ask for something. -/
def CongestionDomain.warrantsAction (domain : CongestionDomain R) : Bool :=
  !decide (Enumeration.toU8 domain.state < Enumeration.toU8 CongestionState.saturated) &&
    !decide (domain.offeredBps - domain.servicedBps ≤ 0.0)

theorem CongestionDomain.warrantsAction_iff {domain : CongestionDomain R} :
    domain.warrantsAction = true ↔
      ¬Enumeration.toU8 domain.state < Enumeration.toU8 CongestionState.saturated ∧
        ¬domain.offeredBps - domain.servicedBps ≤ (0.0 : R) := by
  simp [CongestionDomain.warrantsAction]

theorem CongestionState.intentIsRestrictive_intent (state : CongestionState) :
    intentIsRestrictive state.intent = true := by
  cases state <;> decide

section Outcome

variable {state : Impl R} {id : CongestionDomainId} {domain : CongestionDomain R}
  (text : R → Bytes)

/-- A domain that warrants no action gets NO_ACTION. -/
theorem Impl.evalBackpressure_of_calm (stored : state.domains.find? id = some domain)
    (calm : domain.warrantsAction = false) :
    state.evalBackpressure text id = { intent := ActionIntent.noAction } := by
  unfold Impl.evalBackpressure
  simp only [stored]
  by_cases low : Enumeration.toU8 domain.state < Enumeration.toU8 CongestionState.saturated
  · rw [if_pos low]
  · rw [if_neg low]
    by_cases balanced : domain.offeredBps - domain.servicedBps ≤ (0.0 : R)
    · rw [if_pos balanced]
    · have warranted := CongestionDomain.warrantsAction_iff.mpr ⟨low, balanced⟩
      exact absurd (calm.symm.trans warranted) (by simp)

/-- What a domain that warrants an action gets, as far as the application of the
action looks at it. -/
theorem Impl.evalBackpressure_of_warranted (stored : state.domains.find? id = some domain)
    (warranted : domain.warrantsAction = true) :
    let action := state.evalBackpressure text id
    action.intent = (domain.state.intent : Enum8 _) ∧
      action.expectedBenefitBps =
        Arithmetic.stdMax 0.0 (domain.offeredBps - domain.servicedBps) ∧
      action.estimatedCostBps =
        ((mostInFlight (liveFlows domain state.flows)).map Flow.throughputTargetBps).getD 0.0 ∧
      action.costMs = 1.0 ∧ action.validityWindowMs = 1000.0 := by
  obtain ⟨low, balanced⟩ := CongestionDomain.warrantsAction_iff.mp warranted
  unfold Impl.evalBackpressure
  simp only [stored]
  rw [if_neg low, if_neg balanced]
  exact ⟨rfl, rfl, rfl, rfl, rfl⟩

end Outcome

end CongestionFabric
