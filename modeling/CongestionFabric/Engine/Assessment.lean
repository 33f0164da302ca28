import CongestionFabric.Engine.Lifecycle

/-!
Contract: measurements and congestion analysis (`publish_measurement` to
`recover_dynamic_evidence` of `engine.cpp`).

Owns publication, the aggregate over a domain's flows, the classification with
its evidence, the cached assessment with the episode boundaries, local shaping
and conservative recovery.

Does not own: queries that change nothing, persistence.
-/

namespace CongestionFabric

open Foundation

/-- The bytes of an ASCII literal. -/
def ascii (text : String) : Bytes := text.toList.map fun character => .ofNat character.toNat

variable {R : Type} [Arithmetic R]

/-! ## Publication -/

/-- The update of an accepted publication: fresh evidence of any kind clears a
pending revalidation, and five kinds also set a rate of the domain. -/
def CongestionDomain.record (measurement : Measurement R) (owner : WorkerId)
    (ownerBoot : WorkerBootId) (domain : CongestionDomain R) : CongestionDomain R :=
  let domain := domain.clearRevalidation
  let domain := { domain with measurements := domain.measurements.put measurement }
  if measurement.kind = (MeasurementKind.offeredBytesPerSec : Enum8 _) then
    { domain with
      offeredBps := measurement.value
      offeredProvenance := measurement.provenance
      offeredOwner := owner
      offeredOwnerBoot := ownerBoot }
  else if measurement.kind = (MeasurementKind.admittedBytesPerSec : Enum8 _) then
    { domain with
      admittedBps := measurement.value
      admittedProvenance := measurement.provenance }
  else if measurement.kind = (MeasurementKind.completedBytesPerSec : Enum8 _) then
    { domain with
      servicedBps := measurement.value
      servicedProvenance := measurement.provenance
      servicedOwner := owner
      servicedOwnerBoot := ownerBoot }
  else if measurement.kind = (MeasurementKind.utilization : Enum8 _) then
    { domain with
      utilisation := measurement.value
      utilisationProvenance := measurement.provenance }
  else if measurement.kind = (MeasurementKind.effectiveBandwidth : Enum8 _) then
    { domain with
      effectiveBps := measurement.value
      effectiveProvenance := measurement.provenance }
  else
    domain

/-- `publish_measurement` with an owner; the unowned overload passes identity
and boot zero. -/
def Impl.publishMeasurement (domain : CongestionDomainId) (measurement : Measurement R)
    (owner : WorkerId) (ownerBoot : WorkerBootId) (state : Impl R) : Bool × Impl R :=
  if !measurement.valid then (false, state)
  else
    match state.domains.find? domain with
    | none => (false, state)
    | some found =>
        if owner.isValid && state.workerBoot.find? owner ≠ some ownerBoot then (false, state)
        else
          (true, { state with
            domains := state.domains.modify domain (found.record measurement owner ownerBoot) })

/-- The update where the store of the measurement has a meaning. -/
def CongestionDomain.record? (measurement : Measurement R) (owner : WorkerId)
    (ownerBoot : WorkerBootId) (domain : CongestionDomain R) : Option (CongestionDomain R) :=
  (domain.measurements.put? measurement).map fun stored =>
    { domain.record measurement owner ownerBoot with measurements := stored }

/-- `publish_measurement` where it has a meaning: an accepted publication whose
store is outside the array has none. -/
def Impl.publishMeasurement? (domain : CongestionDomainId) (measurement : Measurement R)
    (owner : WorkerId) (ownerBoot : WorkerBootId) (state : Impl R) : Option (Bool × Impl R) :=
  if !measurement.valid then some (false, state)
  else
    match state.domains.find? domain with
    | none => some (false, state)
    | some found =>
        if owner.isValid && state.workerBoot.find? owner ≠ some ownerBoot then some (false, state)
        else
          (found.record? measurement owner ownerBoot).map fun recorded =>
            (true, { state with domains := state.domains.modify domain recorded })

/-! ## Aggregation -/

/-- `Aggregate`. -/
structure Aggregate where
  queuedBytes : UInt64 := 0
  queuedOps : UInt64 := 0
  inFlightBytes : UInt64 := 0
  inFlightOps : UInt64 := 0
  completedBytes : UInt64 := 0
  cancelledBytes : UInt64 := 0
  failedBytes : UInt64 := 0
  activeFlows : UInt64 := 0

/-- The loop body of `aggregate_domain`; the sums are plain 64-bit ones. -/
def Aggregate.count (aggregate : Aggregate) (flow : Flow R) : Aggregate :=
  let aggregate := if flow.state = .queued then
      { aggregate with
        queuedOps := aggregate.queuedOps + 1
        queuedBytes := aggregate.queuedBytes + flow.admittedBytes.value }
    else if flow.state.canProgress then
      { aggregate with
        inFlightOps := aggregate.inFlightOps + 1
        inFlightBytes := aggregate.inFlightBytes + flow.inFlightBytes.value }
    else aggregate
  { aggregate with
    completedBytes := aggregate.completedBytes + flow.completedBytes.value
    cancelledBytes := aggregate.cancelledBytes + flow.cancelledBytes.value
    failedBytes := aggregate.failedBytes + flow.failedBytes.value
    activeFlows := if flow.isTerminal then aggregate.activeFlows else aggregate.activeFlows + 1 }

/-- `aggregate_domain`. -/
def aggregateDomain (domain : CongestionDomain R) (flows : UnorderedMap FlowId (Flow R)) :
    Aggregate :=
  domain.flows.foldl (fun aggregate ref =>
    match findFlow flows ref with
    | none => aggregate
    | some flow => if flow.state.isStaleOrSuperseded then aggregate else aggregate.count flow) {}

/-! ## Classification -/

/-- `CongestionEvidence`. -/
structure CongestionEvidence (R : Type) where
  name : String
  value : R
  detail : String

/-- `CongestionAssessment`. -/
structure CongestionAssessment (R : Type) [Arithmetic R] where
  state : CongestionState := .unknown
  provenance : Enum8 MeasurementProvenance := MeasurementProvenance.unknown
  score : R := 0.0
  authoritative : Bool := false
  evidence : List (CongestionEvidence R) := []

/-- The flows that the starvation loops of `classify` look at, in list order. -/
def liveFlows (domain : CongestionDomain R) (flows : UnorderedMap FlowId (Flow R)) :
    List (Flow R) :=
  domain.flows.filterMap fun ref =>
    match findFlow flows ref with
    | none => none
    | some flow => if flow.isTerminal || flow.state.isStaleOrSuperseded then none else some flow

/-- Starvation: a live flow made no progress while another did. -/
def starvation (live : List (Flow R)) : Bool :=
  let maxCompleted := live.foldl (fun most flow => max most flow.completedBytes.value) 0
  live.any fun flow =>
    flow.completedBytes.value = 0 && decide (flow.inFlightBytes.value > 0) &&
      decide (maxCompleted > 0)

/-- The quantities `classify` derives once a capacity bound exists and there is
traffic. -/
structure Signals (R : Type) [Arithmetic R] where
  eff : R
  offered : R
  serviced : R
  queuedBytes : UInt64
  latencyHigh : Bool
  starvation : Bool

namespace Signals

def sat (signals : Signals R) : R :=
  if signals.eff > 0.0 then signals.offered / signals.eff else 0.0

def servRatio (signals : Signals R) : R :=
  if signals.eff > 0.0 then signals.serviced / signals.eff else 0.0

def deficit (signals : Signals R) : R := signals.offered - signals.serviced

/-- The severity score, with the source's order of additions. -/
def score (signals : Signals R) : R :=
  let score : R := 0.0
  let score := score + Arithmetic.clamp signals.sat 0.0 1.0 * 0.40
  let score := score + Arithmetic.clamp signals.servRatio 0.0 1.0 * 0.20
  let score := score + Arithmetic.clamp (Arithmetic.ofUInt64 signals.queuedBytes /
    (if signals.eff > 0.0 then signals.eff else 1.0)) 0.0 1.0 * 0.20
  let score := if signals.deficit > 0.0 then
      score + Arithmetic.clamp (signals.deficit / signals.eff) 0.0 1.0 * 0.20
    else score
  Arithmetic.clamp score 0.0 1.0

/-- The chain of state decisions of `classify`. -/
def state (signals : Signals R) : CongestionState :=
  let hasQueue := signals.queuedBytes > 0
  let queueGrowing := signals.deficit > 1e-9
  let queueDraining := signals.deficit < -1e-9 ∧ hasQueue
  let saturated := signals.servRatio ≥ 0.95 ∧ signals.sat ≥ 0.9
  if hasQueue ∧ queueGrowing ∧ (signals.latencyHigh ∨ signals.starvation) then
    .severelyCongested
  else if hasQueue ∧ queueGrowing ∧
      (signals.deficit > 0.2 * signals.eff ∨ signals.latencyHigh) then
    .congested
  else if hasQueue ∧ queueGrowing then .queueing
  else if signals.sat > 1.0 ∧ ¬hasQueue then .saturated
  else if saturated ∧ ¬hasQueue then .approachingSaturation
  else if hasQueue ∧ queueDraining then .recovering
  else if hasQueue then .queueing
  else if signals.sat ≥ 0.8 then .busy
  else .healthy

/-- The evidence notes, in order. -/
def notes (signals : Signals R) : List (CongestionEvidence R) :=
  [⟨"offered_bps", signals.offered, "Offered load"⟩,
    ⟨"serviced_bps", signals.serviced, "Serviced load"⟩,
    ⟨"effective_bps", signals.eff, "Effective capacity"⟩,
    ⟨"queue_bytes", Arithmetic.ofUInt64 signals.queuedBytes, "Queued backlog"⟩,
    ⟨"deficit_bps", signals.deficit, "offered - serviced"⟩,
    ⟨"starvation", if signals.starvation then 1.0 else 0.0, "A live flow made no progress"⟩]

end Signals

/-- The inflated service latency test of `classify`. -/
def latencyHigh (domain : CongestionDomain R) (eff : R) : Bool :=
  let inflation := match domain.measurements.get .serviceLatency with
    | none => 1.0
    | some latency =>
        if latency.value > 0.0 ∧ eff > 0.0 then latency.value * eff else 1.0
  decide (inflation > 2.0)

/-- The provenance an assessment with traffic reports. -/
def assessedProvenance (domain : CongestionDomain R) : Enum8 MeasurementProvenance :=
  if domain.servicedProvenance = (MeasurementProvenance.measured : Enum8 _) ||
      domain.offeredProvenance = (MeasurementProvenance.measured : Enum8 _) then
    MeasurementProvenance.measured
  else if domain.servicedProvenance = (MeasurementProvenance.unknown : Enum8 _) then
    domain.offeredProvenance
  else
    domain.servicedProvenance

/-- `classify`. -/
def classify (domain : CongestionDomain R) (aggregate : Aggregate)
    (flows : UnorderedMap FlowId (Flow R)) (revalidation : Bool) : CongestionAssessment R :=
  if revalidation then
    { state := .revalidationRequired
      evidence := [⟨"revalidation_required", 0.0,
        "Dynamic evidence not republished since recovery"⟩] }
  else
    match domain.capacity.effective with
    | none =>
        { evidence := [⟨"no_capacity_bound", 0.0,
            "No valid effective capacity to classify against"⟩] }
    | some eff =>
        if domain.offeredBps ≤ 0.0 ∧ domain.servicedBps ≤ 0.0 ∧ aggregate.queuedOps = 0 ∧
            aggregate.inFlightOps = 0 then
          { state := .idle
            authoritative := true
            provenance := domain.servicedProvenance
            evidence := [⟨"idle", 0.0, "No offered or in-flight traffic"⟩] }
        else
          let signals : Signals R :=
            { eff := eff
              offered := domain.offeredBps
              serviced := domain.servicedBps
              queuedBytes := aggregate.queuedBytes
              latencyHigh := latencyHigh domain eff
              starvation := starvation (liveFlows domain flows) }
          { state := signals.state
            provenance := assessedProvenance domain
            score := signals.score
            authoritative := true
            evidence := signals.notes }

/-- An assessment is authoritative exactly when no revalidation is pending and
the domain has an effective capacity. -/
theorem classify_authoritative {domain : CongestionDomain R} {aggregate : Aggregate}
    {flows : UnorderedMap FlowId (Flow R)} {revalidation : Bool} :
    (classify domain aggregate flows revalidation).authoritative = true ↔
      revalidation = false ∧ domain.capacity.effective.isSome := by
  unfold classify
  cases revalidation with
  | true => simp
  | false =>
      cases bound : domain.capacity.effective with
      | none => simp
      | some eff =>
          simp only [Bool.false_eq_true, if_false, Option.isSome_some, and_true, iff_true]
          split <;> rfl

/-- The assessment `assess_congestion`, `recompute_domain` and `snapshot` make of
a domain in the map. -/
def Impl.assess (state : Impl R) (domain : CongestionDomain R) : CongestionAssessment R :=
  classify domain (aggregateDomain domain state.flows) state.flows
    domain.state.awaitsRevalidation

/-- `assess_congestion`. -/
def Impl.assessCongestion (domain : CongestionDomainId) (state : Impl R) :
    CongestionAssessment R :=
  match state.domains.find? domain with
  | none => {}
  | some found => state.assess found

/-! ## Episodes -/

/-- The states for which `recompute_domain` keeps an episode open. -/
def CongestionState.congestedNow (state : CongestionState) : Bool :=
  state = .congested || state = .severelyCongested || state = .queueing ||
    state = .saturated || state = .approachingSaturation

/-- The episode `recompute_domain` opens. -/
def CongestionEpisode.opened (event : UInt64) (domain : EntityRef CongestionDomainTag)
    (now : UInt64) (peak : CongestionState) : CongestionEpisode R where
  eventId := ⟨event⟩
  generation := ⟨1⟩
  domain := domain
  startMs := now
  peakState := peak
  trigger := ascii "offered load exceeded effective capacity"
  isOpen := true

/-- The episode boundaries of `recompute_domain`; returns the next event number
and the domain. -/
def CongestionDomain.trackEpisode (limits : EngineLimits) (now : UInt64)
    (assessed : CongestionState) (queuedBytes : UInt64) (nextEvent : UInt64)
    (domain : CongestionDomain R) : UInt64 × CongestionDomain R :=
  let episode := domain.currentEpisode
  if assessed.congestedNow then
    if !episode.isOpen then
      (nextEvent + 1,
        { domain with currentEpisode := .opened nextEvent domain.ref now assessed })
    else
      (nextEvent, { domain with
        currentEpisode := { episode with
          peakState := assessed
          peakBacklogBytes :=
            Arithmetic.stdMax episode.peakBacklogBytes (Arithmetic.ofUInt64 queuedBytes) } })
  else if episode.isOpen then
    let closed := { episode with endMs := now, outcome := assessed, isOpen := false }
    let episodes := domain.episodes ++ [closed]
    (nextEvent, { domain with
      episodes := if episodes.length > limits.maxEpisodeHistoryPerDomain.toNat then
          episodes.tail else episodes
      currentEpisode := {} })
  else
    (nextEvent, domain)

theorem CongestionDomain.trackEpisode_eq (limits : EngineLimits) (now : UInt64)
    (assessed : CongestionState) (queuedBytes : UInt64) (nextEvent : UInt64)
    (domain : CongestionDomain R) :
    ∃ event episodes current,
      domain.trackEpisode limits now assessed queuedBytes nextEvent =
        (event, { domain with episodes := episodes, currentEpisode := current }) := by
  unfold CongestionDomain.trackEpisode
  dsimp only
  split_ifs <;> exact ⟨_, _, _, rfl⟩

/-- `recompute_domain`. -/
def Impl.recomputeDomain (limits : EngineLimits) (now : UInt64) (id : CongestionDomainId)
    (state : Impl R) : CongestionAssessment R × Impl R :=
  match state.domains.find? id with
  | none => ({}, state)
  | some domain =>
      let assessment := state.assess domain
      let assessed := { domain with
        state := assessment.state
        stateProvenance := assessment.provenance }
      let tracked := assessed.trackEpisode limits now assessment.state
        (aggregateDomain domain state.flows).queuedBytes state.nextEvent
      (assessment, { state with
        domains := state.domains.modify id tracked.2
        nextEvent := tracked.1 })

/-! ## Shaping and recovery -/

/-- The rate and burst `apply_local_shaping` allows. -/
def CongestionDomain.allowedBps (domain : CongestionDomain R) : R :=
  let eff := domain.capacity.effective.getD domain.servicedBps
  let deficit := Arithmetic.stdMax 0.0 (domain.offeredBps - domain.servicedBps)
  Arithmetic.stdMax 0.0 (eff - deficit)

/-- `apply_local_shaping`: an unrestrictive intent is accepted without effect. -/
def Impl.applyLocalShaping (id : CongestionDomainId) (action : BackpressureAction R)
    (state : Impl R) : Bool × Impl R :=
  if !action.valid then (false, state)
  else if !intentIsRestrictive action.intent then (true, state)
  else
    match state.domains.find? id with
    | none => (false, state)
    | some domain =>
        (true, { state with
          domains := state.domains.modify id { domain with
            shaping := .full domain.allowedBps domain.allowedBps
            backpressureGeneration := action.generation } })

/-- The three outcomes of an application to a domain in the map. -/
theorem Impl.applyLocalShaping_cases {state : Impl R} {id : CongestionDomainId}
    {domain : CongestionDomain R} {action : BackpressureAction R}
    (stored : state.domains.find? id = some domain) :
    (action.valid = false ∧ state.applyLocalShaping id action = (false, state)) ∨
      (action.valid = true ∧ intentIsRestrictive action.intent = false ∧
        state.applyLocalShaping id action = (true, state)) ∨
      (action.valid = true ∧ intentIsRestrictive action.intent = true ∧
        (state.applyLocalShaping id action).1 = true ∧
        (state.applyLocalShaping id action).2.domains.find? id = some { domain with
          shaping := .full domain.allowedBps domain.allowedBps
          backpressureGeneration := action.generation }) := by
  unfold Impl.applyLocalShaping
  cases valid : action.valid with
  | false => exact Or.inl ⟨rfl, rfl⟩
  | true =>
      right
      cases restrictive : intentIsRestrictive action.intent with
      | false => exact Or.inl ⟨rfl, rfl, rfl⟩
      | true =>
          right
          refine ⟨rfl, rfl, ?_, ?_⟩
          · simp [stored]
          · simp [stored]

/-- What recovery does to a domain: an UNKNOWN domain is left alone. -/
def CongestionDomain.requireRevalidation (domain : CongestionDomain R) : CongestionDomain R :=
  if domain.state = .unknown then domain
  else
    { domain with
      state := .revalidationRequired
      stateProvenance := MeasurementProvenance.unknown
      queue := { domain.queue with generation := domain.queue.generation.next } }

theorem CongestionDomain.requireRevalidation_eq (domain : CongestionDomain R) :
    ∃ provenance queue, domain.requireRevalidation = { domain with
      state := if domain.state = .unknown then .unknown else .revalidationRequired
      stateProvenance := provenance
      queue := queue } := by
  unfold CongestionDomain.requireRevalidation
  split
  · next unknown => exact ⟨domain.stateProvenance, domain.queue, by rw [← unknown]⟩
  · exact ⟨_, _, rfl⟩

/-- What recovery does to a flow. -/
def Flow.requireRevalidation (flow : Flow R) : Flow R :=
  if !flow.isTerminal && !flow.state.isStaleOrSuperseded then
    { flow with state := .revalidationRequired }
  else
    flow

/-- The two loops of `recover_dynamic_evidence`. -/
def Impl.revalidateAll (state : Impl R) : Impl R :=
  { state with
    domains := state.domains.mapValues fun _ domain => domain.requireRevalidation
    flows := state.flows.mapValues fun _ flow => flow.requireRevalidation }

/-- `recover_dynamic_evidence`. -/
def Impl.recoverDynamicEvidence (state : Impl R) : Impl R :=
  { state with recovered := true }.revalidateAll

end CongestionFabric
