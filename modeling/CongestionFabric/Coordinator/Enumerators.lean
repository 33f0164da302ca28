import CongestionFabric.Coordinator.Effect
import CongestionFabric.Persistence.Restorable

/-!
Contract: raw enumeration bytes on their way from a frame into the engine.

Owns the statement that the engine stores enumerators only, the array accesses
that a call makes with a raw byte, the frames that break either, and the theorem
that identifies the runs of a coordinator in which none does.

The coordinator casts the bytes of CREATE_DOMAIN, DECLARE_FLOW and
PUBLISH_MEASUREMENT without a check and no operation of the engine makes up for
it; the loader does check every byte of these enumerations.
-/

namespace CongestionFabric

open Foundation

/-! ## What is stored -/

/-- The kind, the bandwidth kinds and the provenances of a domain, those of its
measurements included, are enumerators. -/
structure CongestionDomain.Enumerated (domain : CongestionDomain Binary64) : Prop where
  kind : domain.kind.valid = true
  capacity : domain.capacity.allRates (fun rate => rate.kind.valid && rate.provenance.valid) = true
  measurements : ∀ measurement ∈ domain.measurements.latestByKind,
    measurement.kind.valid = true ∧ measurement.provenance.valid = true
  stateProvenance : domain.stateProvenance.valid = true
  offeredProvenance : domain.offeredProvenance.valid = true
  admittedProvenance : domain.admittedProvenance.valid = true
  servicedProvenance : domain.servicedProvenance.valid = true
  utilisationProvenance : domain.utilisationProvenance.valid = true
  effectiveProvenance : domain.effectiveProvenance.valid = true
  residualProvenance : domain.residualProvenance.valid = true

/-- Traffic class and provenance of a flow are enumerators. -/
structure Flow.Enumerated (flow : Flow Binary64) : Prop where
  trafficClass : flow.trafficClass.valid = true
  provenance : flow.provenance.valid = true

structure Impl.Enumerated (engine : Impl Binary64) : Prop where
  domains : ∀ id domain, engine.domains.find? id = some domain → domain.Enumerated
  flows : ∀ id flow, engine.flows.find? id = some flow → flow.Enumerated

/-! ## What is accessed -/

/-- `MeasurementSet::size`. -/
def MeasurementSet.size {R : Type} [Arithmetic R] (set : MeasurementSet R) : Nat :=
  set.latestByKind.size

/-- The index with which a call reaches into the array of measurements: a
publication that passes its checks stores at its kind byte, and an assessment
looks up the service latency. -/
def Op.arrayIndex (engine : Impl Binary64) : Op Binary64 → Option Nat
  | .publishMeasurement domain measurement owner ownerBoot =>
      if engine.domains.contains domain && engine.publishable measurement owner ownerBoot then
        some measurement.kind.toU8.toNat
      else none
  | .recomputeDomain domain =>
      if engine.domains.contains domain then
        some (Enumeration.toU8 MeasurementKind.serviceLatency).toNat
      else none
  | _ => none

/-- The call stores bytes of its caller: it creates a domain or declares a flow
under a free number, or its publication is accepted. -/
def Op.takesOver (limits : EngineLimits) (engine : Impl Binary64) : Op Binary64 → Bool
  | .createDomain _ capacity =>
      engine.creatable limits capacity && !engine.domains.contains ⟨engine.nextDomain⟩
  | .declareFlow options =>
      decide (Declarable limits options engine) && !engine.flows.contains ⟨engine.nextFlow⟩
  | .publishMeasurement domain measurement owner ownerBoot =>
      engine.domains.contains domain && engine.publishable measurement owner ownerBoot
  | _ => false

/-- The kind of a publication is an enumerator. -/
def Op.kindInRange : Op Binary64 → Bool
  | .publishMeasurement _ measurement _ _ => measurement.kind.valid
  | _ => true

/-- The raw bytes that a call stores are enumerators. -/
def Op.storesEnumerators (limits : EngineLimits) (engine : Impl Binary64) (op : Op Binary64) :
    Bool :=
  !op.takesOver limits engine || op.inRange && op.kindInRange

theorem MeasurementKind.valid_iff {kind : Enum8 MeasurementKind} (set : MeasurementSet Binary64) :
    kind.valid = true ↔ kind.toU8.toNat < set.size :=
  MeasurementKind.valid_iff_lt

/-! ## One domain -/

section Domain

variable {domain : CongestionDomain Binary64}

private theorem unmeasured (set : MeasurementSet Binary64) (empty : set = {}) :
    ∀ measurement ∈ set.latestByKind,
      measurement.kind.valid = true ∧ measurement.provenance.valid = true := by
  intro measurement member
  rw [empty] at member
  rw [Vector.eq_of_mem_replicate member]
  exact ⟨rfl, rfl⟩

private theorem CongestionDomain.Enumerated.dropEvidence (enumerated : domain.Enumerated)
    (worker : WorkerId) (deadBoot : WorkerBootId) (invalidated : Bool) :
    (domain.dropEvidence worker deadBoot invalidated).2.Enumerated := by
  obtain ⟨any, -, fields⟩ := domain.dropEvidence_eq worker deadBoot invalidated
  have unknown : (MeasurementProvenance.unknown : Enum8 MeasurementProvenance).valid = true := rfl
  rw [fields]
  exact { enumerated with
    stateProvenance := Enum8.valid_ite unknown enumerated.stateProvenance
    offeredProvenance := Enum8.valid_ite unknown enumerated.offeredProvenance
    servicedProvenance := Enum8.valid_ite unknown enumerated.servicedProvenance }

private theorem CongestionDomain.Enumerated.clearRevalidation (enumerated : domain.Enumerated) :
    domain.clearRevalidation.Enumerated := by
  rw [domain.clearRevalidation_eq]
  exact { enumerated with }

private theorem CongestionDomain.Enumerated.requireRevalidation (enumerated : domain.Enumerated) :
    domain.requireRevalidation.Enumerated := by
  unfold CongestionDomain.requireRevalidation
  split
  · exact enumerated
  · exact { enumerated with stateProvenance := rfl }

private theorem CongestionDomain.Enumerated.recomputed (enumerated : domain.Enumerated)
    (limits : EngineLimits) (now : UInt64) (engine : Impl Binary64) :
    (engine.recomputed limits now domain).2.Enumerated := by
  obtain ⟨_, _, _, written⟩ := engine.recomputed_eq limits now domain
  have provenance := assess_provenance_valid enumerated.offeredProvenance
    enumerated.servicedProvenance engine
  rw [written]
  exact { enumerated with stateProvenance := provenance }

/-- An accepted publication of enumerators. -/
private theorem CongestionDomain.Enumerated.record (enumerated : domain.Enumerated)
    {measurement : Measurement Binary64} (kind : measurement.kind.valid = true)
    (provenance : measurement.provenance.valid = true) (owner : WorkerId)
    (ownerBoot : WorkerBootId) : (domain.record measurement owner ownerBoot).Enumerated := by
  have cleared := enumerated.clearRevalidation
  unfold CongestionDomain.record
  dsimp only
  generalize domain.clearRevalidation = before at cleared ⊢
  have stored : ∀ entry ∈ (before.measurements.put measurement).latestByKind,
      entry.kind.valid = true ∧ entry.provenance.valid = true := by
    intro entry member
    unfold MeasurementSet.put at member
    split at member
    · obtain ⟨index, inside, rfl⟩ := Vector.mem_iff_getElem.mp member
      rw [Vector.getElem_setIfInBounds]
      split
      · exact ⟨kind, provenance⟩
      · exact cleared.measurements _ (Vector.getElem_mem _)
    · exact cleared.measurements entry member
  have updated : ({ before with measurements := before.measurements.put measurement } :
      CongestionDomain Binary64).Enumerated := { cleared with measurements := stored }
  split_ifs
  · exact { updated with offeredProvenance := provenance }
  · exact { updated with admittedProvenance := provenance }
  · exact { updated with servicedProvenance := provenance }
  · exact { updated with utilisationProvenance := provenance }
  · exact { updated with effectiveProvenance := provenance }
  · exact updated

/-- A publication within the array leaves its measurement there. -/
private theorem mem_record {measurement : Measurement Binary64} (valid : measurement.valid = true)
    (inside : measurement.kind.toU8.toNat < 20) (owner : WorkerId) (ownerBoot : WorkerBootId) :
    measurement ∈ (domain.record measurement owner ownerBoot).measurements.latestByKind := by
  have kept : (domain.record measurement owner ownerBoot).measurements =
      domain.clearRevalidation.measurements.put measurement := by
    unfold CongestionDomain.record
    dsimp only
    split_ifs <;> rfl
  rw [kept, MeasurementSet.put, if_pos valid]
  exact Vector.mem_setIfInBounds inside

private theorem newDomain_enumerated_iff {id : CongestionDomainId} {kind : Enum8 DomainKind}
    {capacity : CapacityProfile Binary64} :
    (Impl.newDomain id kind capacity).Enumerated ↔
      (Op.createDomain kind capacity).inRange = true := by
  rw [Op.inRange, Bool.and_eq_true]
  constructor
  · exact fun enumerated => ⟨enumerated.kind, enumerated.capacity⟩
  · rintro ⟨kindValid, rates⟩
    exact
      { kind := kindValid
        capacity := rates
        measurements := unmeasured _ rfl
        stateProvenance := rfl
        offeredProvenance := rfl
        admittedProvenance := rfl
        servicedProvenance := rfl
        utilisationProvenance := rfl
        effectiveProvenance := rfl
        residualProvenance := rfl }

end Domain

/-! ## One call -/

section Call

variable {limits : EngineLimits} {now : UInt64} {op : Op Binary64} {engine : Impl Binary64}

private theorem enumerated_domains_exec (enumerated : engine.Enumerated)
    (met : op.takesOver limits engine = true → op.inRange = true ∧ op.kindInRange = true) :
    ∀ id after, (exec limits now op engine).2.domains.find? id = some after →
      after.Enumerated := by
  intro id after stored
  obtain ⟨domain, invalidated, found, -, rfl⟩ | ⟨kind, capacity, rfl, allowed, absent, rfl, rfl⟩ :=
    exec_domain_origin stored
  · have before := enumerated.domains id domain found
    apply domainAfter_elim
    case same => exact before
    case fenceWorker => exact fun worker deadBoot _ _ => before.dropEvidence worker deadBoot _
    case admission => exact fun _ _ _ => { before with }
    case start => exact fun _ _ _ _ => before.clearRevalidation
    case publish =>
      rintro measurement owner ownerBoot rfl allowed
      have present : engine.domains.contains id = true :=
        UnorderedMap.contains_eq_true.mpr ⟨domain, found⟩
      obtain ⟨provenance, kind⟩ := met (by rw [Op.takesOver, present, allowed]; rfl)
      exact before.record kind provenance owner ownerBoot
    case recompute => exact fun _ => before.recomputed limits now engine
    case shape => exact fun _ _ _ => { before with }
    case recover => exact fun _ => before.requireRevalidation
  · have free : engine.domains.contains ⟨engine.nextDomain⟩ = false :=
      UnorderedMap.contains_eq_false.mpr absent
    exact newDomain_enumerated_iff.mpr (met (by rw [Op.takesOver, allowed, free]; rfl)).1

private theorem enumerated_flows_exec (enumerated : engine.Enumerated)
    (met : op.takesOver limits engine = true → op.inRange = true ∧ op.kindInRange = true) :
    ∀ id after, (exec limits now op engine).2.flows.find? id = some after →
      after.Enumerated := by
  intro id after stored
  obtain ⟨flow, found, rfl⟩ | ⟨options, rfl, allowed, absent, rfl, rfl⟩ := exec_flow_origin stored
  · have before := enumerated.flows id flow found
    have same := flowAfter_sameOrigin limits now op engine id flow
    refine ⟨?_, ?_⟩
    · rw [same.trafficClass]
      exact before.trafficClass
    · rw [same.provenance]
      exact before.provenance
  · have free : engine.flows.contains ⟨engine.nextFlow⟩ = false :=
      UnorderedMap.contains_eq_false.mpr absent
    have range := (met (by rw [Op.takesOver, decide_eq_true allowed, free]; rfl)).1
    obtain ⟨trafficClass, provenance⟩ := Bool.and_eq_true_iff.mp range
    exact ⟨trafficClass, provenance⟩

/-- What a call stores and accesses tells whether its bytes were enumerators. -/
private theorem storesEnumerators_of_exec
    (enumerated : (exec limits now op engine).2.Enumerated)
    (inside : ∀ index ∈ op.arrayIndex engine, index < ({} : MeasurementSet Binary64).size)
    (takesOver : op.takesOver limits engine = true) :
    op.inRange = true ∧ op.kindInRange = true := by
  cases op with
  | createDomain kind capacity =>
      obtain ⟨allowed, free⟩ := Bool.and_eq_true_iff.mp takesOver
      rw [Bool.not_eq_true', UnorderedMap.contains_eq_false] at free
      have stored : (engine.createDomain limits kind capacity).2.domains.find?
          ⟨engine.nextDomain⟩ = some (Impl.newDomain ⟨engine.nextDomain⟩ kind capacity) := by
        rw [createDomain_find? allowed, if_pos ⟨free, rfl⟩]
      exact ⟨newDomain_enumerated_iff.mp (enumerated.domains _ _ stored), rfl⟩
  | declareFlow options =>
      obtain ⟨allowed, free⟩ := Bool.and_eq_true_iff.mp takesOver
      rw [Bool.not_eq_true', UnorderedMap.contains_eq_false] at free
      have stored : (engine.declareFlow limits now options).2.flows.find? ⟨engine.nextFlow⟩ =
          some (.declare ⟨engine.nextFlow⟩ now options) := by
        rw [declareFlow_find? (of_decide_eq_true allowed), if_pos ⟨free, rfl⟩]
      have flow := enumerated.flows _ _ stored
      exact ⟨Bool.and_eq_true_iff.mpr ⟨flow.trafficClass, flow.provenance⟩, rfl⟩
  | publishMeasurement id measurement owner ownerBoot =>
      obtain ⟨present, allowed⟩ := Bool.and_eq_true_iff.mp takesOver
      obtain ⟨domain, found⟩ := UnorderedMap.contains_eq_true.mp present
      have index := inside measurement.kind.toU8.toNat (by
        rw [Op.arrayIndex, present, allowed]
        rfl)
      obtain ⟨invalidated, stored⟩ := exec_domain limits now
        (.publishMeasurement id measurement owner ownerBoot) found (by simp)
      have written : domainAfter limits now (.publishMeasurement id measurement owner ownerBoot)
          engine invalidated id domain = domain.record measurement owner ownerBoot := by
        simp [domainAfter, allowed]
      rw [written] at stored
      have valid := (Bool.and_eq_true_iff.mp allowed).1
      obtain ⟨kind, provenance⟩ := (enumerated.domains id _ stored).measurements measurement
        (mem_record valid index owner ownerBoot)
      exact ⟨provenance, kind⟩
  | _ => exact absurd takesOver (by simp [Op.takesOver])

/-- A call keeps to enumerators, in what it stores and in what it accesses,
exactly if the bytes it takes over are some. -/
private theorem exec_enumerated_iff (enumerated : engine.Enumerated) :
    op.storesEnumerators limits engine = true ↔ (exec limits now op engine).2.Enumerated ∧
      ∀ index ∈ op.arrayIndex engine, index < ({} : MeasurementSet Binary64).size := by
  have condition : op.storesEnumerators limits engine = true ↔
      (op.takesOver limits engine = true → op.inRange = true ∧ op.kindInRange = true) := by
    unfold Op.storesEnumerators
    cases op.takesOver limits engine <;> simp
  rw [condition]
  refine ⟨fun met => ⟨⟨enumerated_domains_exec enumerated met,
    enumerated_flows_exec enumerated met⟩, ?_⟩, fun ⟨after, inside⟩ =>
      storesEnumerators_of_exec after inside⟩
  intro index accessed
  cases op with
  | publishMeasurement id measurement owner ownerBoot =>
      rw [Op.arrayIndex] at accessed
      split at accessed
      · rename_i takesOver
        obtain rfl := Option.some.inj accessed
        exact (MeasurementKind.valid_iff {}).mp (met takesOver).2
      · exact absurd accessed (by simp)
  | recomputeDomain id =>
      rw [Op.arrayIndex] at accessed
      split at accessed
      · obtain rfl := Option.some.inj accessed
        decide
      · exact absurd accessed (by simp)
  | _ => exact absurd accessed (by simp [Op.arrayIndex])

end Call

/-! ## Runs of the coordinator -/

/-- A coordinator starts with what the loader has checked. -/
theorem Coordinator.enumerated_start (file : Option Bytes) :
    (Coordinator.start file).engine.Enumerated := by
  change (Impl.fresh.load file).2.Enumerated
  rcases Impl.load_cases file Impl.fresh with refused | ⟨bytes, persisted, rfl, decoded, accepted⟩
  · rw [refused]
    refine ⟨?_, ?_⟩ <;> intro id entry stored <;> simp [Impl.fresh] at stored
  · obtain ⟨-, -, -, domains, flows⟩ := checked_of_decode decoded
    rw [accepted]
    refine ⟨?_, ?_⟩
    · intro id after stored
      obtain ⟨domain, found, rfl⟩ := Impl.committed_domain_iff.mp stored
      have checked := domains id domain found
      have enumerated : domain.Enumerated :=
        { kind := checked.kind
          capacity := checked.capacity.enumerated
          measurements := unmeasured _ (unmeasured_of_decode decoded id domain found)
          stateProvenance := checked.stateProvenance
          offeredProvenance := checked.offeredProvenance
          admittedProvenance := checked.admittedProvenance
          servicedProvenance := checked.servicedProvenance
          utilisationProvenance := checked.utilisationProvenance
          effectiveProvenance := checked.effectiveProvenance
          residualProvenance := checked.residualProvenance }
      exact enumerated.requireRevalidation
    · intro id after stored
      obtain ⟨flow, found, rfl⟩ := Impl.committed_flow_iff.mp stored
      have checked := flows id flow found
      unfold Flow.requireRevalidation
      split <;> exact ⟨checked.trafficClass, checked.provenance⟩

/-- The indices with which the call of an input reaches into the array of
measurements. -/
def Coordinator.arrayIndex (coordinator : Coordinator) (input : Input) : Option Nat :=
  (coordinator.call input).bind fun call => call.2.arrayIndex coordinator.engine

/-- The engine holds enumerators only, and no call so far has reached outside the
array of measurements. -/
structure EnumeratorsOnly (history : List (Coordinator × Input)) (coordinator : Coordinator) :
    Prop where
  stored : coordinator.engine.Enumerated
  accessed : ∀ taken ∈ history, ∀ index ∈ taken.1.arrayIndex taken.2,
    index < ({} : MeasurementSet Binary64).size

/-- The bytes that the call of an input stores are enumerators. -/
def Coordinator.storesEnumerators (limits : EngineLimits) (coordinator : Coordinator)
    (input : Input) : Bool :=
  (coordinator.call input).all fun call => call.2.storesEnumerators limits coordinator.engine

private theorem enumeratorsOnly_step {limits : EngineLimits}
    {history : List (Coordinator × Input)} {coordinator next : Coordinator} {input : Input}
    (only : EnumeratorsOnly history coordinator)
    (taken : CoordinatorStep limits coordinator input next) :
    coordinator.storesEnumerators limits input = true ↔
      EnumeratorsOnly (history ++ [(coordinator, input)]) next := by
  have extended : EnumeratorsOnly (history ++ [(coordinator, input)]) next ↔
      next.engine.Enumerated ∧ ∀ index ∈ coordinator.arrayIndex input,
        index < ({} : MeasurementSet Binary64).size := by
    constructor
    · intro later
      exact ⟨later.stored, later.accessed (coordinator, input) (by simp)⟩
    · rintro ⟨stored, inside⟩
      refine ⟨stored, fun earlier member => ?_⟩
      rcases List.mem_append.mp member with before | last
      · exact only.accessed earlier before
      · rw [List.mem_singleton.mp last]
        exact inside
  rw [extended]
  cases taken with
  | input =>
      rw [Coordinator.next_engine, Coordinator.storesEnumerators, Coordinator.arrayIndex]
      cases coordinator.call input with
      | none => exact iff_of_true rfl ⟨only.stored, by simp⟩
      | some call => exact exec_enumerated_iff only.stored
  | rehash same =>
      refine iff_of_true rfl ⟨⟨?_, ?_⟩, by simp [Coordinator.arrayIndex, Coordinator.call]⟩
      · simpa only [same.domains.find?_eq] using only.stored.domains
      · simpa only [same.flows.find?_eq] using only.stored.flows

/-- From every state file and for every sequence of frames, the engine holds
enumerators only and every access to the array of measurements is within it, in
every state of a run, exactly if the raw bytes of every call that stores them are
enumerators. -/
theorem enumeratorsOnly_throughout_iff {limits : EngineLimits} {file : Option Bytes}
    {history : List (Coordinator × Input)} {final : Coordinator}
    (run : Run (CoordinatorStep limits) (.start file) history final) :
    EveryStep history (fun _ coordinator input =>
        coordinator.storesEnumerators limits input = true) ↔
      Throughout history final EnumeratorsOnly := by
  have start : EnumeratorsOnly [] (.start file) :=
    ⟨Coordinator.enumerated_start file, fun _ member => absurd member List.not_mem_nil⟩
  have exactly : EnumeratorsOnly [] (.start file) ∧ EveryStep history (fun _ coordinator input =>
      coordinator.storesEnumerators limits input = true) ↔
      Throughout history final EnumeratorsOnly :=
    run.everyStep_iff_throughout fun only taken => enumeratorsOnly_step only taken
  rwa [and_iff_right start] at exactly

/-- A worker registers, creates a domain and publishes a measurement for it. -/
private def publishing (domainKind measurementKind : UInt8) : List Input :=
  [.accept, .frame 0 1 false (.register 1 1), .resume 0,
    .frame 0 2 false (.createDomain domainKind),
    .frame 0 3 false (.publishMeasurement measurementKind 3.0)]

theorem publishing_enumeratorsOnly :
    (follow (Coordinator.next {}) (publishing 6 3) (.start none)).engine.domains.size = 1 ∧
      Throughout ([] ++ followed (Coordinator.next {}) (publishing 6 3) (.start none))
        (follow (Coordinator.next {}) (publishing 6 3) (.start none)) EnumeratorsOnly :=
  ⟨by decide +kernel, (enumeratorsOnly_throughout_iff
    (run_follow CoordinatorStep.input (publishing 6 3) Run.nil)).mp (by decide +kernel)⟩

private theorem published_stored :
    ((follow (Coordinator.next {}) (publishing 200 3) (.start none)).engine.domains.find?
      ⟨1⟩).isSome = true := by
  decide +kernel

/-- A domain of kind 200 is created and stored, and a measurement of kind 200 is
written at index 200 of an array of twenty. -/
theorem publishing_not_enumeratorsOnly :
    ¬(∀ (limits : EngineLimits) (file : Option Bytes) (history : List (Coordinator × Input))
      (final : Coordinator), Run (CoordinatorStep limits) (.start file) history final →
        final.engine.Enumerated) ∧
    ¬(∀ (limits : EngineLimits) (file : Option Bytes) (history : List (Coordinator × Input))
      (final : Coordinator), Run (CoordinatorStep limits) (.start file) history final →
        ∀ taken ∈ history, ∀ index ∈ taken.1.arrayIndex taken.2,
          index < ({} : MeasurementSet Binary64).size) := by
  refine ⟨fun always => ?_, fun always => ?_⟩
  · have enumerated := always {} none _ _
      (run_follow CoordinatorStep.input (publishing 200 3) Run.nil)
    have kind := (enumerated.domains ⟨1⟩ _ (Option.some_get published_stored).symm).kind
    exact absurd kind (by decide +kernel)
  · have inside := always {} none _ _
      (run_follow CoordinatorStep.input (publishing 6 200) Run.nil)
    have last := inside (follow (Coordinator.next {}) ((publishing 6 200).take 4) (.start none),
      .frame 0 3 false (.publishMeasurement 200 3.0)) (by
        change _ ∈ [(_, _), (_, _), (_, _), (_, _), (_, _)]
        simp [follow, publishing]) 200 (by decide +kernel)
    exact absurd last (by decide)

end CongestionFabric
