import CongestionFabric.Engine.Assessment
import CongestionFabric.Foundation.ByteStream

/-!
Contract: the encoding of the engine's records (`persistence.hpp` and the
serializers at the head of `engine.cpp`).

Owns the primitive writers and readers, CRC-32, and for every persisted record
the writer and the reader with the checks and error texts of the source. A
`double` is written as its 64-bit pattern.

Does not own: the file envelope and the whole state.
-/

namespace CongestionFabric

open Foundation
open Foundation.Reader (u8 u32 u64 bytes remaining require expect many loop)

/-! ## Bounds -/

/-- `kMaxPayloadBytes`. -/
def maxPayloadBytes : Nat := 2 ^ 30

/-- `kMaxStringBytes`. -/
def maxStringBytes : Nat := 2 ^ 24

/-- `kMaxCollectionCount`. -/
def maxCollectionCount : Nat := 2 ^ 24

/-! ## Primitives -/

/-- Eight rounds of the reflected CRC-32 polynomial. -/
def crcByte : Nat → UInt32 → UInt32
  | 0, crc => crc
  | rounds + 1, crc => crcByte rounds ((crc >>> 1) ^^^ (0xEDB88320 &&& (0 - (crc &&& 1))))

/-- `crc32` with seed zero. -/
def crc32 (data : Bytes) : UInt32 :=
  ~~~data.foldl (fun crc byte => crcByte 8 (crc ^^^ byte.toUInt32)) (~~~0)

def wr8 (value : UInt8) : Bytes := [value]

def wr32 (value : UInt32) : Bytes := littleEndian 4 value.toNat

def wr64 (value : UInt64) : Bytes := littleEndian 8 value.toNat

def wrF64 (value : Binary64) : Bytes := wr64 value.bits

def wrBool (value : Bool) : Bytes := wr8 (if value then 1 else 0)

def wrStr (text : Bytes) : Bytes := [wr64 (.ofNat text.length), text].flatten

def rdF64 : Reader Binary64 := do
  let bits ← u64
  pure ⟨bits⟩

def rdBool : Reader Bool := do
  let byte ← u8
  pure (byte != 0)

/-- `Reader::str`. -/
def rdStr : Reader Bytes := do
  let length ← u64
  require (length.toNat ≤ maxStringBytes) "string too long"
  bytes length.toNat

/-- `Reader::bounded_count` with the bound on collections. -/
def rdCount : Reader UInt64 := do
  let count ← u64
  require (count.toNat ≤ maxCollectionCount) "count exceeds bound"
  pure count

/-! ## Identities and enumerations -/

section Identities

variable {Tag E : Type}

def wrId (id : Id Tag) : Bytes := wr64 id.value

def wrGeneration (generation : Generation Tag) : Bytes := wr64 generation.value

def wrRef (ref : EntityRef Tag) : Bytes := [wrId ref.id, wrGeneration ref.generation].flatten

def wrEnum (value : Enum8 E) : Bytes := wr8 value.toU8

def rdId : Reader (Id Tag) := do
  let value ← u64
  pure ⟨value⟩

def rdGeneration : Reader (Generation Tag) := do
  let value ← u64
  pure ⟨value⟩

def rdRef : Reader (EntityRef Tag) := do
  let id ← rdId
  let generation ← rdGeneration
  pure ⟨id, generation⟩

/-- A byte cast to an enumeration without a check. -/
def rdEnumUnchecked : Reader (Enum8 E) := do
  let byte ← u8
  pure ⟨byte⟩

/-- A byte that must be a valid enumerator. -/
def rdEnum [Enumeration E] (text : String) : Reader (Enum8 E) := do
  let byte ← u8
  require (⟨byte⟩ : Enum8 E).valid text
  pure ⟨byte⟩

end Identities

def rdCongestionState (text : String) : Reader CongestionState := do
  let byte ← u8
  expect (CongestionState.ofU8? byte) text

def rdFlowState : Reader FlowState := do
  let byte ← u8
  expect (FlowState.ofU8? byte) "invalid flow state"

def rdProv : Reader (Enum8 MeasurementProvenance) := rdEnum "invalid provenance"

/-! ## Capacity and fairness -/

def wrRate (rate : Rate Binary64) : Bytes :=
  [wrEnum rate.kind, wrEnum rate.provenance, wrF64 rate.bytesPerSecond,
    wrGeneration rate.generation].flatten

def rdRate : Reader (Rate Binary64) := do
  let kind ← rdEnum "invalid bandwidth kind"
  let provenance ← rdEnum "invalid bandwidth provenance"
  let bytesPerSecond ← rdF64
  let generation ← rdGeneration
  let rate : Rate Binary64 := ⟨bytesPerSecond, kind, provenance, generation⟩
  require rate.isFiniteNonneg "non-finite bandwidth"
  pure rate

def wrCapacity (profile : CapacityProfile Binary64) : Bytes :=
  [wrRate profile.theoretical, wrRate profile.configured, wrRate profile.measuredService,
    wrRate profile.reserved, wrGeneration profile.generation].flatten

/-- The four rates and the generation; `load` validates the profile later. -/
def rdCapacity : Reader (CapacityProfile Binary64) := do
  let theoretical ← rdRate
  let configured ← rdRate
  let measuredService ← rdRate
  let reserved ← rdRate
  let generation ← rdGeneration
  pure ⟨theoretical, configured, measuredService, reserved, generation⟩

def wrFairness (config : FairnessConfig Binary64) : Bytes :=
  [wrEnum config.model, wrF64 config.weight, wrF64 config.minimumGuaranteeBps,
    wrF64 config.capBps, wrBool config.latencyCriticalProtected,
    wrGeneration config.policyGeneration].flatten

/-- The fairness fields after the model, which a flow and a domain read with
different checks. -/
def rdFairness (rdModel : Reader (Enum8 FairnessModel)) : Reader (FairnessConfig Binary64) := do
  let model ← rdModel
  let weight ← rdF64
  let minimumGuaranteeBps ← rdF64
  let capBps ← rdF64
  let latencyCriticalProtected ← rdBool
  let policyGeneration ← rdGeneration
  pure ⟨model, weight, minimumGuaranteeBps, capBps, latencyCriticalProtected, policyGeneration⟩

/-! ## Flows -/

def wrBytes (counter : ByteCounter) : Bytes := wr64 counter.value

def rdBytes : Reader ByteCounter := do
  let value ← u64
  pure ⟨value⟩

def wrFlow (flow : Flow Binary64) : Bytes :=
  [wrRef flow.ref, wrId flow.ownerWorker, wrGeneration flow.ownerBoot, wrId flow.source,
    wrGeneration flow.sourceBoot, wrRef flow.workload, wrRef flow.execution,
    wrEnum flow.trafficClass, wrRef flow.domain, wrRef flow.path,
    wr8 (Enumeration.toU8 flow.state), wrBytes flow.expectedBytes, wrBytes flow.submittedBytes,
    wrBytes flow.admittedBytes, wrBytes flow.inFlightBytes, wrBytes flow.completedBytes,
    wrBytes flow.failedBytes, wrBytes flow.cancelledBytes, wr64 flow.declaredMs,
    wr64 flow.startedMs, wr64 flow.lastProgressMs, wrF64 flow.priority,
    wrF64 flow.latencySensitivity, wrF64 flow.throughputTargetBps,
    wrF64 flow.burstAllowanceBytes, wrF64 flow.deadlineMs, wrFairness flow.fairness,
    wrEnum flow.provenance, wrStr flow.description].flatten

def rdFlow : Reader (Flow Binary64) := do
  let ref ← rdRef
  let ownerWorker ← rdId
  let ownerBoot ← rdGeneration
  let source ← rdId
  let sourceBoot ← rdGeneration
  let workload ← rdRef
  let execution ← rdRef
  let trafficClass ← rdEnum "invalid traffic class"
  let domain ← rdRef
  let path ← rdRef
  let state ← rdFlowState
  let expectedBytes ← rdBytes
  let submittedBytes ← rdBytes
  let admittedBytes ← rdBytes
  let inFlightBytes ← rdBytes
  let completedBytes ← rdBytes
  let failedBytes ← rdBytes
  let cancelledBytes ← rdBytes
  let declaredMs ← u64
  let startedMs ← u64
  let lastProgressMs ← u64
  let priority ← rdF64
  let latencySensitivity ← rdF64
  let throughputTargetBps ← rdF64
  let burstAllowanceBytes ← rdF64
  let deadlineMs ← rdF64
  let fairness ← rdFairness rdEnumUnchecked
  let provenance ← rdProv
  let description ← rdStr
  pure { ref, ownerWorker, ownerBoot, source, sourceBoot, workload, execution, trafficClass,
         domain, path, state, expectedBytes, submittedBytes, admittedBytes, inFlightBytes,
         completedBytes, failedBytes, cancelledBytes, declaredMs, startedMs, lastProgressMs,
         priority, latencySensitivity, throughputTargetBps, burstAllowanceBytes, deadlineMs,
         fairness, provenance, description }

/-! ## Episodes and domains -/

def wrEpisode (episode : CongestionEpisode Binary64) : Bytes :=
  [wrId episode.eventId, wrGeneration episode.generation, wrRef episode.domain,
    wr8 (Enumeration.toU8 episode.peakState), wr64 episode.startMs, wr64 episode.peakMs,
    wr64 episode.recoveryStartMs, wr64 episode.endMs, wrStr episode.trigger,
    wrF64 episode.peakBacklogBytes, wrF64 episode.serviceDeficitBytes,
    wr64 (.ofNat episode.affectedFlows.length), episode.affectedFlows.flatMap wrId,
    wrRef episode.bottleneck, wr8 (Enumeration.toU8 episode.outcome),
    wrBool episode.isOpen].flatten

/-- The episode fields; `load` writes this decoder out twice, with its own texts
for a history entry and for the current episode. -/
def rdEpisode (peakText outcomeText : String) : Reader (CongestionEpisode Binary64) := do
  let eventId ← rdId
  let generation ← rdGeneration
  let domain ← rdRef
  let peakState ← rdCongestionState peakText
  let startMs ← u64
  let peakMs ← u64
  let recoveryStartMs ← u64
  let endMs ← u64
  let trigger ← rdStr
  let peakBacklogBytes ← rdF64
  let serviceDeficitBytes ← rdF64
  let affected ← rdCount
  let affectedFlows ← many affected.toNat rdId
  let bottleneck ← rdRef
  let outcome ← rdCongestionState outcomeText
  let isOpen ← rdBool
  pure { eventId, generation, domain, peakState, startMs, peakMs, recoveryStartMs, endMs,
         trigger, peakBacklogBytes, serviceDeficitBytes, affectedFlows, bottleneck, outcome,
         isOpen }

/-- An episode of the history, which must also be valid. -/
def rdHistoryEpisode : Reader (CongestionEpisode Binary64) := do
  let episode ← rdEpisode "invalid episode peak state" "invalid episode outcome"
  require episode.valid "invalid episode"
  pure episode

def wrDomain (domain : CongestionDomain Binary64) : Bytes :=
  [wrRef domain.ref, wrEnum domain.kind, wrCapacity domain.capacity,
    wrGeneration domain.queue.generation, wr8 (Enumeration.toU8 domain.state),
    wrEnum domain.stateProvenance, wrGeneration domain.backpressureGeneration,
    wrGeneration domain.recoveryGeneration, wrFairness domain.defaultFairness,
    wrF64 domain.shaping.rate, wrF64 domain.shaping.capacity, wrF64 domain.offeredBps,
    wrEnum domain.offeredProvenance, wrF64 domain.admittedBps, wrEnum domain.admittedProvenance,
    wrF64 domain.servicedBps, wrEnum domain.servicedProvenance, wrF64 domain.utilisation,
    wrEnum domain.utilisationProvenance, wrF64 domain.effectiveBps,
    wrEnum domain.effectiveProvenance, wrF64 domain.residualBps,
    wrEnum domain.residualProvenance, wr64 (.ofNat domain.flows.length),
    domain.flows.flatMap wrRef, wr64 (.ofNat domain.episodes.length),
    domain.episodes.flatMap wrEpisode, wrEpisode domain.currentEpisode].flatten

/-- The test `load` makes on the two shaping parameters. -/
def shapingValid (rate capacity : Binary64) : Bool :=
  Arithmetic.isFinite rate && !decide (rate < 0.0) && Arithmetic.isFinite capacity &&
    !decide (capacity < 0.0)

/-- The body of the domain loop of `load`, given the key that precedes the
record. Fields that are not persisted keep their defaults. -/
def rdDomain (id : CongestionDomainId) : Reader (CongestionDomain Binary64) := do
  let ref ← rdRef
  require (ref.id = id) "domain id mismatch"
  let kind ← rdEnum "invalid domain kind"
  let capacity ← rdCapacity
  let queueGeneration ← rdGeneration
  let state ← rdCongestionState "invalid congestion state"
  let stateProvenance ← rdEnum "invalid state provenance"
  let backpressureGeneration ← rdGeneration
  let recoveryGeneration ← rdGeneration
  let defaultFairness ← rdFairness (rdEnum "invalid fairness model")
  require defaultFairness.valid "invalid fairness config"
  let shapeRate ← rdF64
  let shapeCap ← rdF64
  require (shapingValid shapeRate shapeCap) "invalid shaping config"
  let offeredBps ← rdF64
  let offeredProvenance ← rdProv
  let admittedBps ← rdF64
  let admittedProvenance ← rdProv
  let servicedBps ← rdF64
  let servicedProvenance ← rdProv
  let utilisation ← rdF64
  let utilisationProvenance ← rdProv
  let effectiveBps ← rdF64
  let effectiveProvenance ← rdProv
  let residualBps ← rdF64
  let residualProvenance ← rdProv
  let flowCount ← rdCount
  let flows ← many flowCount.toNat rdRef
  let episodeCount ← rdCount
  let episodes ← many episodeCount.toNat rdHistoryEpisode
  let currentEpisode ← rdEpisode "invalid current episode peak" "invalid current episode outcome"
  require capacity.valid "invalid capacity"
  pure { ref, kind, capacity, queue := ⟨queueGeneration⟩, state, stateProvenance,
         backpressureGeneration, recoveryGeneration, defaultFairness,
         shaping := .full shapeRate shapeCap, offeredBps, offeredProvenance, admittedBps,
         admittedProvenance, servicedBps, servicedProvenance, utilisation,
         utilisationProvenance, effectiveBps, effectiveProvenance, residualBps,
         residualProvenance, flows, episodes, currentEpisode }

end CongestionFabric
