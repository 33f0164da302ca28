import CongestionFabric.Engine.Operation
import CongestionFabric.Persistence.Codec

/-!
Contract: the frames the coordinator serves (`protocol.hpp` and the reading part
of `handle` in `coordinator.cpp`).

Owns the message types with their byte values, frames, and the reading of a
frame's body into a request. Every branch of `handle` reads its whole body
before it touches the engine, so a body that is too short, or a count or string
over its bound, is a failed read and nothing else.

Does not own: the encoding of a frame on the wire, and what a request does.
-/

namespace CongestionFabric

open Foundation
open Foundation.Reader (u64 require many)

/-! ## Frames -/

/-- `MessageType`; the values count from one. -/
inductive MessageType where
  | hello | register | registerAck | createDomain | domainCreated | declareFlow | flowDeclared
  | admission | queue | start | progress | complete | cancel | publishMeasurement
  | queryCongestion | congestionUpdate | queryBottleneck | bottleneck | queryResidual | residual
  | applyShaping | backpressure | fenceWorker | invalidateSource | advanceGeneration | revalidate
  | save | shutdown | nack | ok | error
deriving DecidableEq

def MessageType.toU8 (type : MessageType) : UInt8 := .ofNat (type.ctorIdx + 1)

/-- The message types in the order of their values. -/
def MessageType.all : List MessageType :=
  [.hello, .register, .registerAck, .createDomain, .domainCreated, .declareFlow, .flowDeclared,
    .admission, .queue, .start, .progress, .complete, .cancel, .publishMeasurement,
    .queryCongestion, .congestionUpdate, .queryBottleneck, .bottleneck, .queryResidual, .residual,
    .applyShaping, .backpressure, .fenceWorker, .invalidateSource, .advanceGeneration, .revalidate,
    .save, .shutdown, .nack, .ok, .error]

/-- The message type with a byte value, if there is one. -/
def MessageType.ofU8? (byte : UInt8) : Option MessageType :=
  MessageType.all.find? fun type => type.toU8 = byte

theorem MessageType.ofU8?_toU8 (type : MessageType) : MessageType.ofU8? type.toU8 = some type := by
  cases type <;> decide

/-- `Frame`: the type is any byte a peer sends. -/
structure Frame where
  type : UInt8
  body : Bytes
deriving DecidableEq

/-- A frame the coordinator sends. -/
def Frame.ofType (type : MessageType) (body : Bytes) : Frame := ⟨type.toU8, body⟩

/-! ## Requests -/

/-- What a frame asks for, with the values read from its body. -/
inductive Request where
  | hello (name : Bytes)
  | register (worker : WorkerId) (boot : WorkerBootId) (source : SourceId)
      (sourceBoot : SourceBootId)
  | createDomain (kind : Enum8 DomainKind) (capacity : CapacityProfile Binary64)
  | declareFlow (options : FlowOptions Binary64)
  /-- The engine operations that are answered with OK or NACK. -/
  | operation (op : Op Binary64)
  | publishMeasurement (domain : CongestionDomainId) (measurement : Measurement Binary64)
  | queryCongestion (domain : CongestionDomainId)
  | queryBottleneck (path : List CongestionDomainId)
  | queryResidual (domain : CongestionDomainId) (offeredBps : Binary64)
  | save (path : Bytes)
  | shutdown
  | unsupported

namespace Request

/-- REGISTER. -/
def rdRegister : Reader Request := do
  let worker ← rdId
  let boot ← rdGeneration
  let source ← rdId
  let sourceBoot ← rdGeneration
  pure (.register worker boot source sourceBoot)

/-- CREATE_DOMAIN: the kinds are cast, not checked. -/
def rdCreateDomain : Reader Request := do
  let kind ← rdEnumUnchecked
  let theoreticalKind ← rdEnumUnchecked
  let theoreticalBps ← rdF64
  let configuredKind ← rdEnumUnchecked
  let configuredBps ← rdF64
  pure (.createDomain kind
    { theoretical :=
        { bytesPerSecond := theoreticalBps
          kind := theoreticalKind
          provenance := MeasurementProvenance.measured }
      configured :=
        { bytesPerSecond := configuredBps
          kind := configuredKind
          provenance := MeasurementProvenance.reported } })

/-- DECLARE_FLOW; options that the frame does not carry keep their defaults. -/
def rdDeclareFlow : Reader Request := do
  let ownerWorker ← rdId
  let ownerBoot ← rdGeneration
  let source ← rdId
  let sourceBoot ← rdGeneration
  let trafficClass ← rdEnumUnchecked
  let domain ← rdRef
  let expectedBytes ← u64
  let submittedBytes ← u64
  let priority ← rdF64
  let latencySensitivity ← rdF64
  let throughputTargetBps ← rdF64
  let burstAllowanceBytes ← rdF64
  let deadlineMs ← rdF64
  let provenance ← rdEnumUnchecked
  pure (.declareFlow
    { ownerWorker, ownerBoot, source, sourceBoot, trafficClass, domain, expectedBytes,
      submittedBytes, priority, latencySensitivity, throughputTargetBps, burstAllowanceBytes,
      deadlineMs, provenance })

/-- A reference to a flow, for the branches that read nothing else. -/
def rdOnFlow (op : EntityRef FlowTag → Op Binary64) : Reader Request := do
  let ref ← rdRef
  pure (.operation (op ref))

/-- A reference to a flow and the boot of the caller. -/
def rdOnFlowBy (op : EntityRef FlowTag → WorkerBootId → Op Binary64) : Reader Request := do
  let ref ← rdRef
  let boot ← rdGeneration
  pure (.operation (op ref boot))

/-- A reference to a flow, the boot of the caller and a number of bytes. -/
def rdOnFlowBytes (op : EntityRef FlowTag → WorkerBootId → UInt64 → Op Binary64) :
    Reader Request := do
  let ref ← rdRef
  let boot ← rdGeneration
  let count ← u64
  pure (.operation (op ref boot count))

/-- PUBLISH_MEASUREMENT. -/
def rdPublishMeasurement : Reader Request := do
  let domain ← rdId
  let kind ← rdEnumUnchecked
  let value ← rdF64
  let provenance ← rdEnumUnchecked
  let confidence ← rdF64
  pure (.publishMeasurement domain { kind, value, provenance, confidence })

/-- QUERY_BOTTLENECK: at most 1024 domains. -/
def rdQueryBottleneck : Reader Request := do
  let count ← u64
  require (count.toNat ≤ 1024) "count exceeds bound"
  let path ← many count.toNat rdId
  pure (.queryBottleneck path)

/-- APPLY_SHAPING. -/
def rdApplyShaping : Reader Request := do
  let domain ← rdId
  let intent ← rdEnumUnchecked
  let generation ← rdGeneration
  let expectedBenefitBps ← rdF64
  pure (.operation (.applyLocalShaping domain { intent, generation, expectedBenefitBps }))

/-- The reads of the branch of `handle` for a message type; a type that is no
request, or no type at all, reaches the default branch. -/
def rdBody : Option MessageType → Reader Request
  | some .hello => do
      let name ← rdStr
      pure (.hello name)
  | some .register => rdRegister
  | some .createDomain => rdCreateDomain
  | some .declareFlow => rdDeclareFlow
  | some .admission => rdOnFlow .admitFlow
  | some .queue => rdOnFlow .queueFlow
  | some .start => rdOnFlowBy .startFlow
  | some .progress => rdOnFlowBytes .flowProgress
  | some .complete => rdOnFlowBy .flowComplete
  | some .cancel => rdOnFlowBytes .flowCancel
  | some .publishMeasurement => rdPublishMeasurement
  | some .queryCongestion => do
      let domain ← rdId
      pure (.queryCongestion domain)
  | some .queryBottleneck => rdQueryBottleneck
  | some .queryResidual => do
      let domain ← rdId
      let offeredBps ← rdF64
      pure (.queryResidual domain offeredBps)
  | some .applyShaping => rdApplyShaping
  | some .fenceWorker => do
      let worker ← rdId
      let boot ← rdGeneration
      pure (.operation (.fenceWorker worker boot))
  | some .invalidateSource => do
      let source ← rdId
      let boot ← rdGeneration
      pure (.operation (.fenceSource source boot))
  | some .advanceGeneration => do
      let ref ← rdRef
      let next ← rdGeneration
      pure (.operation (.advanceFlowGeneration ref next))
  | some .revalidate => rdOnFlowBy .revalidateFlow
  | some .save => do
      let path ← rdStr
      pure (.save path)
  | some .shutdown => pure .shutdown
  | some _ | none => pure .unsupported

/-- The request of a frame; `none` where a read throws. Bytes after the last
read are ignored. -/
def ofFrame (frame : Frame) : Option Request :=
  match rdBody (MessageType.ofU8? frame.type) frame.body with
  | .error _ => none
  | .ok (request, _) => some request

end Request

/-! ## Frames of a session -/

namespace Frame

/-- REGISTER of a worker and a source that have the same number and boot. -/
def register (number boot : UInt64) : Frame :=
  .ofType .register [wr64 number, wr64 boot, wr64 number, wr64 boot].flatten

/-- CREATE_DOMAIN with a theoretical capacity of 1000 and nothing configured. -/
def createDomain (kind : UInt8) : Frame :=
  .ofType .createDomain [wr8 kind, wr8 (Enumeration.toU8 BandwidthKind.theoretical),
    wrF64 1000.0, wr8 (Enumeration.toU8 BandwidthKind.unknown), wrF64 0.0].flatten

/-- DECLARE_FLOW of a bulk transfer of 100 bytes in domain 1 by the worker and the source
of number and boot 1. -/
def declareFlow : Frame :=
  .ofType .declareFlow [wr64 1, wr64 1, wr64 1, wr64 1,
    wr8 (Enumeration.toU8 TrafficClass.bulkTransfer), wr64 1, wr64 1, wr64 0, wr64 100,
    wrF64 0.0, wrF64 0.0, wrF64 0.0, wrF64 0.0, wrF64 0.0,
    wr8 (Enumeration.toU8 MeasurementProvenance.reported)].flatten

/-- PUBLISH_MEASUREMENT of a measured value for domain 1, with full confidence. -/
def publishMeasurement (kind : UInt8) (value : Binary64) : Frame :=
  .ofType .publishMeasurement [wr64 1, wr8 kind, wrF64 value,
    wr8 (Enumeration.toU8 MeasurementProvenance.measured), wrF64 1.0].flatten

end Frame

end CongestionFabric
