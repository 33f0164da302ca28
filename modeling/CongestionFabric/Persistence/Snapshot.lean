import CongestionFabric.Engine.Operation
import CongestionFabric.Persistence.Codec

/-!
Contract: saving and loading the whole engine (`save` and `load` of
`engine.cpp`).

Owns the payload, the checksummed envelope, the bytes a save writes, the loader
with its validation and its commit, and the engine as a transition system that
can also load files.

Opening and reading a file is a parameter: `load` is given the bytes of the
file, or none where it cannot be opened or read. The length word is checksummed
as it lies in memory; the host is little-endian. `load` walks new maps, whose
enumeration order here is the order of the file.
-/

namespace CongestionFabric

open Foundation
open Foundation.Reader (u8 u32 u64 bytes remaining require expect many loop)

/-- The persisted part of an engine. -/
structure Persisted where
  epoch : CoordinatorEpoch
  workerBoot : UnorderedMap WorkerId WorkerBootId
  sourceBoot : UnorderedMap SourceId SourceBootId
  domains : UnorderedMap CongestionDomainId (CongestionDomain Binary64)
  flows : UnorderedMap FlowId (Flow Binary64)
  nextDomain : UInt64
  nextFlow : UInt64
  nextEvent : UInt64
  nextPolicy : UInt64

/-! ## Saving -/

/-- A map with its 32-bit count, entry by entry in enumeration order. -/
def wrMap {K V : Type} (wrKey : K → Bytes) (wrValue : V → Bytes) (map : UnorderedMap K V) :
    Bytes :=
  [wr32 (.ofNat map.size),
    map.entries.flatMap fun entry => [wrKey entry.1, wrValue entry.2].flatten].flatten

/-- The payload of `save`. -/
def wrPayload (state : Impl Binary64) : Bytes :=
  [wrGeneration state.epoch, wrMap wrId wrGeneration state.workerBoot,
    wrMap wrId wrGeneration state.sourceBoot, wrMap wrId wrDomain state.domains,
    wrMap wrId wrFlow state.flows, wr64 state.nextDomain, wr64 state.nextFlow,
    wr64 state.nextEvent, wr64 state.nextPolicy].flatten

/-- `kMagic`. -/
def snapshotMagic : Bytes := ascii "CONGFAB1"

/-- `kVersion`. -/
def snapshotVersion : UInt32 := 1

/-- The envelope: magic, version, length, checksum of the length, payload,
checksum of the payload. -/
def wrEnvelope (payload : Bytes) : Bytes :=
  [snapshotMagic, wr32 snapshotVersion, wr64 (.ofNat payload.length),
    wr32 (crc32 (wr64 (.ofNat payload.length))), payload, wr32 (crc32 payload)].flatten

/-- The file `save` writes. -/
def saveBytes (state : Impl Binary64) : Bytes := wrEnvelope (wrPayload state)

/-! ## Loading -/

/-- The envelope checks; returns the payload. -/
def rdEnvelope : Reader Bytes := do
  let magic ← bytes 8
  require (magic = snapshotMagic) "bad magic"
  let version ← u32
  require (version = snapshotVersion) "unsupported version"
  let length ← u64
  require (length.toNat ≤ maxPayloadBytes) "payload too large"
  let lengthCrc ← u32
  require (crc32 (wr64 length) = lengthCrc) "length checksum mismatch"
  let left ← remaining
  require (length.toNat ≤ left) "truncated payload"
  let payload ← bytes length.toNat
  let storedCrc ← u32
  let trailing ← remaining
  require (trailing = 0) "trailing garbage"
  require (crc32 payload = storedCrc) "payload checksum mismatch"
  pure payload

/-- The 32-bit count of a map. -/
def rdMapCount (text : String) : Reader Nat := do
  let count ← u32
  require (count.toNat ≤ maxCollectionCount) text
  pure count.toNat

/-- The loop that fills the worker and the source table. -/
def rdBoots {Tag BootTag : Type} (countText invalidText duplicateText : String) :
    Reader (UnorderedMap (Id Tag) (Generation BootTag)) := do
  let count ← rdMapCount countText
  loop count (fun table => do
    let id ← rdId
    let boot ← rdGeneration
    require (id.isValid && boot.isValid) invalidText
    require (!table.contains id) duplicateText
    pure (table.emplace id boot)) .empty

/-- The domain loop. The source keeps the generations it has seen in a second
map; they are those of the domains read so far. -/
def rdDomains : Reader (UnorderedMap CongestionDomainId (CongestionDomain Binary64)) := do
  let count ← rdMapCount "domain count too large"
  loop count (fun domains => do
    let id ← rdId
    require id.isValid "invalid domain id"
    let domain ← rdDomain id
    require ((domains.find? id).all fun earlier =>
      decide (earlier.ref.generation.value < domain.ref.generation.value))
      "domain generation regression"
    require (!domains.contains id) "duplicate domain id"
    pure (domains.emplace id domain)) .empty

/-- The flow loop. -/
def rdFlows : Reader (UnorderedMap FlowId (Flow Binary64)) := do
  let count ← rdMapCount "flow count too large"
  loop count (fun flows => do
    let id ← rdId
    require id.isValid "invalid flow id"
    let flow ← rdFlow
    require (flow.ref.id = id) "flow id mismatch"
    require flow.trafficClass.valid "invalid traffic class"
    require flow.accountingValid "invalid flow accounting"
    require flow.fairness.valid "invalid flow fairness"
    require ((flows.find? id).all fun earlier =>
      decide (earlier.ref.generation.value < flow.ref.generation.value))
      "flow generation regression"
    require (!flows.contains id) "duplicate flow id"
    pure (flows.emplace id flow)) .empty

/-- The fields of the payload. -/
def rdFields : Reader Persisted := do
  let epoch ← rdGeneration
  require epoch.isValid "invalid epoch"
  let workerBoot ← rdBoots "worker count too large" "invalid worker boot" "duplicate worker id"
  let sourceBoot ← rdBoots "source count too large" "invalid source boot" "duplicate source id"
  let domains ← rdDomains
  let flows ← rdFlows
  let nextDomain ← u64
  let nextFlow ← u64
  let nextEvent ← u64
  let nextPolicy ← u64
  pure { epoch, workerBoot, sourceBoot, domains, flows, nextDomain, nextFlow, nextEvent,
         nextPolicy }

/-- The payload decoder of `load`: the fields, and nothing after them. -/
def rdPayload : Reader Persisted := do
  let persisted ← rdFields
  let trailing ← remaining
  require (trailing = 0) "trailing garbage"
  pure persisted

namespace Impl

/-- The assignments of `load`'s commit: what is not persisted stays as it is in the loading
engine, and the flow history restarts from the loaded flows. -/
def commit (state : Impl Binary64) (persisted : Persisted) : Impl Binary64 :=
  { state with
    epoch := persisted.epoch
    workerBoot := persisted.workerBoot
    sourceBoot := persisted.sourceBoot
    domains := persisted.domains
    flows := persisted.flows
    flowHistory := persisted.flows.keys
    nextDomain := persisted.nextDomain
    nextFlow := persisted.nextFlow
    nextEvent := persisted.nextEvent
    nextPolicy := persisted.nextPolicy }

/-- What the loader makes of the bytes of a file; any failed check refuses the
whole file. -/
def decode (file : Bytes) : Option Persisted :=
  if file.length = 0 || file.length > 2 ^ 30 then none
  else
    match rdEnvelope file with
    | .error _ => none
    | .ok (payload, _) =>
        match rdPayload payload with
        | .error _ => none
        | .ok (persisted, _) => some persisted

/-- The two loops that close the commit of `load`. -/
def afterRestart (state : Impl Binary64) : Impl Binary64 :=
  { state with
    domains := state.domains.mapValues fun _ domain =>
      if domain.state ≠ .unknown then
        { domain with
          state := .revalidationRequired
          stateProvenance := MeasurementProvenance.unknown
          queue := { domain.queue with generation := domain.queue.generation.next } }
      else domain
    flows := state.flows.mapValues fun _ flow =>
      if !flow.isTerminal && !flow.state.isStaleOrSuperseded then
        { flow with state := .revalidationRequired }
      else flow }

/-- The loops of `load` do what those of `recover_dynamic_evidence` do. -/
theorem afterRestart_eq (state : Impl Binary64) : state.afterRestart = state.revalidateAll := by
  simp only [afterRestart, revalidateAll, CongestionDomain.requireRevalidation,
    Flow.requireRevalidation, ne_eq, ite_not]

/-- `load`. -/
def load (file : Option Bytes) (state : Impl Binary64) : Bool × Impl Binary64 :=
  match file.bind decode with
  | none => (false, state)
  | some persisted => (true, (state.commit persisted).afterRestart)

theorem load_eq (file : Option Bytes) (state : Impl Binary64) :
    state.load file = match file.bind decode with
      | none => (false, state)
      | some persisted => (true, (state.commit persisted).revalidateAll) := by
  unfold load
  simp only [afterRestart_eq]

end Impl

/-! ## Runs with files -/

/-- A step of the engine, or a load. -/
inductive Event where
  | engine (label : Label Binary64)
  | load (file : Option Bytes)

inductive FileStep (limits : EngineLimits) : Impl Binary64 → Event → Impl Binary64 → Prop
  | engine {state next : Impl Binary64} {label : Label Binary64}
      (step : Step limits state label next) : FileStep limits state (.engine label) next
  | load (state : Impl Binary64) (file : Option Bytes) :
      FileStep limits state (.load file) (state.load file).2

/-- The successor in which a rehash keeps the order. -/
def Event.next (limits : EngineLimits) (state : Impl Binary64) : Event → Impl Binary64
  | .engine (.call now op) => (exec limits now op state).2
  | .engine .rehash => state
  | .load file => (state.load file).2

theorem fileStep_next (limits : EngineLimits) (state : Impl Binary64) (event : Event) :
    FileStep limits state event (event.next limits state) := by
  cases event with
  | engine label =>
      cases label with
      | call now op => exact .engine (.call state now op)
      | rehash => exact .engine (.rehash (.refl state))
  | load file => exact .load state file

end CongestionFabric
