import Mathlib.Init

/-!
Contract: the taxonomy enumerations (`enums.hpp`).

Owns the enumerators in declaration order, their byte values, the validity test
of a raw byte, and the predicates on flow and congestion states.

A value of `enum class E : std::uint8_t` is any byte: the coordinator and the
loader cast raw bytes without a common check, so a field of such a type is an
`Enum8 E` and an enumerator is one of its values. Flow states and congestion
states are never cast unchecked; they are plain inductive types.
-/

namespace CongestionFabric

/-! ## Raw enumeration values -/

/-- An enumeration with its byte values and its last enumerator. -/
class Enumeration (E : Type) where
  toU8 : E → UInt8
  last : E

/-- A value of `enum class E : std::uint8_t`: any byte, named or not. -/
structure Enum8 (E : Type) where
  toU8 : UInt8

namespace Enum8

variable {E : Type}

instance : DecidableEq (Enum8 E) := fun left right =>
  decidable_of_iff (left.toU8 = right.toU8)
    ⟨fun same => by cases left; cases right; exact congrArg Enum8.mk same, congrArg Enum8.toU8⟩

instance [Enumeration E] : Coe E (Enum8 E) := ⟨fun value => ⟨Enumeration.toU8 value⟩⟩

/-- `enum_valid`: the byte is at most the last enumerator. -/
def valid [Enumeration E] (value : Enum8 E) : Bool :=
  value.toU8 ≤ Enumeration.toU8 (Enumeration.last : E)

end Enum8

/-! ## Enumerations -/

inductive DomainKind where
  | pcieLink | pcieRootComplex | gpuCopyEngine | gpuHostTransfer | gpuPeerPath
  | nvlinkClassPath | nicTx | nicRx | networkPath | storageRead | storageWrite
  | storageQueue | hostMemoryBandwidth | pinnedHostMemoryPath | numaMemoryPath
  | collectivePath | collectiveGroup | sharedTransferPool | compositePath | unknown
deriving DecidableEq

inductive TrafficClass where
  | latencyCritical | throughput | bulkTransfer | checkpoint | recovery | modelLoad
  | kvState | collective | replication | background | control | unknown
deriving DecidableEq

inductive MeasurementKind where
  | offeredBytesPerSec | admittedBytesPerSec | completedBytesPerSec | queueDepthOps
  | queuedBytes | inFlightBytes | serviceLatency | queueingLatency | completionLatency
  | retryVolume | activeFlowCount | burstRate | utilization | effectiveBandwidth
  | serviceDeficit | backlogGrowthRate | fairness | congestionDuration
  | recoveryDuration | unknown
deriving DecidableEq

inductive FlowState where
  | declared | validating | admitted | queued | active | backpressured | throttled
  | draining | completed | cancelled | failed | stale | superseded
  | revalidationRequired | retired
deriving DecidableEq

inductive CongestionState where
  | unknown | idle | healthy | busy | approachingSaturation | saturated | queueing
  | congested | severelyCongested | backpressured | recovering | stale
  | revalidationRequired
deriving DecidableEq

inductive MeasurementProvenance where
  | measured | reported | derived | estimated | synthetic | reconstructed | unknown
deriving DecidableEq

inductive ActionIntent where
  | allow | admitLimited | throttle | defer | pauseNewTraffic | drain | reduceBurst
  | requestReroute | requestReplan | requestReschedule | requestPreemption
  | revalidate | noAction | unknown
deriving DecidableEq

inductive BandwidthKind where
  | theoretical | configured | measuredService | effectiveWorkload | residual
  | reserved | congested | unknown
deriving DecidableEq

inductive FairnessModel where
  | equalShare | weightedShare | minimumGuaranteedShare | cappedShare
  | protectedLatencyCriticalShare | callerWeights | unknown
deriving DecidableEq

/-! Enumerators are numbered from zero in declaration order. -/

instance : Enumeration DomainKind := ⟨fun value => .ofNat value.ctorIdx, .unknown⟩
instance : Enumeration TrafficClass := ⟨fun value => .ofNat value.ctorIdx, .unknown⟩
instance : Enumeration MeasurementKind := ⟨fun value => .ofNat value.ctorIdx, .unknown⟩
instance : Enumeration MeasurementProvenance := ⟨fun value => .ofNat value.ctorIdx, .unknown⟩
instance : Enumeration ActionIntent := ⟨fun value => .ofNat value.ctorIdx, .unknown⟩
instance : Enumeration BandwidthKind := ⟨fun value => .ofNat value.ctorIdx, .unknown⟩
instance : Enumeration FairnessModel := ⟨fun value => .ofNat value.ctorIdx, .unknown⟩
instance : Enumeration FlowState := ⟨fun value => .ofNat value.ctorIdx, .retired⟩
instance : Enumeration CongestionState := ⟨fun value => .ofNat value.ctorIdx, .revalidationRequired⟩

/-! ## Checked casts of states -/

/-- The flow states in numeric order. -/
def FlowState.all : List FlowState :=
  [.declared, .validating, .admitted, .queued, .active, .backpressured, .throttled, .draining,
    .completed, .cancelled, .failed, .stale, .superseded, .revalidationRequired, .retired]

/-- The congestion states in numeric order. -/
def CongestionState.all : List CongestionState :=
  [.unknown, .idle, .healthy, .busy, .approachingSaturation, .saturated, .queueing, .congested,
    .severelyCongested, .backpressured, .recovering, .stale, .revalidationRequired]

/-- The flow state with a byte value; `none` where `flow_state_valid` fails. -/
def FlowState.ofU8? (byte : UInt8) : Option FlowState := FlowState.all[byte.toNat]?

/-- The congestion state with a byte value; `none` where
`congestion_state_valid` fails. -/
def CongestionState.ofU8? (byte : UInt8) : Option CongestionState :=
  CongestionState.all[byte.toNat]?

theorem FlowState.ofU8?_toU8 (state : FlowState) :
    FlowState.ofU8? (Enumeration.toU8 state) = some state := by
  cases state <;> rfl

theorem CongestionState.ofU8?_toU8 (state : CongestionState) :
    CongestionState.ofU8? (Enumeration.toU8 state) = some state := by
  cases state <;> rfl

/-! ## State predicates -/

/-- `flow_is_terminal`. -/
def FlowState.isTerminal (state : FlowState) : Bool :=
  state = .completed || state = .cancelled || state = .failed || state = .retired

/-- `flow_is_stale_or_superseded`. -/
def FlowState.isStaleOrSuperseded (state : FlowState) : Bool :=
  state = .stale || state = .superseded || state = .retired

/-- `flow_can_progress`: states from which a flow may still account bytes. -/
def FlowState.canProgress (state : FlowState) : Bool :=
  state = .queued || state = .active || state = .backpressured || state = .throttled ||
    state = .draining

/-- STALE, or awaiting revalidation. -/
def FlowState.isParked (state : FlowState) : Bool := state = .stale || state = .revalidationRequired

/-- `congestion_is_live`. -/
def CongestionState.isLive (state : CongestionState) : Bool :=
  state ≠ .stale && state ≠ .revalidationRequired && state ≠ .unknown

/-- The test `assess_congestion`, `recompute_domain`, `snapshot`, `start_flow`
and `publish_measurement` share: the domain awaits fresh evidence. -/
def CongestionState.awaitsRevalidation (state : CongestionState) : Bool :=
  state = .revalidationRequired || state = .stale

/-- The guarded lifecycle table `flow_transition_allowed`. -/
def flowTransitionAllowed : FlowState → FlowState → Bool
  | .declared, next => next = .validating || next = .admitted || next = .cancelled || next = .failed
  | .validating, next => next = .admitted || next = .cancelled || next = .failed
  | .admitted, next =>
      next = .queued || next = .active || next = .backpressured || next = .throttled ||
        next = .draining || next = .cancelled || next = .failed || next = .stale
  | .queued, next =>
      next = .active || next = .backpressured || next = .throttled || next = .draining ||
        next = .cancelled || next = .failed || next = .stale
  | .active, next =>
      next = .backpressured || next = .throttled || next = .draining || next = .completed ||
        next = .cancelled || next = .failed || next = .stale
  | .backpressured, next =>
      next = .active || next = .throttled || next = .draining || next = .completed ||
        next = .cancelled || next = .failed || next = .stale
  | .throttled, next =>
      next = .active || next = .draining || next = .completed || next = .cancelled ||
        next = .failed || next = .stale
  | .draining, next => next = .completed || next = .cancelled || next = .failed || next = .stale
  | .completed, _ | .cancelled, _ | .failed, _ | .superseded, _ | .retired, _ => false
  | .stale, next => next = .revalidationRequired
  | .revalidationRequired, next => next = .validating || next = .declared

end CongestionFabric
