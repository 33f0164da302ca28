import CongestionFabric.Model.Flow

/-!
Contract: congestion domains and the records they are made of (`capacity.hpp`,
`measurement.hpp`, `backpressure.hpp`, `shaping.hpp`, `episode.hpp`,
`domain.hpp`).

Owns capacity profiles with their derived bounds, measurements and the set
indexed by kind, backpressure actions, the token bucket, episodes, and the
domain record.

Does not own: the queue counters, class totals and influence lists of a domain,
and the actions of an episode; no function of the engine reads or writes them.
-/

namespace CongestionFabric

open Foundation

/-! ## Capacity -/

/-- `Rate`: a bandwidth with its kind, provenance and freshness. -/
structure Rate (R : Type) [Arithmetic R] where
  bytesPerSecond : R := 0.0
  kind : Enum8 BandwidthKind := BandwidthKind.unknown
  provenance : Enum8 MeasurementProvenance := MeasurementProvenance.unknown
  generation : CapacityGeneration := {}

/-- `CapacityProfile`. -/
structure CapacityProfile (R : Type) [Arithmetic R] where
  theoretical : Rate R := {}
  configured : Rate R := {}
  measuredService : Rate R := {}
  reserved : Rate R := {}
  generation : CapacityGeneration := {}

variable {R : Type} [Arithmetic R]

/-- A profile of which only the theoretical rate is known. -/
def CapacityProfile.ofTheoretical (bytesPerSecond : R) : CapacityProfile R where
  theoretical := { bytesPerSecond := bytesPerSecond, kind := BandwidthKind.theoretical }

def Rate.isFiniteNonneg (rate : Rate R) : Bool :=
  Arithmetic.isFinite rate.bytesPerSecond && decide (rate.bytesPerSecond ≥ 0.0)

def Rate.isUnknown (rate : Rate R) : Bool := rate.kind = (BandwidthKind.unknown : Enum8 _)

namespace CapacityProfile

/-- One layer of the bound search: the pair holds `bound` and `found`. -/
def tighten (search : R × Bool) (rate : Rate R) : R × Bool :=
  if !rate.isUnknown && rate.isFiniteNonneg then
    (Arithmetic.stdMin search.1 rate.bytesPerSecond, true)
  else
    search

/-- `effective_before_reservation`. -/
def effectiveBeforeReservation (profile : CapacityProfile R) : Option R :=
  let search := [profile.theoretical, profile.configured, profile.measuredService].foldl tighten
    (Arithmetic.infinity, false)
  if search.2 then some search.1 else none

/-- The closing check of `effective`: a bound that is negative or not finite is
no bound. -/
def usable (bound : R) : Option R :=
  if bound < 0.0 || !Arithmetic.isFinite bound then none else some bound

/-- `effective`: the smallest known bound, reduced by the reservation. -/
def effective (profile : CapacityProfile R) : Option R :=
  match profile.effectiveBeforeReservation with
  | none => none
  | some bound =>
      if !profile.reserved.isUnknown && profile.reserved.isFiniteNonneg then
        -- A reservation above the bound makes the whole profile unusable.
        if profile.reserved.bytesPerSecond > bound then none
        else usable (bound - profile.reserved.bytesPerSecond)
      else
        usable bound

/-- An effective capacity is finite. -/
theorem effective_finite {profile : CapacityProfile R} {bound : R}
    (found : profile.effective = some bound) : Arithmetic.isFinite bound = true := by
  have closed : ∀ {candidate : R}, usable candidate = some bound →
      Arithmetic.isFinite bound = true := by
    intro candidate checked
    unfold usable at checked
    split_ifs at checked with refused
    obtain rfl := Option.some.inj checked
    simp only [Bool.or_eq_true, Bool.not_eq_true', not_or, Bool.not_eq_false] at refused
    exact refused.2
  unfold effective at found
  split at found
  · exact absurd found (by simp)
  · split_ifs at found
    · exact closed found
    · exact closed found

/-- `residual`. -/
def residual (profile : CapacityProfile R) (offeredLoadBps : R) : Option R :=
  match profile.effective with
  | none => none
  | some eff =>
      if offeredLoadBps < 0.0 || !Arithmetic.isFinite offeredLoadBps then none
      else
        let rest := eff - offeredLoadBps
        some (if rest < 0.0 then 0.0 else rest)

/-- `reservation_is_consistent`. -/
def reservationIsConsistent (profile : CapacityProfile R) : Bool :=
  match profile.effectiveBeforeReservation with
  | none => profile.reserved.isUnknown
  | some eff =>
      if profile.reserved.isUnknown then true
      else profile.reserved.isFiniteNonneg && decide (profile.reserved.bytesPerSecond ≤ eff)

/-- `valid`: an UNKNOWN rate is not looked at. -/
def valid (profile : CapacityProfile R) : Bool :=
  let check := fun (rate : Rate R) => if rate.isUnknown then true else rate.isFiniteNonneg
  check profile.theoretical && check profile.configured && check profile.measuredService &&
    check profile.reserved && profile.reservationIsConsistent

end CapacityProfile

/-! ## Measurements -/

/-- `Measurement`. -/
structure Measurement (R : Type) [Arithmetic R] where
  kind : Enum8 MeasurementKind := MeasurementKind.unknown
  value : R := 0.0
  provenance : Enum8 MeasurementProvenance := MeasurementProvenance.unknown
  generation : MeasurementGeneration := {}
  timestampMs : UInt64 := 0
  confidence : R := 1.0

/-- `Measurement::valid`; a finite value is not infinite, so the second test of
the source adds nothing. -/
def Measurement.valid (measurement : Measurement R) : Bool :=
  Arithmetic.isFinite measurement.value && decide (measurement.confidence ≥ 0.0) &&
    decide (measurement.confidence ≤ 1.0)

/-- `MeasurementSet`: the latest measurement of each kind. -/
structure MeasurementSet (R : Type) [Arithmetic R] where
  latestByKind : Vector (Measurement R) 20 := Vector.replicate 20 {}

/-- `MeasurementSet::put`. The source indexes the array with the raw kind byte;
a byte above the last enumerator is outside the array, which the language leaves
undefined (`put?`) and which a run that goes on reads as no store. -/
def MeasurementSet.put (set : MeasurementSet R) (measurement : Measurement R) :
    MeasurementSet R :=
  if measurement.valid then
    ⟨set.latestByKind.setIfInBounds measurement.kind.toU8.toNat measurement⟩
  else
    set

/-- `MeasurementSet::put` where it has a meaning. -/
def MeasurementSet.put? (set : MeasurementSet R) (measurement : Measurement R) :
    Option (MeasurementSet R) :=
  if measurement.valid then
    if inside : measurement.kind.toU8.toNat < 20 then
      some ⟨set.latestByKind.set measurement.kind.toU8.toNat measurement inside⟩
    else none
  else some set

theorem MeasurementKind.valid_iff_lt {kind : Enum8 MeasurementKind} :
    kind.valid = true ↔ kind.toU8.toNat < 20 := by
  have last : Enumeration.toU8 (Enumeration.last : MeasurementKind) = 19 := rfl
  rw [Enum8.valid, decide_eq_true_eq, last, UInt8.le_iff_toNat_le]
  change kind.toU8.toNat ≤ 19 ↔ _
  omega

/-- A store has a meaning unless its kind byte is above the last enumerator. -/
theorem MeasurementSet.put?_eq (set : MeasurementSet R) (measurement : Measurement R) :
    set.put? measurement =
      if measurement.valid && !measurement.kind.valid then none
      else some (set.put measurement) := by
  unfold MeasurementSet.put? MeasurementSet.put
  cases measurement.valid with
  | false => rfl
  | true =>
      by_cases inside : measurement.kind.toU8.toNat < 20
      · have known : measurement.kind.valid = true := MeasurementKind.valid_iff_lt.mpr inside
        have stored : set.latestByKind.set measurement.kind.toU8.toNat measurement inside =
            set.latestByKind.setIfInBounds measurement.kind.toU8.toNat measurement := by
          rw [← Vector.toList_inj, Vector.toList_set, Vector.toList_setIfInBounds]
        simp [inside, known, stored]
      · have unknown : ¬measurement.kind.valid = true := fun known =>
          inside (MeasurementKind.valid_iff_lt.mp known)
        simp [inside, unknown]

/-- `MeasurementSet::get`. -/
def MeasurementSet.get (set : MeasurementSet R) (kind : MeasurementKind) :
    Option (Measurement R) :=
  match set.latestByKind[(Enumeration.toU8 kind).toNat]? with
  | none => none
  | some measurement => if measurement.kind = (kind : Enum8 _) then some measurement else none

/-! ## Backpressure and shaping -/

/-- `BackpressureAction`. -/
structure BackpressureAction (R : Type) [Arithmetic R] where
  intent : Enum8 ActionIntent := ActionIntent.noAction
  targetFlow : EntityRef FlowTag := {}
  targetDomain : EntityRef CongestionDomainTag := {}
  cause : Bytes := []
  expectedBenefitBps : R := 0.0
  estimatedCostBps : R := 0.0
  costMs : R := 0.0
  policyGeneration : CongestionPolicyGeneration := {}
  generation : BackpressureGeneration := {}
  provenance : Enum8 MeasurementProvenance := MeasurementProvenance.unknown
  epoch : CoordinatorEpoch := {}
  validityWindowMs : R := 0.0
  preconditions : List Bytes := []

/-- `BackpressureAction::valid`. -/
def BackpressureAction.valid (action : BackpressureAction R) : Bool :=
  let sound := fun (amount : R) => Arithmetic.isFinite amount && decide (amount ≥ 0.0)
  action.intent.valid && sound action.expectedBenefitBps && sound action.estimatedCostBps &&
    sound action.costMs && sound action.validityWindowMs

/-- `intent_is_restrictive`. -/
def intentIsRestrictive (intent : Enum8 ActionIntent) : Bool :=
  intent = (ActionIntent.admitLimited : Enum8 _) || intent = (ActionIntent.throttle : Enum8 _) ||
    intent = (ActionIntent.defer : Enum8 _) || intent = (ActionIntent.pauseNewTraffic : Enum8 _) ||
    intent = (ActionIntent.drain : Enum8 _) || intent = (ActionIntent.reduceBurst : Enum8 _)

/-- `TokenBucket`. -/
structure TokenBucket (R : Type) [Arithmetic R] where
  rate : R := 0.0
  capacity : R := 0.0
  tokens : R := 0.0
  lastRefillS : R := 0.0

/-- The constructor `TokenBucket(rate_bps, burst_bytes)`: a full bucket. -/
def TokenBucket.full (rateBps burstBytes : R) : TokenBucket R where
  rate := rateBps
  capacity := burstBytes
  tokens := burstBytes

/-! ## Episodes and domains -/

/-- `CongestionEpisode`. -/
structure CongestionEpisode (R : Type) [Arithmetic R] where
  eventId : CongestionEventId := {}
  generation : CongestionEventGeneration := {}
  domain : EntityRef CongestionDomainTag := {}
  peakState : CongestionState := .unknown
  startMs : UInt64 := 0
  peakMs : UInt64 := 0
  recoveryStartMs : UInt64 := 0
  endMs : UInt64 := 0
  trigger : Bytes := []
  peakBacklogBytes : R := 0.0
  serviceDeficitBytes : R := 0.0
  affectedFlows : List FlowId := []
  bottleneck : EntityRef ResourceTag := {}
  outcome : CongestionState := .unknown
  isOpen : Bool := false

/-- `CongestionEpisode::valid`: an open episode may still have no end. -/
def CongestionEpisode.valid (episode : CongestionEpisode R) : Bool :=
  episode.eventId.isValid && episode.generation.isValid && episode.domain.id.isValid &&
    !(!episode.isOpen && decide (episode.endMs < episode.startMs))

/-- `DomainQueue`; only its generation is ever used. -/
structure DomainQueue where
  generation : QueueGeneration := {}

/-- `CongestionDomain`. -/
structure CongestionDomain (R : Type) [Arithmetic R] where
  ref : EntityRef CongestionDomainTag := {}
  kind : Enum8 DomainKind := DomainKind.unknown
  capacity : CapacityProfile R := {}
  queue : DomainQueue := {}
  measurements : MeasurementSet R := {}
  state : CongestionState := .unknown
  stateProvenance : Enum8 MeasurementProvenance := MeasurementProvenance.unknown
  backpressureGeneration : BackpressureGeneration := {}
  recoveryGeneration : RecoveryGeneration := {}
  defaultFairness : FairnessConfig R := {}
  shaping : TokenBucket R := {}
  flows : List (EntityRef FlowTag) := []
  upstreamDomains : List CongestionDomainId := []
  episodes : List (CongestionEpisode R) := []
  currentEpisode : CongestionEpisode R := {}
  offeredBps : R := 0.0
  offeredProvenance : Enum8 MeasurementProvenance := MeasurementProvenance.unknown
  offeredOwner : WorkerId := {}
  offeredOwnerBoot : WorkerBootId := {}
  admittedBps : R := 0.0
  admittedProvenance : Enum8 MeasurementProvenance := MeasurementProvenance.unknown
  servicedBps : R := 0.0
  servicedProvenance : Enum8 MeasurementProvenance := MeasurementProvenance.unknown
  servicedOwner : WorkerId := {}
  servicedOwnerBoot : WorkerBootId := {}
  utilisation : R := 0.0
  utilisationProvenance : Enum8 MeasurementProvenance := MeasurementProvenance.unknown
  effectiveBps : R := 0.0
  effectiveProvenance : Enum8 MeasurementProvenance := MeasurementProvenance.unknown
  residualBps : R := 0.0
  residualProvenance : Enum8 MeasurementProvenance := MeasurementProvenance.unknown

end CongestionFabric
