import CongestionFabric.Engine.Assessment

/-!
Contract: the read-only queries the coordinator serves (`identify_bottleneck`,
`query_residual_capacity` and `snapshot` of `engine.cpp`).

Owns the three queries with the records they return and the texts they build;
the decimal text of a number is the caller's, so the queries stay generic in the
arithmetic.

Does not own: the classification behind a snapshot.
-/

namespace CongestionFabric

open Foundation

/-! ## Decimal texts -/

/-- `std::to_string` of an unsigned integer. -/
def decimal (value : UInt64) : Bytes := ascii (toString value.toNat)

/-- The nearest integer to a quotient, to even in the middle. -/
def roundedQuotient (numerator denominator : Nat) : Nat :=
  let quotient := numerator / denominator
  let rest := numerator % denominator
  if denominator < 2 * rest ∨ denominator = 2 * rest ∧ quotient % 2 = 1 then quotient + 1
  else quotient

/-- Six digits after the point. -/
def sixDecimals (millionths : Nat) : String :=
  let digits := toString (millionths % 10 ^ 6)
  toString (millionths / 10 ^ 6) ++ "." ++ "".pushn '0' (6 - digits.length) ++ digits

/-- `std::to_string` of a double: the exact value, rounded to six decimals. The
text of a NaN does not show its sign. -/
def Binary64.toDecimal (value : Binary64) : Bytes :=
  let signed := fun (sign : Float.Model.UnpackedFloat.Sign) (text : String) =>
    match sign with
    | .positive => ascii text
    | .negative => ascii ("-" ++ text)
  match value.unpack with
  | .notANumber => ascii "nan"
  | .infinity sign => signed sign "inf"
  | .zero sign => signed sign (sixDecimals 0)
  | .finite sign mantissa exponent _ =>
      signed sign (sixDecimals (roundedQuotient
        (mantissa * 2 ^ exponent.toNat * 10 ^ 6) (2 ^ (-exponent).toNat)))

example : Binary64.toDecimal 1000.5 = ascii "1000.500000" := by decide +kernel

variable {R : Type} [Arithmetic R]

/-! ## Bottleneck -/

/-- `BottleneckResult`. -/
structure BottleneckResult (R : Type) [Arithmetic R] where
  domain : EntityRef CongestionDomainTag := {}
  cause : Bytes := []
  deficitBps : R := 0.0
  upstream : Bool := false
  explanation : Bytes := []

/-- The text a new best candidate gets. -/
def bottleneckExplanation (text : R → Bytes) (domain : CongestionDomain R) (eff backlog : R) :
    Bytes :=
  [ascii "Bottleneck at domain ", decimal domain.ref.id.value, ascii " (",
    decimal domain.kind.toU8.toUInt64, ascii "): offered=", text domain.offeredBps,
    ascii ", serviced=", text domain.servicedBps, ascii ", effective=", text eff,
    ascii ", backlog=", text backlog, ascii "."].flatten

/-- The loop body of `identify_bottleneck`. -/
def Impl.weighBottleneck (text : R → Bytes) (state : Impl R) (best : BottleneckResult R)
    (id : CongestionDomainId) : BottleneckResult R :=
  match state.domains.find? id with
  | none => best
  | some domain =>
      let eff := domain.capacity.effective.getD 0.0
      let deficit := domain.offeredBps - domain.servicedBps
      let backlog := Arithmetic.ofUInt64 (aggregateDomain domain state.flows).queuedBytes
      let pressure := deficit + backlog
      if pressure > best.deficitBps ∨ best.deficitBps < 0.0 then
        { domain := domain.ref
          cause := ascii "offered exceeds serviced; backlog growing"
          deficitBps := pressure
          upstream := false
          explanation := bottleneckExplanation text domain eff backlog }
      else best

/-- `identify_bottleneck`. A negative best candidate loses its deficit and its
explanation, not its domain. -/
def Impl.identifyBottleneck (text : R → Bytes) (path : List CongestionDomainId)
    (state : Impl R) : BottleneckResult R :=
  let best := path.foldl (state.weighBottleneck text) { deficitBps := -1.0 }
  if best.deficitBps < 0.0 then
    { best with
      explanation := ascii "No bottleneck: all path domains are within capacity."
      deficitBps := 0.0 }
  else best

/-! ## Residual capacity -/

/-- `ResidualCapacityResult`. -/
structure ResidualCapacityResult (R : Type) [Arithmetic R] where
  effectiveBps : R := 0.0
  residualBps : R := 0.0
  utilisedBps : R := 0.0
  utilization : R := 0.0
  kind : Enum8 BandwidthKind := BandwidthKind.unknown
  provenance : Enum8 MeasurementProvenance := MeasurementProvenance.unknown
  hasCapacity : Bool := false

/-- `query_residual_capacity`. -/
def Impl.queryResidualCapacity (id : CongestionDomainId) (offeredBps : R) (state : Impl R) :
    ResidualCapacityResult R :=
  match state.domains.find? id with
  | none => {}
  | some domain =>
      match domain.capacity.effective with
      | none => {}
      | some eff =>
          let residual := domain.capacity.residual offeredBps
          let measured := domain.capacity.measuredService
          { effectiveBps := eff
            residualBps := residual.getD 0.0
            utilisedBps := offeredBps
            utilization := if eff > 0.0 then offeredBps / eff else 0.0
            kind :=
              if !measured.isUnknown then measured.kind
              else if !domain.capacity.configured.isUnknown then domain.capacity.configured.kind
              else domain.capacity.theoretical.kind
            provenance := measured.provenance
            hasCapacity := residual.isSome }

/-! ## Snapshot -/

/-- `DomainSnapshot`. -/
structure DomainSnapshot (R : Type) [Arithmetic R] where
  ref : EntityRef CongestionDomainTag := {}
  kind : Enum8 DomainKind := DomainKind.unknown
  state : CongestionState := .unknown
  provenance : Enum8 MeasurementProvenance := MeasurementProvenance.unknown
  offeredBps : R := 0.0
  servicedBps : R := 0.0
  effectiveBps : R := 0.0
  residualBps : R := 0.0
  utilization : R := 0.0
  queuedBytes : UInt64 := 0
  queuedOps : UInt64 := 0
  inFlightBytes : UInt64 := 0
  dominantContributor : FlowId := {}
  dominantClass : Enum8 TrafficClass := TrafficClass.unknown
  upstreamBottleneck : CongestionDomainId := {}
  summary : Bytes := []

/-- The dominant contributor of `snapshot`: the first flow with the most bytes
in flight, among those with any. -/
def dominantContributor (domain : CongestionDomain R) (flows : UnorderedMap FlowId (Flow R)) :
    Option (Flow R) :=
  domain.flows.foldl (fun most ref =>
    match findFlow flows ref with
    | none => most
    | some flow =>
        if flow.isTerminal then most
        else if flow.inFlightBytes.value > (most.map fun flow => flow.inFlightBytes.value).getD 0
        then some flow
        else most) none

/-- `snapshot`. -/
def Impl.snapshot (id : CongestionDomainId) (state : Impl R) : DomainSnapshot R :=
  match state.domains.find? id with
  | none => {}
  | some domain =>
      let aggregate := aggregateDomain domain state.flows
      let assessment := state.assess domain
      let effectiveBps := domain.capacity.effective.getD 0.0
      let dominant := dominantContributor domain state.flows
      let upstream := domain.upstreamDomains.filterMap state.domains.find?
      { ref := domain.ref
        kind := domain.kind
        state := assessment.state
        provenance := assessment.provenance
        offeredBps := domain.offeredBps
        servicedBps := domain.servicedBps
        effectiveBps := effectiveBps
        residualBps := (domain.capacity.residual domain.offeredBps).getD 0.0
        utilization := if effectiveBps > 0.0 then domain.offeredBps / effectiveBps else 0.0
        queuedBytes := aggregate.queuedBytes
        queuedOps := aggregate.queuedOps
        inFlightBytes := aggregate.inFlightBytes
        dominantContributor := (dominant.map fun flow => flow.ref.id).getD {}
        dominantClass := (dominant.map Flow.trafficClass).getD TrafficClass.unknown
        upstreamBottleneck := ((upstream.find? fun other => Enumeration.toU8 other.state ≥
          Enumeration.toU8 CongestionState.congested).map fun other => other.ref.id).getD {}
        summary := [ascii "domain ", decimal domain.ref.id.value, ascii " state=",
          decimal (Enumeration.toU8 assessment.state).toUInt64].flatten }

end CongestionFabric
