import Mathlib.Tactic.SplitIfs
import CongestionFabric.Foundation.Arithmetic
import CongestionFabric.Model.Identities
import CongestionFabric.Model.Taxonomy

/-!
Contract: flows and their byte accounting (`checked.hpp`, `fairness.hpp`,
`flow.hpp`).

Owns checked 64-bit arithmetic, the byte counter, the fairness configuration,
the flow record with its accounting check, and the options a flow is declared
with. A `std::string` is its list of bytes; a `double` is a value of the number
system `R`.

Does not own: the lifecycle operations of the engine.
-/

namespace CongestionFabric

open Foundation

/-- A `std::string` or a byte buffer. -/
abbrev Bytes := List UInt8

/-! ## Checked arithmetic -/

namespace Checked

/-- `checked::add`; `none` where the sum does not fit. -/
def add (left right : UInt64) : Option UInt64 :=
  if left > maxUInt64 - right then none else some (left + right)

/-- `checked::sub`; `none` where the difference is negative. -/
def sub (left right : UInt64) : Option UInt64 :=
  if right > left then none else some (left - right)

/-- A checked sum is the mathematical sum, and exists exactly when that fits. -/
theorem add_eq_some {left right total : UInt64} :
    add left right = some total ↔ left.toNat + right.toNat = total.toNat := by
  have maximum : (maxUInt64 - right).toNat = 2 ^ 64 - 1 - right.toNat := by
    rw [UInt64.toNat_sub_of_le _ _ (by
      rw [UInt64.le_iff_toNat_le]
      exact Nat.le_of_lt_succ right.toNat_lt)]
    rfl
  have leftLt := left.toNat_lt
  have rightLt := right.toNat_lt
  have totalLt := total.toNat_lt
  unfold add
  split_ifs with overflow
  · rw [gt_iff_lt, UInt64.lt_iff_toNat_lt, maximum] at overflow
    simp only [false_iff]
    omega
  · rw [gt_iff_lt, UInt64.lt_iff_toNat_lt, maximum] at overflow
    rw [Option.some.injEq, ← UInt64.toNat_inj, UInt64.toNat_add]
    omega

/-- A checked difference is the mathematical difference, and exists exactly
when that is not negative. -/
theorem sub_eq_some {left right rest : UInt64} :
    sub left right = some rest ↔ right.toNat + rest.toNat = left.toNat := by
  unfold sub
  split_ifs with negative
  · rw [gt_iff_lt, UInt64.lt_iff_toNat_lt] at negative
    simp only [false_iff]
    omega
  · rw [gt_iff_lt, UInt64.lt_iff_toNat_lt] at negative
    rw [Option.some.injEq, ← UInt64.toNat_inj,
      UInt64.toNat_sub_of_le _ _ (UInt64.le_iff_toNat_le.mpr (by omega))]
    omega

/-- `std::min` on byte counts. -/
theorem toNat_min (left right : UInt64) :
    (min left right).toNat = min left.toNat right.toNat := by
  change (if left ≤ right then left else right).toNat = _
  split_ifs with below
  · exact (Nat.min_eq_left (UInt64.le_iff_toNat_le.mp below)).symm
  · have above := UInt64.le_of_lt (UInt64.not_le.mp below)
    exact (Nat.min_eq_right (UInt64.le_iff_toNat_le.mp above)).symm

end Checked

/-- A byte count whose mutations are checked. -/
structure ByteCounter where
  value : UInt64 := 0
deriving DecidableEq

/-- `ByteCounter::add`; a failed mutation leaves the counter unchanged. -/
def ByteCounter.add (counter : ByteCounter) (amount : UInt64) : Option ByteCounter :=
  (Checked.add counter.value amount).map ByteCounter.mk

theorem ByteCounter.add_eq_some {counter total : ByteCounter} {amount : UInt64} :
    counter.add amount = some total ↔
      counter.value.toNat + amount.toNat = total.value.toNat := by
  unfold ByteCounter.add
  rw [Option.map_eq_some_iff, ← Checked.add_eq_some]
  constructor
  · rintro ⟨sum, added, rfl⟩
    exact added
  · intro added
    exact ⟨total.value, added, rfl⟩

/-! ## Records -/

/-- `FairnessConfig`. -/
structure FairnessConfig (R : Type) [Arithmetic R] where
  model : Enum8 FairnessModel := FairnessModel.equalShare
  weight : R := 1.0
  minimumGuaranteeBps : R := 0.0
  capBps : R := 0.0
  latencyCriticalProtected : Bool := false
  policyGeneration : CongestionPolicyGeneration := {}

/-- `Flow`. -/
structure Flow (R : Type) [Arithmetic R] where
  ref : EntityRef FlowTag := {}
  ownerWorker : WorkerId := {}
  ownerBoot : WorkerBootId := {}
  source : SourceId := {}
  sourceBoot : SourceBootId := {}
  workload : EntityRef WorkloadTag := {}
  execution : EntityRef ExecutionTag := {}
  trafficClass : Enum8 TrafficClass := TrafficClass.unknown
  domain : EntityRef CongestionDomainTag := {}
  path : EntityRef PathTag := {}
  state : FlowState := .declared
  expectedBytes : ByteCounter := {}
  submittedBytes : ByteCounter := {}
  admittedBytes : ByteCounter := {}
  inFlightBytes : ByteCounter := {}
  completedBytes : ByteCounter := {}
  failedBytes : ByteCounter := {}
  cancelledBytes : ByteCounter := {}
  declaredMs : UInt64 := 0
  startedMs : UInt64 := 0
  lastProgressMs : UInt64 := 0
  priority : R := 0.0
  latencySensitivity : R := 0.0
  throughputTargetBps : R := 0.0
  burstAllowanceBytes : R := 0.0
  deadlineMs : R := 0.0
  fairness : FairnessConfig R := {}
  provenance : Enum8 MeasurementProvenance := MeasurementProvenance.unknown
  description : Bytes := []

/-- `FlowOptions`: what a caller declares a flow with. -/
structure FlowOptions (R : Type) [Arithmetic R] where
  ownerWorker : WorkerId := {}
  ownerBoot : WorkerBootId := {}
  source : SourceId := {}
  sourceBoot : SourceBootId := {}
  workload : EntityRef WorkloadTag := {}
  execution : EntityRef ExecutionTag := {}
  trafficClass : Enum8 TrafficClass := TrafficClass.unknown
  domain : EntityRef CongestionDomainTag := {}
  path : EntityRef PathTag := {}
  expectedBytes : UInt64 := 0
  submittedBytes : UInt64 := 0
  priority : R := 0.0
  latencySensitivity : R := 0.0
  throughputTargetBps : R := 0.0
  burstAllowanceBytes : R := 0.0
  deadlineMs : R := 0.0
  fairness : FairnessConfig R := {}
  provenance : Enum8 MeasurementProvenance := MeasurementProvenance.unknown
  description : Bytes := []

variable {R : Type} [Arithmetic R]

/-- `FairnessConfig::valid`. -/
def FairnessConfig.valid (config : FairnessConfig R) : Bool :=
  Arithmetic.isFinite config.weight && decide (config.weight > 0.0) &&
    Arithmetic.isFinite config.minimumGuaranteeBps && decide (config.minimumGuaranteeBps ≥ 0.0) &&
    Arithmetic.isFinite config.capBps && decide (config.capBps ≥ 0.0)

/-- `Flow::is_terminal`. -/
def Flow.isTerminal (flow : Flow R) : Bool := flow.state.isTerminal

/-- `Flow::accounting_valid`. -/
def Flow.accountingValid (flow : Flow R) : Bool :=
  flow.completedBytes.value ≤ flow.admittedBytes.value &&
    flow.admittedBytes.value ≤ flow.submittedBytes.value &&
    flow.inFlightBytes.value ≤ flow.admittedBytes.value

theorem Flow.accountingValid_iff {flow : Flow R} :
    flow.accountingValid = true ↔
      flow.completedBytes.value.toNat ≤ flow.admittedBytes.value.toNat ∧
        flow.admittedBytes.value.toNat ≤ flow.submittedBytes.value.toNat ∧
        flow.inFlightBytes.value.toNat ≤ flow.admittedBytes.value.toNat := by
  simp only [Flow.accountingValid, Bool.and_eq_true, decide_eq_true_eq, UInt64.le_iff_toNat_le,
    and_assoc]

/-- What worker 1 declares for source 1 in domain 1, all at their first boots. -/
def FlowOptions.ofFirst (submittedBytes : UInt64) : FlowOptions R where
  ownerWorker := ⟨1⟩
  ownerBoot := ⟨1⟩
  source := ⟨1⟩
  sourceBoot := ⟨1⟩
  domain := { id := ⟨1⟩, generation := ⟨1⟩ }
  submittedBytes := submittedBytes

end CongestionFabric
