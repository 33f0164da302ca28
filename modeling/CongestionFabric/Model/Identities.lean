import Mathlib.Init

/-!
Contract: strongly typed identities and generations (`identities.hpp`,
`types.hpp`).

Owns the identifier and generation types, their validity test, the saturating
generation bump, entity references, and the authority domains the engine and
the coordinator use. Every authority domain has its own tag, so values of two
domains cannot be compared or exchanged.

Does not own: the tags of `types.hpp` that no modelled function mentions.
-/

namespace CongestionFabric

/-- A stable identifier within one authority domain; zero is not valid. -/
structure Id (Tag : Type) where
  value : UInt64 := 0

/-- A freshness marker within one authority domain; zero is never issued. -/
structure Generation (Tag : Type) where
  value : UInt64 := 0

variable {Tag : Type}

instance : DecidableEq (Id Tag) := fun left right =>
  decidable_of_iff (left.value = right.value)
    ⟨fun same => by cases left; cases right; exact congrArg Id.mk same, congrArg Id.value⟩

instance : DecidableEq (Generation Tag) := fun left right =>
  decidable_of_iff (left.value = right.value)
    ⟨fun same => by cases left; cases right; exact congrArg Generation.mk same,
      congrArg Generation.value⟩

def Id.isValid (id : Id Tag) : Bool := id.value != 0

def Generation.isValid (generation : Generation Tag) : Bool := generation.value != 0

/-- The largest value of `std::uint64_t`. -/
def maxUInt64 : UInt64 := 0xFFFFFFFFFFFFFFFF

/-- Bump once; saturates at the maximum rather than wrapping to zero. -/
def Generation.next (generation : Generation Tag) : Generation Tag :=
  if generation.value = maxUInt64 then generation else ⟨generation.value + 1⟩

/-- An identifier and a generation of one authority domain, bound together. -/
structure EntityRef (Tag : Type) where
  id : Id Tag := {}
  generation : Generation Tag := {}

instance : DecidableEq (EntityRef Tag) := fun left right =>
  decidable_of_iff (left.id = right.id ∧ left.generation = right.generation)
    ⟨fun same => by cases left; cases right; simp_all, fun same => by simp [same]⟩

/-! ## Authority domains -/

inductive CongestionDomainTag
inductive CongestionEventTag
inductive CongestionPolicyTag
inductive FlowTag
inductive PathTag
inductive ResourceTag
inductive WorkloadTag
inductive ExecutionTag
inductive CapacityGenerationTag
inductive MeasurementGenerationTag
inductive QueueGenerationTag
inductive BackpressureGenerationTag
inductive RecoveryGenerationTag
inductive WorkerBootIdTag
inductive SourceBootIdTag
inductive CoordinatorEpochTag
inductive WorkerTag
inductive SourceTag

abbrev CongestionDomainId := Id CongestionDomainTag
abbrev CongestionEventId := Id CongestionEventTag
abbrev CongestionEventGeneration := Generation CongestionEventTag
abbrev CongestionPolicyGeneration := Generation CongestionPolicyTag
abbrev FlowId := Id FlowTag
abbrev FlowGeneration := Generation FlowTag
abbrev CapacityGeneration := Generation CapacityGenerationTag
abbrev MeasurementGeneration := Generation MeasurementGenerationTag
abbrev QueueGeneration := Generation QueueGenerationTag
abbrev BackpressureGeneration := Generation BackpressureGenerationTag
abbrev RecoveryGeneration := Generation RecoveryGenerationTag
abbrev WorkerBootId := Generation WorkerBootIdTag
abbrev SourceBootId := Generation SourceBootIdTag
abbrev CoordinatorEpoch := Generation CoordinatorEpochTag
abbrev WorkerId := Id WorkerTag
abbrev SourceId := Id SourceTag

/-! ## Laws -/

@[simp] theorem Id.isValid_eq_true {id : Id Tag} : id.isValid = true ↔ id.value ≠ 0 := by
  simp [Id.isValid]

@[simp] theorem Generation.isValid_eq_true {generation : Generation Tag} :
    generation.isValid = true ↔ generation.value ≠ 0 := by
  simp [Generation.isValid]

theorem Id.ext_value {left right : Id Tag} (same : left.value = right.value) : left = right := by
  cases left
  cases right
  exact congrArg Id.mk same

theorem Generation.ext_value {left right : Generation Tag} (same : left.value = right.value) :
    left = right := by
  cases left
  cases right
  exact congrArg Generation.mk same

/-- Below the maximum, a bump adds exactly one. -/
theorem Generation.next_toNat {generation : Generation Tag}
    (below : generation.value ≠ maxUInt64) :
    generation.next.value.toNat = generation.value.toNat + 1 := by
  have bound := generation.value.toNat_lt
  have notMax : generation.value.toNat ≠ maxUInt64.toNat :=
    fun same => below (UInt64.toNat_inj.mp same)
  have maximum : maxUInt64.toNat = 2 ^ 64 - 1 := rfl
  rw [Generation.next, if_neg below, UInt64.toNat_add]
  change (generation.value.toNat + 1) % 2 ^ 64 = _
  omega

/-- Only the maximum is left as it is. -/
theorem Generation.next_eq_self_iff {generation : Generation Tag} :
    generation.next = generation ↔ generation.value = maxUInt64 := by
  constructor
  · intro same
    refine Decidable.byContradiction fun below => ?_
    have bumped := Generation.next_toNat below
    rw [same] at bumped
    omega
  · intro saturated
    rw [Generation.next, if_pos saturated]

/-- A bump never goes back. -/
theorem Generation.le_next (generation : Generation Tag) :
    generation.value.toNat ≤ generation.next.value.toNat := by
  by_cases saturated : generation.value = maxUInt64
  · simp [Generation.next, saturated]
  · rw [Generation.next_toNat saturated]
    omega

/-- A bump of a valid generation is valid, also at the maximum. -/
theorem Generation.next_isValid {generation : Generation Tag} (valid : generation.isValid) :
    generation.next.isValid := by
  have nonzero : generation.value.toNat ≠ 0 := fun zero =>
    Generation.isValid_eq_true.mp valid (UInt64.toNat_inj.mp zero)
  have grows := generation.le_next
  rw [Generation.isValid_eq_true]
  intro zero
  rw [zero] at grows
  exact nonzero (Nat.le_zero.mp grows)

end CongestionFabric
