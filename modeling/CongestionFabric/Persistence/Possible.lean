import CongestionFabric.Persistence.Restorable

/-!
Contract: which of the values that no operation of the engine can create a file
can install.

Owns the field invariants of domains and flows that a file should not be able to
break, the fields that the loader takes over without checking them, and the
theorem that identifies the files whose acceptance keeps every invariant.

The states of domains, flows and episodes need no mention: `rdCongestionState`
and `rdFlowState` refuse a byte that is no enumerator, and their results are
enumerators by type.
-/

namespace CongestionFabric

open Foundation

/-! ## Possible records -/

/-- The rates of a domain that are persisted as plain numbers. -/
def CongestionDomain.rates (domain : CongestionDomain Binary64) : List Binary64 :=
  [domain.offeredBps, domain.admittedBps, domain.servicedBps, domain.utilisation,
    domain.effectiveBps, domain.residualBps]

def CongestionDomain.provenances (domain : CongestionDomain Binary64) :
    List (Enum8 MeasurementProvenance) :=
  [domain.stateProvenance, domain.offeredProvenance, domain.admittedProvenance,
    domain.servicedProvenance, domain.utilisationProvenance, domain.effectiveProvenance,
    domain.residualProvenance]

structure CongestionDomain.Possible (domain : CongestionDomain Binary64) : Prop where
  kind : domain.kind.valid = true
  capacity : domain.capacity.allRates (fun rate => rate.kind.valid && rate.provenance.valid) = true
  fairnessModel : domain.defaultFairness.model.valid = true
  provenances : ∀ provenance ∈ domain.provenances, provenance.valid = true
  rates : ∀ rate ∈ domain.rates, Arithmetic.isFinite rate = true

/-- The three final counters together stay within the admitted bytes. -/
def Flow.settledWithin (flow : Flow Binary64) : Prop :=
  flow.completedBytes.value.toNat + flow.cancelledBytes.value.toNat +
    flow.failedBytes.value.toNat ≤ flow.admittedBytes.value.toNat

instance (flow : Flow Binary64) : Decidable flow.settledWithin :=
  inferInstanceAs (Decidable (_ ≤ _))

structure Flow.Possible (flow : Flow Binary64) : Prop where
  trafficClass : flow.trafficClass.valid = true
  provenance : flow.provenance.valid = true
  fairnessModel : flow.fairness.model.valid = true
  settled : flow.settledWithin

structure Impl.Possible (state : Impl Binary64) : Prop where
  domains : ∀ id domain, state.domains.find? id = some domain → domain.Possible
  flows : ∀ id flow, state.flows.find? id = some flow → flow.Possible

/-! ## Unchecked fields -/

/-- What the loader leaves unchecked of a domain is in order. -/
def CongestionDomain.uncheckedPossible (domain : CongestionDomain Binary64) : Bool :=
  domain.rates.all Arithmetic.isFinite

/-- What the loader leaves unchecked of a flow is in order. -/
def Flow.uncheckedPossible (flow : Flow Binary64) : Bool :=
  flow.fairness.model.valid && decide flow.settledWithin

/-- The records of a file are in order where the loader does not look. -/
def Persisted.uncheckedPossible (persisted : Persisted) : Bool :=
  (persisted.domains.entries.all fun entry => entry.2.uncheckedPossible) &&
    persisted.flows.entries.all fun entry => entry.2.uncheckedPossible

theorem Persisted.uncheckedPossible_iff {persisted : Persisted} :
    persisted.uncheckedPossible = true ↔
      (∀ id domain, persisted.domains.find? id = some domain →
        domain.uncheckedPossible = true) ∧
      ∀ id flow, persisted.flows.find? id = some flow → flow.uncheckedPossible = true := by
  simp only [Persisted.uncheckedPossible, Bool.and_eq_true, List.all_eq_true, Prod.forall,
    UnorderedMap.mem_entries_iff]

/-- The loader checks the rest; its recovery pass touches none of these fields
but the provenance of the state, which it makes UNKNOWN. -/
theorem CongestionDomain.Loadable.possible_iff {id : CongestionDomainId}
    {domain : CongestionDomain Binary64} (loadable : domain.Loadable id) :
    domain.requireRevalidation.Possible ↔ domain.uncheckedPossible = true := by
  have finite : domain.uncheckedPossible = true ↔
      ∀ rate ∈ domain.requireRevalidation.rates, Arithmetic.isFinite rate = true := by
    obtain ⟨_, _, recovered⟩ := domain.requireRevalidation_eq
    rw [CongestionDomain.uncheckedPossible, List.all_eq_true, recovered]
    rfl
  have stateProvenance : domain.requireRevalidation.stateProvenance.valid = true := by
    unfold CongestionDomain.requireRevalidation
    split
    · exact loadable.stateProvenance
    · rfl
  rw [finite]
  refine ⟨fun possible => possible.rates, fun rates => ?_⟩
  obtain ⟨_, _, recovered⟩ := domain.requireRevalidation_eq
  rw [recovered] at stateProvenance rates ⊢
  exact
    { kind := loadable.kind
      capacity := loadable.capacity.enumerated
      fairnessModel := loadable.fairnessModel
      provenances := by
        simp only [CongestionDomain.provenances, List.forall_mem_cons]
        exact ⟨stateProvenance, loadable.offeredProvenance, loadable.admittedProvenance,
          loadable.servicedProvenance, loadable.utilisationProvenance,
          loadable.effectiveProvenance, loadable.residualProvenance, by simp⟩
      rates }

theorem Flow.Loadable.possible_iff {id : FlowId} {flow : Flow Binary64}
    (loadable : flow.Loadable id) :
    flow.requireRevalidation.Possible ↔ flow.uncheckedPossible = true := by
  -- Recovery writes the state of a flow only.
  have recovered : flow.requireRevalidation.Possible ↔ flow.Possible := by
    unfold Flow.requireRevalidation
    split
    · exact ⟨fun possible => { possible with }, fun possible => { possible with }⟩
    · exact Iff.rfl
  rw [recovered, Flow.uncheckedPossible, Bool.and_eq_true, decide_eq_true_eq]
  constructor
  · intro possible
    exact ⟨possible.fairnessModel, possible.settled⟩
  · rintro ⟨fairnessModel, settled⟩
    exact ⟨loadable.trafficClass, loadable.provenance, fairnessModel, settled⟩

/-! ## Accepted files -/

theorem Persisted.Checked.possible_iff {persisted : Persisted} (checked : persisted.Checked)
    (state : Impl Binary64) :
    (state.commit persisted).revalidateAll.Possible ↔ persisted.uncheckedPossible = true := by
  rw [Persisted.uncheckedPossible_iff]
  constructor
  · intro possible
    refine ⟨fun id domain found => ?_, fun id flow found => ?_⟩
    · exact (checked.domains id domain found).possible_iff.mp
        (possible.domains id _ (Impl.committed_domain_iff.mpr ⟨domain, found, rfl⟩))
    · exact (checked.flows id flow found).possible_iff.mp
        (possible.flows id _ (Impl.committed_flow_iff.mpr ⟨flow, found, rfl⟩))
  · rintro ⟨domains, flows⟩
    refine ⟨fun id after stored => ?_, fun id after stored => ?_⟩
    · obtain ⟨domain, found, rfl⟩ := Impl.committed_domain_iff.mp stored
      exact (checked.domains id domain found).possible_iff.mpr (domains id domain found)
    · obtain ⟨flow, found, rfl⟩ := Impl.committed_flow_iff.mp stored
      exact (checked.flows id flow found).possible_iff.mpr (flows id flow found)

/-- A file is refused or installs possible records only, exactly if the fields
that the loader takes over unchecked are in order in it. -/
theorem load_possible_iff (file : Bytes) (state : Impl Binary64) :
    ((state.load (some file)).1 = true → (state.load (some file)).2.Possible) ↔
      (Impl.decode file).all Persisted.uncheckedPossible = true := by
  rw [Impl.load_eq]
  rw [Option.bind_some]
  cases decoded : Impl.decode file with
  | none => simp
  | some persisted =>
      rw [Option.all_some, ← (checked_of_decode decoded).possible_iff state]
      exact ⟨fun installs => installs rfl, fun possible _ => possible⟩

/-- A domain whose offered rate is not a number, and no flow. -/
private def nanRate : Impl Binary64 :=
  { Impl.fresh with
    domains := .emplace .empty ⟨1⟩ { ref := ⟨⟨1⟩, ⟨1⟩⟩, offeredBps := ⟨0x7FF8000000000000⟩ } }

private def oneFlow (flow : Flow Binary64) : Impl Binary64 :=
  { Impl.fresh with flows := .emplace .empty ⟨1⟩ { flow with ref := ⟨⟨1⟩, ⟨1⟩⟩ } }

private def unknownModel : Impl Binary64 := oneFlow { fairness := { model := ⟨200⟩ } }

/-- Ten admitted bytes are completed, cancelled and failed. -/
private def settledThrice : Impl Binary64 :=
  oneFlow
    { submittedBytes := ⟨10⟩, admittedBytes := ⟨10⟩, completedBytes := ⟨10⟩,
      cancelledBytes := ⟨10⟩, failedBytes := ⟨10⟩ }

/-- The loader installs a rate that is not a number, a fairness model that is no
enumerator, and a flow that settles its ten admitted bytes three times. -/
theorem load_installs_impossible :
    ¬(∀ (file : Bytes) (state : Impl Binary64), (state.load (some file)).1 = true →
        ∀ id domain, (state.load (some file)).2.domains.find? id = some domain →
          ∀ rate ∈ domain.rates, Arithmetic.isFinite rate = true) ∧
      ¬(∀ (file : Bytes) (state : Impl Binary64), (state.load (some file)).1 = true →
        ∀ id flow, (state.load (some file)).2.flows.find? id = some flow →
          flow.fairness.model.valid = true) ∧
      ¬(∀ (file : Bytes) (state : Impl Binary64), (state.load (some file)).1 = true →
        ∀ id flow, (state.load (some file)).2.flows.find? id = some flow →
          flow.settledWithin) := by
  refine ⟨fun always => ?_, fun always => ?_, fun always => ?_⟩
  · have read := load_of_decode
      (decode_saveBytes (show nanRate.Loadable by decide +kernel)) Impl.fresh
    have finite := always (saveBytes nanRate) Impl.fresh (by rw [read])
    rw [read] at finite
    have rates := finite ⟨1⟩ _ (Option.some_get (by decide +kernel)).symm
    exact absurd (rates ⟨0x7FF8000000000000⟩ (by decide +kernel)) (by decide +kernel)
  · have read := load_of_decode
      (decode_saveBytes (show unknownModel.Loadable by decide +kernel)) Impl.fresh
    have valid := always (saveBytes unknownModel) Impl.fresh (by rw [read])
    rw [read] at valid
    exact absurd (valid ⟨1⟩ _ (Option.some_get (by decide +kernel)).symm) (by decide +kernel)
  · have read := load_of_decode
      (decode_saveBytes (show settledThrice.Loadable by decide +kernel)) Impl.fresh
    have settled := always (saveBytes settledThrice) Impl.fresh (by rw [read])
    rw [read] at settled
    exact absurd (settled ⟨1⟩ _ (Option.some_get (by decide +kernel)).symm) (by decide +kernel)

end CongestionFabric
