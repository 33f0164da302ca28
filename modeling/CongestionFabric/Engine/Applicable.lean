import CongestionFabric.Engine.Advice
import CongestionFabric.Engine.Bottleneck
import CongestionFabric.Engine.DomainEffect
import CongestionFabric.Engine.Severity

/-!
Contract: whether `apply_local_shaping` takes what `eval_backpressure` returns, with
rates read as exact numbers.

Owns the applicability of the generated action with the bounds of the token bucket
it installs, the exact condition on a domain and its flows, the fact that the rates
of every reachable domain are numbers, and the result along whole runs.

Does not own: the codec. Files hold binary64 words, so a load is taken here as the
installation of any state whose rates are numbers.
-/

namespace CongestionFabric

open Foundation

/-! ## One domain -/

/-- Rate and burst are between zero and a bound. -/
structure TokenBucket.Within (bucket : TokenBucket Exact) (bound : Exact) : Prop where
  rateNonneg : 0.0 ≤ bucket.rate
  rateBounded : bucket.rate ≤ bound
  burstNonneg : 0.0 ≤ bucket.capacity
  burstBounded : bucket.capacity ≤ bound

/-- `apply_local_shaping` accepts the action that `eval_backpressure` returns for the
domain, and the bucket of a restrictive one is within the effective capacity, or the
service rate where no capacity is known. -/
structure Impl.Applicable (text : Exact → Bytes) (state : Impl Exact) (id : CongestionDomainId)
    (domain : CongestionDomain Exact) : Prop where
  valid : (state.evalBackpressure text id).valid = true
  applied : (state.applyLocalShaping id (state.evalBackpressure text id)).1 = true
  bounded : intentIsRestrictive (state.evalBackpressure text id).intent = true →
    ∃ shaped, (state.applyLocalShaping id
        (state.evalBackpressure text id)).2.domains.find? id = some shaped ∧
      shaped.shaping.Within (domain.capacity.effective.getD domain.servicedBps)

/-- A throughput target that passes the check of an action. -/
def Flow.targetSound (flow : Flow Exact) : Bool :=
  Arithmetic.isFinite flow.throughputTargetBps && decide (flow.throughputTargetBps ≥ 0.0)

/-- If the domain warrants an action, the target of its largest flow in flight is
sound, and its capacity is known or its service rate not negative. -/
def Impl.actsSoundly (state : Impl Exact) (domain : CongestionDomain Exact) : Bool :=
  !domain.warrantsAction ||
    ((mostInFlight (liveFlows domain state.flows)).all Flow.targetSound &&
      (domain.capacity.effective.isSome || decide (domain.servicedBps ≥ 0.0)))

section Domain

variable {state : Impl Exact} {id : CongestionDomainId} {domain : CongestionDomain Exact}
  {text : Exact → Bytes}

private theorem rates_eq (finite : domain.ratesFinite = true) :
    ∃ offered serviced : ℚ, domain.offeredBps = .number offered ∧
      domain.servicedBps = .number serviced := by
  obtain ⟨offeredFinite, servicedFinite⟩ := Bool.and_eq_true_iff.mp finite
  obtain ⟨offered, offeredEq⟩ := Exact.isFinite_iff.mp offeredFinite
  obtain ⟨serviced, servicedEq⟩ := Exact.isFinite_iff.mp servicedFinite
  exact ⟨offered, serviced, offeredEq, servicedEq⟩

/-- The action of a domain that warrants one is valid exactly if the target of the
dominant flow is sound. -/
private theorem valid_iff (stored : state.domains.find? id = some domain)
    (finite : domain.ratesFinite = true) (warranted : domain.warrantsAction = true) :
    (state.evalBackpressure text id).valid = true ↔
      (mostInFlight (liveFlows domain state.flows)).all Flow.targetSound = true := by
  obtain ⟨intent, benefit, cost, time, window⟩ :=
    Impl.evalBackpressure_of_warranted text stored warranted
  obtain ⟨offered, serviced, offeredEq, servicedEq⟩ := rates_eq finite
  have known : Enum8.valid (domain.state.intent : Enum8 ActionIntent) = true := by
    cases domain.state <;> decide
  have gains : (0 : ℚ) ≤ max 0 (offered - serviced) := le_max_left _ _
  have fixed : Arithmetic.isFinite (1.0 : Exact) = true ∧ (1.0 : Exact) ≥ 0.0 ∧
      Arithmetic.isFinite (1000.0 : Exact) = true ∧ (1000.0 : Exact) ≥ 0.0 := by
    decide +kernel
  have nothing : (0.0 : Exact) ≥ 0.0 := by decide +kernel
  unfold BackpressureAction.valid
  rw [intent, benefit, cost, time, window, known, offeredEq, servicedEq, Exact.number_sub]
  simp only [Exact.zero_eq, Exact.stdMax_number, Exact.isFinite_number, ge_iff_le, Exact.number_le,
    gains, decide_true, Bool.and_true, Bool.true_and] at fixed nothing ⊢
  simp only [fixed, decide_true, Bool.and_true]
  cases mostInFlight (liveFlows domain state.flows) with
  | none => simp
  | some flow => simp [Flow.targetSound]

/-- The bucket that the domain allows is within its capacity exactly if that is
known, or the service rate that stands for it is not negative. -/
private theorem within_iff (finite : domain.ratesFinite = true) :
    (TokenBucket.full domain.allowedBps domain.allowedBps).Within
        (domain.capacity.effective.getD domain.servicedBps) ↔
      (domain.capacity.effective.isSome || decide (domain.servicedBps ≥ 0.0)) = true := by
  obtain ⟨offered, serviced, offeredEq, servicedEq⟩ := rates_eq finite
  have shaped : ∀ {bound : ℚ},
      domain.capacity.effective.getD domain.servicedBps = .number bound →
      ((TokenBucket.full domain.allowedBps domain.allowedBps).Within (.number bound) ↔
        0 ≤ bound) := by
    intro bound same
    have allowed : domain.allowedBps =
        .number (max 0 (bound - max 0 (offered - serviced))) := by
      unfold CongestionDomain.allowedBps
      rw [same, offeredEq, servicedEq]
      simp only [Exact.zero_eq, Exact.number_sub, Exact.stdMax_number]
    have deficit : (0 : ℚ) ≤ max 0 (offered - serviced) := le_max_left _ _
    rw [allowed]
    constructor
    · intro within
      have rate := within.rateBounded
      rw [TokenBucket.full, Exact.number_le] at rate
      exact (le_max_left _ _).trans rate
    · intro nonnegative
      have lower : (0.0 : Exact) ≤ .number (max 0 (bound - max 0 (offered - serviced))) := by
        rw [Exact.zero_eq, Exact.number_le]
        exact le_max_left _ _
      have upper : Exact.number (max 0 (bound - max 0 (offered - serviced))) ≤ .number bound := by
        rw [Exact.number_le]
        exact max_le nonnegative (by linarith)
      exact ⟨lower, upper, lower, upper⟩
  cases known : domain.capacity.effective with
  | none =>
      rw [known, Option.getD_none] at shaped
      rw [Option.getD_none, servicedEq, shaped servicedEq]
      simp
  | some eff =>
      obtain ⟨capacity, rfl, nonnegative⟩ := CapacityProfile.effective_number known
      rw [known, Option.getD_some] at shaped
      rw [Option.getD_some, shaped rfl]
      simpa using nonnegative

/-- The generated action is applicable if and only if the domain, where it warrants
one, acts soundly. -/
theorem applicable_iff (stored : state.domains.find? id = some domain)
    (finite : domain.ratesFinite = true) :
    state.Applicable text id domain ↔ state.actsSoundly domain = true := by
  unfold Impl.actsSoundly
  cases warranted : domain.warrantsAction with
  | false =>
      refine iff_of_true ?_ rfl
      have idle := Impl.evalBackpressure_of_calm text stored warranted
      have valid : (state.evalBackpressure text id).valid = true := by
        rw [idle]
        decide +kernel
      have harmless : intentIsRestrictive (state.evalBackpressure text id).intent = false := by
        rw [idle]
        decide
      refine ⟨valid, ?_, fun restrictive => absurd (harmless.symm.trans restrictive) (by simp)⟩
      rcases Impl.applyLocalShaping_cases stored with
        ⟨invalid, -⟩ | ⟨-, -, same⟩ | ⟨-, restrictive, -⟩
      · exact absurd (invalid.symm.trans valid) (by simp)
      · rw [same]
      · exact absurd (harmless.symm.trans restrictive) (by simp)
  | true =>
      rw [Bool.not_true, Bool.false_or, Bool.and_eq_true,
        ← valid_iff stored finite warranted, ← within_iff finite]
      have restrictive : intentIsRestrictive (state.evalBackpressure text id).intent = true := by
        rw [(Impl.evalBackpressure_of_warranted text stored warranted).1]
        exact domain.state.intentIsRestrictive_intent
      rcases Impl.applyLocalShaping_cases stored with
        ⟨invalid, -⟩ | ⟨-, harmless, -⟩ | ⟨valid, -, applied, shaped⟩
      · refine iff_of_false (fun applicable => ?_) fun both => ?_
        · exact absurd (invalid.symm.trans applicable.valid) (by simp)
        · exact absurd (invalid.symm.trans both.1) (by simp)
      · exact absurd (harmless.symm.trans restrictive) (by simp)
      · constructor
        · intro applicable
          obtain ⟨found, here, within⟩ := applicable.bounded restrictive
          obtain rfl := Option.some.inj (shaped.symm.trans here)
          exact ⟨valid, within⟩
        · rintro ⟨_, within⟩
          exact ⟨valid, applied, fun _ => ⟨_, shaped, within⟩⟩

end Domain

/-! ## Rates of reachable domains -/

/-- The rates of all domains are numbers. -/
def Impl.RatesFinite {R : Type} [Arithmetic R] (state : Impl R) : Prop :=
  ∀ id domain, state.domains.find? id = some domain → domain.ratesFinite = true

section Rates

variable {limits : EngineLimits} {now : UInt64} {op : Op Exact} {state next : Impl Exact}

private theorem record_ratesFinite {domain : CongestionDomain Exact}
    (finite : domain.ratesFinite = true) {measurement : Measurement Exact}
    (valid : measurement.valid = true) (owner : WorkerId) (ownerBoot : WorkerBootId) :
    (domain.record measurement owner ownerBoot).ratesFinite = true := by
  have value : Arithmetic.isFinite measurement.value = true := by
    unfold Measurement.valid at valid
    simp only [Bool.and_eq_true] at valid
    exact valid.1.1
  obtain ⟨offered, serviced⟩ := Bool.and_eq_true_iff.mp finite
  unfold CongestionDomain.record CongestionDomain.ratesFinite
  rw [domain.clearRevalidation_eq]
  dsimp only
  split_ifs <;> simp [offered, serviced, value]

private theorem domainAfter_ratesFinite {domain : CongestionDomain Exact}
    (finite : domain.ratesFinite = true) (invalidated : Bool) (id : CongestionDomainId) :
    (domainAfter limits now op state invalidated id domain).ratesFinite = true := by
  apply domainAfter_elim (motive := fun after => after.ratesFinite = true)
  case same => exact finite
  case fenceWorker =>
    intro worker deadBoot _ _
    obtain ⟨offered, serviced⟩ := Bool.and_eq_true_iff.mp finite
    obtain ⟨_, -, dropped⟩ := domain.dropEvidence_eq worker deadBoot invalidated
    rw [dropped]
    unfold CongestionDomain.ratesFinite
    dsimp only
    split_ifs <;> simp [offered, serviced]
  case admission => exact fun _ _ _ => finite
  case start =>
    intro ref boot _ _
    rw [domain.clearRevalidation_eq]
    exact finite
  case publish =>
    intro measurement owner ownerBoot _ allowed
    exact record_ratesFinite finite (Bool.and_eq_true_iff.mp allowed).1 owner ownerBoot
  case recompute =>
    intro _
    obtain ⟨_, _, _, written⟩ := state.recomputed_eq limits now domain
    rw [written]
    exact finite
  case shape => exact fun _ _ _ => finite
  case recover =>
    intro _
    obtain ⟨_, _, required⟩ := domain.requireRevalidation_eq
    rw [required]
    exact finite

/-- A step of the engine, or a load of some state whose rates are numbers. -/
inductive RestoringStep (limits : EngineLimits) :
    Impl Exact → Option (Label Exact) → Impl Exact → Prop
  | engine {state next : Impl Exact} {label : Label Exact} (step : Step limits state label next) :
      RestoringStep limits state (some label) next
  | restored (state : Impl Exact) {next : Impl Exact} (finite : next.RatesFinite) :
      RestoringStep limits state none next

theorem Impl.ratesFinite_fresh : (Impl.fresh : Impl Exact).RatesFinite := by
  intro id domain stored
  exact absurd stored (by simp [Impl.fresh, UnorderedMap.empty, UnorderedMap.find?])

/-- Publication checks a value before it becomes a rate. -/
theorem Impl.RatesFinite.step {label : Option (Label Exact)} (finite : state.RatesFinite)
    (step : RestoringStep limits state label next) : next.RatesFinite := by
  cases step with
  | restored finite => exact finite
  | engine step =>
      cases step with
      | rehash same =>
          intro id domain stored
          rw [← same.domains.find?_eq] at stored
          exact finite id domain stored
      | call now op =>
          intro id after stored
          rcases exec_domain_origin stored with
            ⟨domain, invalidated, before, -, rfl⟩ | ⟨kind, capacity, -, -, -, -, rfl⟩
          · exact domainAfter_ratesFinite (finite id domain before) invalidated id
          · rfl

end Rates

/-! ## Runs -/

/-- In every run the action generated for any domain is applicable in every state if
and only if in every state each domain that warrants an action acts soundly. -/
theorem applicable_throughout_iff (text : Exact → Bytes) {limits : EngineLimits}
    {history : List (Impl Exact × Option (Label Exact))} {final : Impl Exact}
    (run : Run (RestoringStep limits) Impl.fresh history final) :
    Throughout history final (fun _ state => ∀ id domain,
        state.domains.find? id = some domain → state.actsSoundly domain = true) ↔
      Throughout history final fun _ state => ∀ id domain,
        state.domains.find? id = some domain → state.Applicable text id domain := by
  have finite := run.throughout_invariant (fun _ => Impl.RatesFinite) Impl.ratesFinite_fresh
    fun kept step => kept.step step
  refine finite.congr fun before state rates => ?_
  refine forall_congr' fun id => forall_congr' fun domain => forall_congr' fun stored => ?_
  exact (applicable_iff stored (rates id domain stored)).symm

/-- A flow of 1000 bytes in flight, with a throughput target, in a domain that is
offered four times what it services. -/
private def saturates (target : Exact) : List (Option (Label Exact)) :=
  [.registerWorker ⟨1⟩ ⟨1⟩, .registerSource ⟨1⟩ ⟨1⟩,
    .createDomain DomainKind.nicTx (.ofTheoretical 100.0),
    .declareFlow { FlowOptions.ofFirst 1000 with throughputTargetBps := target },
    .admitFlow ⟨⟨1⟩, ⟨1⟩⟩, .startFlow ⟨⟨1⟩, ⟨1⟩⟩ ⟨1⟩,
    .publishMeasurement ⟨1⟩ { kind := MeasurementKind.offeredBytesPerSec, value := 200.0 } {} {},
    .publishMeasurement ⟨1⟩ { kind := MeasurementKind.completedBytesPerSec, value := 50.0 } {} {},
    .recomputeDomain ⟨1⟩].map fun op => some (.call 1 op)

/-- The successor in which nothing is reordered, and a load installs a fresh engine. -/
private def restoringNext (state : Impl Exact) : Option (Label Exact) → Impl Exact
  | some (.call now op) => (exec {} now op state).2
  | some .rehash => state
  | none => Impl.fresh

private theorem restoringStep_next (state : Impl Exact) (label : Option (Label Exact)) :
    RestoringStep {} state label (restoringNext state label) := by
  match label with
  | some (.call now op) => exact .engine (.call state now op)
  | some .rehash => exact .engine (.rehash (.refl state))
  | none => exact .restored state Impl.ratesFinite_fresh

private theorem run_saturates (target : Exact) : Run (RestoringStep {}) Impl.fresh
    ([] ++ followed restoringNext (saturates target) Impl.fresh)
    (follow restoringNext (saturates target) Impl.fresh) :=
  run_follow restoringStep_next (saturates target) Run.nil

/-- A target of 10 bytes per second: the domain is told to admit less. -/
theorem saturates_applicable :
    (((follow restoringNext (saturates 10.0) Impl.fresh).evalBackpressure (fun _ => [])
        ⟨1⟩).intent = (ActionIntent.admitLimited : Enum8 _)) ∧
      ∀ id domain,
        (follow restoringNext (saturates 10.0) Impl.fresh).domains.find? id = some domain →
        (follow restoringNext (saturates 10.0) Impl.fresh).Applicable (fun _ => []) id domain :=
  ⟨by decide +kernel, ((applicable_throughout_iff (fun _ => []) (run_saturates 10.0)).mp
    (by decide +kernel)).2⟩

private theorem saturates_stored :
    ((follow restoringNext (saturates (-1.0)) Impl.fresh).domains.find? ⟨1⟩).isSome = true := by
  decide +kernel

/-- A flow is declared with a negative target: the action is not valid. -/
theorem saturates_negative_refused :
    ¬∀ (text : Exact → Bytes) (limits : EngineLimits)
      (history : List (Impl Exact × Option (Label Exact))) (final : Impl Exact),
      Run (RestoringStep limits) Impl.fresh history final → ∀ id domain,
        final.domains.find? id = some domain → final.Applicable text id domain := by
  intro always
  have applicable := always (fun _ => []) {} _ _ (run_saturates (-1.0)) ⟨1⟩ _
    (Option.some_get saturates_stored).symm
  exact absurd applicable.valid (by decide +kernel)

end CongestionFabric
