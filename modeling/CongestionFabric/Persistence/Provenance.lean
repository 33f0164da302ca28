import CongestionFabric.Engine.Query
import CongestionFabric.Persistence.Recovery

/-!
Contract: what an assessment labelled MEASURED rests on.

Owns the provenance with which the two rates of a domain were last published, read
from the history of a run, the fact that the domain carries it through publications,
fences and files, and the exact condition on the states of a run under which a
MEASURED label always means two measured rates.

Does not own: the other labels.
-/

namespace CongestionFabric

open Foundation

/-! ## The two rates -/

/-- The rates that the classification uses. -/
inductive UsedRate where
  | offered
  | serviced

section Engine

variable {R : Type} [Arithmetic R]

namespace UsedRate

/-- The kind of measurement that publishes the rate. -/
def kind : UsedRate → MeasurementKind
  | offered => .offeredBytesPerSec
  | serviced => .completedBytesPerSec

/-- The provenance that the domain keeps for the rate. -/
def provenance (domain : CongestionDomain R) : UsedRate → Enum8 MeasurementProvenance
  | offered => domain.offeredProvenance
  | serviced => domain.servicedProvenance

/-- The rate was published by this boot of the worker. -/
def ownedBy (worker : WorkerId) (boot : WorkerBootId) (domain : CongestionDomain R) :
    UsedRate → Bool
  | offered => domain.ownsOffered worker boot
  | serviced => domain.ownsServiced worker boot

end UsedRate

/-- The provenance that a call gives the rate of a domain: that of an accepted
publication, and UNKNOWN where the rate is new or loses its publisher. -/
def Op.marks (limits : EngineLimits) (rate : UsedRate) (id : CongestionDomainId) (state : Impl R) :
    Op R → Option (Enum8 MeasurementProvenance)
  | .publishMeasurement target measurement owner ownerBoot =>
      if target = id && state.publishable measurement owner ownerBoot &&
          measurement.kind = (rate.kind : Enum8 _) then
        some measurement.provenance
      else none
  | .fenceWorker worker deadBoot =>
      if (fenceBoot state.workerBoot worker deadBoot).isSome &&
          (state.domains.find? id).any (fun domain => rate.ownedBy worker deadBoot domain) then
        some MeasurementProvenance.unknown
      else none
  | .createDomain _ capacity =>
      if state.creatable limits capacity && !state.domains.contains id &&
          id = ⟨state.nextDomain⟩ then
        some MeasurementProvenance.unknown
      else none
  | _ => none

variable {limits : EngineLimits} {now : UInt64} {op : Op R} {state : Impl R}
  {id : CongestionDomainId} {domain : CongestionDomain R}

private theorem record_provenance (measurement : Measurement R) (owner : WorkerId)
    (ownerBoot : WorkerBootId) (rate : UsedRate) :
    rate.provenance (domain.record measurement owner ownerBoot) =
      if measurement.kind = (rate.kind : Enum8 _) then measurement.provenance
      else rate.provenance domain := by
  unfold CongestionDomain.record
  rw [domain.clearRevalidation_eq]
  dsimp only
  cases rate with
  | offered =>
      unfold UsedRate.kind UsedRate.provenance
      by_cases here : measurement.kind = (MeasurementKind.offeredBytesPerSec : Enum8 _)
      · rw [if_pos here, if_pos here]
      · rw [if_neg here, if_neg here]
        split_ifs <;> rfl
  | serviced =>
      unfold UsedRate.kind UsedRate.provenance
      by_cases here : measurement.kind = (MeasurementKind.completedBytesPerSec : Enum8 _)
      · rw [if_pos here, here, if_neg (by decide), if_neg (by decide), if_pos rfl]
      · rw [if_neg here]
        split_ifs <;> rfl

private theorem dropEvidence_provenance (worker : WorkerId) (deadBoot : WorkerBootId)
    (invalidated : Bool) (rate : UsedRate) :
    rate.provenance (domain.dropEvidence worker deadBoot invalidated).2 =
      if rate.ownedBy worker deadBoot domain then (MeasurementProvenance.unknown : Enum8 _)
      else rate.provenance domain := by
  obtain ⟨_, -, dropped⟩ := domain.dropEvidence_eq worker deadBoot invalidated
  rw [dropped]
  cases rate <;> rfl

private theorem requireRevalidation_provenance (domain : CongestionDomain R) (rate : UsedRate) :
    rate.provenance domain.requireRevalidation = rate.provenance domain := by
  obtain ⟨_, _, required⟩ := domain.requireRevalidation_eq
  rw [required]
  cases rate <;> rfl

/-- What an operation leaves of the provenance of a rate: its mark, or what there was. -/
private theorem domainAfter_provenance (stored : state.domains.find? id = some domain)
    (invalidated : Bool) (rate : UsedRate) :
    rate.provenance (domainAfter limits now op state invalidated id domain) =
      (op.marks limits rate id state).getD (rate.provenance domain) := by
  cases op with
  | fenceWorker worker deadBoot =>
      simp only [domainAfter, Op.marks, stored, Option.any_some]
      by_cases fenced : (fenceBoot state.workerBoot worker deadBoot).isSome = true
      · rw [if_pos fenced, fenced, Bool.true_and, dropEvidence_provenance]
        split <;> rfl
      · rw [if_neg fenced, Bool.eq_false_iff.mpr fenced]
        rfl
  | publishMeasurement target measurement owner ownerBoot =>
      simp only [domainAfter, Op.marks]
      by_cases here : id = target
      · subst here
        cases allowed : state.publishable measurement owner ownerBoot with
        | false => simp
        | true =>
            simp only [decide_true, Bool.and_self, if_true, Bool.true_and, decide_eq_true_eq]
            rw [record_provenance]
            split <;> rfl
      · have elsewhere : target ≠ id := fun same => here same.symm
        simp [here, elsewhere]
  | createDomain kind capacity =>
      have present : state.domains.contains id = true := by
        simp [UnorderedMap.contains, stored]
      simp only [domainAfter, Op.marks, present, Bool.not_true, Bool.and_false, Bool.false_and]
      rfl
  | admitFlow ref =>
      simp only [domainAfter]
      split
      · cases rate <;> rfl
      · rfl
  | startFlow ref boot =>
      simp only [domainAfter]
      split
      · rw [domain.clearRevalidation_eq]
        cases rate <;> rfl
      · rfl
  | recomputeDomain target =>
      simp only [domainAfter]
      split
      · obtain ⟨_, _, _, written⟩ := state.recomputed_eq limits now domain
        rw [written]
        cases rate <;> rfl
      · rfl
  | applyLocalShaping target action =>
      simp only [domainAfter]
      split
      · cases rate <;> rfl
      · rfl
  | recoverDynamicEvidence => exact requireRevalidation_provenance domain rate
  | _ => rfl

/-! ## Labels -/

/-- Nothing is offered, serviced, queued or in flight: the assessment is IDLE. -/
def Impl.withoutTraffic (state : Impl R) (domain : CongestionDomain R) : Bool :=
  let aggregate := aggregateDomain domain state.flows
  decide (domain.offeredBps ≤ 0.0 ∧ domain.servicedBps ≤ 0.0 ∧ aggregate.queuedOps = 0 ∧
    aggregate.inFlightOps = 0)

/-- The rate is MEASURED. -/
def UsedRate.measured (rate : UsedRate) (domain : CongestionDomain R) : Bool :=
  rate.provenance domain = (MeasurementProvenance.measured : Enum8 _)

/-- An assessable domain has one rate MEASURED and the other not; without traffic only
the serviced one counts as the first. -/
def Impl.mixes (state : Impl R) (domain : CongestionDomain R) : Bool :=
  domain.assessable &&
    if UsedRate.serviced.measured domain then !UsedRate.offered.measured domain
    else UsedRate.offered.measured domain && !state.withoutTraffic domain

private theorem unknown_ne_measured :
    (MeasurementProvenance.unknown : Enum8 MeasurementProvenance) ≠
      MeasurementProvenance.measured := by
  decide

/-- Exactly the domains that mix are labelled MEASURED without two measured rates. -/
private theorem mixes_iff (state : Impl R) (domain : CongestionDomain R) :
    state.mixes domain = false ↔
      ((state.assess domain).provenance = (MeasurementProvenance.measured : Enum8 _) →
        UsedRate.offered.measured domain = true ∧ UsedRate.serviced.measured domain = true) := by
  unfold Impl.mixes CongestionDomain.assessable CongestionDomain.bounded Impl.assess classify
  cases domain.state.awaitsRevalidation with
  | true => exact ⟨fun _ labelled => absurd labelled unknown_ne_measured, fun _ => rfl⟩
  | false =>
      cases domain.capacity.effective with
      | none => exact ⟨fun _ labelled => absurd labelled unknown_ne_measured, fun _ => rfl⟩
      | some eff =>
          simp only [Bool.not_false, Option.isSome_some, Bool.and_self, Bool.true_and,
            Bool.false_eq_true, if_false]
          unfold Impl.withoutTraffic assessedProvenance UsedRate.measured UsedRate.provenance
          by_cases idle : domain.offeredBps ≤ 0.0 ∧ domain.servicedBps ≤ 0.0 ∧
              (aggregateDomain domain state.flows).queuedOps = 0 ∧
              (aggregateDomain domain state.flows).inFlightOps = 0
          · rw [if_pos idle]
            simp only [idle, and_self]
            by_cases serviced : domain.servicedProvenance =
                (MeasurementProvenance.measured : Enum8 _)
            · simp [serviced]
            · simp [serviced]
          · rw [if_neg idle]
            simp only [idle]
            by_cases serviced : domain.servicedProvenance =
                (MeasurementProvenance.measured : Enum8 _)
            · simp [serviced]
            · by_cases offered : domain.offeredProvenance =
                  (MeasurementProvenance.measured : Enum8 _)
              · simp [serviced, offered]
              · by_cases silent : domain.servicedProvenance =
                    (MeasurementProvenance.unknown : Enum8 _)
                · simp [silent, offered]
                · simp [silent, serviced, offered]

/-- `assess_congestion` or `snapshot` labels the domain MEASURED. -/
def Impl.ReportsMeasured (state : Impl R) (id : CongestionDomainId) : Prop :=
  (state.assessCongestion id).provenance = (MeasurementProvenance.measured : Enum8 _) ∨
    (state.snapshot id).provenance = (MeasurementProvenance.measured : Enum8 _)

private theorem reportsMeasured_iff (state : Impl R) (id : CongestionDomainId) :
    state.ReportsMeasured id ↔ ∃ domain, state.domains.find? id = some domain ∧
      (state.assess domain).provenance = (MeasurementProvenance.measured : Enum8 _) := by
  unfold Impl.ReportsMeasured Impl.assessCongestion Impl.snapshot
  cases state.domains.find? id with
  | none => simpa using unknown_ne_measured
  | some domain => simp

end Engine

/-! ## Runs -/

/-- The provenance that an event gives the rate of a domain; an accepted file brings
the one that it was saved with. -/
def Event.marks (limits : EngineLimits) (rate : UsedRate) (id : CongestionDomainId)
    (state : Impl Binary64) : Event → Option (Enum8 MeasurementProvenance)
  | .engine (.call _ op) => op.marks limits rate id state
  | .engine .rehash => none
  | .load file =>
      (file.bind Impl.decode).bind fun persisted =>
        (persisted.domains.find? id).map fun domain => rate.provenance domain

/-- The rate of the domain was last published, or restored, as MEASURED. -/
def lastMeasured (limits : EngineLimits) (rate : UsedRate) (id : CongestionDomainId)
    (history : List (Impl Binary64 × Event)) : Prop :=
  lastAct (fun state event => event.marks limits rate id state) history =
    some (MeasurementProvenance.measured : Enum8 _)

/-- The domains carry the provenance with which their rates were last published. -/
def Carried (limits : EngineLimits) (history : List (Impl Binary64 × Event))
    (state : Impl Binary64) : Prop :=
  ∀ rate id domain, state.domains.find? id = some domain →
    lastAct (fun state event => Event.marks limits rate id state event) history =
      some (rate.provenance domain)

variable {limits : EngineLimits} {history : List (Impl Binary64 × Event)}
  {state next : Impl Binary64} {event : Event}

private theorem carried_step (carried : Carried limits history state)
    (taken : FileStep limits state event next) :
    Carried limits (history ++ [(state, event)]) next := by
  intro rate id after stored
  rw [lastAct_snoc]
  cases taken with
  | load file =>
      rw [Impl.load_eq] at stored
      cases decoded : file.bind Impl.decode with
      | none =>
          rw [decoded] at stored
          rw [carried rate id after stored]
          simp [Event.marks, decoded]
      | some persisted =>
          rw [decoded] at stored
          obtain ⟨domain, found, rfl⟩ := Impl.committed_domain_iff.mp stored
          simp [Event.marks, decoded, found, requireRevalidation_provenance]
  | engine step =>
      cases step with
      | rehash same =>
          rw [← same.domains.find?_eq] at stored
          rw [carried rate id after stored]
          rfl
      | call now op =>
          rcases exec_domain_origin stored with ⟨domain, invalidated, found, -, rfl⟩ |
            ⟨kind, capacity, rfl, allowed, absent, here, rfl⟩
          · rw [carried rate id domain found, domainAfter_provenance found]
            simp only [Event.marks]
            cases op.marks limits rate id state <;> rfl
          · have missing := UnorderedMap.contains_eq_false.mpr absent
            simp only [Event.marks, Op.marks, allowed, missing, ← here, Bool.not_false,
              Bool.and_self, decide_true, if_true, Option.some_or]
            cases rate <;> rfl

/-- Each state of a run has the provenance of its last publications. -/
private theorem carried_throughout {final : Impl Binary64}
    (run : Run (FileStep limits) Impl.fresh history final) :
    Throughout history final (Carried limits) := by
  apply run.throughout_invariant
  · intro rate id domain stored
    exact absurd stored (by simp [Impl.fresh])
  · exact fun carried taken => carried_step carried taken

private theorem lastMeasured_iff {rate : UsedRate} {id : CongestionDomainId}
    {domain : CongestionDomain Binary64} (carried : Carried limits history state)
    (stored : state.domains.find? id = some domain) :
    lastMeasured limits rate id history ↔ rate.measured domain = true := by
  unfold lastMeasured UsedRate.measured
  rw [carried rate id domain stored, Option.some.injEq, decide_eq_true_eq]

/-- A MEASURED label always means that both rates were last published as MEASURED, if
and only if no domain of any state of the run mixes. -/
theorem measured_throughout_iff {final : Impl Binary64}
    (run : Run (FileStep limits) Impl.fresh history final) :
    Throughout history final (fun _ state => ∀ id domain,
        state.domains.find? id = some domain → state.mixes domain = false) ↔
      Throughout history final fun before state => ∀ id, state.ReportsMeasured id →
        lastMeasured limits .offered id before ∧ lastMeasured limits .serviced id before := by
  refine (carried_throughout run).congr fun before state carried => forall_congr' fun id => ?_
  rw [reportsMeasured_iff]
  constructor
  · rintro pure ⟨domain, stored, labelled⟩
    rw [lastMeasured_iff carried stored, lastMeasured_iff carried stored]
    exact (mixes_iff state domain).mp (pure domain stored) labelled
  · intro honest domain stored
    refine (mixes_iff state domain).mpr fun labelled => ?_
    have both := honest ⟨domain, stored, labelled⟩
    rw [lastMeasured_iff carried stored, lastMeasured_iff carried stored] at both
    exact both

/-- A publication of a rate for the first domain, by no worker. -/
private def publishes (rate : UsedRate) (value : Binary64) (provenance : MeasurementProvenance) :
    Op Binary64 :=
  .publishMeasurement ⟨1⟩ { kind := rate.kind, value := value, provenance := provenance } {} {}

/-- An idle offered rate, then a measured serviced rate and an offered rate of the given
provenance. -/
private def publishesBoth (provenance : MeasurementProvenance) : List Event :=
  [.createDomain DomainKind.nicTx (.ofTheoretical 100.0), publishes .offered 0.0 .measured,
    publishes .serviced 50.0 .measured, publishes .offered 90.0 provenance].map
      fun op => .engine (.call 1 op)

private def publishedBoth (provenance : MeasurementProvenance) : Impl Binary64 :=
  follow (fun state event => event.next {} state) (publishesBoth provenance) Impl.fresh

private theorem run_publishedBoth (provenance : MeasurementProvenance) :
    Run (FileStep {}) Impl.fresh ([] ++ followed (fun state event => event.next {} state)
      (publishesBoth provenance) Impl.fresh) (publishedBoth provenance) :=
  run_follow (fileStep_next {}) (publishesBoth provenance) Run.nil

/-- Both rates are measured, and so is the assessment. -/
theorem publishedBoth_measured :
    (publishedBoth .measured).ReportsMeasured ⟨1⟩ ∧ ∀ id,
      (publishedBoth .measured).ReportsMeasured id →
        lastMeasured {} .offered id (followed (fun state event => event.next {} state)
            (publishesBoth .measured) Impl.fresh) ∧
          lastMeasured {} .serviced id (followed (fun state event => event.next {} state)
            (publishesBoth .measured) Impl.fresh) :=
  ⟨Or.inl (by decide +kernel), ((measured_throughout_iff (run_publishedBoth .measured)).mp
    (by decide +kernel)).2⟩

/-- A synthetic offered rate is assessed as MEASURED. -/
theorem publishedBoth_synthetic_measured :
    ¬∀ (limits : EngineLimits) (history : List (Impl Binary64 × Event)) (final : Impl Binary64),
      Run (FileStep limits) Impl.fresh history final → ∀ id, final.ReportsMeasured id →
        lastMeasured limits .offered id history ∧ lastMeasured limits .serviced id history := by
  intro always
  have offered := (always {} _ _ (run_publishedBoth .synthetic) ⟨1⟩
    (Or.inl (by decide +kernel))).1
  revert offered
  unfold lastMeasured
  decide +kernel

end CongestionFabric
