import CongestionFabric.Engine.DomainEffect
import CongestionFabric.Persistence.Loaded

/-!
Contract: when an assessment may be authoritative after a restart.

Owns the events that republish a rate of a domain, the events that lift the
protection recovery put on a domain, and the theorem that identifies the runs in
which no rate from before a recovery is asserted as current.

Does not own: which state an authoritative assessment reports.
-/

namespace CongestionFabric

open Foundation

/-! ## Authoritative assessments -/

section Assessable

variable {R : Type} [Arithmetic R] {domain : CongestionDomain R}

/-- The domain has a capacity to be assessed against. -/
def CongestionDomain.bounded (domain : CongestionDomain R) : Bool :=
  domain.capacity.effective.isSome

/-- An assessment of the domain is authoritative. -/
def CongestionDomain.assessable (domain : CongestionDomain R) : Bool :=
  !domain.state.awaitsRevalidation && domain.bounded

theorem assess_authoritative (state : Impl R) (domain : CongestionDomain R) :
    (state.assess domain).authoritative = domain.assessable := by
  rw [Bool.eq_iff_iff, Impl.assess, classify_authoritative]
  simp [CongestionDomain.assessable, CongestionDomain.bounded]

/-- Both functions that assess a domain are authoritative on the same ones. -/
theorem authoritative_iff (limits : EngineLimits) (state : Impl R) (id : CongestionDomainId) :
    ((state.assessCongestion id).authoritative = true ∨
        ∃ now, (state.recomputeDomain limits now id).1.authoritative = true) ↔
      ∃ domain, state.domains.find? id = some domain ∧ domain.assessable = true := by
  unfold Impl.assessCongestion Impl.recomputeDomain
  cases state.domains.find? id with
  | none => simp
  | some domain => simp [assess_authoritative]

private theorem clearRevalidation_assessable :
    domain.clearRevalidation.assessable = domain.bounded := by
  unfold CongestionDomain.clearRevalidation
  cases awaits : domain.state.awaitsRevalidation with
  | true => simp [CongestionDomain.assessable, CongestionDomain.bounded,
      CongestionState.awaitsRevalidation]
  | false => simp [CongestionDomain.assessable, awaits]

private theorem record_assessable (measurement : Measurement R) (owner : WorkerId)
    (ownerBoot : WorkerBootId) :
    (domain.record measurement owner ownerBoot).assessable = domain.bounded := by
  rw [← clearRevalidation_assessable]
  unfold CongestionDomain.record
  dsimp only
  split_ifs <;> rfl

private theorem requireRevalidation_assessable :
    domain.requireRevalidation.assessable = (domain.state = .unknown && domain.bounded) := by
  unfold CongestionDomain.requireRevalidation
  by_cases unknown : domain.state = .unknown
  · simp [CongestionDomain.assessable, CongestionState.awaitsRevalidation, unknown]
  · simp [CongestionDomain.assessable, CongestionState.awaitsRevalidation, unknown]

private theorem dropEvidence_assessable (worker : WorkerId) (deadBoot : WorkerBootId)
    (invalidated : Bool)
    (assessable : (domain.dropEvidence worker deadBoot invalidated).2.assessable = true) :
    domain.assessable = true := by
  obtain ⟨any, -, dropped⟩ := domain.dropEvidence_eq worker deadBoot invalidated
  rw [dropped] at assessable
  cases any with
  | false => exact assessable
  | true =>
      -- What the fence leaves assessable is UNKNOWN before and after it.
      by_cases unknown : domain.state = .unknown
      · simpa [CongestionDomain.assessable, CongestionDomain.bounded, unknown] using assessable
      · simp [CongestionDomain.assessable, CongestionState.awaitsRevalidation,
          unknown] at assessable

private theorem assess_state_pending {state : Impl R}
    (pending : domain.state.awaitsRevalidation = true) :
    (state.assess domain).state.awaitsRevalidation = true := by
  unfold Impl.assess classify
  rw [if_pos pending]
  rfl

/-- A recomputed domain is assessable only if it was so before. -/
private theorem recomputed_assessable {limits : EngineLimits} {now : UInt64} {state : Impl R}
    (assessable : (state.recomputed limits now domain).2.assessable = true) :
    domain.assessable = true := by
  obtain ⟨_, _, _, written⟩ := state.recomputed_eq limits now domain
  rw [written] at assessable
  simp only [CongestionDomain.assessable, CongestionDomain.bounded, Bool.and_eq_true,
    Bool.not_eq_true'] at assessable ⊢
  refine ⟨?_, assessable.2⟩
  by_contra pending
  rw [Bool.not_eq_false] at pending
  rw [assess_state_pending pending] at assessable
  exact absurd assessable.1 (by simp)

end Assessable

/-! ## Events -/

/-- The event is a successful publication of that kind for the domain. -/
def Event.republishes (kind : MeasurementKind) (id : CongestionDomainId)
    (state : Impl Binary64) : Event → Bool
  | .engine (.call _ (.publishMeasurement target measurement owner ownerBoot)) =>
      target = id && measurement.kind = (kind : Enum8 _) &&
        (state.publishMeasurement target measurement owner ownerBoot).1
  | _ => false

/-- Offered and serviced rate of the domain were both republished in a history. -/
def republished (id : CongestionDomainId) (history : List (Impl Binary64 × Event)) : Bool :=
  [MeasurementKind.offeredBytesPerSec, .completedBytesPerSec].all fun kind =>
    history.any fun taken => taken.2.republishes kind id taken.1

/-- The event leaves the domain assessable whatever it was before: it clears a
pending revalidation, or it installs or keeps an UNKNOWN record, of a domain
that has an effective capacity. -/
def Event.exposes (limits : EngineLimits) (id : CongestionDomainId) (state : Impl Binary64) :
    Event → Bool
  | .engine (.call _ (.publishMeasurement target measurement owner ownerBoot)) =>
      target = id && (state.publishMeasurement target measurement owner ownerBoot).1 &&
        (state.domains.find? id).any CongestionDomain.bounded
  | .engine (.call now (.startFlow ref boot)) =>
      state.reaches ref (fun flow => (flow.start now boot).1) id &&
        (state.domains.find? id).any CongestionDomain.bounded
  | .engine (.call _ (.createDomain _ capacity)) =>
      state.creatable limits capacity && !state.domains.contains id &&
        id = ⟨state.nextDomain⟩ && capacity.effective.isSome
  | .engine (.call _ .recoverDynamicEvidence) =>
      (state.domains.find? id).any fun domain => domain.state = .unknown && domain.bounded
  | .load file =>
      (file.bind Impl.decode).any fun persisted =>
        (persisted.domains.find? id).any fun domain => domain.state = .unknown && domain.bounded
  | _ => false

variable {limits : EngineLimits} {state next : Impl Binary64} {event : Event}
  {id : CongestionDomainId}

/-- Recovery leaves exactly the UNKNOWN domains with a capacity assessable. -/
private theorem revalidated_assessable_iff
    {domains : UnorderedMap CongestionDomainId (CongestionDomain Binary64)} :
    (∃ domain, (domains.mapValues fun _ domain => domain.requireRevalidation).find? id =
        some domain ∧ domain.assessable = true) ↔
      (domains.find? id).any (fun domain => domain.state = .unknown && domain.bounded) = true := by
  rw [UnorderedMap.find?_mapValues, Option.any_eq_true]
  constructor
  · rintro ⟨after, stored, assessable⟩
    obtain ⟨domain, found, rfl⟩ := Option.map_eq_some_iff.mp stored
    exact ⟨domain, found, requireRevalidation_assessable.symm.trans assessable⟩
  · rintro ⟨domain, found, unknown⟩
    exact ⟨domain.requireRevalidation, by rw [found]; rfl,
      requireRevalidation_assessable.trans unknown⟩

/-- An accepted load exposes exactly the domains that it leaves assessable. -/
private theorem loaded_assessable_iff {file : Option Bytes}
    (accepted : state.load file = (true, next)) :
    (∃ domain, next.domains.find? id = some domain ∧ domain.assessable = true) ↔
      Event.exposes limits id state (.load file) = true := by
  rcases Impl.load_cases file state with refused | ⟨bytes, persisted, rfl, decoded, committed⟩
  · rw [refused] at accepted
    exact absurd (Prod.mk.inj accepted).1 (by simp)
  · rw [committed] at accepted
    obtain rfl := (Prod.mk.inj accepted).2
    refine revalidated_assessable_iff.trans ?_
    simp [Event.exposes, decoded, Impl.commit]

/-- An event that exposes the domain leaves it assessable. -/
private theorem exposed (taken : FileStep limits state event next)
    (exposes : event.exposes limits id state = true) :
    ∃ domain, next.domains.find? id = some domain ∧ domain.assessable = true := by
  cases taken with
  | load file =>
      obtain ⟨persisted, decoded, -⟩ := (Option.any_eq_true _ _).mp exposes
      have accepted : state.load file = (true, (state.load file).2) := by
        simp [Impl.load_eq, decoded]
      exact (loaded_assessable_iff accepted).mpr exposes
  | engine step =>
      cases step with
      | rehash same => exact absurd exposes (by simp [Event.exposes])
      | call now op =>
          cases op with
          | publishMeasurement target measurement owner ownerBoot =>
              simp only [Event.exposes, Bool.and_eq_true, decide_eq_true_eq] at exposes
              obtain ⟨⟨rfl, accepted⟩, present⟩ := exposes
              obtain ⟨domain, stored, bounded⟩ := (Option.any_eq_true _ _).mp present
              have allowed := (publishMeasurement_accepted.mp accepted).2
              obtain ⟨invalidated, found⟩ := exec_domain limits now
                (.publishMeasurement target measurement owner ownerBoot) stored (by simp)
              refine ⟨_, found, ?_⟩
              simp [domainAfter, allowed, record_assessable, bounded]
          | startFlow ref boot =>
              simp only [Event.exposes, Bool.and_eq_true] at exposes
              obtain ⟨reached, present⟩ := exposes
              obtain ⟨domain, stored, bounded⟩ := (Option.any_eq_true _ _).mp present
              obtain ⟨invalidated, found⟩ := exec_domain limits now (.startFlow ref boot) stored
                (by simp)
              refine ⟨_, found, ?_⟩
              simp [domainAfter, reached, clearRevalidation_assessable, bounded]
          | createDomain kind capacity =>
              simp only [Event.exposes, Bool.and_eq_true, decide_eq_true_eq, Bool.not_eq_true',
                UnorderedMap.contains_eq_false] at exposes
              obtain ⟨⟨⟨allowed, absent⟩, rfl⟩, bounded⟩ := exposes
              refine ⟨Impl.newDomain ⟨state.nextDomain⟩ kind capacity, ?_, ?_⟩
              · change (state.createDomain limits kind capacity).2.domains.find? _ = _
                rw [createDomain_find? allowed, if_pos ⟨absent, rfl⟩]
              · simpa [CongestionDomain.assessable, Impl.newDomain,
                  CongestionState.awaitsRevalidation, CongestionDomain.bounded] using bounded
          | recoverDynamicEvidence => exact revalidated_assessable_iff.mpr exposes
          | _ => exact absurd exposes (by simp [Event.exposes])

/-- A domain becomes assessable only by an event that exposes it. -/
private theorem assessable_before (taken : FileStep limits state event next)
    {after : CongestionDomain Binary64} (stored : next.domains.find? id = some after)
    (assessable : after.assessable = true) :
    event.exposes limits id state = true ∨
      ∃ domain, state.domains.find? id = some domain ∧ domain.assessable = true := by
  cases taken with
  | load file =>
      rcases Impl.load_cases file state with refused | ⟨bytes, persisted, -, -, accepted⟩
      · rw [refused] at stored
        exact Or.inr ⟨after, stored, assessable⟩
      · rw [accepted] at stored
        exact Or.inl ((loaded_assessable_iff accepted).mp ⟨after, stored, assessable⟩)
  | engine step =>
      cases step with
      | rehash same =>
          rw [← same.domains.find?_eq] at stored
          exact Or.inr ⟨after, stored, assessable⟩
      | call now op =>
          rcases exec_domain_origin stored with ⟨domain, invalidated, found, -, rfl⟩ |
            ⟨kind, capacity, rfl, allowed, absent, here, rfl⟩
          · revert assessable
            apply domainAfter_elim (motive := fun after => after.assessable = true →
              Event.exposes limits id state (.engine (.call now op)) = true ∨
                ∃ domain, state.domains.find? id = some domain ∧ domain.assessable = true)
            case same => exact fun kept => Or.inr ⟨domain, found, kept⟩
            case fenceWorker =>
              intro worker deadBoot _ _ kept
              exact Or.inr ⟨domain, found, dropEvidence_assessable _ _ _ kept⟩
            case admission => exact fun ref _ _ kept => Or.inr ⟨domain, found, kept⟩
            case start =>
              rintro ref boot rfl reached bounded
              rw [clearRevalidation_assessable] at bounded
              exact Or.inl (by simp [Event.exposes, reached, found, bounded])
            case publish =>
              rintro measurement owner ownerBoot rfl allowed bounded
              rw [record_assessable] at bounded
              have accepted := publishMeasurement_accepted.mpr
                ⟨UnorderedMap.contains_eq_true.mpr ⟨domain, found⟩, allowed⟩
              exact Or.inl (by simp [Event.exposes, accepted, found, bounded])
            case recompute => exact fun _ kept => Or.inr ⟨domain, found, recomputed_assessable kept⟩
            case shape => exact fun action _ _ kept => Or.inr ⟨domain, found, kept⟩
            case recover =>
              rintro rfl unknown
              rw [requireRevalidation_assessable] at unknown
              exact Or.inl (by simp [Event.exposes, found, unknown])
          · have bounded : capacity.effective.isSome = true := by
              simpa [CongestionDomain.assessable, Impl.newDomain,
                CongestionState.awaitsRevalidation, CongestionDomain.bounded] using assessable
            have missing := UnorderedMap.contains_eq_false.mpr absent
            exact Or.inl (by simp [Event.exposes, allowed, missing, ← here, bounded])

/-! ## Runs after a recovery -/

/-- The event is a recovery: `recover_dynamic_evidence`, or a load that is
accepted. -/
inductive Recovery (before : Impl Binary64) : Event → Impl Binary64 → Prop
  | recovered (now : UInt64) :
      Recovery before (.engine (.call now .recoverDynamicEvidence)) before.recoverDynamicEvidence
  | loaded {file : Option Bytes} {start : Impl Binary64}
      (accepted : before.load file = (true, start)) : Recovery before (.load file) start

/-- If an assessment of the domain is authoritative, both of its rates were
republished in the history since the recovery. -/
def Conservative (limits : EngineLimits) (id : CongestionDomainId)
    (history : List (Impl Binary64 × Event)) (state : Impl Binary64) : Prop :=
  (state.assessCongestion id).authoritative = true ∨
      (∃ now, (state.recomputeDomain limits now id).1.authoritative = true) →
    republished id history = true

/-- The step may expose the domain only once both rates are republished; the
step's own publication counts. -/
def ExposesRepublished (limits : EngineLimits) (id : CongestionDomainId)
    (history : List (Impl Binary64 × Event)) (state : Impl Binary64) (event : Event) : Prop :=
  event.exposes limits id state = true → republished id (history ++ [(state, event)]) = true

instance (history : List (Impl Binary64 × Event)) (state : Impl Binary64) (event : Event) :
    Decidable (ExposesRepublished limits id history state event) :=
  inferInstanceAs (Decidable (_ → _))

private theorem republished_snoc {history : List (Impl Binary64 × Event)}
    (earlier : republished id history = true) (taken : Impl Binary64 × Event) :
    republished id (history ++ [taken]) = true := by
  simp only [republished, List.all_eq_true, List.any_append, Bool.or_eq_true] at earlier ⊢
  exact fun kind member => Or.inl (earlier kind member)

/-- A step keeps the property exactly if it exposes the domain no earlier than
its rates are republished. -/
private theorem conservative_step {history : List (Impl Binary64 × Event)}
    (conservative : Conservative limits id history state)
    (taken : FileStep limits state event next) :
    ExposesRepublished limits id history state event ↔
      Conservative limits id (history ++ [(state, event)]) next := by
  unfold Conservative at conservative ⊢
  rw [authoritative_iff] at conservative ⊢
  constructor
  · rintro cautious ⟨after, stored, assessable⟩
    rcases assessable_before taken stored assessable with exposes | earlier
    · exact cautious exposes
    · exact republished_snoc (conservative earlier) _
  · exact fun kept exposes => kept (exposed taken exposes)

/-- Right after a recovery exactly the domains that it leaves exposed can be
assessed with authority, and nothing was republished yet. -/
private theorem conservative_start {before start : Impl Binary64} {recovery : Event}
    (recovered : Recovery before recovery start) :
    recovery.exposes limits id before = false ↔ Conservative limits id [] start := by
  have assessable_iff : (∃ domain, start.domains.find? id = some domain ∧
      domain.assessable = true) ↔ recovery.exposes limits id before = true := by
    cases recovered with
    | recovered now => exact revalidated_assessable_iff
    | loaded accepted => exact loaded_assessable_iff accepted
  unfold Conservative
  rw [authoritative_iff, assessable_iff, ← Bool.not_eq_true]
  simp [republished]

/-- After a recovery every authoritative assessment of a domain rests on rates
republished since, in every state of a run, exactly if the recovery leaves the
domain protected and every later step that lifts the protection comes when both
rates are republished. -/
theorem conservative_throughout_iff {before start final : Impl Binary64} {recovery : Event}
    {history : List (Impl Binary64 × Event)} (recovered : Recovery before recovery start)
    (run : Run (FileStep limits) start history final) (id : CongestionDomainId) :
    recovery.exposes limits id before = false ∧
        EveryStep history (ExposesRepublished limits id) ↔
      Throughout history final (Conservative limits id) := by
  rw [conservative_start recovered]
  exact run.everyStep_iff_throughout conservative_step

/-- A domain with offered traffic, assessed once. -/
private def assessedOnce : List Event :=
  [.engine (.call 1 (.createDomain DomainKind.nicTx (.ofTheoretical 125000000.0))),
    .engine (.call 2 (.publishMeasurement ⟨1⟩
      { kind := MeasurementKind.offeredBytesPerSec, value := 50000000.0 } ⟨0⟩ ⟨0⟩)),
    .engine (.call 3 (.recomputeDomain ⟨1⟩))]

private def beforeRestart : Impl Binary64 :=
  follow (fun state event => event.next {} state) assessedOnce Impl.fresh

/-- After the restart only another domain receives evidence. -/
private def elsewhere : List Event :=
  [.engine (.call 5 (.createDomain DomainKind.nicRx (.ofTheoretical 125000000.0))),
    .engine (.call 6 (.publishMeasurement ⟨2⟩
      { kind := MeasurementKind.offeredBytesPerSec, value := 1000.0 } ⟨0⟩ ⟨0⟩)),
    .engine (.call 7 (.recomputeDomain ⟨1⟩))]

/-- After the restart the domain receives evidence, but of another kind. -/
private def queueDepthOnly : List Event :=
  [.engine (.call 5 (.publishMeasurement ⟨1⟩
    { kind := MeasurementKind.queueDepthOps, value := 3.0 } ⟨0⟩ ⟨0⟩))]

theorem elsewhere_conservative :
    Throughout
      (followed (fun state event => event.next {} state) elsewhere
        beforeRestart.recoverDynamicEvidence)
      (follow (fun state event => event.next {} state) elsewhere
        beforeRestart.recoverDynamicEvidence)
      (Conservative {} ⟨1⟩) :=
  (conservative_throughout_iff (.recovered 4) (run_follow (fileStep_next {}) elsewhere Run.nil)
    ⟨1⟩).mp ⟨by decide +kernel, by decide +kernel⟩

/-- A queue depth published after the restart makes the offered rate from before
the restart authoritative again. -/
theorem queueDepthOnly_not_conservative :
    ¬∀ (limits : EngineLimits) (prior history : List (Impl Binary64 × Event))
      (before start final : Impl Binary64) (recovery : Event) (id : CongestionDomainId),
      Run (FileStep limits) Impl.fresh prior before → Recovery before recovery start →
        Run (FileStep limits) start history final → start.domains.contains id = true →
          Conservative limits id history final := by
  intro always
  have conservative := always {} _ _ _ _ _ _ ⟨1⟩
    (run_follow (fileStep_next {}) assessedOnce Run.nil) (.recovered 4)
    (run_follow (fileStep_next {}) queueDepthOnly Run.nil) (by decide +kernel)
  have authoritative : ((follow (fun state event => event.next {} state) queueDepthOnly
      beforeRestart.recoverDynamicEvidence).assessCongestion ⟨1⟩).authoritative = true := by
    decide +kernel
  exact absurd (conservative (Or.inl authoritative)) (by decide +kernel)

end CongestionFabric
