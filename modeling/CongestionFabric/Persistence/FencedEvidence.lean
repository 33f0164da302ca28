import CongestionFabric.Engine.DomainEffect
import CongestionFabric.Persistence.Snapshot

/-!
Contract: the posture of a domain between the fence of a publisher of its rates
and the next publication.

Owns the events that end the posture without new evidence, and the exact
condition under which every assessment until then asks for revalidation.

Does not own: which other domains a fence touches.
-/

namespace CongestionFabric

open Foundation

variable {R : Type} [Arithmetic R]

/-! ## Assessments that ask for revalidation -/

private theorem signals_state_decided (signals : Signals R) :
    signals.state ≠ .revalidationRequired := by
  unfold Signals.state
  dsimp only
  repeat' split
  all_goals simp

theorem classify_state_iff {domain : CongestionDomain R} {aggregate : Aggregate}
    {flows : UnorderedMap FlowId (Flow R)} {revalidation : Bool} :
    (classify domain aggregate flows revalidation).state = .revalidationRequired ↔
      revalidation = true := by
  unfold classify
  cases revalidation with
  | true => simp
  | false =>
      rw [if_neg Bool.false_ne_true]
      refine iff_of_false ?_ Bool.false_ne_true
      split
      · simp
      · split
        · simp
        · exact signals_state_decided _

/-- The domain is in the map and waits for revalidation. -/
def Impl.awaits (state : Impl R) (id : CongestionDomainId) : Bool :=
  (state.domains.find? id).any fun domain => domain.state.awaitsRevalidation

theorem Impl.awaits_iff {state : Impl R} {id : CongestionDomainId} :
    state.awaits id = true ↔ (state.assessCongestion id).state = .revalidationRequired ∧
      (state.assessCongestion id).authoritative = false := by
  unfold Impl.awaits Impl.assessCongestion
  cases state.domains.find? id with
  | none => simp
  | some domain =>
      rw [Option.any_some]
      change _ ↔ (classify _ _ _ _).state = _ ∧ (classify _ _ _ _).authoritative = false
      rw [classify_state_iff, ← Bool.not_eq_true, classify_authoritative]
      refine ⟨fun waits => ⟨waits, fun assessed => ?_⟩, And.left⟩
      rw [waits] at assessed
      exact absurd assessed.1 (by simp)

/-! ## Events -/

/-- The event is a successful publication for the domain. -/
def Event.publishesOn (id : CongestionDomainId) (state : Impl Binary64) : Event → Bool
  | .engine (.call _ (.publishMeasurement target measurement owner ownerBoot)) =>
      target = id && (state.publishMeasurement target measurement owner ownerBoot).1
  | _ => false

/-- The event takes the domain away, starts a flow of it, or installs a record of
it that is UNKNOWN. -/
def Event.forgets (id : CongestionDomainId) (state : Impl Binary64) : Event → Bool
  | .engine (.call _ (.removeDomain target)) => target = id
  | .engine (.call now (.startFlow ref boot)) =>
      state.reaches ref (fun flow => (flow.start now boot).1) id
  | .load file =>
      (file.bind Impl.decode).any fun persisted =>
        (persisted.domains.find? id).all fun domain => domain.state = .unknown
  | _ => false

/-- Until a publication for the domain succeeds, its assessment is
REVALIDATION_REQUIRED and not authoritative. -/
def Distrusted (id : CongestionDomainId) (history : List (Impl Binary64 × Event))
    (state : Impl Binary64) : Prop :=
  history.any (fun taken => taken.2.publishesOn id taken.1) = false →
    (state.assessCongestion id).state = .revalidationRequired ∧
      (state.assessCongestion id).authoritative = false

/-- Until a publication for the domain succeeds, no step forgets that evidence is
missing. -/
def Remembers (id : CongestionDomainId) (history : List (Impl Binary64 × Event))
    (state : Impl Binary64) (event : Event) : Prop :=
  (history ++ [(state, event)]).any (fun taken => taken.2.publishesOn id taken.1) = false →
    event.forgets id state = false

instance (id : CongestionDomainId) (history : List (Impl Binary64 × Event))
    (state : Impl Binary64) (event : Event) : Decidable (Remembers id history state event) :=
  inferInstanceAs (Decidable (_ → _))

section Steps

variable {limits : EngineLimits} {state next : Impl Binary64} {event : Event}
  {id : CongestionDomainId} {domain : CongestionDomain Binary64}

private theorem awaits_of_dropEvidence {worker : WorkerId} {deadBoot : WorkerBootId}
    {invalidated : Bool} (waits : domain.state.awaitsRevalidation = true) :
    (domain.dropEvidence worker deadBoot invalidated).2.state.awaitsRevalidation = true := by
  obtain ⟨any, -, fields⟩ := domain.dropEvidence_eq worker deadBoot invalidated
  rw [fields]
  dsimp only
  split
  · rfl
  · exact waits

private theorem awaits_requireRevalidation :
    domain.requireRevalidation.state.awaitsRevalidation = decide (domain.state ≠ .unknown) := by
  unfold CongestionDomain.requireRevalidation
  by_cases unknown : domain.state = .unknown
  · simp [unknown, CongestionState.awaitsRevalidation]
  · simp [unknown, CongestionState.awaitsRevalidation]

private theorem awaits_recomputed {now : UInt64}
    (waits : domain.state.awaitsRevalidation = true) :
    (state.recomputed limits now domain).2.state.awaitsRevalidation = true := by
  have required : (state.assess domain).state = .revalidationRequired :=
    classify_state_iff.mpr waits
  rw [Impl.recomputed_state, required]
  rfl

/-- What an operation leaves of a waiting domain still waits, if the operation
neither publishes for it nor forgets. -/
private theorem awaits_domainAfter {now : UInt64} {op : Op Binary64} {invalidated : Bool}
    (stored : state.domains.find? id = some domain)
    (waits : domain.state.awaitsRevalidation = true)
    (quiet : Event.publishesOn id state (.engine (.call now op)) = false)
    (kept : Event.forgets id state (.engine (.call now op)) = false) :
    (domainAfter limits now op state invalidated id domain).state.awaitsRevalidation = true := by
  apply domainAfter_elim (motive := fun after => after.state.awaitsRevalidation = true)
  case same => exact waits
  case fenceWorker => exact fun _ _ _ _ => awaits_of_dropEvidence waits
  case admission => exact fun _ _ _ => waits
  case start =>
    rintro ref boot rfl reached
    rw [Event.forgets, reached] at kept
    exact absurd kept (by simp)
  case publish =>
    rintro measurement owner ownerBoot rfl allowed
    have accepted := publishMeasurement_accepted.mpr
      ⟨UnorderedMap.contains_eq_true.mpr ⟨domain, stored⟩, allowed⟩
    rw [Event.publishesOn, accepted] at quiet
    exact absurd quiet (by simp)
  case recompute => exact fun _ => awaits_recomputed waits
  case shape => exact fun _ _ _ => waits
  case recover =>
    intro _
    rw [awaits_requireRevalidation, decide_eq_true_eq]
    intro unknown
    rw [unknown] at waits
    exact absurd waits (by decide)

/-- Among steps that do not publish for a waiting domain, exactly those that
forget end its wait. -/
private theorem awaits_next_iff (taken : FileStep limits state event next)
    (waits : state.awaits id = true) (quiet : event.publishesOn id state = false) :
    event.forgets id state = false ↔ next.awaits id = true := by
  obtain ⟨domain, stored, waiting⟩ := (Option.any_eq_true _ _).mp waits
  cases taken with
  | load file =>
      simp only [Impl.load_eq, Event.forgets]
      cases file.bind Impl.decode with
      | none => exact iff_of_true rfl waits
      | some persisted =>
          simp only [Option.any_some, Impl.awaits, Impl.revalidateAll, Impl.commit,
            UnorderedMap.find?_mapValues]
          cases persisted.domains.find? id with
          | none => simp
          | some loaded => simp [awaits_requireRevalidation]
  | engine step =>
      cases step with
      | rehash same =>
          refine iff_of_true rfl ?_
          rw [Impl.awaits, ← same.domains.find?_eq]
          exact waits
      | call now op =>
          constructor
          · intro kept
            have stays : op ≠ .removeDomain id := by
              rintro rfl
              simp [Event.forgets] at kept
            obtain ⟨invalidated, found⟩ := exec_domain limits now op stored stays
            rw [Impl.awaits, found, Option.any_some]
            exact awaits_domainAfter stored waiting quiet kept
          · intro still
            obtain ⟨after, found, awaiting⟩ := (Option.any_eq_true _ _).mp still
            rw [← Bool.not_eq_true]
            intro forgets
            cases op with
            | removeDomain target =>
                obtain rfl := of_decide_eq_true forgets
                change (state.removeDomain target).2.domains.find? target = _ at found
                have present : state.domains.contains target = true :=
                  UnorderedMap.contains_eq_true.mpr ⟨domain, stored⟩
                simp [Impl.removeDomain, present] at found
            | startFlow ref boot =>
                rw [Event.forgets] at forgets
                obtain ⟨invalidated, cleared⟩ := exec_domain limits now (.startFlow ref boot)
                  stored (by simp)
                rw [cleared, Option.some.injEq] at found
                rw [← found, domainAfter, if_pos forgets, CongestionDomain.clearRevalidation,
                  if_pos waiting] at awaiting
                exact absurd awaiting (by simp [CongestionState.awaitsRevalidation])
            | _ => exact absurd forgets (by simp [Event.forgets])

/-- A step keeps the posture exactly if it does not forget before a publication
succeeds. -/
private theorem distrusted_step {history : List (Impl Binary64 × Event)}
    (distrusted : Distrusted id history state) (taken : FileStep limits state event next) :
    Remembers id history state event ↔ Distrusted id (history ++ [(state, event)]) next := by
  unfold Distrusted at distrusted ⊢
  unfold Remembers
  rw [← Impl.awaits_iff] at distrusted ⊢
  refine forall_congr' fun silent => ?_
  rw [List.any_append, Bool.or_eq_false_iff] at silent
  simp only [List.any_cons, List.any_nil, Bool.or_false] at silent
  exact awaits_next_iff taken (distrusted silent.1) silent.2

/-- The fence leaves the domain waiting exactly if its cached state was known. -/
private theorem distrusted_start {start : Impl Binary64} {worker : WorkerId}
    {deadBoot : WorkerBootId} (fenced : state.fenceWorker worker deadBoot = (true, start))
    (stored : state.domains.find? id = some domain)
    (rated : domain.ratedBy (worker, deadBoot) = true) :
    domain.state ≠ .unknown ↔ Distrusted id [] start := by
  have accepted : (fenceBoot state.workerBoot worker deadBoot).isSome = true := by
    unfold Impl.fenceWorker at fenced
    cases bumped : fenceBoot state.workerBoot worker deadBoot with
    | none => simp [bumped] at fenced
    | some workerBoot => rfl
  obtain ⟨invalidated, found⟩ := exec_domain {} 0 (.fenceWorker worker deadBoot) stored (by simp)
  have reached : (exec {} 0 (.fenceWorker worker deadBoot) state).2 = start := by
    change (state.fenceWorker worker deadBoot).2 = start
    rw [fenced]
  obtain ⟨any, set, fields⟩ := domain.dropEvidence_eq worker deadBoot invalidated
  rw [rated, Bool.or_true] at set
  rw [reached, domainAfter, if_pos accepted, fields, set] at found
  unfold Distrusted
  rw [← Impl.awaits_iff, Impl.awaits, found]
  by_cases unknown : domain.state = .unknown
  · simp [unknown, CongestionState.awaitsRevalidation]
  · simp [unknown, CongestionState.awaitsRevalidation]

end Steps

/-- After a successful fence, a domain of the dead worker asks for revalidation
in every state until a publication for it succeeds, exactly if its cached state
was not UNKNOWN and no step until then takes it away, starts one of its flows, or
loads a file in which it is missing or UNKNOWN. -/
theorem distrusted_throughout_iff {limits : EngineLimits} {before start final : Impl Binary64}
    {worker : WorkerId} {deadBoot : WorkerBootId} {id : CongestionDomainId}
    {domain : CongestionDomain Binary64} {history : List (Impl Binary64 × Event)}
    (fenced : before.fenceWorker worker deadBoot = (true, start))
    (stored : before.domains.find? id = some domain)
    (rated : domain.ratedBy (worker, deadBoot) = true)
    (run : Run (FileStep limits) start history final) :
    domain.state ≠ .unknown ∧ EveryStep history (Remembers id) ↔
      Throughout history final (Distrusted id) := by
  rw [distrusted_start fenced stored rated]
  exact run.everyStep_iff_throughout distrusted_step

private def offeredByOne : Event :=
  .engine (.call 1 (.publishMeasurement ⟨1⟩
    { kind := MeasurementKind.offeredBytesPerSec, value := 400000.0 } ⟨1⟩ ⟨1⟩))

/-- The rate of domain 1 is published by worker 1 and nobody looks at the domain. -/
private def neverAssessed : List Event :=
  [.engine (.call 1 (.registerWorker ⟨1⟩ ⟨1⟩)),
    .engine (.call 1 (.createDomain DomainKind.nicTx (.ofTheoretical 1000000.0))), offeredByOne]

/-- The same, and the domain is recomputed once. -/
private def assessedBefore : List Event :=
  neverAssessed ++ [.engine (.call 2 (.recomputeDomain ⟨1⟩))]

private def reachedBy (events : List Event) : Impl Binary64 :=
  follow (fun state event => event.next {} state) events Impl.fresh

/-- After the fence only another domain receives evidence. -/
private def quietAfterwards : List Event :=
  [.engine (.call 4 (.createDomain DomainKind.nicRx (.ofTheoretical 1000000.0))),
    .engine (.call 5 (.publishMeasurement ⟨2⟩
      { kind := MeasurementKind.offeredBytesPerSec, value := 1000.0 } ⟨0⟩ ⟨0⟩)),
    .engine (.call 6 (.recomputeDomain ⟨1⟩))]

private theorem assessedBefore_stored :
    ((reachedBy assessedBefore).domains.find? ⟨1⟩).isSome = true := by
  decide +kernel

private theorem neverAssessed_stored :
    ((reachedBy neverAssessed).domains.find? ⟨1⟩).isSome = true := by
  decide +kernel

theorem quietAfterwards_distrusted :
    ((reachedBy assessedBefore).fenceWorker ⟨1⟩ ⟨1⟩).1 = true ∧
      Throughout
        ([] ++ followed (fun state event => event.next {} state) quietAfterwards
          ((reachedBy assessedBefore).fenceWorker ⟨1⟩ ⟨1⟩).2)
        (follow (fun state event => event.next {} state) quietAfterwards
          ((reachedBy assessedBefore).fenceWorker ⟨1⟩ ⟨1⟩).2)
        (Distrusted ⟨1⟩) :=
  ⟨by decide +kernel, (distrusted_throughout_iff
    (Prod.ext (by decide +kernel : ((reachedBy assessedBefore).fenceWorker ⟨1⟩ ⟨1⟩).1 = true) rfl)
    (Option.some_get assessedBefore_stored).symm (by decide +kernel)
    (run_follow (fileStep_next {}) quietAfterwards Run.nil)).mp
      ⟨by decide +kernel, by decide +kernel⟩⟩

/-- The state of a domain that was never assessed is UNKNOWN, so the fence does
not mark it: its next assessment is an authoritative IDLE. -/
theorem neverAssessed_trusted :
    ¬∀ (limits : EngineLimits) (prior history : List (Impl Binary64 × Event))
      (before start final : Impl Binary64) (worker : WorkerId) (deadBoot : WorkerBootId)
      (id : CongestionDomainId) (domain : CongestionDomain Binary64),
      Run (FileStep limits) Impl.fresh prior before →
        before.fenceWorker worker deadBoot = (true, start) →
          before.domains.find? id = some domain → domain.ratedBy (worker, deadBoot) = true →
            Run (FileStep limits) start history final → Distrusted id history final := by
  intro always
  have accepted : ((reachedBy neverAssessed).fenceWorker ⟨1⟩ ⟨1⟩).1 = true := by decide +kernel
  have distrusted := always {} _ _ _ _ _ ⟨1⟩ ⟨1⟩ ⟨1⟩ _
    (run_follow (fileStep_next {}) neverAssessed Run.nil) (Prod.ext accepted rfl)
    (Option.some_get neverAssessed_stored).symm (by decide +kernel) Run.nil rfl
  exact absurd distrusted.2 (by decide +kernel)

end CongestionFabric
