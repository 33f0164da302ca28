import CongestionFabric.Coordinator.Effect
import CongestionFabric.Engine.Twins

/-!
Contract: which moment a congestion reply describes.

Owns what a CONGESTION_UPDATE reply takes from each of its two engine calls, the
engine states that the query passes between them, the calls that write a rate which
the second part shows, and the theorem that without such a call one of these states
gives both parts of every reply.

Does not own: the score, and the values of the assessment and of the rates.
-/

namespace CongestionFabric

open Foundation

/-! ## Replies -/

section Parts

variable {R : Type} [Arithmetic R]

/-- What a reply takes from the assessment, apart from the score. -/
def CongestionAssessment.verdict (assessment : CongestionAssessment R) :
    CongestionState × Enum8 MeasurementProvenance × Bool :=
  (assessment.state, assessment.provenance, assessment.authoritative)

/-- What a reply takes from the snapshot. -/
def DomainSnapshot.rates (snap : DomainSnapshot R) : R × R × R × R :=
  (snap.offeredBps, snap.servicedBps, snap.effectiveBps, snap.residualBps)

/-- The domain's recomputed record is assessed as the recomputation did. -/
theorem recomputeDomain_assessCongestion (limits : EngineLimits) (now : UInt64)
    (id : CongestionDomainId) (state : Impl R) :
    (state.recomputeDomain limits now id).2.assessCongestion id =
      (state.recomputeDomain limits now id).1 := by
  unfold Impl.recomputeDomain
  cases stored : state.domains.find? id with
  | none =>
      unfold Impl.assessCongestion
      rw [stored]
  | some domain =>
      obtain ⟨event, episodes, current, written⟩ := state.recomputed_eq limits now domain
      have tracked := congrArg Prod.snd written
      unfold Impl.recomputed at tracked
      dsimp only
      rw [tracked]
      unfold Impl.assessCongestion
      dsimp only
      rw [UnorderedMap.find?_modify, if_pos rfl, stored, Option.map_some]
      -- The classification reads the cached state only to see whether it awaits revalidation.
      change classify _ _ _ (state.assess domain).state.awaitsRevalidation = state.assess domain
      rw [assess_awaits]
      rfl

theorem Impl.Reordered.rates_eq {left right : Impl R} (same : left.Reordered right)
    (id : CongestionDomainId) : (right.snapshot id).rates = (left.snapshot id).rates := by
  unfold Impl.snapshot
  rw [same.domains.find?_eq]
  cases right.domains.find? id <;> rfl

end Parts

/-! ## Calls that write a rate -/

/-- The call writes another value to a rate that the snapshot of the domain shows: an
accepted publication of it, the fence of the boot that published it, or the removal or
the creation, with a capacity, of the domain. -/
def Op.rerates (limits : EngineLimits) (engine : Impl Binary64) (id : CongestionDomainId) :
    Op Binary64 → Bool
  | .publishMeasurement target measurement owner ownerBoot =>
      target = id && engine.publishable measurement owner ownerBoot &&
        (engine.domains.find? id).any fun domain =>
          measurement.kind = (MeasurementKind.offeredBytesPerSec : Enum8 _) &&
              measurement.value ≠ domain.offeredBps ||
            measurement.kind = (MeasurementKind.completedBytesPerSec : Enum8 _) &&
              measurement.value ≠ domain.servicedBps
  | .fenceWorker worker deadBoot =>
      (fenceBoot engine.workerBoot worker deadBoot).isSome &&
        (engine.domains.find? id).any fun domain =>
          domain.ownsOffered worker deadBoot && domain.offeredBps ≠ 0.0 ||
            domain.ownsServiced worker deadBoot && domain.servicedBps ≠ 0.0
  | .createDomain _ capacity =>
      engine.creatable limits capacity && !engine.domains.contains id &&
        id = ⟨engine.nextDomain⟩ && capacity.effective.isSome
  | .removeDomain target => target = id
  | _ => false

section Rates

variable {limits : EngineLimits} {now : UInt64} {op : Op Binary64} {engine : Impl Binary64}
  {id : CongestionDomainId} {domain : CongestionDomain Binary64}

private theorem record_rates {measurement : Measurement Binary64} {owner : WorkerId}
    {ownerBoot : WorkerBootId}
    (offered : measurement.kind = (MeasurementKind.offeredBytesPerSec : Enum8 _) →
      measurement.value = domain.offeredBps)
    (serviced : measurement.kind = (MeasurementKind.completedBytesPerSec : Enum8 _) →
      measurement.value = domain.servicedBps) :
    (domain.record measurement owner ownerBoot).offeredBps = domain.offeredBps ∧
      (domain.record measurement owner ownerBoot).servicedBps = domain.servicedBps ∧
      (domain.record measurement owner ownerBoot).capacity = domain.capacity := by
  unfold CongestionDomain.record
  rw [domain.clearRevalidation_eq]
  dsimp only
  by_cases isOffered : measurement.kind = (MeasurementKind.offeredBytesPerSec : Enum8 _)
  · rw [if_pos isOffered]
    exact ⟨offered isOffered, rfl, rfl⟩
  · rw [if_neg isOffered]
    by_cases isServiced : measurement.kind = (MeasurementKind.completedBytesPerSec : Enum8 _)
    · have published := serviced isServiced
      rw [isServiced, if_neg (by decide), if_pos rfl]
      exact ⟨rfl, published, rfl⟩
    · split_ifs <;> exact ⟨rfl, rfl, rfl⟩

/-- Any other call leaves rates and capacity of the domain. -/
private theorem domainAfter_rates (now : UInt64) (invalidated : Bool)
    (stored : engine.domains.find? id = some domain)
    (quiet : op.rerates limits engine id = false) :
    (domainAfter limits now op engine invalidated id domain).offeredBps = domain.offeredBps ∧
      (domainAfter limits now op engine invalidated id domain).servicedBps = domain.servicedBps ∧
      (domainAfter limits now op engine invalidated id domain).capacity = domain.capacity := by
  apply domainAfter_elim (motive := fun after => after.offeredBps = domain.offeredBps ∧
    after.servicedBps = domain.servicedBps ∧ after.capacity = domain.capacity)
  case same => exact ⟨rfl, rfl, rfl⟩
  case fenceWorker =>
    rintro worker deadBoot rfl fenced
    simp only [Op.rerates, fenced, stored, Option.any_some, Bool.true_and, Bool.or_eq_false_iff,
      Bool.and_eq_false_imp, decide_eq_false_iff_not, not_not] at quiet
    obtain ⟨any, -, fields⟩ := domain.dropEvidence_eq worker deadBoot invalidated
    rw [fields]
    refine ⟨?_, ?_, rfl⟩
    · dsimp only
      split
      · exact (quiet.1 ‹_›).symm
      · rfl
    · dsimp only
      split
      · exact (quiet.2 ‹_›).symm
      · rfl
  case admission => exact fun _ _ _ => ⟨rfl, rfl, rfl⟩
  case start =>
    intro _ _ _ _
    rw [domain.clearRevalidation_eq]
    exact ⟨rfl, rfl, rfl⟩
  case publish =>
    rintro measurement owner ownerBoot rfl allowed
    simp only [Op.rerates, allowed, stored, Option.any_some, decide_true, Bool.true_and,
      Bool.or_eq_false_iff, Bool.and_eq_false_imp, decide_eq_true_eq, decide_eq_false_iff_not,
      not_not] at quiet
    exact record_rates quiet.1 quiet.2
  case recompute =>
    intro _
    obtain ⟨_, _, _, written⟩ := engine.recomputed_eq limits now domain
    rw [written]
    exact ⟨rfl, rfl, rfl⟩
  case shape => exact fun _ _ _ => ⟨rfl, rfl, rfl⟩
  case recover =>
    intro _
    obtain ⟨_, _, required⟩ := domain.requireRevalidation_eq
    rw [required]
    exact ⟨rfl, rfl, rfl⟩

theorem exec_rates (quiet : op.rerates limits engine id = false) :
    ((exec limits now op engine).2.snapshot id).rates = (engine.snapshot id).rates := by
  cases stored : engine.domains.find? id with
  | some domain =>
      have kept : op ≠ .removeDomain id := by
        rintro rfl
        simp [Op.rerates] at quiet
      obtain ⟨invalidated, found⟩ := exec_domain limits now op stored kept
      obtain ⟨offered, serviced, capacity⟩ :=
        domainAfter_rates now invalidated stored quiet
      unfold Impl.snapshot
      rw [found, stored]
      simp only [DomainSnapshot.rates, offered, serviced, capacity]
  | none =>
      cases found : (exec limits now op engine).2.domains.find? id with
      | none =>
          unfold Impl.snapshot
          rw [found, stored]
      | some after =>
          rcases exec_domain_origin found with ⟨_, _, present, -, -⟩ |
            ⟨kind, capacity, rfl, allowed, -, rfl, rfl⟩
          · exact absurd (present.symm.trans stored) (by simp)
          · -- A new domain without a capacity shows what a missing one shows.
            have absent : engine.domains.contains ⟨engine.nextDomain⟩ = false :=
              UnorderedMap.contains_eq_false.mpr stored
            have unbounded : capacity.effective = none := by
              simpa [Op.rerates, allowed, absent] using quiet
            unfold Impl.snapshot
            rw [found, stored]
            simp [DomainSnapshot.rates, Impl.newDomain, CapacityProfile.residual, unbounded]

end Rates

/-! ## The states between the two calls -/

namespace Coordinator

/-- The query that the session at the index has under way: the domain and the
assessment of the first call. The second call completes the reply with the snapshot of
its own time. -/
def query (index : Nat) (coordinator : Coordinator) :
    Option (CongestionDomainId × CongestionAssessment Binary64) :=
  (coordinator.sessions[index]?).bind fun session =>
    match session.phase with
    | .reporting domain assessment => some (domain, assessment)
    | _ => none

/-- The engine states from the first call of the query until now. -/
def moments (index : Nat) (history : List (Coordinator × Input)) (coordinator : Coordinator) :
    List (Impl Binary64) :=
  coordinator.engine ::
    (history.reverse.takeWhile fun taken => (taken.1.query index).isSome).map
      fun taken => taken.1.engine

/-- Some state since the first call gives both the assessment and the rates that the
domain has now. -/
def DescribesMoment (index : Nat) (history : List (Coordinator × Input))
    (coordinator : Coordinator) (domain : CongestionDomainId)
    (assessment : CongestionAssessment Binary64) : Prop :=
  ∃ moment ∈ coordinator.moments index history,
    (moment.assessCongestion domain).verdict = assessment.verdict ∧
      (moment.snapshot domain).rates = (coordinator.engine.snapshot domain).rates

/-- If the input makes a session send a congestion reply, the reply describes one
moment. -/
def RepliesOneMoment (history : List (Coordinator × Input)) (coordinator : Coordinator)
    (input : Input) : Prop :=
  ∀ index domain assessment, input = .resume index →
    coordinator.query index = some (domain, assessment) →
      coordinator.DescribesMoment index history domain assessment

/-- The call of the input does not write a rate of a domain whose query is under way. -/
def undisturbed (limits : EngineLimits) (coordinator : Coordinator) (input : Input) : Bool :=
  (coordinator.call input).all fun call =>
    (List.range coordinator.sessions.length).all fun index =>
      (coordinator.query index).all fun query => !call.2.rerates limits coordinator.engine query.1

/-- All queries under way can still be answered from one moment. -/
def Pending (history : List (Coordinator × Input)) (coordinator : Coordinator) : Prop :=
  ∀ index domain assessment, coordinator.query index = some (domain, assessment) →
    coordinator.DescribesMoment index history domain assessment

variable {limits : EngineLimits} {history : List (Coordinator × Input)}
  {coordinator next : Coordinator} {input : Input} {index : Nat} {session : Session}
  {domain : CongestionDomainId} {assessment : CongestionAssessment Binary64}

private theorem query_eq_some : coordinator.query index = some (domain, assessment) ↔
    ∃ session, coordinator.sessions[index]? = some session ∧
      session.phase = .reporting domain assessment := by
  unfold query
  rw [Option.bind_eq_some_iff]
  refine exists_congr fun session => and_congr_right fun _ => ?_
  cases session.phase <;> simp

private theorem answer_not_reporting {stop : Bool} {frame : Frame} :
    (session.answer stop frame).phase ≠ .reporting domain assessment := by
  cases stop <;> exact fun reporting => nomatch reporting

/-- Only the first call of QUERY_CONGESTION leaves a reply pending. -/
private theorem handle_reporting {now : UInt64} {saved stop : Bool} {request : Option Request}
    {engine : Impl Binary64}
    (reporting : (handle limits now saved stop request engine session).2.1.phase =
      .reporting domain assessment) :
    request = some (.queryCongestion domain) ∧
      assessment = (engine.recomputeDomain limits now domain).1 := by
  cases request with
  | none => exact absurd reporting answer_not_reporting
  | some request =>
      cases request with
      | queryCongestion target =>
          injection reporting with here assessed
          subst here
          exact ⟨rfl, assessed.symm⟩
      | register worker boot source sourceBoot => exact nomatch reporting
      | publishMeasurement target measurement =>
          unfold handle at reporting
          dsimp only at reporting
          split at reporting
          · exact absurd reporting answer_not_reporting
          · exact absurd reporting answer_not_reporting
      | _ => exact absurd reporting answer_not_reporting

private theorem finish_not_reporting {stop : Bool} {engine : Impl Binary64} :
    (finish stop engine session).2.phase = .reporting domain assessment → False := by
  unfold finish
  cases phase : session.phase with
  | registering pending => exact answer_not_reporting
  | reporting target pending => exact answer_not_reporting
  | _ => simp [phase]

/-- A query is under way because it was so before, or because its first call was made. -/
private theorem query_next
    (under : (coordinator.next limits input).query index = some (domain, assessment)) :
    coordinator.query index = some (domain, assessment) ∨
      ∃ now, (coordinator.next limits input).engine =
          (coordinator.engine.recomputeDomain limits now domain).2 ∧
        assessment = (coordinator.engine.recomputeDomain limits now domain).1 := by
  obtain ⟨session, found, reporting⟩ := query_eq_some.mp under
  rcases session_next found with old | rfl | ⟨taker, taken, acted⟩
  · exact Or.inl (query_eq_some.mpr ⟨session, old, reporting⟩)
  · revert reporting
    dsimp only
    split <;> exact fun reporting => nomatch reporting
  · rcases acted with ⟨now, saved, body, rfl, rfl⟩ | ⟨rfl, rfl⟩ | ⟨rfl, rfl⟩
    · obtain ⟨asked, assessed⟩ := handle_reporting reporting
      refine Or.inr ⟨now, ?_, assessed⟩
      simp only [Coordinator.next, taken, asked]
      rfl
    · exact (finish_not_reporting reporting).elim
    · exact nomatch reporting

/-- A step that leaves the rates leaves the moment. -/
private theorem DescribesMoment.snoc
    (describes : coordinator.DescribesMoment index history domain assessment)
    (under : coordinator.query index = some (domain, assessment))
    (same : (next.engine.snapshot domain).rates = (coordinator.engine.snapshot domain).rates) :
    next.DescribesMoment index (history ++ [(coordinator, input)]) domain assessment := by
  obtain ⟨moment, member, assessed, rates⟩ := describes
  refine ⟨moment, ?_, assessed, rates.trans same.symm⟩
  unfold moments at member ⊢
  rw [List.reverse_append, List.reverse_singleton, List.singleton_append, List.takeWhile_cons,
    if_pos (Option.isSome_of_eq_some under), List.map_cons]
  exact List.mem_cons_of_mem _ member

private theorem undisturbed_query (quiet : coordinator.undisturbed limits input = true)
    (under : coordinator.query index = some (domain, assessment)) :
    ((coordinator.next limits input).engine.snapshot domain).rates =
      (coordinator.engine.snapshot domain).rates := by
  obtain ⟨session, found, -⟩ := query_eq_some.mp under
  have bound := (List.getElem?_eq_some_iff.mp found).1
  unfold undisturbed at quiet
  rw [next_engine]
  cases called : coordinator.call input with
  | none => rfl
  | some call =>
      rw [called, Option.all_some] at quiet
      have allowed := List.all_eq_true.mp quiet index (List.mem_range.mpr bound)
      rw [under, Option.all_some, Bool.not_eq_true'] at allowed
      exact exec_rates allowed

private theorem pending_step (pending : coordinator.Pending history)
    (quiet : coordinator.undisturbed limits input = true)
    (taken : CoordinatorStep limits coordinator input next) :
    next.Pending (history ++ [(coordinator, input)]) := by
  intro index domain assessment under
  cases taken with
  | rehash same =>
      exact (pending index domain assessment under).snoc under (same.rates_eq domain)
  | input =>
      rcases query_next under with earlier | ⟨now, recomputed, rfl⟩
      · exact (pending index domain assessment earlier).snoc earlier
          (undisturbed_query quiet earlier)
      · refine ⟨_, List.mem_cons_self, ?_, rfl⟩
        rw [recomputed, recomputeDomain_assessCongestion]

end Coordinator

/-! ## Runs -/

/-- From every state file and for every interleaving: if no call writes a rate of a
domain while a query of it is between its two calls, every congestion reply of the run
describes one moment. -/
theorem repliesOneMoment_of_undisturbed {limits : EngineLimits} {file : Option Bytes}
    {history : List (Coordinator × Input)} {final : Coordinator}
    (run : Run (CoordinatorStep limits) (.start file) history final)
    (undisturbed : EveryStep history fun _ coordinator input =>
      coordinator.undisturbed limits input = true) :
    EveryStep history fun before coordinator input =>
      coordinator.RepliesOneMoment before input := by
  have pending : Throughout history final fun before coordinator =>
      coordinator.Pending before := by
    apply run.throughout_of_everyStep _ ?_ Coordinator.pending_step undisturbed
    intro index domain assessment under
    exact absurd under (by simp [Coordinator.query, Coordinator.start])
  intro before coordinator input after split index domain assessment _ under
  exact pending.1 before coordinator input after split index domain assessment under

private def publishFor (kind : MeasurementKind) (value : Binary64) : Frame :=
  .publishMeasurement (Enumeration.toU8 kind) value

/-- Worker 1 publishes an offered rate of 10 and queries the domain; before the reply
worker 2 acts. -/
private def actsDuringQuery (acts : List Input) : List Input :=
  [.accept, .frame 0 1 false (.register 1 1), .resume 0,
    .frame 0 1 false (.createDomain (Enumeration.toU8 DomainKind.nicTx)),
    .accept, .frame 1 2 false (.register 2 1), .resume 1,
    .frame 0 3 false (publishFor .offeredBytesPerSec 10.0),
    .frame 0 4 false (.ofType .queryCongestion (wr64 1))] ++ acts

private def duringQuery (acts : List Input) : Coordinator :=
  follow (Coordinator.next {}) (actsDuringQuery acts) (.start none)

private theorem run_duringQuery (acts : List Input) : Run (CoordinatorStep {}) (.start none)
    (([] ++ followed (Coordinator.next {}) (actsDuringQuery acts) (.start none)) ++
      [(duringQuery acts, .resume 0)]) ((duringQuery acts).next {} (.resume 0)) :=
  (run_follow CoordinatorStep.input (actsDuringQuery acts) Run.nil).snoc
    (.input _ (.resume 0))

/-- Worker 2 publishes another kind for the domain and disconnects. -/
private def publishesDepth : List Input :=
  [.frame 1 5 false (publishFor .queueDepthOps 3.0), .disconnect 1]

theorem duringQuery_alike :
    ((duringQuery publishesDepth).query 0).isSome = true ∧
      EveryStep (([] ++ followed (Coordinator.next {}) (actsDuringQuery publishesDepth)
          (.start none)) ++ [(duringQuery publishesDepth, .resume 0)])
        fun before coordinator input => coordinator.RepliesOneMoment before input :=
  ⟨by decide +kernel,
    repliesOneMoment_of_undisturbed (run_duringQuery publishesDepth) (by decide +kernel)⟩

/-- Worker 2 publishes another offered rate. -/
private def publishesRate : List Input :=
  [.frame 1 5 false (publishFor .offeredBytesPerSec 5000.0)]

private theorem duringQuery_under : ((duringQuery publishesRate).query 0).isSome = true := by
  decide +kernel

/-- The domain is assessed HEALTHY with an offered rate of 10, and the reply has a rate
of 5000. -/
theorem duringQuery_torn :
    ¬∀ (limits : EngineLimits) (file : Option Bytes) (history : List (Coordinator × Input))
      (final : Coordinator), Run (CoordinatorStep limits) (.start file) history final →
        EveryStep history fun before coordinator input =>
          coordinator.RepliesOneMoment before input := by
  intro always
  obtain ⟨moment, member, assessed, rates⟩ := always {} none _ _ (run_duringQuery publishesRate)
    _ _ _ [] rfl 0 _ _ rfl (Option.some_get duringQuery_under).symm
  have torn : ∀ moment ∈ (duringQuery publishesRate).moments 0 ([] ++ followed (Coordinator.next {})
      (actsDuringQuery publishesRate) (.start none)),
      ¬((moment.assessCongestion ⟨1⟩).verdict =
          (((duringQuery publishesRate).query 0).get duringQuery_under).2.verdict ∧
        (moment.snapshot ⟨1⟩).rates = ((duringQuery publishesRate).engine.snapshot ⟨1⟩).rates) := by
    decide +kernel
  exact torn moment member ⟨assessed, rates⟩

end CongestionFabric
