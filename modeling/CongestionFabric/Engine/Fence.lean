import CongestionFabric.Engine.Operation

/-!
Contract: the domains that `fence_worker` changes.

Owns the effect of the loop over the domain map when each domain is treated by
itself, and the exact condition under which the loop of the source has that
effect: the domains of other publishers are left alone and the enumeration order
of the map does not show.

The loop carries `any_invalidated` from one domain to the next, so every domain
visited after the first one of the dead worker is invalidated with it.
-/

namespace CongestionFabric

open Foundation

variable {R : Type} [Arithmetic R]

/-- Invalidating the domain changes nothing: its queue generation is at the
maximum, and its state is UNKNOWN or already waits for revalidation. -/
def CongestionDomain.settled (domain : CongestionDomain R) : Bool :=
  domain.queue.generation.value = maxUInt64 &&
    (domain.state = .unknown || (domain.state = .revalidationRequired &&
      domain.stateProvenance = (MeasurementProvenance.unknown : Enum8 _)))

/-- No domain has a rate of the identity, or a domain without one has nothing
left to invalidate. -/
def Impl.fencesApart (state : Impl R) (identity : WorkerId × WorkerBootId) : Bool :=
  state.domains.entries.all (fun entry => !entry.2.ratedBy identity) ||
    state.domains.entries.all fun entry => entry.2.ratedBy identity || entry.2.settled

section OneDomain

variable {domain : CongestionDomain R} {worker : WorkerId} {deadBoot : WorkerBootId}
  {invalidated : Bool}

theorem CongestionDomain.dropEvidence_flag :
    (domain.dropEvidence worker deadBoot invalidated).1 =
      (invalidated || domain.ratedBy (worker, deadBoot)) := by
  obtain ⟨any, rfl, fields⟩ := domain.dropEvidence_eq worker deadBoot invalidated
  rw [fields]

/-- On a domain of the dead worker the flag makes no difference. -/
theorem dropEvidence_rated (rated : domain.ratedBy (worker, deadBoot) = true) :
    (domain.dropEvidence worker deadBoot invalidated).2 =
      (domain.dropEvidence worker deadBoot false).2 := by
  obtain ⟨any, set, fields⟩ := domain.dropEvidence_eq worker deadBoot invalidated
  obtain ⟨alone, setAlone, fieldsAlone⟩ := domain.dropEvidence_eq worker deadBoot false
  rw [rated, Bool.or_true] at set setAlone
  rw [fields, fieldsAlone, set, setAlone]

/-- The flag alone decides about any other domain. -/
private theorem dropEvidence_unrated (unrated : domain.ratedBy (worker, deadBoot) = false) :
    (domain.dropEvidence worker deadBoot invalidated).2 = { domain with
      queue := if invalidated then { generation := domain.queue.generation.next }
        else domain.queue
      state := if invalidated && domain.state ≠ .unknown then .revalidationRequired
        else domain.state
      stateProvenance := if invalidated && domain.state ≠ .unknown then
        MeasurementProvenance.unknown else domain.stateProvenance } := by
  obtain ⟨any, set, fields⟩ := domain.dropEvidence_eq worker deadBoot invalidated
  rw [unrated, Bool.or_false] at set
  obtain ⟨offered, serviced⟩ := Bool.or_eq_false_iff.mp unrated
  rw [fields, set]
  simp only [offered, serviced, Bool.false_eq_true, if_false]

theorem dropEvidence_alone (unrated : domain.ratedBy (worker, deadBoot) = false) :
    (domain.dropEvidence worker deadBoot false).2 = domain := by
  rw [dropEvidence_unrated unrated]
  simp only [Bool.false_and, Bool.false_eq_true, if_false]

theorem dropEvidence_together (unrated : domain.ratedBy (worker, deadBoot) = false) :
    (domain.dropEvidence worker deadBoot true).2 = domain ↔ domain.settled = true := by
  rw [dropEvidence_unrated unrated]
  simp only [Bool.true_and, if_true, decide_eq_true_eq, CongestionDomain.settled,
    Bool.and_eq_true, Bool.or_eq_true]
  constructor
  · intro same
    have queue := congrArg (fun domain => domain.queue.generation) same
    have state := congrArg CongestionDomain.state same
    have provenance := congrArg CongestionDomain.stateProvenance same
    dsimp only at queue state provenance
    refine ⟨Generation.next_eq_self_iff.mp queue, ?_⟩
    by_cases unknown : domain.state = .unknown
    · exact Or.inl unknown
    · rw [if_pos unknown] at state provenance
      exact Or.inr ⟨state.symm, provenance.symm⟩
  · rintro ⟨saturated, waits⟩
    have queue : ({ generation := domain.queue.generation.next } : DomainQueue) = domain.queue := by
      rw [Generation.next_eq_self_iff.mpr saturated]
    rw [queue]
    rcases waits with unknown | ⟨state, provenance⟩
    · simp only [unknown, ne_eq, not_true_eq_false, if_false]
      rw [← unknown]
    · simp only [state, ne_eq, reduceCtorEq, not_false_eq_true, if_true]
      rw [← state, ← provenance]

end OneDomain

section WholeMap

variable {state : Impl R} {worker : WorkerId} {deadBoot : WorkerBootId}

theorem Impl.fencesApart_iff {identity : WorkerId × WorkerBootId} :
    state.fencesApart identity = true ↔
      (∀ entry ∈ state.domains.entries, entry.2.ratedBy identity = false) ∨
        ∀ entry ∈ state.domains.entries, entry.2.ratedBy identity = false →
          entry.2.settled = true := by
  simp only [Impl.fencesApart, Bool.or_eq_true, List.all_eq_true, Bool.not_eq_true',
    or_iff_not_imp_left, Bool.not_eq_true]

/-- Under the condition the loop treats every domain by itself. -/
theorem dropEvidence_walk_apart (apart : state.fencesApart (worker, deadBoot) = true) :
    state.domains.mapAccumulate
        (fun anyInvalidated _ domain => domain.dropEvidence worker deadBoot anyInvalidated) false =
      state.domains.mapValues fun _ domain => (domain.dropEvidence worker deadBoot false).2 := by
  rw [Impl.fencesApart_iff] at apart
  -- Once the flag is set, some domain was rated, so the others are settled.
  apply UnorderedMap.mapAccumulate_eq_mapValues fun flag => flag = true →
    ∀ entry ∈ state.domains.entries, entry.2.ratedBy (worker, deadBoot) = false →
      entry.2.settled = true
  · exact fun set => absurd set Bool.false_ne_true
  · intro entry member flag reached
    cases rated : entry.2.ratedBy (worker, deadBoot) with
    | true =>
        refine ⟨dropEvidence_rated rated, fun _ => ?_⟩
        refine apart.resolve_left fun none => ?_
        rw [none entry member] at rated
        exact absurd rated Bool.false_ne_true
    | false =>
        rw [CongestionDomain.dropEvidence_flag, rated, Bool.or_false]
        refine ⟨?_, reached⟩
        rw [dropEvidence_alone rated]
        cases flag with
        | false => exact dropEvidence_alone rated
        | true => exact (dropEvidence_together rated).mpr (reached rfl entry member rated)

theorem fenceWorker_eq {workerBoot : UnorderedMap WorkerId WorkerBootId}
    (fenced : fenceBoot state.workerBoot worker deadBoot = some workerBoot) :
    (state.fenceWorker worker deadBoot).2 = { state with
      workerBoot := workerBoot
      flows := state.flows.mapValues fun _ flow =>
        flow.fence (flow.ownerWorker = worker && flow.ownerBoot = deadBoot)
      domains := state.domains.mapAccumulate
        (fun anyInvalidated _ domain => domain.dropEvidence worker deadBoot anyInvalidated)
        false } := by
  unfold Impl.fenceWorker
  rw [fenced]

/-- A successful fence leaves the domains of other publishers alone and gives the
same state for every enumeration order of the domain map exactly if no domain has
a rate of the dead worker, or all others have nothing left to invalidate. -/
theorem fenceWorker_frame_iff (fenced : (state.fenceWorker worker deadBoot).1 = true) :
    ((∀ id domain, state.domains.find? id = some domain →
          domain.ratedBy (worker, deadBoot) = false →
            (state.fenceWorker worker deadBoot).2.domains.find? id = some domain) ∧
        ∀ domains, state.domains.Same domains →
          (state.fenceWorker worker deadBoot).2.Reordered
            (({ state with domains := domains } : Impl R).fenceWorker worker deadBoot).2) ↔
      state.fencesApart (worker, deadBoot) = true := by
  obtain ⟨workerBoot, bumped⟩ : ∃ workerBoot,
      fenceBoot state.workerBoot worker deadBoot = some workerBoot := by
    unfold Impl.fenceWorker at fenced
    cases bumped : fenceBoot state.workerBoot worker deadBoot with
    | none => simp [bumped] at fenced
    | some workerBoot => exact ⟨workerBoot, rfl⟩
  have reordered : ∀ domains, (({ state with domains := domains } : Impl R).fenceWorker
      worker deadBoot).2 = { (state.fenceWorker worker deadBoot).2 with
        domains := domains.mapAccumulate
          (fun anyInvalidated _ domain => domain.dropEvidence worker deadBoot anyInvalidated)
          false } := by
    intro domains
    rw [fenceWorker_eq bumped]
    exact fenceWorker_eq bumped
  constructor
  · rintro ⟨frame, orderless⟩
    rw [Impl.fencesApart_iff, or_iff_not_imp_left]
    intro present unrated unratedMember notRated
    simp only [not_forall, Bool.not_eq_false] at present
    obtain ⟨rated, ratedMember, isRated⟩ := present
    have different : rated ≠ unrated := by
      rintro rfl
      rw [notRated] at isRated
      exact absurd isRated Bool.false_ne_true
    -- An enumeration that visits the rated domain first invalidates the other with it.
    obtain ⟨domains, rest, same, entries⟩ :=
      UnorderedMap.exists_same_front ratedMember unratedMember different
    have written : (domains.mapAccumulate
        (fun anyInvalidated _ domain => domain.dropEvidence worker deadBoot anyInvalidated)
        false).find? unrated.1 = some (unrated.2.dropEvidence worker deadBoot true).2 := by
      rw [← UnorderedMap.mem_entries_iff]
      change _ ∈ UnorderedMap.accumulate _ _ domains.entries
      rw [entries]
      simp only [UnorderedMap.accumulate, CongestionDomain.dropEvidence_flag, isRated,
        Bool.or_true, List.mem_cons, true_or, or_true]
    have kept := frame unrated.1 unrated.2 (UnorderedMap.mem_entries_iff.mp unratedMember) notRated
    rw [(orderless domains same).domains.find?_eq, reordered domains, written] at kept
    exact (dropEvidence_together notRated).mp (Option.some.inj kept)
  · intro apart
    have alone : (state.fenceWorker worker deadBoot).2.domains = state.domains.mapValues
        fun _ domain => (domain.dropEvidence worker deadBoot false).2 := by
      rw [fenceWorker_eq bumped]
      exact dropEvidence_walk_apart apart
    refine ⟨fun id domain stored unrated => ?_, fun domains same => ?_⟩
    · rw [alone, UnorderedMap.find?_mapValues, stored, Option.map_some,
        dropEvidence_alone unrated]
    · have apartToo : ({ state with domains := domains } : Impl R).fencesApart
          (worker, deadBoot) = true := by
        rw [Impl.fencesApart_iff] at apart ⊢
        simpa only [same.mem_iff] using apart
      have aloneToo := dropEvidence_walk_apart apartToo
      rw [reordered domains]
      refine ⟨.refl _, .refl _, ?_, .refl _, rfl⟩
      rw [alone, aloneToo]
      exact same.mapValues _

end WholeMap

private def offeredBy (domain : CongestionDomainId) : UInt64 × Op Binary64 :=
  (1, .publishMeasurement domain
    { kind := MeasurementKind.offeredBytesPerSec, value := 10.0,
      provenance := MeasurementProvenance.reported } ⟨1⟩ ⟨1⟩)

/-- Worker 1 publishes the offered rate of domain 1. -/
private def publishOnFirst : List (UInt64 × Op Binary64) :=
  [(1, .registerWorker ⟨1⟩ ⟨1⟩),
    (1, .createDomain DomainKind.nicTx (.ofTheoretical 1000.0)), offeredBy ⟨1⟩]

/-- There is a second domain, for which nobody has published anything. -/
private def besideSecond : Impl Binary64 :=
  execAll {} (publishOnFirst ++ [(2, .createDomain DomainKind.nicRx (.ofTheoretical 1000.0))])
    .fresh

/-- Worker 1 has published the offered rates of both domains, and worker 2 nothing. -/
private def ratedBoth : Impl Binary64 :=
  execAll {} [(2, .registerWorker ⟨2⟩ ⟨1⟩), offeredBy ⟨2⟩] besideSecond

/-- The fence of worker 1 marks both domains in any order, the one of worker 2 neither. -/
theorem ratedBoth_fences :
    ratedBoth.domains.entries.map (fun entry => entry.2.ratedBy (⟨1⟩, ⟨1⟩)) = [true, true] ∧
      (∀ domains, ratedBoth.domains.Same domains →
        (ratedBoth.fenceWorker ⟨1⟩ ⟨1⟩).2.Reordered
          (({ ratedBoth with domains := domains } : Impl Binary64).fenceWorker ⟨1⟩ ⟨1⟩).2) ∧
      ∀ id domain, ratedBoth.domains.find? id = some domain →
        domain.ratedBy (⟨2⟩, ⟨1⟩) = false →
          (ratedBoth.fenceWorker ⟨2⟩ ⟨1⟩).2.domains.find? id = some domain :=
  ⟨by decide +kernel, ((fenceWorker_frame_iff (by decide +kernel)).mpr (by decide +kernel)).2,
    ((fenceWorker_frame_iff (by decide +kernel)).mpr (by decide +kernel)).1⟩

private theorem second_unrated :
    (besideSecond.domains.find? ⟨2⟩).isSome = true ∧
      (besideSecond.domains.find? ⟨2⟩).all (fun domain =>
        !domain.ratedBy (⟨1⟩, ⟨1⟩) && domain.queue.generation.value = 1) = true ∧
      ((besideSecond.fenceWorker ⟨1⟩ ⟨1⟩).2.domains.find? ⟨2⟩).all (fun domain =>
        domain.queue.generation.value = 2) = true := by
  decide +kernel

/-- The fence of worker 1 visits domain 1 first and then bumps the queue
generation of domain 2, which worker 1 never published for. -/
theorem fenceWorker_touches_second :
    ¬∀ (state : Impl Binary64) (worker : WorkerId) (deadBoot : WorkerBootId),
      (state.fenceWorker worker deadBoot).1 = true →
        (∀ id domain, state.domains.find? id = some domain →
            domain.ratedBy (worker, deadBoot) = false →
              (state.fenceWorker worker deadBoot).2.domains.find? id = some domain) ∧
          ∀ domains, state.domains.Same domains →
            (state.fenceWorker worker deadBoot).2.Reordered
              (({ state with domains := domains } : Impl Binary64).fenceWorker
                worker deadBoot).2 := by
  intro always
  obtain ⟨present, before, after⟩ := second_unrated
  obtain ⟨domain, stored⟩ := Option.isSome_iff_exists.mp present
  rw [stored, Option.all_some, Bool.and_eq_true, Bool.not_eq_true'] at before
  have kept := (always besideSecond ⟨1⟩ ⟨1⟩ (by decide +kernel)).1 ⟨2⟩ domain stored before.1
  rw [kept, Option.all_some, decide_eq_true_eq] at after
  rw [after] at before
  exact absurd before.2 (by decide)

end CongestionFabric
