import CongestionFabric.Engine.DomainEffect
import CongestionFabric.Foundation.Rounding
import CongestionFabric.Persistence.Loaded

/-!
Contract: which engines can be restored from the file they save.

Owns the invariant behind the loader's checks, the arguments that keep it (the
checks that `create_domain` and `declare_flow` leave out, the counters that must
not have wrapped), its preservation by every operation and by loads of any file,
and the theorem that a run of such steps ends in an engine whose file is
accepted.

Does not own: the sizes of a file, which are conditions on the moment of saving.
-/

namespace CongestionFabric

open Foundation

/-! ## One domain -/

/-- What an open episode needs to be valid once it is closed. -/
structure CongestionEpisode.Closable (past : UInt64 → Prop)
    (episode : CongestionEpisode Binary64) : Prop where
  eventId : episode.eventId.value ≠ 0
  generation : episode.generation.value ≠ 0
  domain : episode.domain.id.value ≠ 0
  start : past episode.startMs

/-- Sizes apart, the loader accepts the record; and the operations that may
follow cannot spoil it. `past` holds of the times seen so far. -/
structure CongestionDomain.Storable (past : UInt64 → Prop) (id : CongestionDomainId)
    (domain : CongestionDomain Binary64) : Prop where
  checks : ({ domain with flows := [], episodes := [] } : CongestionDomain Binary64).Loadable id
  history : ∀ episode ∈ domain.episodes, episode.Bounded ∧ episode.valid = true
  opened : domain.currentEpisode.isOpen = true → domain.currentEpisode.Closable past
  service : domain.capacity.effective.isSome = true ∨
    Arithmetic.isFinite domain.servicedBps = true

section Domain

variable {past : UInt64 → Prop} {id : CongestionDomainId} {domain : CongestionDomain Binary64}

theorem CongestionDomain.Storable.loadable (storable : domain.Storable past id)
    (flows : domain.flows.length ≤ maxCollectionCount)
    (episodes : domain.episodes.length ≤ maxCollectionCount) : domain.Loadable id :=
  { storable.checks with flows, episodes, history := storable.history }

theorem CongestionDomain.Storable.mono {later : UInt64 → Prop} (storable : domain.Storable past id)
    (grows : ∀ time, past time → later time) : domain.Storable later id :=
  { storable with
    opened := fun isOpen =>
      { storable.opened isOpen with start := grows _ (storable.opened isOpen).start } }

theorem Enum8.valid_ite {E : Type} [Enumeration E] {condition : Prop} [Decidable condition]
    {left right : Enum8 E} (leftValid : left.valid = true) (rightValid : right.valid = true) :
    (if condition then left else right).valid = true := by
  split
  · exact leftValid
  · exact rightValid

private theorem CongestionDomain.Storable.dropEvidence (storable : domain.Storable past id)
    (worker : WorkerId) (deadBoot : WorkerBootId) (invalidated : Bool) :
    (domain.dropEvidence worker deadBoot invalidated).2.Storable past id := by
  obtain ⟨any, -, fields⟩ := domain.dropEvidence_eq worker deadBoot invalidated
  have unknown : (MeasurementProvenance.unknown : Enum8 MeasurementProvenance).valid = true := rfl
  have zero : Arithmetic.isFinite (0.0 : Binary64) = true := by decide
  rw [fields]
  refine
    { storable with
      checks := { storable.checks with
        stateProvenance := Enum8.valid_ite unknown storable.checks.stateProvenance
        offeredProvenance := Enum8.valid_ite unknown storable.checks.offeredProvenance
        servicedProvenance := Enum8.valid_ite unknown storable.checks.servicedProvenance }
      service := storable.service.imp_right fun finite => ?_ }
  dsimp only
  split
  · exact zero
  · exact finite

private theorem CongestionDomain.Storable.clearRevalidation
    (storable : domain.Storable past id) : domain.clearRevalidation.Storable past id := by
  unfold CongestionDomain.clearRevalidation
  split
  · exact { storable with checks := { storable.checks with } }
  · exact storable

private theorem CongestionDomain.Storable.requireRevalidation
    (storable : domain.Storable past id) : domain.requireRevalidation.Storable past id := by
  unfold CongestionDomain.requireRevalidation
  split
  · exact storable
  · exact { storable with
      checks := { storable.checks with stateProvenance := rfl } }

private theorem CongestionDomain.Storable.record (storable : domain.Storable past id)
    {measurement : Measurement Binary64} (valid : measurement.valid = true)
    (provenance : measurement.provenance.valid = true) (owner : WorkerId)
    (ownerBoot : WorkerBootId) :
    (domain.record measurement owner ownerBoot).Storable past id := by
  have finite : Arithmetic.isFinite measurement.value = true := by
    simp only [Measurement.valid, Bool.and_eq_true] at valid
    exact valid.1.1
  obtain ⟨checks, history, opened, service⟩ := storable.clearRevalidation
  unfold CongestionDomain.record
  dsimp only
  generalize domain.clearRevalidation = cleared at checks history opened service ⊢
  split_ifs
  · exact ⟨{ checks with offeredProvenance := provenance }, history, opened, service⟩
  · exact ⟨{ checks with admittedProvenance := provenance }, history, opened, service⟩
  · exact ⟨{ checks with servicedProvenance := provenance }, history, opened, Or.inr finite⟩
  · exact ⟨{ checks with utilisationProvenance := provenance }, history, opened, service⟩
  · exact ⟨{ checks with effectiveProvenance := provenance }, history, opened, service⟩
  · exact ⟨{ checks with }, history, opened, service⟩

/-- The shaping that `apply_local_shaping` computes passes the loader's check:
what it starts from is finite, so the clipped difference is. -/
private theorem CongestionDomain.Storable.shape (storable : domain.Storable past id)
    (generation : BackpressureGeneration) :
    ({ domain with
      shaping := .full domain.allowedBps domain.allowedBps
      backpressureGeneration := generation } : CongestionDomain Binary64).Storable past id := by
  have finite : Arithmetic.isFinite (domain.capacity.effective.getD domain.servicedBps) = true := by
    cases bound : domain.capacity.effective with
    | none =>
        rcases storable.service with some | finite
        · simp [bound] at some
        · exact finite
    | some eff => exact CapacityProfile.effective_finite bound
  obtain ⟨allowedFinite, allowedNonneg⟩ := Binary64.stdMax_sub_stdMax finite
    (domain.offeredBps - domain.servicedBps)
  refine { storable with checks := { storable.checks with shaping := ?_ } }
  change shapingValid domain.allowedBps domain.allowedBps = true
  unfold CongestionDomain.allowedBps
  simp [shapingValid, allowedFinite, allowedNonneg]

/-- An assessment reports a provenance that the domain has, or a fixed one. -/
theorem assess_provenance_valid (offered : domain.offeredProvenance.valid = true)
    (serviced : domain.servicedProvenance.valid = true) (state : Impl Binary64) :
    (state.assess domain).provenance.valid = true := by
  unfold Impl.assess classify
  split
  · rfl
  · split
    · rfl
    · dsimp only
      split
      · exact serviced
      · exact Enum8.valid_ite rfl (Enum8.valid_ite offered serviced)

/-- An episode that is closed no earlier than it was opened is valid. -/
private theorem closed_valid {episode : CongestionEpisode Binary64} {now : UInt64}
    (closable : episode.Closable past) (forward : episode.startMs ≤ now)
    (outcome : CongestionState) :
    ({ episode with endMs := now, outcome := outcome, isOpen := false } :
      CongestionEpisode Binary64).valid = true := by
  have event := Id.isValid_eq_true.mpr closable.eventId
  have generation := Generation.isValid_eq_true.mpr closable.generation
  have domain := Id.isValid_eq_true.mpr closable.domain
  simp [CongestionEpisode.valid, event, generation, domain, forward]

private theorem opened_bounded (event : UInt64) (ref : EntityRef CongestionDomainTag)
    (now : UInt64) (peak : CongestionState) :
    (CongestionEpisode.opened event ref now peak : CongestionEpisode Binary64).Bounded where
  trigger := by
    change (ascii "offered load exceeded effective capacity").length ≤ maxStringBytes
    decide
  affectedFlows := Nat.zero_le _

private theorem blank_bounded : ({} : CongestionEpisode Binary64).Bounded :=
  ⟨Nat.zero_le _, Nat.zero_le _⟩

/-- The recomputation would open an episode. -/
def Impl.opensEpisode (state : Impl Binary64) (domain : CongestionDomain Binary64) : Bool :=
  (state.assess domain).state.congestedNow && !domain.currentEpisode.isOpen

private theorem CongestionDomain.Storable.recomputed (storable : domain.Storable past id)
    {limits : EngineLimits} {now : UInt64} {state : Impl Binary64}
    (numbered : state.opensEpisode domain = true → state.nextEvent ≠ 0)
    (present : past now) (forward : ∀ time, past time → time ≤ now) :
    (state.recomputed limits now domain).2.Storable past id := by
  have offered : domain.offeredProvenance.valid = true := storable.checks.offeredProvenance
  have serviced : domain.servicedProvenance.valid = true := storable.checks.servicedProvenance
  have provenance := assess_provenance_valid offered serviced state
  have key : domain.ref.id.value ≠ 0 := by
    rw [show domain.ref.id = id from storable.checks.ref]
    exact storable.checks.key
  have first : (1 : UInt64) ≠ 0 := by decide
  unfold Impl.recomputed CongestionDomain.trackEpisode
  dsimp only
  split
  · next congested =>
    split
    · next closed =>
      have event := numbered (by simp [Impl.opensEpisode, congested, closed])
      exact
        { storable with
          checks := { storable.checks with
            stateProvenance := provenance
            current := opened_bounded _ _ _ _ }
          opened := fun _ => ⟨event, first, key, present⟩ }
    · next isOpen =>
      have closable := storable.opened (by simpa using isOpen)
      exact
        { storable with
          checks := { storable.checks with
            stateProvenance := provenance
            current := ⟨storable.checks.current.trigger, storable.checks.current.affectedFlows⟩ }
          opened := fun _ => ⟨closable.eventId, closable.generation, closable.domain,
            closable.start⟩ }
  · split
    · next isOpen =>
      have closable := storable.opened isOpen
      have closed := closed_valid closable (forward _ closable.start)
        (state.assess domain).state
      have history : ∀ episode ∈ domain.episodes ++
          [{ domain.currentEpisode with
            endMs := now
            outcome := (state.assess domain).state
            isOpen := false }], episode.Bounded ∧ episode.valid = true := by
        intro episode member
        rcases List.mem_append.mp member with earlier | last
        · exact storable.history episode earlier
        · rw [List.mem_singleton.mp last]
          exact ⟨⟨storable.checks.current.trigger, storable.checks.current.affectedFlows⟩, closed⟩
      exact
        { storable with
          checks := { storable.checks with
            stateProvenance := provenance
            current := blank_bounded }
          history := fun episode member => history episode (by
            revert member
            dsimp only
            split
            · exact List.mem_of_mem_tail
            · exact fun member => member)
          opened := fun isOpen => absurd isOpen Bool.false_ne_true }
    · exact { storable with checks := { storable.checks with stateProvenance := provenance } }

end Domain

/-! ## Arguments -/

/-- The four rates of a profile, with a check of each. -/
def CapacityProfile.allRates (check : Rate Binary64 → Bool) (profile : CapacityProfile Binary64) :
    Bool :=
  check profile.theoretical && check profile.configured && check profile.measuredService &&
    check profile.reserved

theorem CapacityProfile.Loadable.enumerated {profile : CapacityProfile Binary64}
    (loadable : profile.Loadable) :
    profile.allRates (fun rate => rate.kind.valid && rate.provenance.valid) = true := by
  simp only [CapacityProfile.allRates, Bool.and_eq_true]
  exact ⟨⟨⟨⟨loadable.theoretical.kind, loadable.theoretical.provenance⟩,
    loadable.configured.kind, loadable.configured.provenance⟩,
    loadable.measuredService.kind, loadable.measuredService.provenance⟩,
    loadable.reserved.kind, loadable.reserved.provenance⟩

/-- The enumerators among the arguments are in range. -/
def Op.inRange : Op Binary64 → Bool
  | .createDomain kind capacity =>
      kind.valid && capacity.allRates fun rate => rate.kind.valid && rate.provenance.valid
  | .declareFlow options => options.trafficClass.valid && options.provenance.valid
  | .publishMeasurement _ measurement _ _ => measurement.provenance.valid
  | _ => true

/-- What the operation takes over is what the loader will accept: rates are
finite and not negative also where they are UNKNOWN, a flow's fairness is valid
and its description short, and no counter has wrapped to zero. -/
def Op.storable (limits : EngineLimits) (state : Impl Binary64) : Op Binary64 → Bool
  | .createDomain _ capacity => !state.creatable limits capacity ||
      capacity.allRates Rate.isFiniteNonneg && state.nextDomain != 0
  | .declareFlow options => !decide (Declarable limits options state) ||
      options.fairness.valid && decide (options.description.length ≤ maxStringBytes) &&
        state.nextFlow != 0
  | .recomputeDomain id => (state.domains.find? id).all fun domain =>
      !state.opensEpisode domain || state.nextEvent != 0
  | _ => true

/-! ## The engine -/

/-- Sizes apart, the loader accepts what `save` writes, now and after whatever
may follow. -/
structure Impl.Storable (past : UInt64 → Prop) (state : Impl Binary64) : Prop where
  epoch : state.epoch.value ≠ 0
  workerBoot : ∀ id boot, state.workerBoot.find? id = some boot → id.value ≠ 0 ∧ boot.value ≠ 0
  sourceBoot : ∀ id boot, state.sourceBoot.find? id = some boot → id.value ≠ 0 ∧ boot.value ≠ 0
  domains : ∀ id domain, state.domains.find? id = some domain → domain.Storable past id
  flows : ∀ id flow, state.flows.find? id = some flow → flow.Loadable id

theorem Impl.storable_fresh (past : UInt64 → Prop) : Impl.fresh.Storable past := by
  have first : (1 : UInt64) ≠ 0 := by decide
  refine ⟨first, ?_, ?_, ?_, ?_⟩ <;> intro id entry stored <;> simp [Impl.fresh] at stored

theorem Impl.Storable.mono {past later : UInt64 → Prop} {state : Impl Binary64}
    (storable : state.Storable past) (grows : ∀ time, past time → later time) :
    state.Storable later :=
  { storable with
    domains := fun id domain stored => (storable.domains id domain stored).mono grows }

section Boots

variable {Tag BootTag : Type} {table : UnorderedMap (Id Tag) (Generation BootTag)}

private theorem registerBoot_nonzero
    (nonzero : ∀ id boot, table.find? id = some boot → id.value ≠ 0 ∧ boot.value ≠ 0)
    (worker : Id Tag) (newBoot : Generation BootTag) :
    ∀ id boot, (registerBoot table worker newBoot).2.find? id = some boot →
      id.value ≠ 0 ∧ boot.value ≠ 0 := by
  intro id boot stored
  rw [registerBoot_find?] at stored
  split_ifs at stored with recorded
  · obtain ⟨accepted, rfl⟩ := recorded
    obtain ⟨idNonzero, bootNonzero, -⟩ := registerBoot_accepted.mp accepted
    rw [← Option.some.inj stored]
    exact ⟨idNonzero, bootNonzero⟩
  · exact nonzero id boot stored

private theorem fenceBoot_nonzero
    (nonzero : ∀ id boot, table.find? id = some boot → id.value ≠ 0 ∧ boot.value ≠ 0)
    (worker : Id Tag) (deadBoot : Generation BootTag) :
    ∀ id boot, ((fenceBoot table worker deadBoot).getD table).find? id = some boot →
      id.value ≠ 0 ∧ boot.value ≠ 0 := by
  intro id boot stored
  rw [fenceBoot_find?] at stored
  split_ifs at stored with bumped
  · obtain ⟨⟨idNonzero, recorded⟩, rfl⟩ := bumped
    have valid := Generation.isValid_eq_true.mpr (nonzero id deadBoot recorded).2
    rw [← Option.some.inj stored]
    exact ⟨idNonzero, Generation.isValid_eq_true.mp (Generation.next_isValid valid)⟩
  · exact nonzero id boot stored

end Boots

section Call

variable {past : UInt64 → Prop} {limits : EngineLimits} {now : UInt64} {op : Op Binary64}
  {state : Impl Binary64}

private theorem exec_epoch (nonzero : state.epoch.value ≠ 0) :
    (exec limits now op state).2.epoch.value ≠ 0 := by
  by_cases oneFlow : op.onOneFlow = true
  · have same : (exec limits now op state).2.outer.epoch = state.outer.epoch := by
      rw [exec_outer oneFlow]
    change (exec limits now op state).2.epoch = state.epoch at same
    rw [same]
    exact nonzero
  · cases op with
    | advanceEpoch next =>
        simp only [exec, Prod.map_snd, id_eq, Impl.advanceEpoch]
        split_ifs with refused
        · exact nonzero
        · rw [Bool.or_eq_true, not_or, Bool.not_eq_true', Bool.not_eq_false] at refused
          exact Generation.isValid_eq_true.mp refused.1
    | fenceWorker worker deadBoot =>
        simp only [exec, Prod.map_snd, id_eq, Impl.fenceWorker]
        split <;> exact nonzero
    | fenceSource source deadBoot =>
        simp only [exec, Prod.map_snd, id_eq, Impl.fenceSource]
        split <;> exact nonzero
    | declareFlow options =>
        simp only [exec, Prod.map_snd, id_eq, Impl.declareFlow]
        split_ifs <;> exact nonzero
    | createDomain kind capacity =>
        simp only [exec, Prod.map_snd, id_eq, Impl.createDomain]
        split_ifs <;> exact nonzero
    | removeDomain domain =>
        simp only [exec, Prod.map_snd, id_eq, Impl.removeDomain]
        split <;> exact nonzero
    | publishMeasurement domain measurement owner ownerBoot =>
        simp only [exec, Prod.map_snd, id_eq, Impl.publishMeasurement]
        cases state.domains.find? domain <;> split_ifs <;> exact nonzero
    | recomputeDomain domain =>
        simp only [exec, Prod.map_snd, id_eq, Impl.recomputeDomain]
        split <;> exact nonzero
    | applyLocalShaping domain action =>
        simp only [exec, Prod.map_snd, id_eq, Impl.applyLocalShaping]
        cases state.domains.find? domain <;> split_ifs <;> exact nonzero
    | registerWorker worker boot => exact nonzero
    | registerSource source boot => exact nonzero
    | recoverDynamicEvidence => exact nonzero
    | _ => exact absurd rfl oneFlow

private theorem loadable_of_allRates {capacity : CapacityProfile Binary64}
    (range : capacity.allRates (fun rate => rate.kind.valid && rate.provenance.valid) = true)
    (finite : capacity.allRates Rate.isFiniteNonneg = true) (valid : capacity.valid = true) :
    capacity.Loadable := by
  simp only [CapacityProfile.allRates, Bool.and_eq_true] at range finite
  obtain ⟨⟨⟨theoretical, configured⟩, measured⟩, reserved⟩ := range
  obtain ⟨⟨⟨theoreticalFinite, configuredFinite⟩, measuredFinite⟩, reservedFinite⟩ := finite
  exact
    { theoretical := ⟨theoretical.1, theoretical.2, theoreticalFinite⟩
      configured := ⟨configured.1, configured.2, configuredFinite⟩
      measuredService := ⟨measured.1, measured.2, measuredFinite⟩
      reserved := ⟨reserved.1, reserved.2, reservedFinite⟩
      valid := valid }

private theorem newDomain_storable {id : CongestionDomainId} {kind : Enum8 DomainKind}
    {capacity : CapacityProfile Binary64} (key : id.value ≠ 0) (kindValid : kind.valid = true)
    (loadable : capacity.Loadable) : (Impl.newDomain id kind capacity).Storable past id := by
  have fairness : ({} : FairnessConfig Binary64).valid = true := by decide
  have shaping : shapingValid ({} : TokenBucket Binary64).rate
      ({} : TokenBucket Binary64).capacity = true := by decide
  have zero : Arithmetic.isFinite (0.0 : Binary64) = true := by decide
  exact
    { checks :=
        { key := key
          ref := rfl
          kind := kindValid
          capacity := loadable
          stateProvenance := rfl
          fairnessModel := rfl
          fairness := fairness
          shaping := shaping
          offeredProvenance := rfl
          admittedProvenance := rfl
          servicedProvenance := rfl
          utilisationProvenance := rfl
          effectiveProvenance := rfl
          residualProvenance := rfl
          flows := Nat.zero_le _
          episodes := Nat.zero_le _
          history := fun _ member => absurd member List.not_mem_nil
          current := blank_bounded }
      history := fun _ member => absurd member List.not_mem_nil
      opened := fun isOpen => absurd isOpen Bool.false_ne_true
      service := Or.inr zero }

/-- A call with arguments that can be stored, no earlier than what was seen. -/
theorem Impl.Storable.exec (storable : state.Storable past) (sound : state.WellAccounted)
    (range : op.inRange = true) (met : op.storable limits state = true) (present : past now)
    (forward : ∀ time, past time → time ≤ now) :
    (exec limits now op state).2.Storable past := by
  obtain ⟨workers, sources⟩ := exec_tables limits now op state
  refine ⟨exec_epoch storable.epoch, ?_, ?_, ?_, ?_⟩
  · rw [workers]
    cases op with
    | registerWorker worker boot => exact registerBoot_nonzero storable.workerBoot worker boot
    | fenceWorker worker deadBoot => exact fenceBoot_nonzero storable.workerBoot worker deadBoot
    | _ => exact storable.workerBoot
  · rw [sources]
    cases op with
    | registerSource source boot => exact registerBoot_nonzero storable.sourceBoot source boot
    | fenceSource source deadBoot => exact fenceBoot_nonzero storable.sourceBoot source deadBoot
    | _ => exact storable.sourceBoot
  · intro id after stored
    obtain ⟨domain, invalidated, found, -, rfl⟩ | ⟨kind, capacity, rfl, allowed, -, rfl, rfl⟩ :=
      exec_domain_origin stored
    · have before := storable.domains id domain found
      apply domainAfter_elim (motive := fun after => after.Storable past id)
      case same => exact before
      case fenceWorker => exact fun worker deadBoot _ _ => before.dropEvidence worker deadBoot _
      case admission => exact fun _ _ _ => { before with checks := { before.checks with } }
      case start => exact fun _ _ _ _ => before.clearRevalidation
      case publish =>
        rintro measurement owner ownerBoot rfl allowed
        have valid := (Bool.and_eq_true_iff.mp allowed).1
        exact before.record valid range owner ownerBoot
      case recompute =>
        rintro rfl
        apply before.recomputed _ present forward
        intro opens
        simpa [Op.storable, found, opens] using met
      case shape => exact fun action _ _ => before.shape action.generation
      case recover => exact fun _ => before.requireRevalidation
    · obtain ⟨kindValid, rates⟩ := Bool.and_eq_true_iff.mp range
      simp only [Op.storable, allowed, Bool.not_true, Bool.false_or, Bool.and_eq_true,
        bne_iff_ne] at met
      have valid := (Bool.and_eq_true_iff.mp allowed).2
      exact newDomain_storable met.2 kindValid (loadable_of_allRates rates met.1 valid)
  · intro id after stored
    have accounting := ((sound.step (.call state now op)) id after stored).accounting
    obtain ⟨flow, found, rfl⟩ | ⟨options, rfl, allowed, -, rfl, rfl⟩ := exec_flow_origin stored
    · have before := storable.flows id flow found
      have same := flowAfter_sameOrigin limits now op state id flow
      exact
        { key := before.key
          ref := same.id.trans before.ref
          trafficClass := by rw [same.trafficClass]; exact before.trafficClass
          accounting := accounting
          fairness := by rw [same.fairness]; exact before.fairness
          provenance := by rw [same.provenance]; exact before.provenance
          description := by rw [same.description]; exact before.description }
    · obtain ⟨trafficClass, provenance⟩ := Bool.and_eq_true_iff.mp range
      simp only [Op.storable, allowed, decide_true, Bool.not_true, Bool.false_or,
        Bool.and_eq_true, bne_iff_ne, decide_eq_true_eq] at met
      obtain ⟨⟨fairness, description⟩, key⟩ := met
      exact ⟨key, rfl, trafficClass, accounting, fairness, provenance, description⟩

end Call

/-! ## Files -/

/-- The domains of a file that decodes. -/
def loadedDomains (file : Option Bytes) : List (CongestionDomain Binary64) :=
  ((file.bind Impl.decode).map fun persisted => persisted.domains.entries.map Prod.snd).getD []

/-- What the loader does not check of a domain: that shaping has a finite rate
to start from, and that an open episode is named, so that it is valid when it is
closed. -/
def CongestionDomain.resumable (domain : CongestionDomain Binary64) : Bool :=
  (domain.capacity.effective.isSome || Arithmetic.isFinite domain.servicedBps) &&
    (!domain.currentEpisode.isOpen || domain.currentEpisode.eventId.isValid &&
      domain.currentEpisode.generation.isValid && domain.currentEpisode.domain.id.isValid)

/-- The times an event brings in: its own, or those at which the episodes that a
file holds open were opened. -/
def Event.times : Event → List UInt64
  | .engine (.call now _) => [now]
  | .engine .rehash => []
  | .load file => ((loadedDomains file).filter fun domain => domain.currentEpisode.isOpen).map
      fun domain => domain.currentEpisode.startMs

def Event.inRange : Event → Bool
  | .engine (.call _ op) => op.inRange
  | _ => true

/-- The clock of a call is not behind any time seen before. -/
def Event.clockForward (history : List (Impl Binary64 × Event)) : Event → Bool
  | .engine (.call now _) => history.all fun taken => taken.2.times.all fun time => time ≤ now
  | _ => true

def Event.storable (limits : EngineLimits) (state : Impl Binary64) : Event → Bool
  | .engine (.call _ op) => op.storable limits state
  | .engine .rehash => true
  | .load file => (loadedDomains file).all CongestionDomain.resumable

private theorem storable_of_resumable {past : UInt64 → Prop} {id : CongestionDomainId}
    {domain : CongestionDomain Binary64} (loadable : domain.Loadable id)
    (resumable : domain.resumable = true)
    (start : domain.currentEpisode.isOpen = true → past domain.currentEpisode.startMs) :
    domain.Storable past id := by
  simp only [CongestionDomain.resumable, Bool.and_eq_true, Bool.or_eq_true, Bool.not_eq_true']
    at resumable
  obtain ⟨service, named⟩ := resumable
  refine
    { checks := { loadable with
        flows := Nat.zero_le _
        episodes := Nat.zero_le _
        history := fun _ member => absurd member List.not_mem_nil }
      history := loadable.history
      opened := fun isOpen => ?_
      service := service }
  rcases named with closed | ⟨⟨event, generation⟩, domainId⟩
  · rw [closed] at isOpen
    exact absurd isOpen Bool.false_ne_true
  · exact ⟨Id.isValid_eq_true.mp event, Generation.isValid_eq_true.mp generation,
      Id.isValid_eq_true.mp domainId, start isOpen⟩

private theorem requireRevalidation_loadable {id : FlowId} {flow : Flow Binary64}
    (loadable : flow.Loadable id) : flow.requireRevalidation.Loadable id := by
  unfold Flow.requireRevalidation
  split
  · exact { loadable with accounting := loadable.accounting }
  · exact loadable

/-- A load of any file: what the loader checked is stored as it was read. -/
theorem Impl.Storable.load {past : UInt64 → Prop} {state : Impl Binary64}
    (storable : state.Storable past) {file : Option Bytes}
    (resumable : (loadedDomains file).all CongestionDomain.resumable = true)
    (times : ∀ time ∈ (Event.load file).times, past time) :
    (state.load file).2.Storable past := by
  rcases Impl.load_cases file state with refused | ⟨bytes, persisted, rfl, decoded, accepted⟩
  · rw [refused]
    exact storable
  · obtain ⟨epoch, workerBoot, sourceBoot, domains, flows⟩ := checked_of_decode decoded
    rw [accepted]
    refine ⟨epoch, workerBoot, sourceBoot, ?_, ?_⟩
    · intro id after stored
      obtain ⟨domain, found, rfl⟩ := Impl.committed_domain_iff.mp stored
      have member : domain ∈ loadedDomains (some bytes) := by
        simp only [loadedDomains, Option.bind_some, decoded, Option.map_some, Option.getD_some]
        exact List.mem_map_of_mem (UnorderedMap.mem_entries_iff.mpr found)
      have loaded : domain.Storable past id := by
        apply storable_of_resumable (domains id domain found)
        · exact List.all_eq_true.mp resumable domain member
        · intro isOpen
          apply times
          exact List.mem_map_of_mem (List.mem_filter.mpr ⟨member, isOpen⟩)
      exact loaded.requireRevalidation
    · intro id after stored
      obtain ⟨flow, found, rfl⟩ := Impl.committed_flow_iff.mp stored
      exact requireRevalidation_loadable (flows id flow found)

theorem Impl.Storable.reordered {past : UInt64 → Prop} {state next : Impl Binary64}
    (storable : state.Storable past) (same : state.Reordered next) : next.Storable past := by
  refine ⟨?_, ?_, ?_, ?_, ?_⟩
  · have epoch : state.epoch = next.epoch := by rw [same.rest]
    rw [← epoch]
    exact storable.epoch
  · simpa only [same.workerBoot.find?_eq] using storable.workerBoot
  · simpa only [same.sourceBoot.find?_eq] using storable.sourceBoot
  · simpa only [same.domains.find?_eq] using storable.domains
  · simpa only [same.flows.find?_eq] using storable.flows

/-! ## Runs -/

/-- The sizes the loader allows. -/
@[mk_iff] structure Impl.Fits (state : Impl Binary64) : Prop where
  workers : state.workerBoot.size ≤ maxCollectionCount
  sources : state.sourceBoot.size ≤ maxCollectionCount
  domains : state.domains.size ≤ maxCollectionCount
  flows : state.flows.size ≤ maxCollectionCount
  lists : ∀ entry ∈ state.domains.entries,
    entry.2.flows.length ≤ maxCollectionCount ∧ entry.2.episodes.length ≤ maxCollectionCount
  file : (saveBytes state).length ≤ 2 ^ 30

instance (state : Impl Binary64) : Decidable state.Fits :=
  decidable_of_iff _ (Impl.fits_iff state).symm

theorem Impl.Storable.loadable {past : UInt64 → Prop} {state : Impl Binary64}
    (storable : state.Storable past) (fits : state.Fits) : state.Loadable where
  epoch := storable.epoch
  workerBoot := ⟨fits.workers, fun _ member =>
    storable.workerBoot _ _ (UnorderedMap.mem_entries_iff.mp member)⟩
  sourceBoot := ⟨fits.sources, fun _ member =>
    storable.sourceBoot _ _ (UnorderedMap.mem_entries_iff.mp member)⟩
  domainCount := fits.domains
  domains := fun entry member =>
    (storable.domains _ _ (UnorderedMap.mem_entries_iff.mp member)).loadable
      (fits.lists entry member).1 (fits.lists entry member).2
  flowCount := fits.flows
  flows := fun _ member => storable.flows _ _ (UnorderedMap.mem_entries_iff.mp member)
  fileSize := fits.file

/-- The times a run has seen. -/
private def seen (history : List (Impl Binary64 × Event)) (time : UInt64) : Prop :=
  ∃ taken ∈ history, time ∈ taken.2.times

private theorem seen_snoc {history : List (Impl Binary64 × Event)} {state : Impl Binary64}
    {event : Event} {time : UInt64} :
    seen (history ++ [(state, event)]) time ↔ seen history time ∨ time ∈ event.times := by
  simp [seen, or_and_right, exists_or]

private theorem Impl.Storable.fileStep {limits : EngineLimits} {state next : Impl Binary64}
    {history : List (Impl Binary64 × Event)} {event : Event}
    (storable : state.Storable (seen history)) (sound : state.WellAccounted)
    (taken : FileStep limits state event next) (range : event.inRange = true)
    (clock : event.clockForward history = true) (met : event.storable limits state = true) :
    next.Storable (seen (history ++ [(state, event)])) := by
  have later := storable.mono fun time earlier =>
    (seen_snoc.mpr (Or.inl earlier) : seen (history ++ [(state, event)]) time)
  cases taken with
  | engine step =>
      cases step with
      | call now op =>
          apply later.exec sound range met
          · exact seen_snoc.mpr (Or.inr (List.mem_singleton_self now))
          · intro time earlier
            rcases seen_snoc.mp earlier with ⟨taken, member, brought⟩ | here
            · have before := List.all_eq_true.mp clock taken member
              exact of_decide_eq_true (List.all_eq_true.mp before time brought)
            · rw [List.mem_singleton.mp here]
              exact UInt64.le_refl now
      | rehash same => exact later.reordered same
  | load file =>
      exact later.load met fun time brought => seen_snoc.mpr (Or.inr brought)

/-- Whatever the interleaving of operations, reorderings and loads, if every
accepted rate, flow and file is one that can be stored, the engine that is
reached can be restored from its file, as long as the file keeps to the loader's
sizes. -/
theorem restorable_of_run {limits : EngineLimits} {history : List (Impl Binary64 × Event)}
    {final : Impl Binary64} (run : Run (FileStep limits) Impl.fresh history final)
    (range : EveryStep history fun _ _ event => event.inRange = true)
    (clock : EveryStep history fun earlier _ event => event.clockForward earlier = true)
    (met : EveryStep history fun _ state event => event.storable limits state = true)
    (fits : final.Fits) (target : Impl Binary64) :
    (target.load (some (saveBytes final))).1 = true := by
  have conditions : EveryStep history fun earlier state event => event.inRange = true ∧
      event.clockForward earlier = true ∧ event.storable limits state = true :=
    fun before state label after split => ⟨range before state label after split,
      clock before state label after split, met before state label after split⟩
  have reached := run.invariant_of_everyStep
    (fun history state => state.Storable (seen history) ∧ state.WellAccounted)
    ⟨Impl.storable_fresh _, Impl.wellAccounted_fresh⟩
    (fun kept met taken =>
      ⟨kept.1.fileStep kept.2 taken met.1 met.2.1 met.2.2,
        kept.2.fileStep taken⟩)
    conditions
  rw [load_of_decode (decode_saveBytes (reached.1.loadable fits)) target]

private def restoredOptions (weight : Binary64) : FlowOptions Binary64 :=
  { FlowOptions.ofFirst 100 with
    fairness := { weight := weight }
    description := ascii "bulk" }

/-- A worker, a source, a domain and an admitted flow with the given weight. -/
private def admittedWith (weight : Binary64) : List Event :=
  [.engine (.call 1 (.registerWorker ⟨1⟩ ⟨1⟩)), .engine (.call 1 (.registerSource ⟨1⟩ ⟨1⟩)),
    .engine (.call 1 (.createDomain DomainKind.nicTx (.ofTheoretical 1000.0))),
    .engine (.call 2 (.declareFlow (restoredOptions weight))),
    .engine (.call 3 (.admitFlow ⟨⟨1⟩, ⟨1⟩⟩))]

/-- An episode opens, the engine is saved and restarted from the file, and the
episode is closed and the domain shaped. -/
private def acrossRestart : List Event :=
  let congested := admittedWith 1.0 ++
    [.engine (.call 4 (.publishMeasurement ⟨1⟩
        { kind := MeasurementKind.offeredBytesPerSec, value := 2000.0 } ⟨1⟩ ⟨1⟩)),
      .engine (.call 5 (.recomputeDomain ⟨1⟩))]
  congested ++
    [.load (some (saveBytes (follow (fun state event => event.next {} state) congested
        Impl.fresh))),
      .engine (.call 6 (.publishMeasurement ⟨1⟩
        { kind := MeasurementKind.offeredBytesPerSec, value := 10.0 } ⟨1⟩ ⟨1⟩)),
      .engine (.call 7 (.recomputeDomain ⟨1⟩)),
      .engine (.call 8 (.applyLocalShaping ⟨1⟩
        { intent := ActionIntent.throttle }))]

theorem acrossRestart_restorable :
    (Impl.fresh.load (some (saveBytes (follow (fun state event => event.next {} state)
      acrossRestart Impl.fresh)))).1 = true := by
  -- One evaluation of the run answers all four conditions.
  have conditions :
      EveryStep (followed (fun state event => event.next {} state) acrossRestart Impl.fresh)
          (fun _ _ event => event.inRange = true) ∧
        EveryStep (followed (fun state event => event.next {} state) acrossRestart Impl.fresh)
          (fun earlier _ event => event.clockForward earlier = true) ∧
        EveryStep (followed (fun state event => event.next {} state) acrossRestart Impl.fresh)
          (fun _ state event => event.storable {} state = true) ∧
        (follow (fun state event => event.next {} state) acrossRestart Impl.fresh).Fits := by
    decide +kernel
  obtain ⟨range, clock, met, fits⟩ := conditions
  exact restorable_of_run (run_follow (fileStep_next {}) acrossRestart Run.nil) range clock met fits
    Impl.fresh

private def Event.succeeds (limits : EngineLimits) (state : Impl Binary64) : Event → Bool
  | .engine (.call now op) => !(exec limits now op state).1.failed
  | .engine .rehash => true
  | .load file => (state.load file).1

/-- `declare_flow` accepts a flow of weight zero, and the loader then refuses
the whole file. -/
theorem zeroWeight_not_restorable :
    ¬∀ (limits : EngineLimits) (history : List (Impl Binary64 × Event)) (final : Impl Binary64),
      Run (FileStep limits) Impl.fresh history final →
        EveryStep history (fun _ state event => event.succeeds limits state = true) →
        EveryStep history (fun _ _ event => event.inRange = true) →
        EveryStep history (fun earlier _ event => event.clockForward earlier = true) →
          (Impl.fresh.load (some (saveBytes final))).1 = true := by
  intro always
  have accepted := always {} _ _ (run_follow (fileStep_next {}) (admittedWith 0.0) Run.nil)
    (by decide +kernel) (by decide +kernel) (by decide +kernel)
  exact absurd accepted (by decide +kernel)

end CongestionFabric
