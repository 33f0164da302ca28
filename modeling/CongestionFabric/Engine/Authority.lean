import CongestionFabric.Engine.State

/-!
Contract: epochs, boot tables, fences, and the creation and removal of domains
(`advance_epoch` to `remove_domain` of `engine.cpp`).

Owns the operations themselves, one law per operation on a boot table, and what
a fence does to a single flow and to a single domain.

Does not own: flow operations and measurements.
-/

namespace CongestionFabric

open Foundation

/-! ## Boot tables

The worker and the source table follow the same rules, so each rule is written
once over the tags of the table. -/

section BootTable

variable {Tag BootTag : Type}

/-- The body of `register_worker` and `register_source`: a boot must be newer
than the recorded one. -/
def registerBoot (table : UnorderedMap (Id Tag) (Generation BootTag)) (id : Id Tag)
    (boot : Generation BootTag) : Bool × UnorderedMap (Id Tag) (Generation BootTag) :=
  if !id.isValid || !boot.isValid then (false, table)
  else
    match table.find? id with
    | some current =>
        if current.value ≥ boot.value then (false, table) else (true, table.insert id boot)
    | none => (true, table.insert id boot)

/-- The guards and the bump that open `fence_worker` and `fence_source`; `none`
where the fence is refused. -/
def fenceBoot (table : UnorderedMap (Id Tag) (Generation BootTag)) (id : Id Tag)
    (deadBoot : Generation BootTag) : Option (UnorderedMap (Id Tag) (Generation BootTag)) :=
  if !id.isValid then none
  else
    match table.find? id with
    | none => none
    | some current => if current ≠ deadBoot then none else some (table.modify id current.next)

variable {table after : UnorderedMap (Id Tag) (Generation BootTag)} {id : Id Tag}
  {boot : Generation BootTag}

/-- A registration is accepted exactly when identity and boot are valid and the
boot is newer than the recorded one. -/
theorem registerBoot_accepted :
    (registerBoot table id boot).1 = true ↔ id.value ≠ 0 ∧ boot.value ≠ 0 ∧
      ∀ current, table.find? id = some current → current.value < boot.value := by
  unfold registerBoot
  cases idValid : id.isValid with
  | false =>
      have zero : id.value = 0 := by simpa [Id.isValid] using idValid
      simp [zero]
  | true =>
      have idNonzero := Id.isValid_eq_true.mp idValid
      cases bootValid : boot.isValid with
      | false =>
          have zero : boot.value = 0 := by simpa [Generation.isValid] using bootValid
          simp [zero]
      | true =>
          have bootNonzero := Generation.isValid_eq_true.mp bootValid
          cases found : table.find? id with
          | none => simp [idNonzero, bootNonzero]
          | some current =>
              by_cases older : boot.value ≤ current.value
              · simp [older]
              · simp [idNonzero, bootNonzero, older, UInt64.not_le.mp older]

/-- An accepted registration records the boot; a refused one changes nothing. -/
theorem registerBoot_table :
    (registerBoot table id boot).2 =
      if (registerBoot table id boot).1 then table.insert id boot else table := by
  unfold registerBoot
  split
  · rfl
  · split
    · split <;> rfl
    · rfl

/-- After a registration the table answers as before, except for the accepted
boot. -/
theorem registerBoot_find? (other : Id Tag) :
    (registerBoot table id boot).2.find? other =
      if (registerBoot table id boot).1 = true ∧ other = id then some boot
      else table.find? other := by
  rw [registerBoot_table]
  by_cases accepted : (registerBoot table id boot).1 = true
  · simp [accepted]
  · simp [accepted]

/-- Only a refused registration leaves the table as it is. -/
theorem registerBoot_eq_self_iff :
    (registerBoot table id boot).2 = table ↔ (registerBoot table id boot).1 = false := by
  rw [registerBoot_table]
  cases accepted : (registerBoot table id boot).1 with
  | false => simp
  | true =>
      simp only [if_true, Bool.true_eq_false, iff_false]
      intro same
      have recorded : table.find? id = some boot := by
        rw [← same, UnorderedMap.find?_insert, if_pos rfl]
      obtain ⟨-, -, newer⟩ := registerBoot_accepted.mp accepted
      exact absurd (newer boot recorded) (UInt64.lt_irrefl _)

/-- A fence succeeds exactly on the recorded boot, which it bumps. -/
theorem fenceBoot_eq_some :
    fenceBoot table id boot = some after ↔
      id.value ≠ 0 ∧ table.find? id = some boot ∧ after = table.modify id boot.next := by
  unfold fenceBoot
  cases idValid : id.isValid with
  | false =>
      have zero : id.value = 0 := by simpa [Id.isValid] using idValid
      simp [zero]
  | true =>
      have idNonzero := Id.isValid_eq_true.mp idValid
      cases found : table.find? id with
      | none => simp
      | some current =>
          by_cases recorded : current = boot
          · subst recorded
            simp [idNonzero, eq_comm]
          · simp [recorded]

/-- The guards of a fence. -/
theorem fenceBoot_isSome :
    (fenceBoot table id boot).isSome = true ↔ id.value ≠ 0 ∧ table.find? id = some boot := by
  rw [Option.isSome_iff_exists]
  constructor
  · rintro ⟨after, fenced⟩
    obtain ⟨nonzero, current, -⟩ := fenceBoot_eq_some.mp fenced
    exact ⟨nonzero, current⟩
  · rintro ⟨nonzero, current⟩
    exact ⟨_, fenceBoot_eq_some.mpr ⟨nonzero, current, rfl⟩⟩

/-- After a fence the table answers as before, except for the bumped boot. -/
theorem fenceBoot_find? (other : Id Tag) :
    ((fenceBoot table id boot).getD table).find? other =
      if (id.value ≠ 0 ∧ table.find? id = some boot) ∧ other = id then some boot.next
      else table.find? other := by
  cases fenced : fenceBoot table id boot with
  | none =>
      rw [Option.getD_none, if_neg]
      rintro ⟨⟨nonzero, recorded⟩, -⟩
      rw [fenceBoot_eq_some.mpr ⟨nonzero, recorded, rfl⟩] at fenced
      exact absurd fenced (by simp)
  | some bumped =>
      obtain ⟨nonzero, recorded, rfl⟩ := fenceBoot_eq_some.mp fenced
      by_cases here : other = id
      · simp [here, nonzero, recorded]
      · simp [here]

end BootTable

variable {R : Type} [Arithmetic R]

/-! ## What a fence does to one flow and to one domain -/

/-- A live flow of the dead owner becomes STALE; nothing else changes. -/
def Flow.fence (flow : Flow R) (owned : Bool) : Flow R :=
  if owned && !flow.isTerminal && !flow.state.isStaleOrSuperseded then
    { flow with state := .stale }
  else
    flow

/-- The offered rate of the domain was published by this boot of the worker. -/
def CongestionDomain.ownsOffered (worker : WorkerId) (boot : WorkerBootId)
    (domain : CongestionDomain R) : Bool :=
  domain.offeredOwner.isValid && domain.offeredOwner = worker && domain.offeredOwnerBoot = boot

/-- The serviced rate of the domain was published by this boot of the worker. -/
def CongestionDomain.ownsServiced (worker : WorkerId) (boot : WorkerBootId)
    (domain : CongestionDomain R) : Bool :=
  domain.servicedOwner.isValid && domain.servicedOwner = worker && domain.servicedOwnerBoot = boot

/-- The identity published the offered or the serviced rate of the domain. -/
def CongestionDomain.ratedBy (domain : CongestionDomain R) (identity : WorkerId × WorkerBootId) :
    Bool :=
  domain.ownsOffered identity.1 identity.2 || domain.ownsServiced identity.1 identity.2

/-- The body of the domain loop of `fence_worker`. The flag `any_invalidated` is
declared outside the loop, so once set it stays set for the domains that the
enumeration visits later. -/
def CongestionDomain.dropEvidence (worker : WorkerId) (deadBoot : WorkerBootId)
    (anyInvalidated : Bool) (domain : CongestionDomain R) : Bool × CongestionDomain R :=
  let ownsOffered := domain.ownsOffered worker deadBoot
  let ownsServiced := domain.ownsServiced worker deadBoot
  let domain := if ownsOffered then
      { domain with
        offeredBps := 0.0
        offeredProvenance := MeasurementProvenance.unknown
        offeredOwner := ⟨0⟩ }
    else domain
  let domain := if ownsServiced then
      { domain with
        servicedBps := 0.0
        servicedProvenance := MeasurementProvenance.unknown
        servicedOwner := ⟨0⟩ }
    else domain
  let anyInvalidated := anyInvalidated || ownsOffered || ownsServiced
  let domain := if anyInvalidated then
      { domain with queue := { domain.queue with generation := domain.queue.generation.next } }
    else domain
  let domain := if anyInvalidated && domain.state ≠ .unknown then
      { domain with
        state := .revalidationRequired
        stateProvenance := MeasurementProvenance.unknown }
    else domain
  (anyInvalidated, domain)

/-- The fields a fence of the worker resets, each under its condition. -/
theorem CongestionDomain.dropEvidence_eq (worker : WorkerId) (deadBoot : WorkerBootId)
    (invalidated : Bool) (domain : CongestionDomain R) :
    ∃ any : Bool, any = (invalidated || domain.ratedBy (worker, deadBoot)) ∧
      domain.dropEvidence worker deadBoot invalidated = (any, { domain with
        offeredBps := if domain.ownsOffered worker deadBoot then 0.0 else domain.offeredBps
        offeredProvenance := if domain.ownsOffered worker deadBoot then
          MeasurementProvenance.unknown else domain.offeredProvenance
        offeredOwner := if domain.ownsOffered worker deadBoot then ⟨0⟩ else domain.offeredOwner
        servicedBps := if domain.ownsServiced worker deadBoot then 0.0 else domain.servicedBps
        servicedProvenance := if domain.ownsServiced worker deadBoot then
          MeasurementProvenance.unknown else domain.servicedProvenance
        servicedOwner := if domain.ownsServiced worker deadBoot then ⟨0⟩ else domain.servicedOwner
        queue := if any then { generation := domain.queue.generation.next } else domain.queue
        state := if any && domain.state ≠ .unknown then .revalidationRequired else domain.state
        stateProvenance := if any && domain.state ≠ .unknown then
          MeasurementProvenance.unknown else domain.stateProvenance }) := by
  refine ⟨invalidated || domain.ownsOffered worker deadBoot ||
    domain.ownsServiced worker deadBoot, Bool.or_assoc .., ?_⟩
  -- Each conditional update of the record is one conditional value per field.
  have offered : ∀ (owns : Bool) (domain : CongestionDomain R), (if owns then
      { domain with
        offeredBps := 0.0
        offeredProvenance := MeasurementProvenance.unknown
        offeredOwner := ⟨0⟩ } else domain) = { domain with
      offeredBps := if owns then 0.0 else domain.offeredBps
      offeredProvenance :=
        if owns then MeasurementProvenance.unknown else domain.offeredProvenance
      offeredOwner := if owns then ⟨0⟩ else domain.offeredOwner } := by
    intro owns domain
    cases owns <;> rfl
  have serviced : ∀ (owns : Bool) (domain : CongestionDomain R), (if owns then
      { domain with
        servicedBps := 0.0
        servicedProvenance := MeasurementProvenance.unknown
        servicedOwner := ⟨0⟩ } else domain) = { domain with
      servicedBps := if owns then 0.0 else domain.servicedBps
      servicedProvenance :=
        if owns then MeasurementProvenance.unknown else domain.servicedProvenance
      servicedOwner := if owns then ⟨0⟩ else domain.servicedOwner } := by
    intro owns domain
    cases owns <;> rfl
  have queue : ∀ (any : Bool) (domain : CongestionDomain R), (if any then
      { domain with queue := { generation := domain.queue.generation.next } } else domain) =
      { domain with
        queue :=
          if any then { generation := domain.queue.generation.next } else domain.queue } := by
    intro any domain
    cases any <;> rfl
  have state : ∀ (reset : Bool) (domain : CongestionDomain R), (if reset then
      { domain with
        state := .revalidationRequired
        stateProvenance := MeasurementProvenance.unknown } else domain) = { domain with
      state := if reset then .revalidationRequired else domain.state
      stateProvenance :=
        if reset then MeasurementProvenance.unknown else domain.stateProvenance } := by
    intro reset domain
    cases reset <;> rfl
  unfold CongestionDomain.dropEvidence
  dsimp only
  rw [offered, serviced, queue, state]

/-! ## Operations -/

namespace Impl

/-- `advance_epoch`. -/
def advanceEpoch (next : CoordinatorEpoch) (state : Impl R) : Bool × Impl R :=
  if !next.isValid || next.value ≤ state.epoch.value then (false, state)
  else (true, { state with epoch := next })

/-- `register_worker`. -/
def registerWorker (worker : WorkerId) (boot : WorkerBootId) (state : Impl R) :
    Bool × Impl R :=
  ((registerBoot state.workerBoot worker boot).1,
    { state with workerBoot := (registerBoot state.workerBoot worker boot).2 })

/-- `register_source`. -/
def registerSource (source : SourceId) (boot : SourceBootId) (state : Impl R) :
    Bool × Impl R :=
  ((registerBoot state.sourceBoot source boot).1,
    { state with sourceBoot := (registerBoot state.sourceBoot source boot).2 })

/-- `fence_worker`. -/
def fenceWorker (worker : WorkerId) (deadBoot : WorkerBootId) (state : Impl R) :
    Bool × Impl R :=
  match fenceBoot state.workerBoot worker deadBoot with
  | none => (false, state)
  | some workerBoot =>
      (true, { state with
        workerBoot := workerBoot
        flows := state.flows.mapValues fun _ flow =>
          flow.fence (flow.ownerWorker = worker && flow.ownerBoot = deadBoot)
        domains := state.domains.mapAccumulate
          (fun anyInvalidated _ domain => domain.dropEvidence worker deadBoot anyInvalidated)
          false })

/-- `fence_source`. -/
def fenceSource (source : SourceId) (deadBoot : SourceBootId) (state : Impl R) :
    Bool × Impl R :=
  match fenceBoot state.sourceBoot source deadBoot with
  | none => (false, state)
  | some sourceBoot =>
      (true, { state with
        sourceBoot := sourceBoot
        flows := state.flows.mapValues fun _ flow =>
          flow.fence (flow.source = source && flow.sourceBoot = deadBoot) })

/-- The record `create_domain` builds. -/
def newDomain (id : CongestionDomainId) (kind : Enum8 DomainKind)
    (capacity : CapacityProfile R) : CongestionDomain R where
  ref := { id := id, generation := ⟨1⟩ }
  kind := kind
  capacity := capacity
  queue := { generation := ⟨1⟩ }
  residualBps := (capacity.residual 0.0).getD 0.0

/-- The part of `create_domain` after its checks: the identifier is taken from
the counter, and an identifier already in the map keeps its old record. -/
def storeDomain (kind : Enum8 DomainKind) (capacity : CapacityProfile R) (state : Impl R) :
    EntityRef CongestionDomainTag × Impl R :=
  let id : CongestionDomainId := ⟨state.nextDomain⟩
  let domains := state.domains.emplace id (newDomain id kind capacity)
  let ref := match domains.find? id with
    | some domain => domain.ref
    | none => {}
  (ref, { state with domains := domains, nextDomain := state.nextDomain + 1 })

/-- `create_domain`. -/
def createDomain (limits : EngineLimits) (kind : Enum8 DomainKind)
    (capacity : CapacityProfile R) (state : Impl R) :
    EntityRef CongestionDomainTag × Impl R :=
  if state.domains.size ≥ limits.maxDomains.toNat then ({}, state)
  else if !capacity.valid then ({}, state)
  else state.storeDomain kind capacity

/-- `remove_domain`. -/
def removeDomain (id : CongestionDomainId) (state : Impl R) : Bool × Impl R :=
  if state.domains.contains id then
    (true, { state with domains := state.domains.erase id })
  else
    (false, state)

end Impl

end CongestionFabric
