import CongestionFabric.Engine.FlowEffect

/-!
Contract: what one operation does to one domain.

Owns the record of an existing domain after every operation, where the domains
of a state come from, what no operation changes of a domain, and the case rule
that later arguments about domains use.

Does not own: what the changes mean for evidence, ownership or files.
-/

namespace CongestionFabric

open Foundation

variable {R : Type} [Arithmetic R]

/-! ## The record of a domain -/

/-- The reference names a flow of the domain, and its operation accepts it. -/
def Impl.reaches (state : Impl R) (ref : EntityRef FlowTag) (accepts : Flow R → Bool)
    (id : CongestionDomainId) : Bool :=
  (findFlow state.flows ref).any fun flow => accepts flow && flow.domain.id = id

/-- The record `recompute_domain` leaves, with the next event number. -/
def Impl.recomputed (limits : EngineLimits) (now : UInt64) (state : Impl R)
    (domain : CongestionDomain R) : UInt64 × CongestionDomain R :=
  { domain with
    state := (state.assess domain).state
    stateProvenance := (state.assess domain).provenance }.trackEpisode limits now
      (state.assess domain).state (aggregateDomain domain state.flows).queuedBytes state.nextEvent

/-- The publication passes the checks on the measurement and on its owner. -/
def Impl.publishable (state : Impl R) (measurement : Measurement R) (owner : WorkerId)
    (ownerBoot : WorkerBootId) : Bool :=
  measurement.valid && (!owner.isValid || state.workerBoot.find? owner = some ownerBoot)

/-- The record of an existing domain after an operation. `invalidated` is the
flag with which the domain loop of a worker fence arrives at the domain. -/
def domainAfter (limits : EngineLimits) (now : UInt64) (op : Op R) (state : Impl R)
    (invalidated : Bool) (id : CongestionDomainId) (domain : CongestionDomain R) :
    CongestionDomain R :=
  match op with
  | .fenceWorker worker deadBoot =>
      if (fenceBoot state.workerBoot worker deadBoot).isSome then
        (domain.dropEvidence worker deadBoot invalidated).2
      else domain
  | .admitFlow ref =>
      if state.reaches ref (fun flow => (flow.admission (state.domains.contains flow.domain.id)).1)
          id
      then { domain with flows := domain.flows ++ [ref] } else domain
  | .startFlow ref boot =>
      if state.reaches ref (fun flow => (flow.start now boot).1) id
      then domain.clearRevalidation else domain
  | .publishMeasurement target measurement owner ownerBoot =>
      if id = target && state.publishable measurement owner ownerBoot
      then domain.record measurement owner ownerBoot else domain
  | .recomputeDomain target =>
      if id = target then (state.recomputed limits now domain).2 else domain
  | .applyLocalShaping target action =>
      if id = target && action.valid && intentIsRestrictive action.intent then
        { domain with
          shaping := .full domain.allowedBps domain.allowedBps
          backpressureGeneration := action.generation }
      else domain
  | .recoverDynamicEvidence => domain.requireRevalidation
  | _ => domain

/-- The checks of `create_domain`. -/
def Impl.creatable (limits : EngineLimits) (capacity : CapacityProfile R) (state : Impl R) :
    Bool :=
  decide (state.domains.size < limits.maxDomains.toNat) && capacity.valid

variable {limits : EngineLimits} {now : UInt64} {op : Op R} {state : Impl R}
  {id : CongestionDomainId} {domain : CongestionDomain R} {invalidated : Bool}

theorem createDomain_of_creatable {kind : Enum8 DomainKind} {capacity : CapacityProfile R}
    (allowed : state.creatable limits capacity = true) :
    state.createDomain limits kind capacity = state.storeDomain kind capacity := by
  obtain ⟨room, valid⟩ := Bool.and_eq_true_iff.mp allowed
  have notFull := Nat.not_le.mpr (of_decide_eq_true room)
  simp [Impl.createDomain, notFull, valid]

theorem createDomain_of_not_creatable {kind : Enum8 DomainKind} {capacity : CapacityProfile R}
    (refused : state.creatable limits capacity = false) :
    state.createDomain limits kind capacity = ({}, state) := by
  unfold Impl.createDomain
  split_ifs with full invalid
  · rfl
  · rfl
  · rw [ge_iff_le, Nat.not_le] at full
    rw [Bool.not_eq_true', Bool.not_eq_false] at invalid
    simp [Impl.creatable, full, invalid] at refused

/-- A publication is accepted exactly for a domain in the map, if it passes the
other checks. -/
theorem publishMeasurement_accepted {measurement : Measurement R}
    {owner : WorkerId} {ownerBoot : WorkerBootId} :
    (state.publishMeasurement id measurement owner ownerBoot).1 = true ↔
      state.domains.contains id = true ∧ state.publishable measurement owner ownerBoot = true := by
  unfold Impl.publishMeasurement Impl.publishable UnorderedMap.contains
  cases measurement.valid with
  | false => simp
  | true =>
      cases found : state.domains.find? id with
      | none => simp
      | some domain =>
          by_cases owned : owner.isValid = true
          · by_cases current : state.workerBoot.find? owner = some ownerBoot <;>
              simp [owned, current]
          · simp [owned]

/-- An accepted publication has a meaning unless its kind byte is above the last
enumerator. -/
theorem CongestionDomain.record?_eq (measurement : Measurement R) (owner : WorkerId)
    (ownerBoot : WorkerBootId) (domain : CongestionDomain R) :
    domain.record? measurement owner ownerBoot =
      if measurement.valid && !measurement.kind.valid then none
      else some (domain.record measurement owner ownerBoot) := by
  have stored : (domain.record measurement owner ownerBoot).measurements =
      domain.measurements.put measurement := by
    unfold CongestionDomain.record
    rw [domain.clearRevalidation_eq]
    dsimp only
    split_ifs <;> rfl
  unfold CongestionDomain.record?
  rw [MeasurementSet.put?_eq, ← stored]
  split <;> rfl

theorem publishMeasurement?_eq (measurement : Measurement R) (owner : WorkerId)
    (ownerBoot : WorkerBootId) :
    state.publishMeasurement? id measurement owner ownerBoot =
      if state.domains.contains id && state.publishable measurement owner ownerBoot &&
        !measurement.kind.valid
      then none
      else some (state.publishMeasurement id measurement owner ownerBoot) := by
  unfold Impl.publishMeasurement? Impl.publishMeasurement Impl.publishable UnorderedMap.contains
  cases valid : measurement.valid with
  | false => simp
  | true =>
      cases found : state.domains.find? id with
      | none => simp
      | some domain =>
          simp only [domain.record?_eq, valid]
          by_cases owned : owner.isValid = true
          · by_cases current : state.workerBoot.find? owner = some ownerBoot <;>
              cases measurement.kind.valid <;> simp [owned, current]
          · cases measurement.kind.valid <;> simp [owned]

/-- The assessment decides the cached state; the episodes do not touch it. -/
theorem Impl.recomputed_eq (limits : EngineLimits) (now : UInt64) (state : Impl R)
    (domain : CongestionDomain R) :
    ∃ event episodes current, state.recomputed limits now domain = (event, { domain with
      state := (state.assess domain).state
      stateProvenance := (state.assess domain).provenance
      episodes := episodes
      currentEpisode := current }) :=
  CongestionDomain.trackEpisode_eq ..

theorem Impl.recomputed_state (limits : EngineLimits) (now : UInt64) (state : Impl R)
    (domain : CongestionDomain R) :
    (state.recomputed limits now domain).2.state = (state.assess domain).state := by
  obtain ⟨_, _, _, written⟩ := state.recomputed_eq limits now domain
  rw [written]

/-- What can have become of a domain: nothing, or the effect of the one
operation that reached it. -/
theorem domainAfter_elim {motive : CongestionDomain R → Prop} (same : motive domain)
    (fenceWorker : ∀ worker deadBoot, op = .fenceWorker worker deadBoot →
      (fenceBoot state.workerBoot worker deadBoot).isSome = true →
      motive (domain.dropEvidence worker deadBoot invalidated).2)
    (admission : ∀ ref, op = .admitFlow ref →
      state.reaches ref (fun flow => (flow.admission (state.domains.contains flow.domain.id)).1)
          id =
        true → motive { domain with flows := domain.flows ++ [ref] })
    (start : ∀ ref boot, op = .startFlow ref boot →
      state.reaches ref (fun flow => (flow.start now boot).1) id = true →
      motive domain.clearRevalidation)
    (publish : ∀ measurement owner ownerBoot,
      op = .publishMeasurement id measurement owner ownerBoot →
      state.publishable measurement owner ownerBoot = true →
      motive (domain.record measurement owner ownerBoot))
    (recompute : op = .recomputeDomain id → motive (state.recomputed limits now domain).2)
    (shape : ∀ action, op = .applyLocalShaping id action → action.valid = true →
      motive { domain with
        shaping := .full domain.allowedBps domain.allowedBps
        backpressureGeneration := action.generation })
    (recover : op = .recoverDynamicEvidence → motive domain.requireRevalidation) :
    motive (domainAfter limits now op state invalidated id domain) := by
  have branch : ∀ {condition : Prop} [Decidable condition] {record : CongestionDomain R},
      (condition → motive record) → motive (if condition then record else domain) := by
    intro condition _ record reached
    split
    · exact reached ‹_›
    · exact same
  unfold domainAfter
  cases op with
  | fenceWorker worker deadBoot => exact branch (fenceWorker _ _ rfl)
  | admitFlow ref => exact branch (admission _ rfl)
  | startFlow ref boot => exact branch (start _ _ rfl)
  | publishMeasurement target measurement owner ownerBoot =>
      apply branch
      intro reached
      obtain ⟨here, allowed⟩ := Bool.and_eq_true_iff.mp reached
      obtain rfl := of_decide_eq_true here
      exact publish _ _ _ rfl allowed
  | recomputeDomain target =>
      apply branch
      rintro rfl
      exact recompute rfl
  | applyLocalShaping target action =>
      apply branch
      intro reached
      obtain ⟨guards, -⟩ := Bool.and_eq_true_iff.mp reached
      obtain ⟨here, valid⟩ := Bool.and_eq_true_iff.mp guards
      obtain rfl := of_decide_eq_true here
      exact shape _ rfl valid
  | recoverDynamicEvidence => exact recover rfl
  | _ => exact same

/-! ## Lookup after an operation -/

private theorem onDomain_find? (state : Impl R) (target : CongestionDomainId)
    (update : CongestionDomain R → CongestionDomain R) :
    (state.onDomain target update).domains.find? id =
      (state.domains.find? id).map fun domain => if id = target then update domain else domain := by
  rw [Impl.onDomain_eq]
  exact UnorderedMap.find?_mapValues _ _ _

/-- An operation on one flow that touches a domain touches the domain of that
flow, and only if it accepts. -/
private theorem onFlow_domains {ref : EntityRef FlowTag} {body : Flow R → Bool × Flow R}
    {update : CongestionDomain R → CongestionDomain R}
    (origin : ∀ flow, (body flow).2.domain = flow.domain) :
    (state.onFlow ref body fun flow after => after.onDomain flow.domain.id update).2.domains.find?
        id =
      (state.domains.find? id).map fun domain =>
        if state.reaches ref (fun flow => (body flow).1) id then update domain else domain := by
  unfold Impl.onFlow Impl.reaches
  cases findFlow state.flows ref with
  | none => simp
  | some flow =>
      cases verdict : (body flow).1 with
      | false => simp [verdict]
      | true =>
          simp only [verdict, if_true, onDomain_find?, origin, Option.any_some, Bool.true_and,
            decide_eq_true_eq]
          simp only [eq_comm]

private theorem onFlow_domains_eq {ref : EntityRef FlowTag} {body : Flow R → Bool × Flow R}
    {after : Flow R → Impl R → Impl R}
    (frame : ∀ flow state, (after flow state).domains = state.domains) :
    (state.onFlow ref body after).2.domains = state.domains :=
  Impl.onFlow_frame (fun _ _ => rfl) frame

private theorem releaseSlot_domains (state : Impl R) :
    state.releaseSlot.domains = state.domains := by
  unfold Impl.releaseSlot
  split <;> rfl

private theorem publishMeasurement_state (target : CongestionDomainId)
    (measurement : Measurement R) (owner : WorkerId) (ownerBoot : WorkerBootId) :
    (state.publishMeasurement target measurement owner ownerBoot).2 =
      if state.publishable measurement owner ownerBoot then
        state.onDomain target (CongestionDomain.record measurement owner ownerBoot)
      else state := by
  unfold Impl.publishMeasurement Impl.publishable Impl.onDomain
  cases measurement.valid with
  | false => simp
  | true =>
      cases found : state.domains.find? target with
      | none => simp
      | some domain =>
          by_cases owned : owner.isValid = true
          · by_cases current : state.workerBoot.find? owner = some ownerBoot
            · simp [current]
            · simp [owned, current]
          · simp [owned]

private theorem recomputeDomain_domains (target : CongestionDomainId) :
    (state.recomputeDomain limits now target).2.domains =
      (state.onDomain target fun domain => (state.recomputed limits now domain).2).domains := by
  unfold Impl.recomputeDomain Impl.onDomain
  cases state.domains.find? target <;> rfl

private theorem applyLocalShaping_state (target : CongestionDomainId)
    (action : BackpressureAction R) :
    (state.applyLocalShaping target action).2 =
      if action.valid && intentIsRestrictive action.intent then
        state.onDomain target fun domain => { domain with
          shaping := .full domain.allowedBps domain.allowedBps
          backpressureGeneration := action.generation }
      else state := by
  unfold Impl.applyLocalShaping Impl.onDomain
  cases action.valid <;> cases intentIsRestrictive action.intent <;>
    cases state.domains.find? target <;> rfl

private theorem find?_of_domains_eq {next : Impl R} (same : next.domains = state.domains) :
    ∃ _ : Bool, next.domains.find? id = (state.domains.find? id).map fun domain => domain :=
  ⟨false, by rw [same, Option.map_id']⟩

/-- Every operation but `create_domain` and `remove_domain` rewrites the records
in place. -/
private theorem exec_domain_find? (limits : EngineLimits) (now : UInt64) (state : Impl R)
    (id : CongestionDomainId) (notCreate : ∀ kind capacity, op ≠ .createDomain kind capacity)
    (notRemove : ∀ target, op ≠ .removeDomain target) :
    ∃ invalidated, (exec limits now op state).2.domains.find? id =
      (state.domains.find? id).map (domainAfter limits now op state invalidated id) := by
  cases op with
  | createDomain kind capacity => exact absurd rfl (notCreate kind capacity)
  | removeDomain target => exact absurd rfl (notRemove target)
  | fenceWorker worker deadBoot =>
      simp only [exec, Prod.map_snd, id_eq, Impl.fenceWorker]
      cases fenced : fenceBoot state.workerBoot worker deadBoot with
      | none =>
          refine ⟨false, ?_⟩
          cases stored : state.domains.find? id <;> simp [domainAfter, fenced]
      | some bumped =>
          obtain ⟨reached, found⟩ := state.domains.find?_mapAccumulate
            (fun anyInvalidated _ domain => domain.dropEvidence worker deadBoot anyInvalidated)
            false id
          refine ⟨reached, found.trans ?_⟩
          cases stored : state.domains.find? id <;> simp [domainAfter, fenced]
  | admitFlow ref =>
      refine ⟨false, (onFlow_domains fun flow => ?_).trans rfl⟩
      unfold Flow.admission
      repeat' split
      all_goals rfl
  | startFlow ref boot =>
      refine ⟨false, (onFlow_domains fun flow => ?_).trans rfl⟩
      unfold Flow.start
      repeat' split
      all_goals rfl
  | queueFlow ref => exact find?_of_domains_eq (onFlow_domains_eq fun _ _ => rfl)
  | flowProgress ref boot delta => exact find?_of_domains_eq (onFlow_domains_eq fun _ _ => rfl)
  | flowComplete ref boot =>
      exact find?_of_domains_eq (onFlow_domains_eq fun _ _ => releaseSlot_domains _)
  | flowCancel ref boot soFar =>
      exact find?_of_domains_eq (onFlow_domains_eq fun _ _ => releaseSlot_domains _)
  | flowFail ref boot =>
      exact find?_of_domains_eq (onFlow_domains_eq fun _ _ => releaseSlot_domains _)
  | revalidateFlow ref boot => exact find?_of_domains_eq (onFlow_domains_eq fun _ _ => rfl)
  | advanceFlowGeneration ref next =>
      apply find?_of_domains_eq
      simp only [exec, Prod.map_snd, id_eq, Impl.advanceFlowGeneration]
      split <;> rfl
  | fenceSource source deadBoot =>
      apply find?_of_domains_eq
      simp only [exec, Prod.map_snd, id_eq, Impl.fenceSource]
      split <;> rfl
  | declareFlow options =>
      apply find?_of_domains_eq
      by_cases allowed : Declarable limits options state
      · simp only [exec, Prod.map_snd, id_eq, declareFlow_of_declarable allowed]
        rfl
      · simp only [exec, Prod.map_snd, id_eq, declareFlow_of_not_declarable allowed]
  | registerWorker worker boot => exact find?_of_domains_eq rfl
  | registerSource source boot => exact find?_of_domains_eq rfl
  | advanceEpoch next =>
      apply find?_of_domains_eq
      simp only [exec, Prod.map_snd, id_eq, Impl.advanceEpoch]
      split <;> rfl
  | recoverDynamicEvidence => exact ⟨false, UnorderedMap.find?_mapValues _ _ _⟩
  | publishMeasurement target measurement owner ownerBoot =>
      refine ⟨false, ?_⟩
      change (state.publishMeasurement target measurement owner ownerBoot).2.domains.find? id = _
      rw [publishMeasurement_state]
      cases allowed : state.publishable measurement owner ownerBoot with
      | false =>
          rw [if_neg Bool.false_ne_true]
          cases stored : state.domains.find? id <;> simp [domainAfter, allowed]
      | true =>
          rw [if_pos rfl, onDomain_find?]
          cases stored : state.domains.find? id <;> simp [domainAfter, allowed]
  | recomputeDomain target =>
      refine ⟨false, ?_⟩
      change (state.recomputeDomain limits now target).2.domains.find? id = _
      rw [recomputeDomain_domains, onDomain_find?]
      rfl
  | applyLocalShaping target action =>
      refine ⟨false, ?_⟩
      change (state.applyLocalShaping target action).2.domains.find? id = _
      rw [applyLocalShaping_state]
      cases allowed : action.valid && intentIsRestrictive action.intent with
      | false =>
          rw [if_neg Bool.false_ne_true]
          cases stored : state.domains.find? id <;>
            simp [domainAfter, Bool.and_assoc, allowed]
      | true =>
          rw [if_pos rfl, onDomain_find?]
          cases stored : state.domains.find? id <;>
            simp [domainAfter, Bool.and_assoc, allowed]

theorem createDomain_find? {kind : Enum8 DomainKind} {capacity : CapacityProfile R}
    (allowed : state.creatable limits capacity = true) :
    (state.createDomain limits kind capacity).2.domains.find? id =
      if state.domains.find? ⟨state.nextDomain⟩ = none ∧ id = ⟨state.nextDomain⟩ then
        some (Impl.newDomain ⟨state.nextDomain⟩ kind capacity)
      else state.domains.find? id := by
  rw [createDomain_of_creatable allowed]
  exact UnorderedMap.find?_emplace _ _ _ _

private theorem removeDomain_find? (target : CongestionDomainId) :
    (state.removeDomain target).2.domains.find? id =
      if id = target then none else state.domains.find? id := by
  unfold Impl.removeDomain
  cases present : state.domains.contains target with
  | true => simp
  | false =>
      have absent := UnorderedMap.contains_eq_false.mp present
      by_cases here : id = target <;> simp [here, absent]

/-- A domain that exists and is not removed is still there after an operation,
with a record that `domainAfter` gives. -/
theorem exec_domain (limits : EngineLimits) (now : UInt64) (op : Op R)
    (stored : state.domains.find? id = some domain) (kept : op ≠ .removeDomain id) :
    ∃ invalidated, (exec limits now op state).2.domains.find? id =
      some (domainAfter limits now op state invalidated id domain) := by
  by_cases creates : ∃ kind capacity, op = .createDomain kind capacity
  · obtain ⟨kind, capacity, rfl⟩ := creates
    refine ⟨false, ?_⟩
    change (state.createDomain limits kind capacity).2.domains.find? id = some domain
    cases allowed : state.creatable limits capacity with
    | true =>
        rw [createDomain_find? allowed, if_neg, stored]
        rintro ⟨absent, rfl⟩
        exact absurd (absent.symm.trans stored) (by simp)
    | false => rw [createDomain_of_not_creatable allowed, stored]
  · by_cases removes : ∃ target, op = .removeDomain target
    · obtain ⟨target, rfl⟩ := removes
      refine ⟨false, ?_⟩
      change (state.removeDomain target).2.domains.find? id = some domain
      rw [removeDomain_find?, if_neg, stored]
      rintro rfl
      exact kept rfl
    · obtain ⟨invalidated, found⟩ := exec_domain_find? limits now state id
        (fun kind capacity same => creates ⟨kind, capacity, same⟩)
        fun target same => removes ⟨target, same⟩
      exact ⟨invalidated, by rw [found, stored, Option.map_some]⟩

/-- Where the domains of a state come from: each was there before the operation,
or the operation created it under the next free number. -/
theorem exec_domain_origin {after : CongestionDomain R}
    (stored : (exec limits now op state).2.domains.find? id = some after) :
    (∃ domain invalidated, state.domains.find? id = some domain ∧ op ≠ .removeDomain id ∧
        after = domainAfter limits now op state invalidated id domain) ∨
      ∃ kind capacity, op = .createDomain kind capacity ∧
        state.creatable limits capacity = true ∧ state.domains.find? id = none ∧
        id = ⟨state.nextDomain⟩ ∧ after = Impl.newDomain id kind capacity := by
  by_cases creates : ∃ kind capacity, op = .createDomain kind capacity
  · obtain ⟨kind, capacity, rfl⟩ := creates
    change (state.createDomain limits kind capacity).2.domains.find? id = _ at stored
    cases allowed : state.creatable limits capacity with
    | true =>
        rw [createDomain_find? allowed] at stored
        split_ifs at stored with new
        · obtain ⟨absent, rfl⟩ := new
          exact Or.inr ⟨kind, capacity, rfl, allowed, absent, rfl, (Option.some.inj stored).symm⟩
        · exact Or.inl ⟨after, false, stored, by simp, rfl⟩
    | false =>
        rw [createDomain_of_not_creatable allowed] at stored
        exact Or.inl ⟨after, false, stored, by simp, rfl⟩
  · by_cases removes : ∃ target, op = .removeDomain target
    · obtain ⟨target, rfl⟩ := removes
      change (state.removeDomain target).2.domains.find? id = _ at stored
      rw [removeDomain_find?] at stored
      split_ifs at stored with here
      refine Or.inl ⟨after, false, stored, ?_, rfl⟩
      rintro same
      exact here (Op.removeDomain.inj same).symm
    · obtain ⟨invalidated, found⟩ := exec_domain_find? limits now state id
        (fun kind capacity same => creates ⟨kind, capacity, same⟩)
        fun target same => removes ⟨target, same⟩
      rw [found] at stored
      obtain ⟨domain, present, rfl⟩ := Option.map_eq_some_iff.mp stored
      exact Or.inl ⟨domain, invalidated, present, fun same => removes ⟨id, same⟩, rfl⟩

/-! ## What an operation never changes of a domain -/

/-- The two records have the same identity, kind, capacity and default fairness. -/
structure CongestionDomain.SameOrigin (left right : CongestionDomain R) : Prop where
  ref : left.ref = right.ref
  kind : left.kind = right.kind
  capacity : left.capacity = right.capacity
  defaultFairness : left.defaultFairness = right.defaultFairness

theorem CongestionDomain.SameOrigin.refl (domain : CongestionDomain R) :
    domain.SameOrigin domain :=
  ⟨rfl, rfl, rfl, rfl⟩

/-- A publication writes the evidence of a domain only. -/
theorem CongestionDomain.record_frame (domain : CongestionDomain R) (measurement : Measurement R)
    (owner : WorkerId) (ownerBoot : WorkerBootId) :
    (domain.record measurement owner ownerBoot).SameOrigin domain ∧
      (domain.record measurement owner ownerBoot).flows = domain.flows := by
  unfold CongestionDomain.record
  rw [domain.clearRevalidation_eq]
  dsimp only
  split_ifs <;> exact ⟨⟨rfl, rfl, rfl, rfl⟩, rfl⟩

theorem domainAfter_sameOrigin (limits : EngineLimits) (now : UInt64) (op : Op R)
    (state : Impl R) (invalidated : Bool) (id : CongestionDomainId)
    (domain : CongestionDomain R) :
    (domainAfter limits now op state invalidated id domain).SameOrigin domain := by
  apply domainAfter_elim (motive := fun after => after.SameOrigin domain)
  case same => exact .refl domain
  case fenceWorker =>
    intro worker deadBoot _ _
    obtain ⟨_, -, dropped⟩ := domain.dropEvidence_eq worker deadBoot invalidated
    rw [dropped]
    exact ⟨rfl, rfl, rfl, rfl⟩
  case admission => exact fun _ _ _ => ⟨rfl, rfl, rfl, rfl⟩
  case start =>
    intro ref boot _ _
    rw [domain.clearRevalidation_eq]
    exact ⟨rfl, rfl, rfl, rfl⟩
  case publish => exact fun measurement owner ownerBoot _ _ => (domain.record_frame ..).1
  case recompute =>
    intro _
    obtain ⟨_, _, _, written⟩ := state.recomputed_eq limits now domain
    rw [written]
    exact ⟨rfl, rfl, rfl, rfl⟩
  case shape => exact fun _ _ _ => ⟨rfl, rfl, rfl, rfl⟩
  case recover =>
    intro _
    obtain ⟨_, _, required⟩ := domain.requireRevalidation_eq
    rw [required]
    exact ⟨rfl, rfl, rfl, rfl⟩

end CongestionFabric
