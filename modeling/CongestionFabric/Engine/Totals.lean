import CongestionFabric.Engine.Bindings
import CongestionFabric.Engine.Generations
import CongestionFabric.Engine.Slots

/-!
Contract: the operation counts of a domain against the flows that name it.

Owns the counts that `aggregate_domain` computes from the domain's list of
references, the counts of the flow map, what makes them equal, and the exact
condition on the steps of a run under which they are equal in every state.

A domain stores the reference with which a flow was admitted. The generation of a
flow can be advanced later, and the list is not told: the stored reference then
resolves to nothing and the flow is skipped.
-/

namespace CongestionFabric

open Foundation

variable {R : Type} [Arithmetic R]

/-- ACTIVE, BACKPRESSURED, THROTTLED or DRAINING. -/
def FlowState.inFlight (state : FlowState) : Bool :=
  state = .active || state = .backpressured || state = .throttled || state = .draining

namespace Impl

/-- The counts of every domain are those of the flows that name it. -/
def Totalled (state : Impl R) : Prop :=
  ∀ id domain, state.domains.find? id = some domain →
    (aggregateDomain domain state.flows).queuedOps.toNat =
        state.flows.count (fun flow => flow.domain.id = id && flow.state = .queued) ∧
      (aggregateDomain domain state.flows).inFlightOps.toNat =
        state.flows.count fun flow => flow.domain.id = id && flow.state.inFlight

/-- The domain has the reference in its list, if it exists. -/
def lists (state : Impl R) (id : CongestionDomainId) (ref : EntityRef FlowTag) : Bool :=
  (state.domains.find? id).all fun domain => ref ∈ domain.flows

/-- Every flow that a domain should count is in its list under its current
generation. -/
def Listed (state : Impl R) : Prop :=
  ∀ id flow, state.flows.find? id = some flow → flow.state.canProgress = true →
    state.lists flow.domain.id ⟨id, flow.ref.generation⟩ = true

/-- What holds of the lists in every state: a domain lists a flow at most once,
and only flows that name it and are past their admission. -/
structure Enrolled (state : Impl R) : Prop where
  slots : state.SlotsSuffice
  distinct : ∀ id domain, state.domains.find? id = some domain →
    (domain.flows.map EntityRef.id).Nodup
  admitted : ∀ id domain, state.domains.find? id = some domain → ∀ ref ∈ domain.flows,
    ∃ flow, state.flows.find? ref.id = some flow ∧ flow.domain.id = id ∧ flow.state ≠ .declared

end Impl

/-! ## The counts of one domain -/

section Counts

private theorem FlowState.canProgress_eq (state : FlowState) :
    state.canProgress = (decide (state = .queued) || state.inFlight) := by
  cases state <;> rfl

private theorem FlowState.uncounted_of_stale {state : FlowState} :
    state.isStaleOrSuperseded = true → state ≠ .queued ∧ state.inFlight = false := by
  cases state <;> decide

private theorem FlowState.open_of_canProgress {state : FlowState} :
    state.canProgress = true → state.isTerminal = false := by
  cases state <;> decide

/-- One round of the loop of `aggregate_domain`. -/
private theorem visit_ops (aggregate : Aggregate) (found : Option (Flow R)) :
    (match found with
        | none => aggregate
        | some flow =>
            if flow.state.isStaleOrSuperseded then aggregate else aggregate.count flow).queuedOps =
        aggregate.queuedOps + (if found.any (fun flow => flow.state = .queued) then 1 else 0) ∧
      (match found with
        | none => aggregate
        | some flow =>
            if flow.state.isStaleOrSuperseded then aggregate
            else aggregate.count flow).inFlightOps =
        aggregate.inFlightOps + (if found.any (fun flow => flow.state.inFlight) then 1 else 0) := by
  cases found with
  | none => simp
  | some flow =>
      rw [Option.any_some, Option.any_some]
      dsimp only
      by_cases stale : flow.state.isStaleOrSuperseded = true
      · obtain ⟨notQueued, notInFlight⟩ := FlowState.uncounted_of_stale stale
        rw [if_pos stale, decide_eq_false notQueued, notInFlight]
        exact ⟨(UInt64.add_zero _).symm, (UInt64.add_zero _).symm⟩
      · rw [if_neg stale]
        unfold Aggregate.count
        by_cases queued : flow.state = .queued
        · rw [if_pos queued, queued]
          exact ⟨rfl, (UInt64.add_zero _).symm⟩
        · have inFlight : flow.state.inFlight = flow.state.canProgress := by
            rw [FlowState.canProgress_eq, decide_eq_false queued, Bool.false_or]
          rw [if_neg queued, decide_eq_false queued, inFlight]
          cases flow.state.canProgress with
          | true => exact ⟨(UInt64.add_zero _).symm, rfl⟩
          | false => exact ⟨(UInt64.add_zero _).symm, (UInt64.add_zero _).symm⟩

private theorem aggregate_ops (flows : UnorderedMap FlowId (Flow R))
    (refs : List (EntityRef FlowTag)) (aggregate : Aggregate) :
    (refs.foldl (fun aggregate ref =>
        match findFlow flows ref with
        | none => aggregate
        | some flow =>
            if flow.state.isStaleOrSuperseded then aggregate else aggregate.count flow)
        aggregate).queuedOps =
        aggregate.queuedOps + UInt64.ofNat (refs.countP fun ref =>
          (findFlow flows ref).any fun flow => flow.state = .queued) ∧
      (refs.foldl (fun aggregate ref =>
        match findFlow flows ref with
        | none => aggregate
        | some flow =>
            if flow.state.isStaleOrSuperseded then aggregate else aggregate.count flow)
        aggregate).inFlightOps =
        aggregate.inFlightOps + UInt64.ofNat (refs.countP fun ref =>
          (findFlow flows ref).any fun flow => flow.state.inFlight) := by
  induction refs generalizing aggregate with
  | nil => simp
  | cons ref rest inductionHypothesis =>
      have here := visit_ops aggregate (findFlow flows ref)
      have bump : ∀ (counter : UInt64) (passes : Bool) (count : Nat),
          counter + (if passes then 1 else 0) + UInt64.ofNat count =
            counter + UInt64.ofNat (count + if passes then 1 else 0) := by
        intro counter passes count
        cases passes with
        | true => simp [UInt64.ofNat_add, UInt64.add_assoc, UInt64.add_comm]
        | false => simp
      rw [List.foldl_cons, List.countP_cons, List.countP_cons, ← bump, ← bump, ← here.1, ← here.2]
      exact inductionHypothesis _

/-- Each of the two counts is the number of references that resolve to such a
flow, modulo the width of the counter. -/
theorem aggregateDomain_ops (domain : CongestionDomain R)
    (flows : UnorderedMap FlowId (Flow R)) :
    (aggregateDomain domain flows).queuedOps = UInt64.ofNat (domain.flows.countP fun ref =>
        (findFlow flows ref).any fun flow => flow.state = .queued) ∧
      (aggregateDomain domain flows).inFlightOps = UInt64.ofNat (domain.flows.countP fun ref =>
        (findFlow flows ref).any fun flow => flow.state.inFlight) := by
  obtain ⟨queued, inFlight⟩ := aggregate_ops flows domain.flows {}
  exact ⟨queued.trans (UInt64.zero_add _), inFlight.trans (UInt64.zero_add _)⟩

variable {state : Impl R} {id : CongestionDomainId} {domain : CongestionDomain R}
  {test : Flow R → Bool}

/-- The references of a domain that resolve to a flow with a property stand for
different flows, all of which name the domain. -/
theorem Impl.Enrolled.resolved (enrolled : state.Enrolled)
    (stored : state.domains.find? id = some domain) (test : Flow R → Bool) :
    ((domain.flows.filter fun ref => (findFlow state.flows ref).any test).map
        EntityRef.id).Nodup ∧
      ∀ key ∈ (domain.flows.filter fun ref => (findFlow state.flows ref).any test).map EntityRef.id,
        key ∈ state.flows.keysWhere fun flow => flow.domain.id = id && test flow := by
  refine ⟨(enrolled.distinct id domain stored).sublist (List.filter_sublist.map _), ?_⟩
  intro key member
  obtain ⟨ref, passes, rfl⟩ := List.mem_map.mp member
  obtain ⟨listed, resolves⟩ := List.mem_filter.mp passes
  obtain ⟨flow, found, holds⟩ := (Option.any_eq_true _ _).mp resolves
  obtain ⟨same, current, names, -⟩ := enrolled.admitted id domain stored ref listed
  have resolved := (findFlow_eq_some.mp found).1
  obtain rfl := Option.some.inj (current.symm.trans resolved)
  exact UnorderedMap.mem_keysWhere.mpr ⟨same, resolved, by simp [names, holds]⟩

/-- The list accounts for all of them exactly if it has each under its current
generation. -/
private theorem Impl.Enrolled.countP_eq_iff (enrolled : state.Enrolled)
    (stored : state.domains.find? id = some domain) :
    (domain.flows.countP fun ref => (findFlow state.flows ref).any test) =
        (state.flows.count fun flow => flow.domain.id = id && test flow) ↔
      ∀ key flow, state.flows.find? key = some flow → flow.domain.id = id → test flow = true →
        ⟨key, flow.ref.generation⟩ ∈ domain.flows := by
  obtain ⟨distinct, pass⟩ := enrolled.resolved stored test
  rw [List.countP_eq_length_filter, ← List.length_map EntityRef.id,
    UnorderedMap.length_eq_count_iff distinct pass]
  constructor
  · intro all key flow found names holds
    obtain ⟨ref, passes, rfl⟩ := List.mem_map.mp
      (all key (UnorderedMap.mem_keysWhere.mpr ⟨flow, found, by simp [names, holds]⟩))
    obtain ⟨listed, resolves⟩ := List.mem_filter.mp passes
    obtain ⟨resolved, looked, -⟩ := (Option.any_eq_true _ _).mp resolves
    obtain ⟨again, current⟩ := findFlow_eq_some.mp looked
    obtain rfl := Option.some.inj (found.symm.trans again)
    rw [current]
    exact listed
  · intro all key member
    obtain ⟨flow, found, passes⟩ := UnorderedMap.mem_keysWhere.mp member
    rw [Bool.and_eq_true, decide_eq_true_eq] at passes
    have resolves : findFlow state.flows ⟨key, flow.ref.generation⟩ = some flow :=
      findFlow_eq_some.mpr ⟨found, rfl⟩
    refine List.mem_map.mpr ⟨⟨key, flow.ref.generation⟩, List.mem_filter.mpr ⟨?_, ?_⟩, rfl⟩
    · exact all key flow found passes.1 passes.2
    · rw [resolves, Option.any_some, passes.2]

/-- No count wraps: there is a slot for every flow that is not terminal. -/
theorem Impl.Enrolled.toNat_ofNat (enrolled : state.Enrolled)
    (stored : state.domains.find? id = some domain)
    (progressing : ∀ flow : Flow R, test flow = true → flow.state.canProgress = true) :
    (UInt64.ofNat (domain.flows.countP fun ref => (findFlow state.flows ref).any test)).toNat =
      domain.flows.countP fun ref => (findFlow state.flows ref).any test := by
  obtain ⟨distinct, pass⟩ := enrolled.resolved stored test
  have fewer : (domain.flows.countP fun ref => (findFlow state.flows ref).any test) ≤
      state.openFlows := by
    rw [List.countP_eq_length_filter, ← List.length_map EntityRef.id]
    refine UnorderedMap.length_le_count distinct fun key member => ?_
    obtain ⟨flow, found, passes⟩ := UnorderedMap.mem_keysWhere.mp (pass key member)
    have moves := progressing flow (Bool.and_eq_true_iff.mp passes).2
    refine UnorderedMap.mem_keysWhere.mpr ⟨flow, found, ?_⟩
    rw [Flow.isTerminal, FlowState.open_of_canProgress moves, Bool.not_false]
  have enough := enrolled.slots.enough
  have bound := state.activeFlows.toNat_lt
  rw [UInt64.toNat_ofNat']
  omega

/-- The counts are right exactly if every flow they should count is listed. -/
theorem Impl.Enrolled.totalled_iff (enrolled : state.Enrolled) :
    state.Totalled ↔ state.Listed := by
  have ops : ∀ id domain, state.domains.find? id = some domain →
      (((aggregateDomain domain state.flows).queuedOps.toNat =
          state.flows.count (fun flow => flow.domain.id = id && flow.state = .queued) ∧
        (aggregateDomain domain state.flows).inFlightOps.toNat =
          state.flows.count fun flow => flow.domain.id = id && flow.state.inFlight) ↔
        ∀ key flow, state.flows.find? key = some flow → flow.domain.id = id →
          flow.state.canProgress = true → ⟨key, flow.ref.generation⟩ ∈ domain.flows) := by
    intro id domain stored
    obtain ⟨queued, inFlight⟩ := aggregateDomain_ops domain state.flows
    rw [queued, inFlight,
      enrolled.toNat_ofNat stored (fun flow holds => by
        rw [FlowState.canProgress_eq, holds, Bool.true_or]),
      enrolled.toNat_ofNat stored (fun flow holds => by
        rw [FlowState.canProgress_eq, holds, Bool.or_true]),
      enrolled.countP_eq_iff stored, enrolled.countP_eq_iff stored]
    simp only [FlowState.canProgress_eq, Bool.or_eq_true]
    constructor
    · rintro ⟨whenQueued, whenInFlight⟩ key flow found names (waits | runs)
      · exact whenQueued key flow found names waits
      · exact whenInFlight key flow found names runs
    · intro all
      exact ⟨fun key flow found names waits => all key flow found names (Or.inl waits),
        fun key flow found names runs => all key flow found names (Or.inr runs)⟩
  constructor
  · intro totalled key flow found progressing
    rw [Impl.lists, Option.all_eq_true]
    intro domain stored
    exact decide_eq_true ((ops _ domain stored).mp (totalled _ domain stored) key flow found rfl
      progressing)
  · intro listed id domain stored
    refine (ops id domain stored).mpr ?_
    rintro key flow found rfl progressing
    have here := listed key flow found progressing
    rw [Impl.lists, stored, Option.all_some, decide_eq_true_eq] at here
    exact here

end Counts

/-! ## One operation -/

section Operations

variable {limits : EngineLimits} {now : UInt64} {op : Op R} {state next : Impl R}

/-- What an operation does to the state of a flow: nothing, or it takes it out of
the counts, or it queues or starts it. -/
inductive Flow.Moves (limits : EngineLimits) (now : UInt64) (op : Op R) (state : Impl R)
    (id : FlowId) (flow after : Flow R) : Prop
  | stays (same : after.state = flow.state)
  | leaves (stopped : after.state.canProgress = false) (admitted : after.state ≠ .declared)
  | queues (ref : EntityRef FlowTag) (queued : op = .queueFlow ref) (names : ref.names id flow)
      (accepted : (flow.queue limits (state.domains.contains flow.domain.id)
        (state.queuedFlows flow.domain.id)).1 = true) (reached : after.state = .queued)
  | starts (ref : EntityRef FlowTag) (boot : WorkerBootId) (started : op = .startFlow ref boot)
      (names : ref.names id flow) (accepted : (flow.start now boot).1 = true)
      (reached : after.state = .active)

private theorem Flow.WellAccounted.moves {flow : Flow R} (sound : flow.WellAccounted)
    (limits : EngineLimits) (now : UInt64) (op : Op R) (state : Impl R) (id : FlowId) :
    flow.Moves limits now op state id (flowAfter limits now op state id flow) := by
  have fence : ∀ owned, flow.Moves limits now op state id (flow.fence owned) := by
    intro owned
    unfold Flow.fence
    split
    · exact .leaves rfl (by simp)
    · exact .stays rfl
  apply flowAfter_elim (motive := fun after => flow.Moves limits now op state id after)
  case same => exact .stays rfl
  case fenceWorker => exact fun _ _ _ _ => fence _
  case fenceSource => exact fun _ _ _ _ => fence _
  case admission =>
    intro ref _ _
    rcases sound.admission (state.domains.contains flow.domain.id) with
      ⟨-, refused⟩ | ⟨-, -, accepted⟩
    · rw [refused]
      exact .stays rfl
    · rw [accepted]
      exact .leaves rfl (by simp)
  case queue =>
    intro ref queued names
    rcases flow.queue_cases limits (state.domains.contains flow.domain.id)
      (state.queuedFlows flow.domain.id) with refused | ⟨-, accepted⟩
    · rw [refused]
      exact .stays rfl
    · exact .queues ref queued names (by rw [accepted]) (by rw [accepted])
  case start =>
    intro ref boot started names
    rcases sound.start now boot with ⟨-, refused⟩ | ⟨-, -, accepted⟩
    · rw [refused]
      exact .stays rfl
    · exact .starts ref boot started names (by rw [accepted]) (by rw [accepted]; rfl)
  case progress =>
    intro ref boot delta _ _
    rcases sound.progress now boot delta with ⟨-, refused⟩ | ⟨-, -, _, _, -, -, -, accepted⟩
    · rw [refused]
      exact .stays rfl
    · rw [accepted]
      exact .stays rfl
  case complete =>
    intro ref boot _ _
    rcases sound.complete now boot with ⟨-, refused⟩ | ⟨-, -, accepted⟩
    · rw [refused]
      exact .stays rfl
    · rw [accepted]
      exact .leaves rfl (by simp)
  case cancel =>
    intro ref boot soFar _ _
    rcases sound.cancel now boot soFar with ⟨-, refused⟩ | ⟨-, -, _, -, accepted⟩
    · rw [refused]
      exact .stays rfl
    · rw [accepted]
      exact .leaves rfl (by simp)
  case fail =>
    intro ref boot _ _
    rcases sound.fail now boot with ⟨-, refused⟩ | ⟨-, -, _, -, accepted⟩
    · rw [refused]
      exact .stays rfl
    · rw [accepted]
      exact .leaves rfl (by simp)
  case advance =>
    intro ref generation _ _
    unfold Flow.advanceGeneration
    split
    · exact .stays rfl
    · by_cases stale : flow.state = .stale
      · exact .leaves (by simp [stale, FlowState.canProgress]) (by simp [stale])
      · exact .stays (by simp [stale])
  case revalidate =>
    intro ref boot _ _
    unfold Flow.revalidate
    repeat' split
    · exact .stays rfl
    · exact .stays rfl
    · exact .leaves rfl (by simp)
  case recover =>
    intro _
    unfold Flow.requireRevalidation
    split
    · exact .leaves rfl (by simp)
    · exact .stays rfl

theorem Impl.enrolled_fresh : (Impl.fresh : Impl R).Enrolled where
  slots := ⟨Impl.wellAccounted_fresh, Nat.zero_le _⟩
  distinct id domain stored := absurd stored (by simp [Impl.fresh])
  admitted id domain stored := absurd stored (by simp [Impl.fresh])

/-- The part of the invariant that is about the lists. -/
private theorem Impl.Enrolled.binds (enrolled : state.Enrolled) :
    state.Binds fun _ => True where
  sound := enrolled.slots.sound
  distinct := enrolled.distinct
  listed id domain stored ref listed := by
    obtain ⟨flow, found, names, past⟩ := enrolled.admitted id domain stored ref listed
    exact ⟨flow, found, names, past, trivial⟩

/-- A domain that is there lists one generation of a flow. -/
private theorem Impl.Enrolled.eq_of_lists (enrolled : state.Enrolled)
    {id : CongestionDomainId} {domain : CongestionDomain R} {ref other : EntityRef FlowTag}
    (stored : state.domains.find? id = some domain) (listed : state.lists id ref = true)
    (otherListed : state.lists id other = true) (same : ref.id = other.id) : ref = other := by
  rw [Impl.lists, stored, Option.all_some, decide_eq_true_eq] at listed otherListed
  exact List.inj_on_of_nodup_map (enrolled.distinct id domain stored) listed otherListed same

theorem Impl.Enrolled.step {label : Label R} (enrolled : state.Enrolled)
    (taken : Step limits state label next) : next.Enrolled := by
  have slots := (enrolled.slots.run (Run.nil.snoc taken)).1
  have binds := enrolled.binds.step (fun _ => trivial) (fun _ _ => trivial) taken
  refine ⟨slots, binds.distinct, fun id domain stored ref listed => ?_⟩
  obtain ⟨flow, found, names, past, -⟩ := binds.listed id domain stored ref listed
  exact ⟨flow, found, names, past⟩

/-! ## Flows that stay in the lists -/

/-- The generation of a queued or running flow is advanced only if its domain is
gone; a flow is queued or started only under a reference that its domain lists;
and a new domain does not take the identifier of a removed one that queued or
running flows still name. -/
def Label.keepsListed (limits : EngineLimits) (state : Impl R) : Label R → Bool
  | .call _ (.advanceFlowGeneration ref generation) =>
      (state.flows.find? ref.id).all fun flow =>
        !(flow.advanceGeneration generation).1 || !flow.state.canProgress ||
          !state.domains.contains flow.domain.id
  | .call _ (.queueFlow ref) =>
      !(state.queueFlow limits ref).1 ||
        (findFlow state.flows ref).all fun flow => state.lists flow.domain.id ref
  | .call now (.startFlow ref boot) =>
      !(state.startFlow now ref boot).1 ||
        (findFlow state.flows ref).all fun flow => state.lists flow.domain.id ref
  | .call _ (.createDomain _ capacity) =>
      !state.creatable limits capacity || state.domains.contains ⟨state.nextDomain⟩ ||
        state.flows.entries.all fun entry =>
          !(entry.2.state.canProgress && entry.2.domain.id = ⟨state.nextDomain⟩)
  | _ => true

/-- A reference stays in a list, unless a new domain starts with an empty one. -/
private theorem lists_exec {id : CongestionDomainId} {ref : EntityRef FlowTag}
    (listed : state.lists id ref = true)
    (old : ∀ kind capacity, op = .createDomain kind capacity →
      state.creatable limits capacity = true → state.domains.find? id = none →
        id ≠ ⟨state.nextDomain⟩) :
    (exec limits now op state).2.lists id ref = true := by
  rw [Impl.lists, Option.all_eq_true] at listed ⊢
  intro after stored
  rcases exec_domain_origin stored with
    ⟨domain, invalidated, found, -, rfl⟩ | ⟨kind, capacity, creates, allowed, absent, here, -⟩
  · have member := of_decide_eq_true (listed domain found)
    rcases domainAfter_flows limits now op state invalidated id domain with
      same | ⟨new, -, -, appended⟩
    · rw [same]
      exact decide_eq_true member
    · rw [appended]
      exact decide_eq_true (List.mem_append_left _ member)
  · exact absurd here (old kind capacity creates allowed absent)

/-- An operation that neither admits nor removes adds nothing to the lists. -/
private theorem lists_of_exec {id : CongestionDomainId} {ref : EntityRef FlowTag}
    (listed : (exec limits now op state).2.lists id ref = true) (kept : op ≠ .removeDomain id)
    (admits : ∀ ref, op ≠ .admitFlow ref) : state.lists id ref = true := by
  rw [Impl.lists, Option.all_eq_true] at listed ⊢
  intro domain stored
  obtain ⟨invalidated, found⟩ := exec_domain limits now op stored kept
  have member := listed _ found
  rcases domainAfter_flows limits now op state invalidated id domain with
    same | ⟨new, admitted, -⟩
  · rwa [same] at member
  · exact absurd admitted (admits new)

private theorem listed_of_keeps (enrolled : state.Enrolled) (listed : state.Listed)
    (keeps : Label.keepsListed limits state (.call now op) = true) :
    (exec limits now op state).2.Listed := by
  intro id after stored progressing
  rcases exec_flow_origin stored with ⟨flow, found, rfl⟩ | ⟨options, -, -, -, -, rfl⟩
  swap
  · exact absurd progressing (by simp [Flow.declare, FlowState.canProgress])
  rw [(flowAfter_sameOrigin ..).domain]
  have sound := enrolled.slots.sound id flow found
  have old : flow.state.canProgress = true → ∀ kind capacity, op = .createDomain kind capacity →
      state.creatable limits capacity = true → state.domains.find? flow.domain.id = none →
        flow.domain.id ≠ ⟨state.nextDomain⟩ := by
    rintro moving kind capacity rfl allowed absent here
    rw [here] at absent
    simp only [Label.keepsListed, allowed, UnorderedMap.contains_eq_false.mpr absent,
      Bool.not_true, Bool.or_self, Bool.false_or, List.all_eq_true] at keeps
    have idle := keeps (id, flow) (UnorderedMap.mem_entries_iff.mpr found)
    simp [moving, here] at idle
  -- Either the flow was counted before, under this generation or an older one, or it is now
  -- queued or started.
  cases sound.moves limits now op state id with
  | stays same =>
      have moving : flow.state.canProgress = true := by rwa [same] at progressing
      rcases flowAfter_ref limits now op state id flow with ref | ⟨ref, next, rfl, rfl, newer, -⟩
      · rw [ref]
        exact lists_exec (listed id flow found moving) (old moving)
      · have accepted : (flow.advanceGeneration next).1 = true := by
          rw [advanceGeneration_accepted ref next flow]
          have valid : next.isValid = true := by
            rw [Generation.isValid_eq_true]
            intro zero
            rw [zero] at newer
            exact absurd newer UInt64.not_lt_zero
          simp [Op.advancesBeyond, valid, newer]
        simp only [Label.keepsListed, found, Option.all_some, accepted, moving, Bool.not_true,
          Bool.false_or, Bool.not_eq_true', UnorderedMap.contains_eq_false] at keeps
        refine lists_exec ?_ (by simp)
        rw [Impl.lists, keeps, Option.all_none]
  | leaves stopped _ =>
      rw [stopped] at progressing
      exact absurd progressing Bool.false_ne_true
  | queues ref queued names accepted _ =>
      subst queued
      obtain ⟨rfl, current⟩ := names
      have resolves : findFlow state.flows ref = some flow := findFlow_eq_some.mpr ⟨found, current⟩
      have verdict : (state.queueFlow limits ref).1 = true :=
        Impl.onFlow_accepted.mpr ⟨flow, resolves, accepted⟩
      simp only [Label.keepsListed, verdict, resolves, Bool.not_true, Bool.false_or,
        Option.all_some] at keeps
      rw [flowAfter_ref_of_not_advance _ _ _ _ _ (by simp), current]
      exact lists_exec keeps (by simp)
  | starts ref boot started names accepted _ =>
      subst started
      obtain ⟨rfl, current⟩ := names
      have resolves : findFlow state.flows ref = some flow := findFlow_eq_some.mpr ⟨found, current⟩
      have verdict : (state.startFlow now ref boot).1 = true :=
        Impl.onFlow_accepted.mpr ⟨flow, resolves, accepted⟩
      simp only [Label.keepsListed, verdict, resolves, Bool.not_true, Bool.false_or,
        Option.all_some] at keeps
      rw [flowAfter_ref_of_not_advance _ _ _ _ _ (by simp), current]
      exact lists_exec keeps (by simp)

/-- A flow that an operation on it leaves among the counted ones was already
listed under the reference of the operation. -/
private theorem lists_of_counted {ref : EntityRef FlowTag} {flow : Flow R}
    (next : (exec limits now op state).2.Listed) (resolves : findFlow state.flows ref = some flow)
    (same : ∀ ref next, op ≠ .advanceFlowGeneration ref next)
    (kept : op ≠ .removeDomain flow.domain.id) (admits : ∀ ref, op ≠ .admitFlow ref)
    (progressing : (flowAfter limits now op state ref.id flow).state.canProgress = true) :
    state.lists flow.domain.id ref = true := by
  obtain ⟨found, current⟩ := findFlow_eq_some.mp resolves
  have here := next ref.id _ (exec_flow found) progressing
  rw [(flowAfter_sameOrigin ..).domain, flowAfter_ref_of_not_advance _ _ _ _ _ same,
    current] at here
  exact lists_of_exec here kept admits

/-- A domain that is created lists nothing. -/
private theorem lists_created {kind : Enum8 DomainKind} {capacity : CapacityProfile R}
    (allowed : state.creatable limits capacity = true)
    (absent : state.domains.contains ⟨state.nextDomain⟩ = false) (ref : EntityRef FlowTag) :
    (exec limits now (.createDomain kind capacity) state).2.lists ⟨state.nextDomain⟩ ref =
      false := by
  have free := UnorderedMap.contains_eq_false.mp absent
  have created : (exec limits now (.createDomain kind capacity) state).2.domains.find?
      ⟨state.nextDomain⟩ = some (Impl.newDomain ⟨state.nextDomain⟩ kind capacity) := by
    change (state.createDomain limits kind capacity).2.domains.find? _ = _
    rw [createDomain_find? allowed, if_pos ⟨free, rfl⟩]
  rw [Impl.lists, created]
  simp [Impl.newDomain]

/-- An advance that is accepted of a flow that can go on changes its generation alone. -/
private theorem flowAfter_advance (limits : EngineLimits) (now : UInt64) (state : Impl R)
    (ref : EntityRef FlowTag) {generation : FlowGeneration} {flow : Flow R}
    (accepted : (flow.advanceGeneration generation).1 = true)
    (progressing : flow.state.canProgress = true) :
    flowAfter limits now (.advanceFlowGeneration ref generation) state ref.id flow =
      { flow with ref := { flow.ref with generation := generation } } := by
  have notStale : flow.state ≠ .stale := by
    intro stale
    simp [stale, FlowState.canProgress] at progressing
  rw [flowAfter, if_pos rfl]
  unfold Flow.advanceGeneration at accepted ⊢
  split at accepted
  · exact absurd accepted Bool.false_ne_true
  · next allowed => rw [if_neg allowed, if_neg notStale]

private theorem keeps_of_listed (enrolled : state.Enrolled) (listed : state.Listed)
    (next : (exec limits now op state).2.Listed) :
    Label.keepsListed limits state (.call now op) = true := by
  cases op with
  | advanceFlowGeneration ref generation =>
      rw [Label.keepsListed, Option.all_eq_true]
      intro flow found
      cases accepted : (flow.advanceGeneration generation).1 with
      | false => rfl
      | true =>
          cases progressing : flow.state.canProgress with
          | false => rfl
          | true =>
              -- The list has the flow under its old generation, hence not under the new one.
              rw [Bool.not_true, Bool.false_or, Bool.false_or, Bool.not_eq_true',
                UnorderedMap.contains_eq_false, Option.eq_none_iff_forall_not_mem]
              intro domain stored
              have newer : flow.ref.generation.value < generation.value := by
                rw [advanceGeneration_accepted ref generation flow, Op.advancesBeyond,
                  Bool.and_eq_true] at accepted
                exact of_decide_eq_true accepted.2
              have advanced := flowAfter_advance limits now state ref accepted progressing
              have before := listed ref.id flow found progressing
              have after := next ref.id _ (exec_flow found) (by rw [advanced]; exact progressing)
              rw [advanced] at after
              have both := lists_of_exec after (by simp) (by simp)
              have same := enrolled.eq_of_lists stored before both rfl
              rw [(EntityRef.mk.inj same).2] at newer
              exact UInt64.lt_irrefl _ newer
  | queueFlow ref =>
      rw [Label.keepsListed, Bool.or_eq_true, Bool.not_eq_true', or_iff_not_imp_left,
        Bool.not_eq_false]
      intro verdict
      obtain ⟨flow, resolves, accepted⟩ := Impl.onFlow_accepted.mp verdict
      have current := (findFlow_eq_some.mp resolves).2
      rw [resolves, Option.all_some]
      refine lists_of_counted next resolves (by simp) (by simp) (by simp) ?_
      rw [flowAfter, if_pos ⟨rfl, current⟩]
      rcases flow.queue_cases limits (state.domains.contains flow.domain.id)
        (state.queuedFlows flow.domain.id) with refused | ⟨-, queued⟩
      · rw [refused] at accepted
        exact absurd accepted Bool.false_ne_true
      · rw [queued]
        rfl
  | startFlow ref boot =>
      rw [Label.keepsListed, Bool.or_eq_true, Bool.not_eq_true', or_iff_not_imp_left,
        Bool.not_eq_false]
      intro verdict
      obtain ⟨flow, resolves, accepted⟩ := Impl.onFlow_accepted.mp verdict
      obtain ⟨found, current⟩ := findFlow_eq_some.mp resolves
      rw [resolves, Option.all_some]
      refine lists_of_counted next resolves (by simp) (by simp) (by simp) ?_
      rw [flowAfter, if_pos ⟨rfl, current⟩]
      rcases (enrolled.slots.sound ref.id flow found).start now boot with
        ⟨-, refused⟩ | ⟨-, -, started⟩
      · rw [refused] at accepted
        exact absurd accepted Bool.false_ne_true
      · rw [started]
        rfl
  | createDomain kind capacity =>
      cases allowed : state.creatable limits capacity with
      | false => simp [Label.keepsListed, allowed]
      | true =>
          cases present : state.domains.contains ⟨state.nextDomain⟩ with
          | true => simp [Label.keepsListed, present]
          | false =>
              rw [Label.keepsListed, allowed, present, Bool.not_true, Bool.or_self, Bool.false_or,
                List.all_eq_true]
              rintro ⟨id, flow⟩ member
              rw [Bool.not_eq_true', Bool.and_eq_false_iff, or_iff_not_imp_left,
                Bool.not_eq_false, decide_eq_false_iff_not]
              intro progressing names
              have after := next id flow (exec_flow (UnorderedMap.mem_entries_iff.mp member))
                progressing
              rw [names, lists_created allowed present] at after
              exact Bool.false_ne_true after
  | _ => rfl

end Operations

/-- In every run without a load, the operation counts of every domain are those
of the flows that name it, in every state, exactly if no step takes a counted flow
off its domain's list. -/
theorem totalled_throughout_iff {limits : EngineLimits} {history : List (Impl R × Label R)}
    {final : Impl R} (run : Run (Step limits) Impl.fresh history final) :
    (∀ taken ∈ history, taken.2.keepsListed limits taken.1 = true) ↔
      Throughout history final fun _ state => state.Totalled := by
  apply run.forall_iff_throughout Impl.Enrolled fun state label =>
    label.keepsListed limits state = true
  · exact Impl.enrolled_fresh
  · intro id domain stored
    exact absurd stored (by simp [Impl.fresh])
  · exact fun enrolled taken => enrolled.step taken
  · intro state label next enrolled totalled taken
    rw [(enrolled.step taken).totalled_iff]
    have listed := enrolled.totalled_iff.mp totalled
    cases taken with
    | call now op => exact ⟨listed_of_keeps enrolled listed, keeps_of_listed enrolled listed⟩
    | rehash same =>
        refine iff_of_true rfl fun id flow found progressing => ?_
        rw [← same.flows.find?_eq] at found
        rw [Impl.lists, ← same.domains.find?_eq]
        exact listed id flow found progressing

/-- Two flows of one domain, the first running and the second queued. -/
private def runAndQueue : List (UInt64 × Op Binary64) :=
  [(1, .registerWorker ⟨1⟩ ⟨1⟩), (1, .registerSource ⟨1⟩ ⟨1⟩),
    (1, .createDomain DomainKind.nicTx {}), (2, .declareFlow (.ofFirst 100)),
    (2, .declareFlow (.ofFirst 100)), (3, .admitFlow ⟨⟨1⟩, ⟨1⟩⟩), (3, .admitFlow ⟨⟨2⟩, ⟨1⟩⟩),
    (4, .startFlow ⟨⟨1⟩, ⟨1⟩⟩ ⟨1⟩), (4, .queueFlow ⟨⟨2⟩, ⟨1⟩⟩)]

theorem runAndQueue_totalled :
    (execAll {} runAndQueue Impl.fresh).domains.contains ⟨1⟩ = true ∧
      Throughout ([] ++ trace {} runAndQueue Impl.fresh) (execAll {} runAndQueue Impl.fresh)
        fun _ state => state.Totalled :=
  ⟨by decide +kernel, (totalled_throughout_iff (run_execAll runAndQueue Run.nil)).mp
    (by decide +kernel)⟩

private def advanceQueued : List (UInt64 × Op Binary64) :=
  runAndQueue ++ [(5, .advanceFlowGeneration ⟨⟨2⟩, ⟨1⟩⟩ ⟨2⟩)]

private theorem advanceQueued_stored :
    ((execAll {} advanceQueued Impl.fresh).domains.find? ⟨1⟩).isSome = true := by
  decide +kernel

/-- The queued flow is advanced to generation 2: it is still QUEUED, and the
domain counts no queued operation. -/
theorem advanceQueued_not_totalled :
    ¬∀ (limits : EngineLimits) (history : List (Impl Binary64 × Label Binary64))
      (final : Impl Binary64), Run (Step limits) Impl.fresh history final → final.Totalled := by
  intro always
  have totalled := always {} _ _ (run_execAll advanceQueued Run.nil) ⟨1⟩ _
    (Option.some_get advanceQueued_stored).symm
  exact absurd totalled.1 (by decide +kernel)

end CongestionFabric
