import CongestionFabric.Engine.DomainEffect
import CongestionFabric.Foundation.Unwinding

/-!
Contract: the part of the engine that decides over flows, as a machine of its own.

Owns:
- the control state: epochs, boots, flows, the lists of the domains and the
  counters behind identifiers and slots, as functions;
- what every operation does to it, which for publications, assessments and shaping
  is nothing;
- that the engine, seen through its control state, is this machine, so that no
  evidence and no enumeration order decides over a flow.

Does not own: cached assessments, rates, episodes and shaping.
-/

namespace CongestionFabric

open Foundation

variable {R : Type} [Arithmetic R]

/-! ## The control state -/

/-- What no evidence reaches of a domain. -/
structure Binding (R : Type) [Arithmetic R] where
  ref : EntityRef CongestionDomainTag
  kind : Enum8 DomainKind
  capacity : CapacityProfile R
  flows : List (EntityRef FlowTag)

structure Control (R : Type) [Arithmetic R] where
  epoch : CoordinatorEpoch
  workerBoot : WorkerId → Option WorkerBootId
  sourceBoot : SourceId → Option SourceBootId
  domains : CongestionDomainId → Option (Binding R)
  flows : FlowId → Option (Flow R)
  domainCount : Nat
  nextDomain : UInt64
  nextFlow : UInt64
  activeFlows : UInt64

def CongestionDomain.binding (domain : CongestionDomain R) : Binding R where
  ref := domain.ref
  kind := domain.kind
  capacity := domain.capacity
  flows := domain.flows

/-- The control state of an engine. -/
def Impl.control (state : Impl R) : Control R where
  epoch := state.epoch
  workerBoot := state.workerBoot.find?
  sourceBoot := state.sourceBoot.find?
  domains := fun id => (state.domains.find? id).map CongestionDomain.binding
  flows := state.flows.find?
  domainCount := state.domains.size
  nextDomain := state.nextDomain
  nextFlow := state.nextFlow
  activeFlows := state.activeFlows

/-! ## The machine -/

namespace Control

section BootTable

variable {Tag BootTag : Type}

/-- A boot is recorded if it is newer than the recorded one. -/
def register (table : Id Tag → Option (Generation BootTag)) (id : Id Tag)
    (boot : Generation BootTag) : Bool × (Id Tag → Option (Generation BootTag)) :=
  if id.isValid && boot.isValid && (table id).all fun current => current.value < boot.value then
    (true, Function.update table id (some boot))
  else (false, table)

/-- The recorded boot of an identity can be fenced. -/
def fences (table : Id Tag → Option (Generation BootTag)) (id : Id Tag)
    (boot : Generation BootTag) : Bool :=
  id.isValid && table id = some boot

end BootTable

/-- The flow a reference resolves to. -/
def resolve (control : Control R) (ref : EntityRef FlowTag) : Option (Flow R) :=
  (control.flows ref.id).filter fun flow => flow.ref.generation = ref.generation

/-- The number of queued flows in the list of a domain, in a machine word. -/
def queueDepth (control : Control R) (id : CongestionDomainId) : UInt64 :=
  .ofNat (((control.domains id).elim [] Binding.flows).countP fun ref =>
    (control.resolve ref).any fun flow => flow.state = .queued)

/-- An operation on the flow a reference resolves to. -/
def onFlow (control : Control R) (ref : EntityRef FlowTag) (body : Flow R → Bool × Flow R)
    (after : Flow R → Control R → Control R) : Bool × Control R :=
  match control.resolve ref with
  | none => (false, control)
  | some flow =>
      let written :=
        { control with flows := Function.update control.flows ref.id (some (body flow).2) }
      if (body flow).1 then (true, after (body flow).2 written) else (false, written)

/-- The flow is put into the list of its domain. -/
def enlist (ref : EntityRef FlowTag) (flow : Flow R) (control : Control R) : Control R :=
  { control with
    domains := fun id => (control.domains id).map fun binding =>
      if id = flow.domain.id then { binding with flows := binding.flows ++ [ref] } else binding }

def releaseSlot (control : Control R) : Control R :=
  { control with activeFlows := control.activeFlows - if control.activeFlows > 0 then 1 else 0 }

/-- A declaration that passes the checks on its authority and on its domain. -/
def authorizes (control : Control R) (options : FlowOptions R) : Bool :=
  options.ownerWorker.isValid && options.ownerBoot.isValid && options.source.isValid &&
    options.sourceBoot.isValid && control.workerBoot options.ownerWorker = some options.ownerBoot &&
    control.sourceBoot options.source = some options.sourceBoot && options.domain.id.isValid &&
    (control.domains options.domain.id).isSome

/-- A declared flow takes the next number; a number that is taken keeps its flow. -/
def declare (now : UInt64) (options : FlowOptions R) (control : Control R) :
    EntityRef FlowTag × Control R :=
  let id : FlowId := ⟨control.nextFlow⟩
  let flow := (control.flows id).getD (.declare id now options)
  (flow.ref, { control with
    flows := Function.update control.flows id (some flow)
    nextFlow := control.nextFlow + 1
    activeFlows := control.activeFlows + 1 })

/-- A created domain takes the next number; a number that is taken keeps its domain. -/
def create (kind : Enum8 DomainKind) (capacity : CapacityProfile R) (control : Control R) :
    EntityRef CongestionDomainTag × Control R :=
  let id : CongestionDomainId := ⟨control.nextDomain⟩
  let binding := (control.domains id).getD (Impl.newDomain id kind capacity).binding
  (binding.ref, { control with
    domains := Function.update control.domains id (some binding)
    domainCount := control.domainCount + if (control.domains id).isSome then 0 else 1
    nextDomain := control.nextDomain + 1 })

/-- What an operation answers and does. An assessment is no answer of this machine. -/
def exec (limits : EngineLimits) (now : UInt64) (op : Op R) (control : Control R) :
    Option (Result R) × Control R :=
  match op with
  | .advanceEpoch next =>
      let newer := next.isValid && control.epoch.value < next.value
      (some (.verdict newer), { control with epoch := if newer then next else control.epoch })
  | .registerWorker worker boot =>
      let registered := register control.workerBoot worker boot
      (some (.verdict registered.1), { control with workerBoot := registered.2 })
  | .registerSource source boot =>
      let registered := register control.sourceBoot source boot
      (some (.verdict registered.1), { control with sourceBoot := registered.2 })
  | .fenceWorker worker deadBoot =>
      if fences control.workerBoot worker deadBoot then
        (some (.verdict true), { control with
          workerBoot := Function.update control.workerBoot worker (some deadBoot.next)
          flows := fun id => (control.flows id).map fun flow =>
            flow.fence (flow.ownerWorker = worker && flow.ownerBoot = deadBoot) })
      else (some (.verdict false), control)
  | .fenceSource source deadBoot =>
      if fences control.sourceBoot source deadBoot then
        (some (.verdict true), { control with
          sourceBoot := Function.update control.sourceBoot source (some deadBoot.next)
          flows := fun id => (control.flows id).map fun flow =>
            flow.fence (flow.source = source && flow.sourceBoot = deadBoot) })
      else (some (.verdict false), control)
  | .createDomain kind capacity =>
      if control.domainCount < limits.maxDomains.toNat && capacity.valid then
        (control.create kind capacity).map (some ∘ .domainRef) id
      else (some (.domainRef {}), control)
  | .removeDomain id =>
      if (control.domains id).isSome then
        (some (.verdict true), { control with
          domains := Function.update control.domains id none
          domainCount := control.domainCount - 1 })
      else (some (.verdict false), control)
  | .declareFlow options =>
      if control.authorizes options && control.activeFlows < limits.maxActiveFlows then
        (control.declare now options).map (some ∘ .flowRef) id
      else (some (.flowRef {}), control)
  | .admitFlow ref =>
      (control.onFlow ref
        (fun flow => flow.admission (control.domains flow.domain.id).isSome) (enlist ref)).map
        (some ∘ .verdict) id
  | .queueFlow ref =>
      (control.onFlow ref (fun flow => flow.queue limits (control.domains flow.domain.id).isSome
        (control.queueDepth flow.domain.id)) fun _ after => after).map (some ∘ .verdict) id
  | .startFlow ref boot =>
      (control.onFlow ref (Flow.start now boot) fun _ after => after).map (some ∘ .verdict) id
  | .flowProgress ref boot delta =>
      (control.onFlow ref (Flow.progress now boot delta) fun _ after => after).map
        (some ∘ .verdict) id
  | .flowComplete ref boot =>
      (control.onFlow ref (Flow.complete now boot) fun _ after => after.releaseSlot).map
        (some ∘ .verdict) id
  | .flowCancel ref boot soFar =>
      (control.onFlow ref (Flow.cancel now boot soFar) fun _ after => after.releaseSlot).map
        (some ∘ .verdict) id
  | .flowFail ref boot =>
      (control.onFlow ref (Flow.fail now boot) fun _ after => after.releaseSlot).map
        (some ∘ .verdict) id
  | .advanceFlowGeneration ref next =>
      match control.flows ref.id with
      | none => (some (.verdict false), control)
      | some flow =>
          (some (.verdict (flow.advanceGeneration next).1), { control with
            flows := Function.update control.flows ref.id (some (flow.advanceGeneration next).2) })
  | .revalidateFlow ref boot =>
      (control.onFlow ref (Flow.revalidate boot) fun _ after => after).map (some ∘ .verdict) id
  | .publishMeasurement domain measurement owner ownerBoot =>
      (some (.verdict ((control.domains domain).isSome && measurement.valid &&
        (!owner.isValid || control.workerBoot owner = some ownerBoot))), control)
  | .recomputeDomain _ => (none, control)
  | .applyLocalShaping domain action =>
      (some (.verdict (action.valid &&
        (!intentIsRestrictive action.intent || (control.domains domain).isSome))), control)
  | .recoverDynamicEvidence =>
      (some .nothing, { control with
        flows := fun id => (control.flows id).map Flow.requireRevalidation })

end Control

/-- The answer of an operation, assessments apart. -/
def Result.control : Result R → Option (Result R)
  | .assessment _ => none
  | result => some result

/-! ## The engine is the machine -/

section Tables

variable {K V : Type} [DecidableEq K] {map : UnorderedMap K V} {key : K}

private theorem find?_modify_eq_update {old : V} (stored : map.find? key = some old) (value : V) :
    (map.modify key value).find? = Function.update map.find? key (some value) := by
  funext other
  rw [UnorderedMap.find?_modify, stored, Function.update_apply]
  rfl

private theorem find?_insert_eq_update (value : V) :
    (map.insert key value).find? = Function.update map.find? key (some value) := by
  funext other
  rw [UnorderedMap.find?_insert, Function.update_apply]

private theorem find?_emplace_eq_update (value : V) :
    (map.emplace key value).find? =
      Function.update map.find? key (some ((map.find? key).getD value)) := by
  funext other
  rw [UnorderedMap.find?_emplace, Function.update_apply]
  by_cases here : other = key
  · subst here
    cases map.find? other with
    | none => simp
    | some old => simp
  · simp [here]

private theorem find?_mapValues_eq_map (rewrite : K → V → V) :
    (map.mapValues rewrite).find? = fun key => (map.find? key).map (rewrite key) := by
  funext key
  exact UnorderedMap.find?_mapValues _ _ _

private theorem size_emplace (value : V) :
    (map.emplace key value).size = map.size + if (map.find? key).isSome then 0 else 1 := by
  unfold UnorderedMap.emplace
  by_cases absent : map.contains key = false
  · have missing : (map.find? key).isSome = false := absent
    rw [dif_pos absent, if_neg (by simp [missing])]
    exact List.length_append
  · have present : (map.find? key).isSome = true := Bool.of_not_eq_false absent
    rw [dif_neg absent, if_pos present, Nat.add_zero]

private theorem size_erase (present : (map.find? key).isSome = true) :
    (map.erase key).size = map.size - 1 := by
  have keys : (map.erase key).keys = map.keys.erase key := by
    have distinct : map.keys.Nodup := map.nodup
    rw [distinct.erase_eq_filter, UnorderedMap.keys, UnorderedMap.keys, List.filter_map]
    congr 1
    apply List.filter_congr
    intro entry _
    exact decide_not
  have member : key ∈ map.keys := by
    by_contra missing
    rw [UnorderedMap.find?_eq_none_iff.mpr missing] at present
    exact Bool.false_ne_true present
  have lengths := congrArg List.length keys
  rw [List.length_erase_of_mem member, UnorderedMap.keys, UnorderedMap.keys, List.length_map,
    List.length_map] at lengths
  exact lengths

variable {Tag BootTag : Type} {table after : UnorderedMap (Id Tag) (Generation BootTag)}
  {id : Id Tag} {boot : Generation BootTag}

private theorem registerBoot_control :
    ((registerBoot table id boot).1, (registerBoot table id boot).2.find?) =
      Control.register table.find? id boot := by
  unfold Control.register
  cases accepted : (registerBoot table id boot).1 with
  | true =>
      obtain ⟨valid, bootValid, newer⟩ := registerBoot_accepted.mp accepted
      have all : (table.find? id).all (fun current => current.value < boot.value) = true := by
        rw [Option.all_eq_true]
        intro current stored
        exact decide_eq_true (newer current stored)
      rw [Id.isValid_eq_true.mpr valid, Generation.isValid_eq_true.mpr bootValid, all,
        registerBoot_table, accepted]
      exact congrArg (Prod.mk true) (find?_insert_eq_update boot)
  | false =>
      rw [registerBoot_eq_self_iff.mpr accepted, if_neg]
      intro allowed
      rw [Bool.and_eq_true, Bool.and_eq_true, Option.all_eq_true] at allowed
      obtain ⟨⟨valid, bootValid⟩, newer⟩ := allowed
      have accepts : (registerBoot table id boot).1 = true :=
        registerBoot_accepted.mpr ⟨Id.isValid_eq_true.mp valid,
          Generation.isValid_eq_true.mp bootValid,
          fun current stored => of_decide_eq_true (newer current stored)⟩
      exact Bool.false_ne_true (accepted.symm.trans accepts)

private theorem fenceBoot_control :
    (fenceBoot table id boot).isSome = Control.fences table.find? id boot := by
  rw [Bool.eq_iff_iff, fenceBoot_isSome, Control.fences, Bool.and_eq_true, Id.isValid_eq_true,
    decide_eq_true_eq]

private theorem fenceBoot_find?_eq_update (fenced : fenceBoot table id boot = some after) :
    after.find? = Function.update table.find? id (some boot.next) := by
  obtain ⟨-, recorded, rfl⟩ := fenceBoot_eq_some.mp fenced
  exact find?_modify_eq_update recorded _

end Tables

section Operations

variable {limits : EngineLimits} {now : UInt64} {state : Impl R}

theorem Impl.control_resolve (ref : EntityRef FlowTag) :
    state.control.resolve ref = findFlow state.flows ref := by
  unfold findFlow Control.resolve
  change (state.flows.find? ref.id).filter _ = _
  cases state.flows.find? ref.id with
  | none => rfl
  | some flow =>
      by_cases current : flow.ref.generation = ref.generation
      · simp [Option.filter, current]
      · simp [Option.filter, current]

private theorem foldl_depth {step : UInt64 → EntityRef FlowTag → UInt64}
    (queued : EntityRef FlowTag → Bool)
    (counts : ∀ depth ref, step depth ref = if queued ref then depth + 1 else depth)
    (refs : List (EntityRef FlowTag)) :
    ∀ depth, refs.foldl step depth = depth + .ofNat (refs.countP queued) := by
  induction refs with
  | nil =>
      intro depth
      simp
  | cons ref rest inductionHypothesis =>
      intro depth
      rw [List.foldl_cons, inductionHypothesis, List.countP_cons, counts]
      split
      · rw [UInt64.ofNat_add, UInt64.add_assoc, UInt64.add_comm 1]
        rfl
      · rfl

private theorem control_queueDepth (id : CongestionDomainId) :
    state.control.queueDepth id = state.queuedFlows id := by
  unfold Control.queueDepth Impl.queuedFlows
  simp only [Impl.control_resolve]
  change UInt64.ofNat (List.countP _ (((state.domains.find? id).map
    CongestionDomain.binding).elim [] Binding.flows)) = _
  cases state.domains.find? id with
  | none => rfl
  | some domain =>
      dsimp only
      rw [foldl_depth fun ref =>
        (findFlow state.flows ref).any fun flow => flow.state = .queued]
      · rw [UInt64.zero_add]
        rfl
      · intro depth ref
        cases findFlow state.flows ref with
        | none => rfl
        | some flow => simp

/-- An operation on one flow, when the body is that of the machine and the continuation
does to the control state what that of the machine does. -/
private theorem control_onFlow {ref : EntityRef FlowTag}
    {body controlBody : Flow R → Bool × Flow R} {after : Flow R → Impl R → Impl R}
    {controlAfter : Flow R → Control R → Control R}
    (bodies : ∀ flow, controlBody flow = body flow)
    (follows : ∀ flow state, (after flow state).control = controlAfter flow state.control) :
    state.control.onFlow ref controlBody controlAfter =
      ((state.onFlow ref body after).1, (state.onFlow ref body after).2.control) := by
  obtain rfl : controlBody = body := funext bodies
  unfold Control.onFlow Impl.onFlow
  rw [Impl.control_resolve]
  cases found : findFlow state.flows ref with
  | none => rfl
  | some flow =>
      have written : ({ state.control with
          flows := Function.update state.control.flows ref.id (some (controlBody flow).2) } :
            Control R) =
          ({ state with flows := state.flows.modify ref.id (controlBody flow).2 } :
            Impl R).control := by
        have same := find?_modify_eq_update (findFlow_eq_some.mp found).1 (controlBody flow).2
        simp only [Impl.control, same]
      dsimp only
      rw [written]
      split
      · rw [follows]
      · rfl

private theorem control_onDomain (id : CongestionDomainId)
    (update : CongestionDomain R → CongestionDomain R)
    (change : Binding R → Binding R)
    (follows : ∀ domain, (update domain).binding = change domain.binding) :
    (state.onDomain id update).control = { state.control with
      domains := fun key => (state.control.domains key).map fun binding =>
        if key = id then change binding else binding } := by
  rw [Impl.onDomain_eq]
  have size : (state.domains.mapValues fun key domain =>
      if key = id then update domain else domain).size = state.domains.size :=
    List.length_map _
  simp only [Impl.control, size, UnorderedMap.find?_mapValues, Option.map_map]
  congr 1
  funext key
  congr 1
  funext domain
  by_cases here : key = id
  · simp [here, follows]
  · simp [here]

private theorem control_releaseSlot :
    state.releaseSlot.control = state.control.releaseSlot := by
  unfold Impl.releaseSlot Control.releaseSlot
  change _ = { state.control with
    activeFlows := state.activeFlows - if state.activeFlows > 0 then 1 else 0 }
  by_cases taken : state.activeFlows > 0
  · rw [if_pos taken, if_pos taken]
    rfl
  · rw [if_neg taken, if_neg taken, UInt64.sub_zero]
    rfl

private theorem control_isSome (id : CongestionDomainId) :
    (state.control.domains id).isSome = state.domains.contains id :=
  Option.isSome_map

private theorem control_declarable (limits : EngineLimits) (state : Impl R)
    (options : FlowOptions R) :
    (state.control.authorizes options &&
        decide (state.control.activeFlows < limits.maxActiveFlows)) = true ↔
      Declarable limits options state := by
  unfold Control.authorizes
  rw [control_isSome]
  simp only [Bool.and_eq_true, Id.isValid_eq_true, Generation.isValid_eq_true,
    decide_eq_true_eq, declarable_iff, and_assoc]
  rfl

private theorem control_storeFlow (options : FlowOptions R) :
    ((state.storeFlow limits now options).1, (state.storeFlow limits now options).2.control) =
      state.control.declare now options := by
  unfold Impl.storeFlow Control.declare
  simp only [Impl.control, find?_emplace_eq_update, Function.update_self]

private theorem update_map {A B : Type} (change : A → B) (table : CongestionDomainId → Option A)
    (id : CongestionDomainId) (value : Option A) :
    (fun key => (Function.update table id value key).map change) =
      Function.update (fun key => (table key).map change) id (value.map change) := by
  funext key
  rw [Function.update_apply, Function.update_apply]
  split
  · rfl
  · rfl

private theorem control_storeDomain (kind : Enum8 DomainKind) (capacity : CapacityProfile R) :
    ((state.storeDomain kind capacity).1, (state.storeDomain kind capacity).2.control) =
      state.control.create kind capacity := by
  unfold Impl.storeDomain Control.create
  simp only [Impl.control, find?_emplace_eq_update, size_emplace, Option.isSome_map, update_map,
    Option.map_some, Function.update_self]
  cases state.domains.find? ⟨state.nextDomain⟩ with
  | none => rfl
  | some domain => rfl

private theorem control_removeDomain {id : CongestionDomainId}
    (present : state.domains.contains id = true) :
    ({ state with domains := state.domains.erase id } : Impl R).control =
      { state.control with
        domains := Function.update state.control.domains id none
        domainCount := state.control.domainCount - 1 } := by
  have erased : (state.domains.erase id).find? =
      Function.update state.domains.find? id none := by
    funext key
    rw [UnorderedMap.find?_erase, Function.update_apply]
  simp only [Impl.control, erased, update_map, Option.map_none, size_erase present]

/-- A domain record that is replaced by one with the same binding. -/
private theorem control_modify {id : CongestionDomainId} {domain after : CongestionDomain R}
    (stored : state.domains.find? id = some domain) (same : after.binding = domain.binding) :
    ({ state with domains := state.domains.modify id after } : Impl R).control =
      state.control := by
  have size : (state.domains.modify id after).size = state.domains.size := List.length_map _
  have bindings : (fun key => ((state.domains.modify id after).find? key).map
      CongestionDomain.binding) =
        fun key => (state.domains.find? key).map CongestionDomain.binding := by
    funext key
    rw [UnorderedMap.find?_modify]
    by_cases here : key = id
    · rw [if_pos here, here, stored]
      exact congrArg some same
    · rw [if_neg here]
  simp only [Impl.control, size, bindings]

private theorem control_clearRevalidation (id : CongestionDomainId) :
    (state.onDomain id CongestionDomain.clearRevalidation).control = state.control := by
  unfold Impl.onDomain
  cases stored : state.domains.find? id with
  | none => rfl
  | some domain =>
      apply control_modify stored
      rw [domain.clearRevalidation_eq]
      rfl

private theorem record_binding (domain : CongestionDomain R) (measurement : Measurement R)
    (owner : WorkerId) (ownerBoot : WorkerBootId) :
    (domain.record measurement owner ownerBoot).binding = domain.binding := by
  unfold CongestionDomain.record
  rw [domain.clearRevalidation_eq]
  dsimp only
  split_ifs <;> rfl

private theorem dropEvidence_binding (domain : CongestionDomain R) (worker : WorkerId)
    (deadBoot : WorkerBootId) (invalidated : Bool) :
    (domain.dropEvidence worker deadBoot invalidated).2.binding = domain.binding := by
  obtain ⟨any, -, written⟩ := domain.dropEvidence_eq worker deadBoot invalidated
  rw [written]
  rfl

/-- The walk of a worker fence over the domains. -/
private theorem control_dropEvidence (state : Impl R) (worker : WorkerId)
    (deadBoot : WorkerBootId) :
    ({ state with
      domains := state.domains.mapAccumulate
        (fun invalidated _ domain => domain.dropEvidence worker deadBoot invalidated)
        false } : Impl R).control = state.control := by
  have size : (state.domains.mapAccumulate (fun invalidated _ domain =>
      domain.dropEvidence worker deadBoot invalidated) false).size = state.domains.size := by
    have keys := congrArg List.length (UnorderedMap.accumulate_keys
      (fun invalidated (_ : CongestionDomainId) (domain : CongestionDomain R) =>
        domain.dropEvidence worker deadBoot invalidated) false state.domains.entries)
    rw [List.length_map, List.length_map] at keys
    exact keys
  have bindings : (fun id => ((state.domains.mapAccumulate (fun invalidated _ domain =>
      domain.dropEvidence worker deadBoot invalidated) false).find? id).map
        CongestionDomain.binding) =
          fun id => (state.domains.find? id).map CongestionDomain.binding := by
    funext id
    obtain ⟨reached, found⟩ := state.domains.find?_mapAccumulate (fun invalidated _ domain =>
      domain.dropEvidence worker deadBoot invalidated) false id
    rw [found, Option.map_map]
    congr 1
    funext domain
    exact dropEvidence_binding domain worker deadBoot reached
  simp only [Impl.control, size, bindings]

private theorem control_revalidateAll :
    state.revalidateAll.control = { state.control with
      flows := fun id => (state.control.flows id).map Flow.requireRevalidation } := by
  have size : (state.domains.mapValues fun _ domain => domain.requireRevalidation).size =
      state.domains.size := List.length_map _
  have bindings : ∀ domain : CongestionDomain R,
      domain.requireRevalidation.binding = domain.binding := by
    intro domain
    obtain ⟨_, _, written⟩ := domain.requireRevalidation_eq
    rw [written]
    rfl
  simp only [Impl.control, Impl.revalidateAll, size, UnorderedMap.find?_mapValues, Option.map_map,
    Function.comp_def, bindings]
  congr 1
  funext id
  exact UnorderedMap.find?_mapValues _ _ _

/-- An operation that returns a verdict. -/
private theorem control_verdict (call : Bool × Impl R) {machine : Bool × Control R}
    (same : machine = (call.1, call.2.control)) :
    ((call.map (Result.verdict : Bool → Result R) id).1.control,
        (call.map (Result.verdict : Bool → Result R) id).2.control) =
      machine.map (some ∘ Result.verdict) id := by
  rw [same]
  rfl

/-- Every operation answers and does what the machine says. -/
theorem exec_control (limits : EngineLimits) (now : UInt64) (op : Op R) (state : Impl R) :
    ((exec limits now op state).1.control, (exec limits now op state).2.control) =
      Control.exec limits now op state.control := by
  unfold exec Control.exec
  cases op with
  | admitFlow ref =>
      refine control_verdict (state.admitFlow ref) (control_onFlow (fun flow => ?_) fun _ _ => ?_)
      · rw [control_isSome]
      · exact control_onDomain _ _ _ fun _ => rfl
  | queueFlow ref =>
      refine control_verdict (state.queueFlow limits ref)
        (control_onFlow (fun flow => ?_) fun _ _ => rfl)
      rw [control_isSome, control_queueDepth]
  | startFlow ref boot =>
      exact control_verdict (state.startFlow now ref boot)
        (control_onFlow (fun _ => rfl) fun _ _ => control_clearRevalidation _)
  | flowProgress ref boot delta =>
      exact control_verdict (state.flowProgress now ref boot delta)
        (control_onFlow (fun _ => rfl) fun _ _ => rfl)
  | flowComplete ref boot =>
      exact control_verdict (state.flowComplete now ref boot)
        (control_onFlow (fun _ => rfl) fun _ _ => control_releaseSlot)
  | flowCancel ref boot soFar =>
      exact control_verdict (state.flowCancel now ref boot soFar)
        (control_onFlow (fun _ => rfl) fun _ _ => control_releaseSlot)
  | flowFail ref boot =>
      exact control_verdict (state.flowFail now ref boot)
        (control_onFlow (fun _ => rfl) fun _ _ => control_releaseSlot)
  | revalidateFlow ref boot =>
      exact control_verdict (state.revalidateFlow ref boot)
        (control_onFlow (fun _ => rfl) fun _ _ => rfl)
  | advanceFlowGeneration ref next =>
      change (some (Result.verdict (state.advanceFlowGeneration ref next).1),
        (state.advanceFlowGeneration ref next).2.control) = _
      unfold Impl.advanceFlowGeneration
      change _ = match state.flows.find? ref.id with
        | none => _
        | some flow => _
      cases stored : state.flows.find? ref.id with
      | none => rfl
      | some flow =>
          dsimp only
          simp only [Impl.control, find?_modify_eq_update stored]
  | registerWorker worker boot =>
      have same : _ = Control.register state.control.workerBoot worker boot :=
        registerBoot_control
      dsimp only
      rw [← same]
      rfl
  | registerSource source boot =>
      have same : _ = Control.register state.control.sourceBoot source boot :=
        registerBoot_control
      dsimp only
      rw [← same]
      rfl
  | fenceWorker worker deadBoot =>
      have guard : _ = Control.fences state.control.workerBoot worker deadBoot :=
        fenceBoot_control
      unfold Impl.fenceWorker
      dsimp only
      rw [← guard]
      cases fenced : fenceBoot state.workerBoot worker deadBoot with
      | none => rfl
      | some after =>
          let marked : Impl R := { state with
            workerBoot := after
            flows := state.flows.mapValues fun _ flow =>
              flow.fence (flow.ownerWorker = worker && flow.ownerBoot = deadBoot) }
          have dropped := control_dropEvidence marked worker deadBoot
          refine congrArg (Prod.mk (some (Result.verdict true))) (dropped.trans ?_)
          simp only [marked, Impl.control, fenceBoot_find?_eq_update fenced,
            find?_mapValues_eq_map]
  | fenceSource source deadBoot =>
      have guard : _ = Control.fences state.control.sourceBoot source deadBoot :=
        fenceBoot_control
      unfold Impl.fenceSource
      dsimp only
      rw [← guard]
      cases fenced : fenceBoot state.sourceBoot source deadBoot with
      | none => rfl
      | some after =>
          let marked : Impl R := { state with
            sourceBoot := after
            flows := state.flows.mapValues fun _ flow =>
              flow.fence (flow.source = source && flow.sourceBoot = deadBoot) }
          have written : marked.control = { state.control with
              sourceBoot := Function.update state.control.sourceBoot source (some deadBoot.next)
              flows := fun id => (state.control.flows id).map fun flow =>
                flow.fence (flow.source = source && flow.sourceBoot = deadBoot) } := by
            simp only [marked, Impl.control, fenceBoot_find?_eq_update fenced,
              find?_mapValues_eq_map]
          exact congrArg (Prod.mk (some (Result.verdict true))) written
  | createDomain kind capacity =>
      have guard : (decide (state.control.domainCount < limits.maxDomains.toNat) &&
          capacity.valid) = state.creatable limits capacity := rfl
      dsimp only
      rw [guard]
      cases allowed : state.creatable limits capacity with
      | false =>
          rw [createDomain_of_not_creatable allowed]
          rfl
      | true =>
          rw [createDomain_of_creatable allowed, ← control_storeDomain]
          rfl
  | declareFlow options =>
      have guard := control_declarable limits state options
      dsimp only
      by_cases allowed : Declarable limits options state
      · rw [if_pos (guard.mpr allowed), declareFlow_of_declarable allowed, ← control_storeFlow]
        rfl
      · rw [if_neg (allowed ∘ guard.mp), declareFlow_of_not_declarable allowed]
        rfl
  | removeDomain id =>
      unfold Impl.removeDomain
      dsimp only
      rw [control_isSome]
      cases present : state.domains.contains id with
      | false => rfl
      | true => exact congrArg (Prod.mk _) (control_removeDomain present)
  | publishMeasurement domain measurement owner ownerBoot =>
      have verdict : (state.publishMeasurement domain measurement owner ownerBoot).1 =
          ((state.control.domains domain).isSome && measurement.valid &&
            (!owner.isValid || state.control.workerBoot owner = some ownerBoot)) := by
        rw [Bool.eq_iff_iff, publishMeasurement_accepted, control_isSome, Bool.and_assoc,
          Bool.and_eq_true]
        rfl
      refine Prod.ext (congrArg (fun answer => some (Result.verdict answer)) verdict) ?_
      change (state.publishMeasurement domain measurement owner ownerBoot).2.control = _
      unfold Impl.publishMeasurement
      cases stored : state.domains.find? domain with
      | none =>
          dsimp only
          rw [ite_self]
      | some found =>
          dsimp only
          split_ifs
          · rfl
          · rfl
          · exact control_modify stored (record_binding found measurement owner ownerBoot)
  | applyLocalShaping domain action =>
      change (some (Result.verdict (state.applyLocalShaping domain action).1),
        (state.applyLocalShaping domain action).2.control) = _
      dsimp only
      rw [control_isSome]
      unfold Impl.applyLocalShaping UnorderedMap.contains
      cases action.valid with
      | false => rfl
      | true =>
          cases intentIsRestrictive action.intent with
          | false => rfl
          | true =>
              cases stored : state.domains.find? domain with
              | none => rfl
              | some found => exact congrArg (Prod.mk _) (control_modify stored rfl)
  | recomputeDomain id =>
      unfold Impl.recomputeDomain
      dsimp only
      cases stored : state.domains.find? id with
      | none => rfl
      | some found =>
          obtain ⟨_, _, _, written⟩ := state.recomputed_eq limits now found
          have same : (state.recomputed limits now found).2.binding = found.binding := by
            rw [written]
            rfl
          exact congrArg (Prod.mk none) (control_modify stored same)
  | advanceEpoch next =>
      have older : decide (next.value ≤ state.epoch.value) =
          !decide (state.control.epoch.value < next.value) := by
        rw [← decide_not]
        exact decide_eq_decide.mpr UInt64.not_lt.symm
      unfold Impl.advanceEpoch
      dsimp only
      rw [older]
      cases next.isValid with
      | false => rfl
      | true =>
          cases decide (state.control.epoch.value < next.value) with
          | false => rfl
          | true => rfl
  | recoverDynamicEvidence => exact congrArg (Prod.mk _) control_revalidateAll

end Operations

/-! ## Noninterference -/

/-- The calls that decide over flows. Publications, assessments and applications of
shaping are evidence. -/
def Label.controls : Label R → Bool
  | .call _ (.publishMeasurement ..) | .call _ (.recomputeDomain _)
  | .call _ (.applyLocalShaping ..) | .rehash => false
  | .call _ _ => true

/-- What a step answers, assessments apart. -/
def Label.answer (limits : EngineLimits) (state : Impl R) : Label R → Option (Result R)
  | .call now op => (exec limits now op state).1.control
  | .rehash => none

/-- The control state as a machine; a container that rehashes does nothing to it. -/
def Control.machine (limits : EngineLimits) :
    Machine (Control R) (Label R) (Option (Result R)) where
  next control
    | .call now op => (Control.exec limits now op control).2
    | .rehash => control
  answer control
    | .call now op => (Control.exec limits now op control).1
    | .rehash => none

theorem Impl.Reordered.control_eq {left right : Impl R} (same : left.Reordered right) :
    left.control = right.control := by
  have size : left.domains.size = right.domains.size := same.domains.length_eq
  unfold Impl.control
  rw [funext same.workerBoot.find?_eq, funext same.sourceBoot.find?_eq,
    funext same.domains.find?_eq, funext same.flows.find?_eq, size, same.rest]

variable {limits : EngineLimits}

/-- The engine refines the machine. -/
theorem refines_control :
    Refines (Step (R := R) limits) (Label.answer limits) Impl.control
      (Control.machine limits) where
  next taken := by
    cases taken with
    | call now op => exact (Prod.mk.inj (exec_control limits now op _)).2
    | rehash same => exact same.control_eq.symm
  answer state label := by
    cases label with
    | call now op => exact (Prod.mk.inj (exec_control limits now op state)).1
    | rehash => rfl

theorem ignores_evidence : (Control.machine (R := R) limits).Ignores Label.controls := by
  intro control label hidden
  cases label with
  | rehash => rfl
  | call now op => cases op <;> first | rfl | exact absurd hidden (by simp [Label.controls])

/-- Evidence never decides over flows: two runs with the same control calls, between
which each side has whatever publications, assessments, shaping and rehashing, answer
these calls alike, and end with the same flows, boots and lists, the same next numbers of
domains and flows and as many slots in use. -/
theorem evidence_noninterference {start final other otherFinal : Impl R}
    {history otherHistory : List (Impl R × Label R)} (run : Run (Step limits) start history final)
    (otherRun : Run (Step limits) other otherHistory otherFinal)
    (alike : start.control = other.control)
    (same : (history.map Prod.snd).filter Label.controls =
      (otherHistory.map Prod.snd).filter Label.controls) :
    outputs (Label.answer limits) Label.controls history =
        outputs (Label.answer limits) Label.controls otherHistory ∧
      final.control = otherFinal.control :=
  (refines_control.noninterference ignores_evidence run otherRun alike same).symm

/-- A flow is declared and admitted in a domain. -/
private def admitsFirst : List (UInt64 × Op Binary64) :=
  [(1, .registerWorker ⟨1⟩ ⟨1⟩), (1, .registerSource ⟨1⟩ ⟨1⟩),
    (1, .createDomain DomainKind.nicTx (.ofTheoretical 100.0)), (3, .declareFlow (.ofFirst 10)),
    (3, .admitFlow ⟨⟨1⟩, ⟨1⟩⟩)]

/-- The same, and the domain is found saturated. -/
private def admitsSaturated : List (UInt64 × Op Binary64) :=
  admitsFirst.take 3 ++
    [(2, .publishMeasurement ⟨1⟩
        { kind := MeasurementKind.offeredBytesPerSec, value := 130.0 } {} {}),
      (2, .recomputeDomain ⟨1⟩)] ++ admitsFirst.drop 3

/-- The saturated domain answers the calls like the idle one, and has the same flow. -/
theorem evidence_noninterference_saturated :
    (execAll {} admitsSaturated Impl.fresh).assessCongestion ⟨1⟩ ≠
        (execAll {} admitsFirst Impl.fresh).assessCongestion ⟨1⟩ ∧
      outputs (Label.answer {}) Label.controls (trace {} admitsSaturated Impl.fresh) =
        outputs (Label.answer {}) Label.controls (trace {} admitsFirst Impl.fresh) ∧
      (execAll {} admitsSaturated Impl.fresh).control =
        (execAll {} admitsFirst Impl.fresh).control := by
  refine ⟨fun same => ?_, evidence_noninterference (run_execAll admitsSaturated .nil)
    (run_execAll admitsFirst .nil) rfl rfl⟩
  have state : ((execAll {} admitsSaturated Impl.fresh).assessCongestion ⟨1⟩).state ≠
      ((execAll {} admitsFirst Impl.fresh).assessCongestion ⟨1⟩).state := by
    decide +kernel
  exact state (congrArg CongestionAssessment.state same)

end CongestionFabric
