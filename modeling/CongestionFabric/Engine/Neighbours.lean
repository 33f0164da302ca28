import CongestionFabric.Engine.Bindings
import CongestionFabric.Engine.Fence
import CongestionFabric.Engine.SharedDomain
import CongestionFabric.Foundation.Unwinding

/-!
Contract: one domain beside the others of the engine.

Owns:
- the operations that concern a domain and its flows;
- that an operation which concerns other domains leaves what two engines share about
  this one alone;
- that an operation which concerns the domain, done in both engines, keeps it shared and
  is answered alike.

Does not own: whole runs, and the identifiers and slots that all domains draw from
one supply.
-/

namespace CongestionFabric

open Foundation

variable {R : Type} [Arithmetic R]

/-! ## What concerns the domain -/

/-- The operation names the domain or a flow among `mine`, or is about the whole engine. -/
def Op.concerns (id : CongestionDomainId) (mine : FlowId → Bool) : Op R → Bool
  | .createDomain _ _ => false
  | .removeDomain target | .publishMeasurement target _ _ _ | .recomputeDomain target
  | .applyLocalShaping target _ => target = id
  | .declareFlow options => options.domain.id = id
  | .admitFlow ref | .queueFlow ref | .startFlow ref _ | .flowProgress ref _ _
  | .flowComplete ref _ | .flowCancel ref _ _ | .flowFail ref _ | .advanceFlowGeneration ref _
  | .revalidateFlow ref _ => mine ref.id
  | .advanceEpoch _ | .registerWorker _ _ | .registerSource _ _ | .fenceWorker _ _
  | .fenceSource _ _ | .recoverDynamicEvidence => true

def Label.concerns (id : CongestionDomainId) (mine : FlowId → Bool) : Label R → Bool
  | .call _ op => op.concerns id mine
  | .rehash => false

/-- The fence of a boot treats the domain by itself: it is refused, or no domain has a
rate of the boot, or the flag that other domains set makes no difference to this one. -/
def Impl.fencesAlone (id : CongestionDomainId) (worker : WorkerId) (deadBoot : WorkerBootId)
    (state : Impl R) : Bool :=
  (fenceBoot state.workerBoot worker deadBoot).isNone ||
    (state.domains.entries.all fun entry => !entry.2.ratedBy (worker, deadBoot)) ||
    (state.domains.find? id).all fun domain =>
      domain.ratedBy (worker, deadBoot) || domain.settled

/-- What the shared supplies and the flag of `fence_worker` must not do: a new domain
does not get the number of this one, a new flow gets a number that is new and told
correctly by `mine`, and a fence treats the domain by itself. -/
def Label.apart (limits : EngineLimits) (id : CongestionDomainId) (mine : FlowId → Bool)
    (state : Impl R) : Label R → Bool
  | .call _ (.createDomain _ _) => state.nextDomain ≠ id.value
  | .call _ (.declareFlow options) => !decide (Declarable limits options state) ||
      (state.flows.find? ⟨state.nextFlow⟩).isNone &&
        mine ⟨state.nextFlow⟩ = decide (options.domain.id = id)
  | .call _ (.fenceWorker worker deadBoot) => state.fencesAlone id worker deadBoot
  | _ => true

/-- The reference that a declaration returns. -/
def Label.issued (limits : EngineLimits) (state : Impl R) : Label R → Option (EntityRef FlowTag)
  | .call now (.declareFlow options) => some (state.declareFlow limits now options).1
  | _ => none

/-- What a call returns. -/
def Label.returned (limits : EngineLimits) (state : Impl R) : Label R → Option (Result R)
  | .call now op => some (exec limits now op state).1
  | .rehash => none

variable {limits : EngineLimits} {now : UInt64} {op : Op R} {id : CongestionDomainId}
  {mine : FlowId → Bool} {state next left right : Impl R} {label : Label R}
  {domain other : CongestionDomain R} {ref : EntityRef FlowTag} {invalidated : Bool}

/-- An accepted declaration takes a number that is new and told correctly. -/
private theorem Label.apart_declareFlow {options : FlowOptions R}
    (apart : (Label.call now (.declareFlow options)).apart limits id mine state = true)
    (declarable : Declarable limits options state) :
    state.flows.find? ⟨state.nextFlow⟩ = none ∧
      mine ⟨state.nextFlow⟩ = decide (options.domain.id = id) := by
  simpa [Label.apart, declarable] using apart

/-! ## The lists stay within the flows of the domain -/

/-- A flow of a reached domain is there, under that domain. -/
private theorem reached_flow {accepts : Flow R → Bool}
    (reached : state.reaches ref accepts id = true) :
    ∃ flow, findFlow state.flows ref = some flow ∧ accepts flow = true ∧ flow.domain.id = id := by
  obtain ⟨flow, resolved, both⟩ := (Option.any_eq_true _ _).mp reached
  rw [Bool.and_eq_true, decide_eq_true_eq] at both
  exact ⟨flow, resolved, both.1, both.2⟩

theorem Impl.Houses.exec (houses : state.Houses id mine)
    (apart : (Label.call now op).apart limits id mine state = true) :
    (exec limits now op state).2.Houses id mine := by
  have still : ∀ {key : FlowId} {flow : Flow R}, state.flows.find? key = some flow →
      flow.domain.id = id → ∃ after,
        (CongestionFabric.exec limits now op state).2.flows.find? key = some after ∧
          after.domain.id = id := by
    intro key flow found names
    refine ⟨_, exec_flow found, ?_⟩
    rw [(flowAfter_sameOrigin ..).domain]
    exact names
  constructor
  · intro key after found
    rcases exec_flow_origin found with
      ⟨flow, earlier, rfl⟩ | ⟨options, rfl, declarable, -, rfl, rfl⟩
    · rw [(flowAfter_sameOrigin ..).domain]
      exact houses.mine key flow earlier
    · rw [(Label.apart_declareFlow apart declarable).2]
      exact decide_eq_true_iff
  · intro after stored ref inside
    rcases exec_domain_origin stored with
      ⟨domain, invalidated, earlier, -, rfl⟩ | ⟨kind, capacity, -, -, -, -, rfl⟩
    · have kept : ref ∈ domain.flows → ∃ flow,
          (CongestionFabric.exec limits now op state).2.flows.find? ref.id = some flow ∧
            flow.domain.id = id := by
        intro listed
        obtain ⟨flow, found, names⟩ := houses.listed domain earlier ref listed
        exact still found names
      rcases domainAfter_flows limits now op state invalidated id domain with
        same | ⟨admitted, -, reached, appended⟩
      · rw [same] at inside
        exact kept inside
      · rw [appended, List.mem_append, List.mem_singleton] at inside
        rcases inside with listed | rfl
        · exact kept listed
        · obtain ⟨flow, resolved, -, names⟩ := reached_flow reached
          exact still (findFlow_eq_some.mp resolved).1 names
    · exact absurd inside List.not_mem_nil

theorem Impl.Houses.step (houses : state.Houses id mine)
    (apart : label.apart limits id mine state = true) (taken : Step limits state label next) :
    next.Houses id mine := by
  cases taken with
  | call now op => exact houses.exec apart
  | rehash same =>
      constructor
      · intro key flow found
        rw [← same.flows.find?_eq] at found
        exact houses.mine key flow found
      · intro domain stored ref inside
        rw [← same.domains.find?_eq] at stored
        rw [← same.flows.find?_eq]
        exact houses.listed domain stored ref inside

/-! ## What concerns other domains -/

/-- Only `advance_epoch` moves the epoch. -/
private theorem exec_epoch_of_ne (other : ∀ next, op ≠ .advanceEpoch next) :
    (exec limits now op state).2.epoch = state.epoch := by
  by_cases oneFlow : op.onOneFlow = true
  · have same : (exec limits now op state).2.outer.epoch = state.outer.epoch := by
      rw [exec_outer oneFlow]
    exact same
  · cases op with
    | advanceEpoch next => exact absurd rfl (other next)
    | registerWorker worker boot => rfl
    | registerSource source boot => rfl
    | recoverDynamicEvidence => rfl
    | fenceWorker worker deadBoot =>
        simp only [exec, Prod.map_snd, id_eq, Impl.fenceWorker]
        split <;> rfl
    | fenceSource source deadBoot =>
        simp only [exec, Prod.map_snd, id_eq, Impl.fenceSource]
        split <;> rfl
    | declareFlow options =>
        simp only [exec, Prod.map_snd, id_eq, Impl.declareFlow]
        split_ifs <;> rfl
    | createDomain kind capacity =>
        simp only [exec, Prod.map_snd, id_eq, Impl.createDomain]
        split_ifs <;> rfl
    | removeDomain domain =>
        simp only [exec, Prod.map_snd, id_eq, Impl.removeDomain]
        split <;> rfl
    | publishMeasurement domain measurement owner ownerBoot =>
        simp only [exec, Prod.map_snd, id_eq, Impl.publishMeasurement]
        cases state.domains.find? domain <;> split_ifs <;> rfl
    | recomputeDomain domain =>
        simp only [exec, Prod.map_snd, id_eq, Impl.recomputeDomain]
        split <;> rfl
    | applyLocalShaping domain action =>
        simp only [exec, Prod.map_snd, id_eq, Impl.applyLocalShaping]
        cases state.domains.find? domain <;> split_ifs <;> rfl
    | _ => exact absurd rfl oneFlow

/-- A reference outside `mine` does not reach the domain. -/
private theorem Impl.Houses.not_reached (houses : state.Houses id mine)
    {accepts : Flow R → Bool} (foreign : mine ref.id = false) :
    ¬state.reaches ref accepts id = true := by
  intro reached
  obtain ⟨flow, resolved, -, names⟩ := reached_flow reached
  exact houses.elsewhere foreign (findFlow_eq_some.mp resolved).1 names

section Hidden

variable (houses : state.Houses id mine) (hidden : op.concerns id mine = false)

include hidden

private theorem flowAfter_hidden {key : FlowId} {flow : Flow R} (own : mine key = true) :
    flowAfter limits now op state key flow = flow := by
  have foreign : ∀ {ref : EntityRef FlowTag}, mine ref.id = false → key ≠ ref.id := by
    rintro ref foreign rfl
    exact Bool.false_ne_true (foreign.symm.trans own)
  cases op with
  | admitFlow ref => exact if_neg fun names => foreign hidden names.1
  | queueFlow ref => exact if_neg fun names => foreign hidden names.1
  | startFlow ref boot => exact if_neg fun names => foreign hidden names.1
  | flowProgress ref boot delta => exact if_neg fun names => foreign hidden names.1
  | flowComplete ref boot => exact if_neg fun names => foreign hidden names.1
  | flowCancel ref boot soFar => exact if_neg fun names => foreign hidden names.1
  | flowFail ref boot => exact if_neg fun names => foreign hidden names.1
  | revalidateFlow ref boot => exact if_neg fun names => foreign hidden names.1
  | advanceFlowGeneration ref following => exact if_neg (foreign hidden)
  | fenceWorker worker deadBoot => exact absurd hidden (by simp [Op.concerns])
  | fenceSource source deadBoot => exact absurd hidden (by simp [Op.concerns])
  | recoverDynamicEvidence => exact absurd hidden (by simp [Op.concerns])
  | _ => rfl

include houses

private theorem domainAfter_hidden :
    domainAfter limits now op state invalidated id domain = domain := by
  have elsewhere : ∀ {target : CongestionDomainId}, decide (target = id) = false →
      ¬id = target := by
    rintro target other rfl
    simp at other
  cases op with
  | admitFlow ref => exact if_neg (houses.not_reached hidden)
  | startFlow ref boot => exact if_neg (houses.not_reached hidden)
  | publishMeasurement target measurement owner ownerBoot =>
      simp only [domainAfter, elsewhere hidden, decide_false, Bool.false_and, Bool.false_eq_true,
        if_false]
  | recomputeDomain target => exact if_neg (elsewhere hidden)
  | applyLocalShaping target action =>
      simp only [domainAfter, elsewhere hidden, decide_false, Bool.false_and, Bool.false_eq_true,
        if_false]
  | fenceWorker worker deadBoot => exact absurd hidden (by simp [Op.concerns])
  | recoverDynamicEvidence => exact absurd hidden (by simp [Op.concerns])
  | _ => rfl

/-- An operation that concerns other domains leaves what is shared of this one alone. -/
private theorem sameOn_of_hidden (apart : (Label.call now op).apart limits id mine state = true) :
    (exec limits now op state).2.SameOn id mine state := by
  obtain ⟨worker, source⟩ := exec_tables limits now op state
  constructor
  case domain =>
    congr 1
    cases stored : state.domains.find? id with
    | some domain =>
        have kept : op ≠ .removeDomain id := by
          rintro rfl
          simp [Op.concerns] at hidden
        obtain ⟨_, found⟩ := exec_domain limits now op stored kept
        rw [found, domainAfter_hidden houses hidden]
    | none =>
        by_contra appears
        obtain ⟨after, found⟩ := Option.ne_none_iff_exists'.mp appears
        rcases exec_domain_origin found with
          ⟨_, _, earlier, -⟩ | ⟨kind, capacity, rfl, -, -, rfl, -⟩
        · rw [stored] at earlier
          exact absurd earlier (by simp)
        · exact of_decide_eq_true apart rfl
  case flows =>
    intro key own
    cases stored : state.flows.find? key with
    | some flow => rw [exec_flow stored, flowAfter_hidden hidden own]
    | none =>
        by_contra appears
        obtain ⟨after, found⟩ := Option.ne_none_iff_exists'.mp appears
        rcases exec_flow_origin found with
          ⟨_, earlier, -⟩ | ⟨options, rfl, declarable, -, rfl, -⟩
        · rw [stored] at earlier
          exact absurd earlier (by simp)
        · rw [(Label.apart_declareFlow apart declarable).2,
            show decide (options.domain.id = id) = false from hidden] at own
          exact Bool.false_ne_true own
  case workerBoot =>
    rw [worker]
    cases op <;> first | exact fun _ => rfl | exact absurd hidden (by simp [Op.concerns])
  case sourceBoot =>
    rw [source]
    cases op <;> first | exact fun _ => rfl | exact absurd hidden (by simp [Op.concerns])
  case epoch =>
    apply exec_epoch_of_ne
    rintro next rfl
    simp [Op.concerns] at hidden

end Hidden

/-- A step that concerns other domains may be taken on one side alone. -/
theorem Impl.Beside.hidden (beside : left.Beside id mine right)
    (apart : label.apart limits id mine left = true) (hidden : label.concerns id mine = false)
    (taken : Step limits left label next) : next.Beside id mine right := by
  refine ⟨?_, beside.houses.step apart taken, beside.housesToo⟩
  cases taken with
  | call now op => exact (sameOn_of_hidden beside.houses hidden apart).trans beside.same
  | rehash same =>
      refine Impl.SameOn.trans ⟨?_, ?_, ?_, ?_, ?_⟩ beside.same
      · rw [same.domains.find?_eq]
      · exact fun key _ => (same.flows.find?_eq key).symm
      · exact fun worker => (same.workerBoot.find?_eq worker).symm
      · exact fun source => (same.sourceBoot.find?_eq source).symm
      · rw [same.rest]

/-! ## What concerns the domain -/

/-- Outside the fence of a worker no flag arrives. -/
private theorem domainAfter_flag (notFence : ∀ worker deadBoot, op ≠ .fenceWorker worker deadBoot) :
    domainAfter limits now op state invalidated id domain =
      domainAfter limits now op state false id domain := by
  cases op with
  | fenceWorker worker deadBoot => exact absurd rfl (notFence worker deadBoot)
  | _ => rfl

/-- A fence that treats the domain by itself does what it does without the flag. -/
private theorem exec_domain_alone {worker : WorkerId} {deadBoot : WorkerBootId}
    (stored : state.domains.find? id = some domain)
    (alone : state.fencesAlone id worker deadBoot = true) :
    (exec limits now (.fenceWorker worker deadBoot) state).2.domains.find? id =
      some (domainAfter limits now (.fenceWorker worker deadBoot) state false id domain) := by
  obtain ⟨invalidated, found⟩ :=
    exec_domain limits now (.fenceWorker worker deadBoot) stored (by simp)
  have flagged : (fenceBoot state.workerBoot worker deadBoot).isSome = true →
      (domain.dropEvidence worker deadBoot invalidated).2 =
        (domain.dropEvidence worker deadBoot false).2 →
      (exec limits now (.fenceWorker worker deadBoot) state).2.domains.find? id =
        some (domainAfter limits now (.fenceWorker worker deadBoot) state false id domain) := by
    intro fences same
    rw [found]
    simp only [domainAfter, fences, if_true, same]
  unfold Impl.fencesAlone at alone
  rw [Bool.or_eq_true, Bool.or_eq_true, stored, Option.all_some] at alone
  cases fenced : fenceBoot state.workerBoot worker deadBoot with
  | none =>
      rw [found]
      simp only [domainAfter, fenced, Option.isSome_none, Bool.false_eq_true, if_false]
  | some bumped =>
      rw [fenced] at alone
      rcases alone with (refused | unrated) | either
      · exact absurd refused (by simp)
      · have apart : state.fencesApart (worker, deadBoot) = true := by
          rw [Impl.fencesApart, unrated, Bool.true_or]
        have walked : (state.fenceWorker worker deadBoot).2.domains = state.domains.mapValues
            fun _ domain => (domain.dropEvidence worker deadBoot false).2 := by
          rw [fenceWorker_eq fenced]
          exact dropEvidence_walk_apart apart
        change (state.fenceWorker worker deadBoot).2.domains.find? id = _
        rw [walked, UnorderedMap.find?_mapValues, stored, Option.map_some]
        simp only [domainAfter, fenced, Option.isSome_some, if_true]
      · refine flagged (by rw [fenced]; rfl) ?_
        cases rated : domain.ratedBy (worker, deadBoot) with
        | true => exact dropEvidence_rated rated
        | false =>
            rw [rated, Bool.false_or] at either
            rw [dropEvidence_alone rated]
            cases invalidated with
            | false => exact dropEvidence_alone rated
            | true => exact (dropEvidence_together rated).mpr either

private theorem exec_domain_apart (stored : state.domains.find? id = some domain)
    (kept : op ≠ .removeDomain id) (apart : (Label.call now op).apart limits id mine state = true) :
    (exec limits now op state).2.domains.find? id =
      some (domainAfter limits now op state false id domain) := by
  by_cases fence : ∃ worker deadBoot, op = .fenceWorker worker deadBoot
  · obtain ⟨worker, deadBoot, rfl⟩ := fence
    exact exec_domain_alone stored apart
  · obtain ⟨invalidated, found⟩ := exec_domain limits now op stored kept
    rw [found, domainAfter_flag fun worker deadBoot same => fence ⟨worker, deadBoot, same⟩]

/-! ### Records that differ in the numbers of episodes -/

namespace CongestionDomain

/-- An update that looks at no number keeps records alike. -/
private theorem unnumbered_update {update : CongestionDomain R → CongestionDomain R}
    (blind : ∀ domain, (update domain).unnumbered = update domain.unnumbered)
    (alike : domain.unnumbered = other.unnumbered) :
    (update domain).unnumbered = (update other).unnumbered := by
  rw [blind, alike, ← blind]

private theorem dropEvidence_unnumbered (worker : WorkerId) (deadBoot : WorkerBootId)
    (domain : CongestionDomain R) :
    (domain.dropEvidence worker deadBoot false).2.unnumbered =
      (domain.unnumbered.dropEvidence worker deadBoot false).2 := by
  obtain ⟨any, set, fields⟩ := domain.dropEvidence_eq worker deadBoot false
  obtain ⟨anyToo, setToo, fieldsToo⟩ := domain.unnumbered.dropEvidence_eq worker deadBoot false
  obtain rfl : any = anyToo := set.trans setToo.symm
  rw [fields, fieldsToo]
  rfl

private theorem clearRevalidation_unnumbered (domain : CongestionDomain R) :
    domain.clearRevalidation.unnumbered = domain.unnumbered.clearRevalidation := by
  rw [clearRevalidation_eq, clearRevalidation_eq]
  rfl

private theorem record_unnumbered (measurement : Measurement R) (owner : WorkerId)
    (ownerBoot : WorkerBootId) (domain : CongestionDomain R) :
    (domain.record measurement owner ownerBoot).unnumbered =
      domain.unnumbered.record measurement owner ownerBoot := by
  unfold record
  rw [← clearRevalidation_unnumbered]
  dsimp only
  split_ifs <;> rfl

private theorem requireRevalidation_unnumbered (domain : CongestionDomain R) :
    domain.requireRevalidation.unnumbered = domain.unnumbered.requireRevalidation := by
  unfold requireRevalidation
  by_cases unknown : domain.state = .unknown
  · rw [if_pos unknown, if_pos (show domain.unnumbered.state = .unknown from unknown)]
  · rw [if_neg unknown, if_neg (show ¬domain.unnumbered.state = .unknown from unknown)]
    rfl

/-- The boundaries of episodes do not depend on numbers. -/
private theorem trackEpisode_unnumbered (limits : EngineLimits) (now : UInt64)
    (assessed : CongestionState) (queuedBytes event : UInt64) (domain : CongestionDomain R) :
    (domain.trackEpisode limits now assessed queuedBytes event).2.unnumbered =
      (domain.unnumbered.trackEpisode limits now assessed queuedBytes 0).2.unnumbered := by
  have sameOpen : domain.unnumbered.currentEpisode.isOpen = domain.currentEpisode.isOpen := rfl
  have twice : CongestionEpisode.unnumbered ∘ CongestionEpisode.unnumbered =
      (CongestionEpisode.unnumbered : CongestionEpisode R → CongestionEpisode R) := rfl
  unfold trackEpisode
  dsimp only
  rw [sameOpen]
  cases assessed.congestedNow with
  | true =>
      cases domain.currentEpisode.isOpen with
      | true => simp [unnumbered, CongestionEpisode.unnumbered]
      | false => simp [unnumbered, CongestionEpisode.unnumbered, CongestionEpisode.opened]
  | false =>
      cases domain.currentEpisode.isOpen with
      | true =>
          simp only [unnumbered, Bool.false_eq_true, if_false, if_true, List.length_append,
            List.length_map, apply_ite (List.map CongestionEpisode.unnumbered)]
          simp [CongestionEpisode.unnumbered, List.map_tail, twice]
      | false => simp [unnumbered, CongestionEpisode.unnumbered]

end CongestionDomain

/-! ### Tables that answer alike -/

section Tables

variable {Tag BootTag : Type} {table tableToo : UnorderedMap (Id Tag) (Generation BootTag)}
  (alike : ∀ key, table.find? key = tableToo.find? key) (key : Id Tag)
  (boot : Generation BootTag)

include alike

private theorem registerBoot_verdict_eq :
    (registerBoot table key boot).1 = (registerBoot tableToo key boot).1 := by
  rw [Bool.eq_iff_iff, registerBoot_accepted, registerBoot_accepted, alike]

private theorem registerBoot_find?_eq (found : Id Tag) :
    (registerBoot table key boot).2.find? found =
      (registerBoot tableToo key boot).2.find? found := by
  rw [registerBoot_find?, registerBoot_find?, registerBoot_verdict_eq alike, alike]

private theorem fenceBoot_isSome_eq :
    (fenceBoot table key boot).isSome = (fenceBoot tableToo key boot).isSome := by
  rw [Bool.eq_iff_iff, fenceBoot_isSome, fenceBoot_isSome, alike]

private theorem fenceBoot_find?_eq (found : Id Tag) :
    ((fenceBoot table key boot).getD table).find? found =
      ((fenceBoot tableToo key boot).getD tableToo).find? found := by
  rw [fenceBoot_find?, fenceBoot_find?, alike, alike]

end Tables

/-! ### The same operation on both sides -/

/-- A new flow is returned under its number. -/
private theorem declareFlow_ref {options : FlowOptions R}
    (declarable : Declarable limits options state)
    (new : state.flows.find? ⟨state.nextFlow⟩ = none) :
    (state.declareFlow limits now options).1 = ⟨⟨state.nextFlow⟩, ⟨1⟩⟩ := by
  rw [declareFlow_of_declarable declarable]
  unfold Impl.storeFlow
  dsimp only
  rw [UnorderedMap.find?_emplace, if_pos ⟨new, rfl⟩]
  rfl

/-- A declaration that returns the same on both sides stores the same, or nothing. -/
private theorem declared_alike {options : FlowOptions R}
    (apart : (Label.call now (.declareFlow options)).apart limits id mine left = true)
    (apartToo : (Label.call now (.declareFlow options)).apart limits id mine right = true)
    (issued : (left.declareFlow limits now options).1 = (right.declareFlow limits now options).1)
    {key : FlowId} (absent : left.flows.find? key = none)
    (absentToo : right.flows.find? key = none) :
    (left.declareFlow limits now options).2.flows.find? key =
      (right.declareFlow limits now options).2.flows.find? key := by
  by_cases declarable : Declarable limits options left
  · have new := (Label.apart_declareFlow apart declarable).1
    rw [declareFlow_ref declarable new] at issued
    by_cases declarableToo : Declarable limits options right
    · have newToo := (Label.apart_declareFlow apartToo declarableToo).1
      rw [declareFlow_ref declarableToo newToo] at issued
      have number : left.nextFlow = right.nextFlow :=
        congrArg (fun ref : EntityRef FlowTag => ref.id.value) issued
      rw [declareFlow_find? declarable, declareFlow_find? declarableToo, new, newToo, number,
        absent, absentToo]
    · rw [declareFlow_of_not_declarable declarableToo] at issued
      exact absurd (congrArg (fun ref : EntityRef FlowTag => ref.generation.value) issued)
        (by simp)
  · by_cases declarableToo : Declarable limits options right
    · rw [declareFlow_ref declarableToo (Label.apart_declareFlow apartToo declarableToo).1,
        declareFlow_of_not_declarable declarable] at issued
      exact absurd (congrArg (fun ref : EntityRef FlowTag => ref.generation.value) issued)
        (by simp)
    · rw [declareFlow_of_not_declarable declarable, declareFlow_of_not_declarable declarableToo]
      exact absent.trans absentToo.symm

namespace Impl.Beside

private theorem recomputed_alike (beside : left.Beside id mine right)
    (stored : left.domains.find? id = some domain) (alike : domain.unnumbered = other.unnumbered)
    (limits : EngineLimits) (now : UInt64) :
    (left.recomputed limits now domain).2.unnumbered =
      (right.recomputed limits now other).2.unnumbered := by
  have assess := beside.assess_eq stored alike
  unfold Impl.recomputed
  rw [assess, beside.aggregate_eq stored alike, CongestionDomain.trackEpisode_unnumbered,
    CongestionDomain.trackEpisode_unnumbered _ _ _ _ right.nextEvent]
  have assessed := congrArg (fun record : CongestionDomain R => { record with
    state := (right.assess other).state
    stateProvenance := (right.assess other).provenance }) alike
  exact congrArg (fun record : CongestionDomain R => (record.trackEpisode limits now
    (right.assess other).state (aggregateDomain other right.flows).queuedBytes 0).2.unnumbered)
    assessed

variable (beside : left.Beside id mine right)

include beside

private theorem publishable_eq (measurement : Measurement R) (owner : WorkerId)
    (ownerBoot : WorkerBootId) :
    left.publishable measurement owner ownerBoot =
      right.publishable measurement owner ownerBoot := by
  unfold Impl.publishable
  rw [beside.same.workerBoot]

/-- Whether a flow of the domain is admitted depends on the domain only. -/
private theorem reaches_eq (own : mine ref.id = true)
    {accepts acceptsToo : Flow R → Bool}
    (agree : ∀ flow, flow.domain.id = id → accepts flow = acceptsToo flow) :
    left.reaches ref accepts id = right.reaches ref acceptsToo id := by
  unfold Impl.reaches
  rw [beside.same.findFlow_eq own]
  cases findFlow right.flows ref with
  | none => rfl
  | some flow =>
      by_cases names : flow.domain.id = id
      · rw [Option.any_some, Option.any_some, agree flow names]
      · simp [names]

private theorem domainAfter_alike (visible : op.concerns id mine = true)
    (stored : left.domains.find? id = some domain) (alike : domain.unnumbered = other.unnumbered) :
    (domainAfter limits now op left false id domain).unnumbered =
      (domainAfter limits now op right false id other).unnumbered := by
  have branch : ∀ {condition : Prop} [Decidable condition] {first second : CongestionDomain R},
      first.unnumbered = second.unnumbered →
        (if condition then first else domain).unnumbered =
          (if condition then second else other).unnumbered := by
    intro condition _ first second same
    split
    · exact same
    · exact alike
  cases op with
  | fenceWorker worker deadBoot =>
      dsimp only [domainAfter]
      rw [fenceBoot_isSome_eq beside.same.workerBoot]
      exact branch (CongestionDomain.unnumbered_update
        (CongestionDomain.dropEvidence_unnumbered worker deadBoot) alike)
  | admitFlow ref =>
      have admits : left.reaches ref
          (fun flow => (flow.admission (left.domains.contains flow.domain.id)).1) id =
            right.reaches ref
              (fun flow => (flow.admission (right.domains.contains flow.domain.id)).1) id :=
        beside.reaches_eq visible fun flow names => by rw [names, beside.same.contains_eq]
      dsimp only [domainAfter]
      rw [admits]
      exact branch (congrArg (fun record : CongestionDomain R =>
        { record with flows := record.flows ++ [ref] }) alike)
  | startFlow ref boot =>
      dsimp only [domainAfter]
      rw [beside.reaches_eq visible fun _ _ => rfl]
      exact branch (CongestionDomain.unnumbered_update
        CongestionDomain.clearRevalidation_unnumbered alike)
  | publishMeasurement target measurement owner ownerBoot =>
      dsimp only [domainAfter]
      rw [beside.publishable_eq]
      exact branch (CongestionDomain.unnumbered_update
        (CongestionDomain.record_unnumbered measurement owner ownerBoot) alike)
  | recomputeDomain target => exact branch (beside.recomputed_alike stored alike limits now)
  | applyLocalShaping target action =>
      exact branch (congrArg (fun record : CongestionDomain R => { record with
        shaping := .full record.allowedBps record.allowedBps
        backpressureGeneration := action.generation }) alike)
  | recoverDynamicEvidence =>
      exact CongestionDomain.unnumbered_update
        CongestionDomain.requireRevalidation_unnumbered alike
  | _ => exact alike

private theorem flowAfter_eq {key : FlowId} {flow : Flow R} (names : flow.domain.id = id) :
    flowAfter limits now op left key flow = flowAfter limits now op right key flow := by
  cases op with
  | fenceWorker worker deadBoot =>
      dsimp only [flowAfter]
      rw [fenceBoot_isSome_eq beside.same.workerBoot]
  | fenceSource source deadBoot =>
      dsimp only [flowAfter]
      rw [fenceBoot_isSome_eq beside.same.sourceBoot]
  | admitFlow ref =>
      dsimp only [flowAfter]
      rw [names, beside.same.contains_eq]
  | queueFlow ref =>
      dsimp only [flowAfter]
      rw [names, beside.same.contains_eq, beside.queuedFlows_eq]
  | _ => rfl

/-- An operation that concerns the domain does the same to it on both sides. -/
private theorem domain_after (visible : op.concerns id mine = true)
    (apart : (Label.call now op).apart limits id mine left = true)
    (apartToo : (Label.call now op).apart limits id mine right = true) :
    ((exec limits now op left).2.domains.find? id).map CongestionDomain.unnumbered =
      ((exec limits now op right).2.domains.find? id).map CongestionDomain.unnumbered := by
  have gone : ∀ {state : Impl R}, state.domains.find? id = none ∨ op = .removeDomain id →
      (exec limits now op state).2.domains.find? id = none := by
    intro state absent
    by_contra appears
    obtain ⟨after, found⟩ := Option.ne_none_iff_exists'.mp appears
    rcases exec_domain_origin found with ⟨_, _, earlier, kept, -⟩ | ⟨kind, capacity, rfl, -⟩
    · rw [or_iff_left kept, earlier] at absent
      exact absurd absent (by simp)
    · exact absurd visible (by simp [Op.concerns])
  rcases beside.same.stored with ⟨first, second⟩ | ⟨domain, other, first, second, alike⟩
  · rw [gone (Or.inl first), gone (Or.inl second)]
  · by_cases removes : op = .removeDomain id
    · rw [gone (Or.inr removes), gone (Or.inr removes)]
    · rw [exec_domain_apart first removes apart, exec_domain_apart second removes apartToo,
        Option.map_some, Option.map_some, beside.domainAfter_alike visible first alike]

private theorem flows_after (visible : op.concerns id mine = true)
    (apart : (Label.call now op).apart limits id mine left = true)
    (apartToo : (Label.call now op).apart limits id mine right = true)
    (issued : (Label.call now op).issued limits left = (Label.call now op).issued limits right)
    {key : FlowId} (own : mine key = true) :
    (exec limits now op left).2.flows.find? key = (exec limits now op right).2.flows.find? key := by
  cases stored : left.flows.find? key with
  | some flow =>
      have storedToo := (beside.same.flows key own).symm.trans stored
      rw [exec_flow stored, exec_flow storedToo,
        beside.flowAfter_eq ((beside.houses.mine key flow stored).mp own)]
  | none =>
      have absentToo := (beside.same.flows key own).symm.trans stored
      by_cases declares : ∃ options, op = .declareFlow options
      · obtain ⟨options, rfl⟩ := declares
        exact declared_alike apart apartToo (Option.some.inj issued) stored absentToo
      · have still : ∀ {state : Impl R}, state.flows.find? key = none →
            (exec limits now op state).2.flows.find? key = none := by
          intro state absent
          by_contra appears
          obtain ⟨after, found⟩ := Option.ne_none_iff_exists'.mp appears
          rcases exec_flow_origin found with ⟨_, earlier, -⟩ | ⟨options, same, -⟩
          · rw [absent] at earlier
            exact absurd earlier (by simp)
          · exact declares ⟨options, same⟩
        rw [still stored, still absentToo]

private theorem sameOn_after (visible : op.concerns id mine = true)
    (apart : (Label.call now op).apart limits id mine left = true)
    (apartToo : (Label.call now op).apart limits id mine right = true)
    (issued : (Label.call now op).issued limits left = (Label.call now op).issued limits right) :
    (exec limits now op left).2.SameOn id mine (exec limits now op right).2 := by
  obtain ⟨workers, sources⟩ := exec_tables limits now op left
  obtain ⟨workersToo, sourcesToo⟩ := exec_tables limits now op right
  refine ⟨beside.domain_after visible apart apartToo,
    fun key own => beside.flows_after visible apart apartToo issued own, ?_, ?_, ?_⟩
  · rw [workers, workersToo]
    cases op with
    | registerWorker worker boot => exact registerBoot_find?_eq beside.same.workerBoot worker boot
    | fenceWorker worker deadBoot =>
        exact fenceBoot_find?_eq beside.same.workerBoot worker deadBoot
    | _ => exact beside.same.workerBoot
  · rw [sources, sourcesToo]
    cases op with
    | registerSource source boot => exact registerBoot_find?_eq beside.same.sourceBoot source boot
    | fenceSource source deadBoot =>
        exact fenceBoot_find?_eq beside.same.sourceBoot source deadBoot
    | _ => exact beside.same.sourceBoot
  · by_cases advances : ∃ next, op = .advanceEpoch next
    · obtain ⟨next, rfl⟩ := advances
      simp only [exec, Prod.map_snd, id_eq, Impl.advanceEpoch, beside.same.epoch]
      split
      · exact beside.same.epoch
      · rfl
    · have others : ∀ next, op ≠ .advanceEpoch next := fun next same => advances ⟨next, same⟩
      rw [exec_epoch_of_ne others, exec_epoch_of_ne others]
      exact beside.same.epoch

/-- An operation on a flow of the domain is accepted alike. -/
private theorem onFlow_verdict_eq (own : mine ref.id = true) {body bodyToo : Flow R → Bool × Flow R}
    {after afterToo : Flow R → Impl R → Impl R}
    (agree : ∀ flow, flow.domain.id = id → (body flow).1 = (bodyToo flow).1) :
    (left.onFlow ref body after).1 = (right.onFlow ref bodyToo afterToo).1 := by
  rw [Bool.eq_iff_iff, Impl.onFlow_accepted, Impl.onFlow_accepted, beside.same.findFlow_eq own]
  refine exists_congr fun flow => and_congr_right fun resolved => ?_
  rw [agree flow ((beside.housesToo.mine ref.id flow (findFlow_eq_some.mp resolved).1).mp own)]

/-- And it is answered alike. -/
private theorem result_eq (visible : op.concerns id mine = true)
    (issued : (Label.call now op).issued limits left = (Label.call now op).issued limits right) :
    (exec limits now op left).1 = (exec limits now op right).1 := by
  cases op with
  | advanceEpoch next =>
      have same : (left.advanceEpoch next).1 = (right.advanceEpoch next).1 := by
        unfold Impl.advanceEpoch
        rw [beside.same.epoch]
        split <;> rfl
      exact congrArg Result.verdict same
  | registerWorker worker boot =>
      exact congrArg Result.verdict (registerBoot_verdict_eq beside.same.workerBoot worker boot)
  | registerSource source boot =>
      exact congrArg Result.verdict (registerBoot_verdict_eq beside.same.sourceBoot source boot)
  | fenceWorker worker deadBoot =>
      have accepted : ∀ state : Impl R, (state.fenceWorker worker deadBoot).1 =
          (fenceBoot state.workerBoot worker deadBoot).isSome := by
        intro state
        unfold Impl.fenceWorker
        split
        · next refused => rw [refused]; rfl
        · next bumped fenced => rw [fenced]; rfl
      have same := fenceBoot_isSome_eq beside.same.workerBoot worker deadBoot
      rw [← accepted, ← accepted] at same
      exact congrArg Result.verdict same
  | fenceSource source deadBoot =>
      have accepted : ∀ state : Impl R, (state.fenceSource source deadBoot).1 =
          (fenceBoot state.sourceBoot source deadBoot).isSome := by
        intro state
        unfold Impl.fenceSource
        split
        · next refused => rw [refused]; rfl
        · next bumped fenced => rw [fenced]; rfl
      have same := fenceBoot_isSome_eq beside.same.sourceBoot source deadBoot
      rw [← accepted, ← accepted] at same
      exact congrArg Result.verdict same
  | createDomain kind capacity => exact absurd visible (by simp [Op.concerns])
  | removeDomain target =>
      obtain rfl := of_decide_eq_true visible
      have same : (left.removeDomain target).1 = (right.removeDomain target).1 := by
        unfold Impl.removeDomain
        rw [beside.same.contains_eq]
        split <;> rfl
      exact congrArg Result.verdict same
  | declareFlow options => exact congrArg Result.flowRef (Option.some.inj issued)
  | admitFlow ref =>
      have agree : ∀ flow : Flow R, flow.domain.id = id →
          (flow.admission (left.domains.contains flow.domain.id)).1 =
            (flow.admission (right.domains.contains flow.domain.id)).1 := by
        intro flow names
        rw [names, beside.same.contains_eq]
      have same : (left.admitFlow ref).1 = (right.admitFlow ref).1 :=
        beside.onFlow_verdict_eq visible agree
      exact congrArg Result.verdict same
  | queueFlow ref =>
      have agree : ∀ flow : Flow R, flow.domain.id = id →
          (flow.queue limits (left.domains.contains flow.domain.id)
            (left.queuedFlows flow.domain.id)).1 =
          (flow.queue limits (right.domains.contains flow.domain.id)
            (right.queuedFlows flow.domain.id)).1 := by
        intro flow names
        rw [names, beside.same.contains_eq, beside.queuedFlows_eq]
      have same : (left.queueFlow limits ref).1 = (right.queueFlow limits ref).1 :=
        beside.onFlow_verdict_eq visible agree
      exact congrArg Result.verdict same
  | startFlow ref boot =>
      have same : (left.startFlow now ref boot).1 = (right.startFlow now ref boot).1 :=
        beside.onFlow_verdict_eq visible fun _ _ => rfl
      exact congrArg Result.verdict same
  | flowProgress ref boot delta =>
      have same :
          (left.flowProgress now ref boot delta).1 = (right.flowProgress now ref boot delta).1 :=
        beside.onFlow_verdict_eq visible fun _ _ => rfl
      exact congrArg Result.verdict same
  | flowComplete ref boot =>
      have same : (left.flowComplete now ref boot).1 = (right.flowComplete now ref boot).1 :=
        beside.onFlow_verdict_eq visible fun _ _ => rfl
      exact congrArg Result.verdict same
  | flowCancel ref boot soFar =>
      have same :
          (left.flowCancel now ref boot soFar).1 = (right.flowCancel now ref boot soFar).1 :=
        beside.onFlow_verdict_eq visible fun _ _ => rfl
      exact congrArg Result.verdict same
  | flowFail ref boot =>
      have same : (left.flowFail now ref boot).1 = (right.flowFail now ref boot).1 :=
        beside.onFlow_verdict_eq visible fun _ _ => rfl
      exact congrArg Result.verdict same
  | revalidateFlow ref boot =>
      have same : (left.revalidateFlow ref boot).1 = (right.revalidateFlow ref boot).1 :=
        beside.onFlow_verdict_eq visible fun _ _ => rfl
      exact congrArg Result.verdict same
  | advanceFlowGeneration ref following =>
      have same : (left.advanceFlowGeneration ref following).1 =
          (right.advanceFlowGeneration ref following).1 := by
        unfold Impl.advanceFlowGeneration
        rw [beside.same.flows ref.id visible]
        split <;> rfl
      exact congrArg Result.verdict same
  | publishMeasurement target measurement owner ownerBoot =>
      obtain rfl := of_decide_eq_true visible
      have same : (left.publishMeasurement target measurement owner ownerBoot).1 =
          (right.publishMeasurement target measurement owner ownerBoot).1 := by
        rw [Bool.eq_iff_iff, publishMeasurement_accepted, publishMeasurement_accepted,
          beside.same.contains_eq, beside.publishable_eq]
      exact congrArg Result.verdict same
  | recomputeDomain target =>
      obtain rfl := of_decide_eq_true visible
      have same : (left.recomputeDomain limits now target).1 =
          (right.recomputeDomain limits now target).1 := by
        unfold Impl.recomputeDomain
        rcases beside.same.stored with ⟨first, second⟩ | ⟨domain, other, first, second, alike⟩
        · rw [first, second]
        · rw [first, second]
          exact beside.assess_eq first alike
      exact congrArg Result.assessment same
  | applyLocalShaping target action =>
      obtain rfl := of_decide_eq_true visible
      have same : (left.applyLocalShaping target action).1 =
          (right.applyLocalShaping target action).1 := by
        unfold Impl.applyLocalShaping
        rcases beside.same.stored with ⟨first, second⟩ | ⟨domain, other, first, second, -⟩
        · rw [first, second]
          split_ifs <;> rfl
        · rw [first, second]
          split_ifs <;> rfl
      exact congrArg Result.verdict same
  | recoverDynamicEvidence => rfl

/-- A step that concerns the domain, taken on both sides with the same number issued,
keeps it shared and is answered alike. -/
theorem together {labelToo : Label R} {nextToo : Impl R}
    (apart : label.apart limits id mine left = true)
    (apartToo : labelToo.apart limits id mine right = true)
    (visible : label.concerns id mine = true)
    (seen : (label, label.issued limits left) = (labelToo, labelToo.issued limits right))
    (taken : Step limits left label next) (takenToo : Step limits right labelToo nextToo) :
    next.Beside id mine nextToo ∧ label.returned limits left = labelToo.returned limits right := by
  obtain ⟨rfl, issued⟩ := Prod.mk.inj seen
  cases taken with
  | rehash same => exact absurd visible (by simp [Label.concerns])
  | call now op =>
      cases takenToo with
      | call now op =>
          exact ⟨⟨beside.sameOn_after visible apart apartToo issued, beside.houses.exec apart,
            beside.housesToo.exec apartToo⟩, congrArg some (beside.result_eq visible issued)⟩

end Impl.Beside

end CongestionFabric
