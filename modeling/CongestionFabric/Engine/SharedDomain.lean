import CongestionFabric.Engine.Advice
import CongestionFabric.Engine.DomainEffect

/-!
Contract: what two engines share about one domain.

Owns the relation between two engines that have the domain, its flows, the boots and the
epoch in common, what is looked up and derived alike in both, and that both answer every
query about the domain alike.

Does not own: what operations do to either engine.
-/

namespace CongestionFabric

open Foundation

variable {R : Type} [Arithmetic R]

/-! ## What is shared -/

/-- An episode without its number, which comes from a supply that all domains share. -/
def CongestionEpisode.unnumbered (episode : CongestionEpisode R) : CongestionEpisode R :=
  { episode with eventId := {} }

def CongestionDomain.unnumbered (domain : CongestionDomain R) : CongestionDomain R :=
  { domain with
    episodes := domain.episodes.map CongestionEpisode.unnumbered
    currentEpisode := domain.currentEpisode.unnumbered }

/-- The two engines have the same domain, the same flows among `mine`, and the same
epoch and boots. -/
structure Impl.SameOn (id : CongestionDomainId) (mine : FlowId → Bool) (left right : Impl R) :
    Prop where
  domain : (left.domains.find? id).map CongestionDomain.unnumbered =
    (right.domains.find? id).map CongestionDomain.unnumbered
  flows : ∀ key, mine key = true → left.flows.find? key = right.flows.find? key
  workerBoot : ∀ worker, left.workerBoot.find? worker = right.workerBoot.find? worker
  sourceBoot : ∀ source, left.sourceBoot.find? source = right.sourceBoot.find? source
  epoch : left.epoch = right.epoch

/-- `mine` tells the flows of the domain, and its list has no others. -/
structure Impl.Houses (id : CongestionDomainId) (mine : FlowId → Bool) (state : Impl R) : Prop where
  mine : ∀ key flow, state.flows.find? key = some flow → (mine key = true ↔ flow.domain.id = id)
  listed : ∀ domain, state.domains.find? id = some domain → ∀ ref ∈ domain.flows,
    ∃ flow, state.flows.find? ref.id = some flow ∧ flow.domain.id = id

variable {id : CongestionDomainId} {mine : FlowId → Bool} {state left right : Impl R}
  {domain other : CongestionDomain R} {ref : EntityRef FlowTag}

/-! ## Lookups -/

namespace Impl

theorem SameOn.refl (state : Impl R) : state.SameOn id mine state :=
  ⟨rfl, fun _ _ => rfl, fun _ => rfl, fun _ => rfl, rfl⟩

theorem SameOn.symm (same : left.SameOn id mine right) : right.SameOn id mine left :=
  ⟨same.domain.symm, fun key own => (same.flows key own).symm,
    fun worker => (same.workerBoot worker).symm, fun source => (same.sourceBoot source).symm,
    same.epoch.symm⟩

theorem SameOn.trans {third : Impl R} (first : left.SameOn id mine right)
    (second : right.SameOn id mine third) : left.SameOn id mine third :=
  ⟨first.domain.trans second.domain,
    fun key own => (first.flows key own).trans (second.flows key own),
    fun worker => (first.workerBoot worker).trans (second.workerBoot worker),
    fun source => (first.sourceBoot source).trans (second.sourceBoot source),
    first.epoch.trans second.epoch⟩

/-- Neither engine has the domain, or both have it. -/
theorem SameOn.stored (same : left.SameOn id mine right) :
    left.domains.find? id = none ∧ right.domains.find? id = none ∨
      ∃ domain other, left.domains.find? id = some domain ∧
        right.domains.find? id = some other ∧ domain.unnumbered = other.unnumbered := by
  have alike := same.domain
  cases first : left.domains.find? id with
  | none =>
      rw [first, Option.map_none, eq_comm, Option.map_eq_none_iff] at alike
      exact Or.inl ⟨rfl, alike⟩
  | some domain =>
      rw [first, Option.map_some, eq_comm, Option.map_eq_some_iff] at alike
      obtain ⟨other, second, unnumbered⟩ := alike
      exact Or.inr ⟨domain, other, rfl, second, unnumbered.symm⟩

theorem SameOn.contains_eq (same : left.SameOn id mine right) :
    left.domains.contains id = right.domains.contains id := by
  unfold UnorderedMap.contains
  rcases same.stored with ⟨first, second⟩ | ⟨domain, other, first, second, -⟩
  · rw [first, second]
  · rw [first, second]
    rfl

theorem SameOn.findFlow_eq (same : left.SameOn id mine right) (own : mine ref.id = true) :
    findFlow left.flows ref = findFlow right.flows ref := by
  unfold findFlow
  rw [same.flows ref.id own]

theorem Houses.own (houses : state.Houses id mine) (stored : state.domains.find? id = some domain)
    (inside : ref ∈ domain.flows) : mine ref.id = true := by
  obtain ⟨flow, found, names⟩ := houses.listed domain stored ref inside
  exact (houses.mine ref.id flow found).mpr names

/-- A flow that a reference outside `mine` leads to is of another domain. -/
theorem Houses.elsewhere (houses : state.Houses id mine) (foreign : mine ref.id = false)
    {flow : Flow R} (found : state.flows.find? ref.id = some flow) : flow.domain.id ≠ id := by
  intro names
  rw [(houses.mine ref.id flow found).mpr names] at foreign
  exact Bool.false_ne_true foreign.symm

end Impl

/-! ## What is derived from the flows -/

section Derived

variable {flows table : UnorderedMap FlowId (Flow R)}

private theorem aggregateDomain_congr
    (alike : ∀ ref ∈ domain.flows, findFlow flows ref = findFlow table ref) :
    aggregateDomain domain flows = aggregateDomain domain table := by
  refine List.foldl_ext _ _ _ fun aggregate ref inside => ?_
  rw [alike ref inside]

private theorem liveFlows_congr
    (alike : ∀ ref ∈ domain.flows, findFlow flows ref = findFlow table ref) :
    liveFlows domain flows = liveFlows domain table := by
  refine List.filterMap_congr fun ref inside => ?_
  rw [alike ref inside]

private theorem dominantContributor_congr
    (alike : ∀ ref ∈ domain.flows, findFlow flows ref = findFlow table ref) :
    dominantContributor domain flows = dominantContributor domain table := by
  refine List.foldl_ext _ _ _ fun most ref inside => ?_
  rw [alike ref inside]

end Derived

namespace Impl

/-- Two engines that share the domain, in both of which `mine` tells its flows. -/
structure Beside (id : CongestionDomainId) (mine : FlowId → Bool) (left right : Impl R) :
    Prop where
  same : left.SameOn id mine right
  houses : left.Houses id mine
  housesToo : right.Houses id mine

namespace Beside

theorem symm (beside : left.Beside id mine right) : right.Beside id mine left :=
  ⟨beside.same.symm, beside.housesToo, beside.houses⟩

variable (beside : left.Beside id mine right) (stored : left.domains.find? id = some domain)

include beside stored

theorem lookups : ∀ ref ∈ domain.flows, findFlow left.flows ref = findFlow right.flows ref :=
  fun _ inside => beside.same.findFlow_eq (beside.houses.own stored inside)

variable (alike : domain.unnumbered = other.unnumbered)

include alike

/-- What reads neither the episodes of the domain nor flows outside its list is derived
alike. -/
private theorem derived {A : Type} (derive : CongestionDomain R → UnorderedMap FlowId (Flow R) → A)
    (congr : ∀ {domain : CongestionDomain R} {flows table : UnorderedMap FlowId (Flow R)},
      (∀ ref ∈ domain.flows, findFlow flows ref = findFlow table ref) →
        derive domain flows = derive domain table)
    (blind : ∀ (domain : CongestionDomain R) flows,
      derive domain flows = derive domain.unnumbered flows) :
    derive domain left.flows = derive other right.flows := by
  rw [congr (beside.lookups stored), blind domain, alike, ← blind other]

theorem aggregate_eq : aggregateDomain domain left.flows = aggregateDomain other right.flows :=
  beside.derived stored alike aggregateDomain aggregateDomain_congr fun _ _ => rfl

theorem liveFlows_eq : liveFlows domain left.flows = liveFlows other right.flows :=
  beside.derived stored alike liveFlows liveFlows_congr fun _ _ => rfl

theorem dominant_eq :
    dominantContributor domain left.flows = dominantContributor other right.flows :=
  beside.derived stored alike dominantContributor dominantContributor_congr fun _ _ => rfl

theorem assess_eq : left.assess domain = right.assess other := by
  refine beside.derived stored alike
    (fun domain flows => classify domain (aggregateDomain domain flows) flows
      domain.state.awaitsRevalidation) (fun lookups => ?_) fun _ _ => rfl
  unfold classify
  rw [aggregateDomain_congr lookups, liveFlows_congr lookups]

end Beside

theorem Beside.queuedFlows_eq (beside : left.Beside id mine right) :
    left.queuedFlows id = right.queuedFlows id := by
  unfold queuedFlows
  rcases beside.same.stored with ⟨first, second⟩ | ⟨domain, other, first, second, alike⟩
  · rw [first, second]
  · rw [first, second]
    have flows : domain.flows = other.flows := (congrArg CongestionDomain.flows alike :)
    dsimp only
    rw [← flows]
    refine List.foldl_ext _ _ _ fun queued ref inside => ?_
    rw [beside.lookups first ref inside]

end Impl

/-! ## Answers about the domain -/

/-- Both engines answer every query about the domain alike. The snapshot also names an
upstream domain, which is about another domain and left out. -/
structure Impl.AnswersAlike (text : R → Bytes) (id : CongestionDomainId) (left right : Impl R) :
    Prop where
  assessment : left.assessCongestion id = right.assessCongestion id
  fairness : left.evaluateFairness id = right.evaluateFairness id
  backpressure : left.evalBackpressure text id = right.evalBackpressure text id
  residual : ∀ offered,
    left.queryResidualCapacity id offered = right.queryResidualCapacity id offered
  bottleneck : left.identifyBottleneck text [id] = right.identifyBottleneck text [id]
  snapshot : { left.snapshot id with upstreamBottleneck := {} } =
    { right.snapshot id with upstreamBottleneck := {} }

/-- Records that are alike differ in nothing but their episodes. -/
private theorem CongestionDomain.eq_of_unnumbered (alike : domain.unnumbered = other.unnumbered) :
    domain = { other with
      episodes := domain.episodes
      currentEpisode := domain.currentEpisode } :=
  congrArg (fun record : CongestionDomain R => { record with
    episodes := domain.episodes
    currentEpisode := domain.currentEpisode }) alike

theorem Impl.Beside.answersAlike (beside : left.Beside id mine right) (text : R → Bytes) :
    left.AnswersAlike text id right := by
  rcases beside.same.stored with ⟨first, second⟩ | ⟨domain, other, first, second, alike⟩
  · constructor
    case assessment => simp only [Impl.assessCongestion, first, second]
    case fairness => simp only [Impl.evaluateFairness, first, second]
    case backpressure => simp only [Impl.evalBackpressure, first, second]
    case residual => simp only [Impl.queryResidualCapacity, first, second, implies_true]
    case bottleneck =>
      simp only [Impl.identifyBottleneck, Impl.weighBottleneck, List.foldl_cons, List.foldl_nil,
        first, second]
    case snapshot => simp only [Impl.snapshot, first, second]
  · have rest := CongestionDomain.eq_of_unnumbered alike
    have assess := beside.assess_eq first alike
    have live := beside.liveFlows_eq first alike
    have aggregate := beside.aggregate_eq first alike
    have dominant := beside.dominant_eq first alike
    constructor
    case assessment => simp only [Impl.assessCongestion, first, second, assess]
    case fairness =>
      simp only [Impl.evaluateFairness, first, second, live]
      rw [rest]
      rfl
    case backpressure =>
      simp only [Impl.evalBackpressure, first, second, live, beside.same.epoch]
      rw [rest]
    case residual =>
      intro offered
      simp only [Impl.queryResidualCapacity, first, second]
      rw [rest]
    case bottleneck =>
      simp only [Impl.identifyBottleneck, Impl.weighBottleneck, List.foldl_cons, List.foldl_nil,
        first, second, aggregate]
      rw [rest]
      rfl
    case snapshot =>
      simp only [Impl.snapshot, first, second, assess, aggregate, dominant]
      rw [rest]

end CongestionFabric
