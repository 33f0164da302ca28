import CongestionFabric.Engine.Advice
import CongestionFabric.Engine.Operation
import CongestionFabric.Foundation.Alike

/-!
Contract: what the traffic of flows that are not current does to the analysis.

Owns engines that differ only in byte counters, the domains that list no flow in the
states STALE and REVALIDATION_REQUIRED, and the theorem that assessment, fairness,
backpressure and snapshot ignore the counters of such flows exactly for those domains.

`flow_is_stale_or_superseded` does not cover REVALIDATION_REQUIRED, and the loop of
`snapshot` does not ask it at all.
-/

namespace CongestionFabric

open Foundation

variable {R : Type} [Arithmetic R]

/-! ## Engines that differ in counters -/

/-- The byte counters of a flow. -/
structure ByteCounters where
  expected : ByteCounter := {}
  submitted : ByteCounter := {}
  admitted : ByteCounter := {}
  inFlight : ByteCounter := {}
  completed : ByteCounter := {}
  failed : ByteCounter := {}
  cancelled : ByteCounter := {}

def Flow.recount (counters : ByteCounters) (flow : Flow R) : Flow R :=
  { flow with
    expectedBytes := counters.expected
    submittedBytes := counters.submitted
    admittedBytes := counters.admitted
    inFlightBytes := counters.inFlight
    completedBytes := counters.completed
    failedBytes := counters.failed
    cancelledBytes := counters.cancelled }

@[simp] theorem Flow.recount_ref (counters : ByteCounters) (flow : Flow R) :
    (flow.recount counters).ref = flow.ref := rfl

@[simp] theorem Flow.recount_state (counters : ByteCounters) (flow : Flow R) :
    (flow.recount counters).state = flow.state := rfl

@[simp] theorem Flow.recount_inFlightBytes (counters : ByteCounters) (flow : Flow R) :
    (flow.recount counters).inFlightBytes = counters.inFlight := rfl

theorem Flow.recount_recount (first second : ByteCounters) (flow : Flow R) :
    (flow.recount first).recount second = flow.recount second := rfl

/-- The flows differ at most in their counters, and only in the given states. -/
def Flow.Recounted (among : FlowState → Bool) (flow other : Flow R) : Prop :=
  ∃ counters, other = flow.recount counters ∧ (among flow.state = false → other = flow)

/-- The engines differ at most in the counters of flows in the given states. -/
structure Impl.Recounted (among : FlowState → Bool) (left right : Impl R) : Prop where
  rest : right = { left with flows := right.flows }
  flows : left.flows.Alike (Flow.Recounted among) right.flows

section Recounted

variable {among : FlowState → Bool} {left right : Impl R}

theorem Impl.Recounted.domains_eq (recounted : left.Recounted among right) :
    right.domains = left.domains := by
  rw [recounted.rest]

/-- What a reference leads to. -/
theorem Impl.Recounted.found (recounted : left.Recounted among right)
    (ref : EntityRef FlowTag) :
    findFlow left.flows ref = none ∧ findFlow right.flows ref = none ∨
      ∃ flow other, findFlow left.flows ref = some flow ∧ findFlow right.flows ref = some other ∧
        flow.Recounted among other := by
  unfold findFlow
  rcases recounted.flows.find? ref.id with ⟨first, second⟩ | ⟨flow, other, first, second, same⟩
  · rw [first, second]
    exact Or.inl ⟨rfl, rfl⟩
  · rw [first, second]
    obtain ⟨counters, recount, kept⟩ := same
    have generation : other.ref.generation = flow.ref.generation := by
      rw [recount, flow.recount_ref]
    by_cases current : flow.ref.generation = ref.generation
    · refine Or.inr ⟨flow, other, ?_, ?_, counters, recount, kept⟩
      · simp [current]
      · simp [generation, current]
    · refine Or.inl ⟨?_, ?_⟩
      · simp [current]
      · simp [generation, current]

/-! ## What the loops see -/

/-- No reference in the list of the domain leads to a flow in one of the given
states. -/
def CongestionDomain.listsNone (among : FlowState → Bool) (flows : UnorderedMap FlowId (Flow R))
    (domain : CongestionDomain R) : Bool :=
  domain.flows.all fun ref => (findFlow flows ref).all fun flow => !among flow.state

/-- The flow is REVALIDATION_REQUIRED. -/
def FlowState.mustRevalidate (state : FlowState) : Bool := state = .revalidationRequired

variable {domain : CongestionDomain R} {id : CongestionDomainId}

private theorem listsNone_iff {flows : UnorderedMap FlowId (Flow R)} :
    domain.listsNone among flows = true ↔ ∀ ref ∈ domain.flows, ∀ flow,
      findFlow flows ref = some flow → among flow.state = false := by
  simp only [CongestionDomain.listsNone, List.all_eq_true, Option.all_eq_true, Bool.not_eq_true']

/-- A flow that is not REVALIDATION_REQUIRED is the same in both engines, or
STALE in both. -/
private theorem Flow.Recounted.same_or_stale {flow other : Flow R}
    (recounted : flow.Recounted FlowState.isParked other)
    (validated : flow.state.mustRevalidate = false) :
    other = flow ∨ flow.state = .stale ∧ other.state = .stale := by
  obtain ⟨counters, rfl, kept⟩ := recounted
  by_cases stale : flow.state = .stale
  · exact Or.inr ⟨stale, stale⟩
  · left
    apply kept
    have other : ¬flow.state = .revalidationRequired := of_decide_eq_false validated
    simp [FlowState.isParked, stale, other]

/-- The loops that skip stale flows see the same. -/
private theorem Impl.Recounted.visited (recounted : left.Recounted FlowState.isParked right)
    {ref : EntityRef FlowTag}
    (validated : ∀ flow, findFlow left.flows ref = some flow →
      flow.state.mustRevalidate = false) :
    findFlow right.flows ref = findFlow left.flows ref ∨
      ∃ flow other, findFlow left.flows ref = some flow ∧
        findFlow right.flows ref = some other ∧
        flow.state.isStaleOrSuperseded = true ∧ other.state.isStaleOrSuperseded = true := by
  rcases recounted.found ref with ⟨first, second⟩ | ⟨flow, other, first, second, same⟩
  · exact Or.inl (second.trans first.symm)
  · rcases same.same_or_stale (validated flow first) with rfl | ⟨stale, otherStale⟩
    · exact Or.inl (second.trans first.symm)
    · refine Or.inr ⟨flow, other, first, second, ?_, ?_⟩
      · rw [stale]
        rfl
      · rw [otherStale]
        rfl

private theorem Impl.Recounted.liveFlows_eq (recounted : left.Recounted FlowState.isParked right)
    (validated : domain.listsNone FlowState.mustRevalidate left.flows = true) :
    liveFlows domain right.flows = liveFlows domain left.flows := by
  refine List.filterMap_congr fun ref listed => ?_
  rcases recounted.visited (listsNone_iff.mp validated ref listed) with
    same | ⟨flow, other, first, second, stale, otherStale⟩
  · rw [same]
  · simp only [first, second, stale, otherStale, Bool.or_true, if_true]

private theorem Impl.Recounted.aggregateDomain_eq
    (recounted : left.Recounted FlowState.isParked right)
    (validated : domain.listsNone FlowState.mustRevalidate left.flows = true) :
    aggregateDomain domain right.flows = aggregateDomain domain left.flows := by
  refine List.foldl_ext _ _ _ fun aggregate ref listed => ?_
  rcases recounted.visited (listsNone_iff.mp validated ref listed) with
    same | ⟨flow, other, first, second, stale, otherStale⟩
  · rw [same]
  · simp only [first, second, stale, otherStale, if_true]

private theorem Impl.Recounted.assess_eq (recounted : left.Recounted FlowState.isParked right)
    (validated : domain.listsNone FlowState.mustRevalidate left.flows = true) :
    right.assess domain = left.assess domain := by
  unfold Impl.assess
  rw [recounted.aggregateDomain_eq validated]
  unfold classify
  rw [recounted.liveFlows_eq validated]

/-- The snapshot loop sees a flow in every state that is not terminal. -/
private theorem Impl.Recounted.dominantContributor_eq
    (recounted : left.Recounted FlowState.isParked right)
    (current : domain.listsNone FlowState.isParked left.flows = true) :
    dominantContributor domain right.flows = dominantContributor domain left.flows := by
  refine List.foldl_ext _ _ _ fun most ref listed => ?_
  rcases recounted.found ref with ⟨first, second⟩ | ⟨flow, other, first, second, _, -, kept⟩
  · rw [first, second]
  · rw [first, second, kept (listsNone_iff.mp current ref listed flow first)]

end Recounted

/-! ## What is derived -/

/-- `evaluate_fairness` without the shares of flows that are not current. -/
def Impl.otherShares (id : CongestionDomainId) (state : Impl R) : FairnessReport R :=
  let report := state.evaluateFairness id
  { report with
    shares := report.shares.filter fun share =>
      !(findFlow state.flows { id := share.flow, generation := share.flowGeneration }).any
        fun flow => flow.state.isParked }

/-- No reference that the domain lists leads to a flow in one of the given states. -/
def Impl.listsNone (among : FlowState → Bool) (id : CongestionDomainId) (state : Impl R) : Bool :=
  (state.domains.find? id).all fun domain => domain.listsNone among state.flows

/-- The analysis of a domain is the same in both engines. -/
structure Impl.SameAnalysis (text : R → Bytes) (id : CongestionDomainId) (left right : Impl R) :
    Prop where
  assessment : right.assessCongestion id = left.assessCongestion id
  fairness : right.otherShares id = left.otherShares id
  backpressure : right.evalBackpressure text id = left.evalBackpressure text id
  snapshot : right.snapshot id = left.snapshot id

section Analysis

variable {left right : Impl R} {id : CongestionDomainId}

/-- Without REVALIDATION_REQUIRED flows, counters of STALE flows are ignored by all
but the snapshot. -/
theorem Impl.Recounted.validated (recounted : left.Recounted FlowState.isParked right)
    (validated : left.listsNone FlowState.mustRevalidate id = true) (text : R → Bytes) :
    right.assessCongestion id = left.assessCongestion id ∧
      right.otherShares id = left.otherShares id ∧
      right.evalBackpressure text id = left.evalBackpressure text id := by
  have epoch : right.epoch = left.epoch := by rw [recounted.rest]
  unfold Impl.assessCongestion Impl.otherShares Impl.evaluateFairness Impl.evalBackpressure
  rw [recounted.domains_eq, epoch]
  cases stored : left.domains.find? id with
  | none => exact ⟨rfl, rfl, rfl⟩
  | some domain =>
      have listed : domain.listsNone FlowState.mustRevalidate left.flows = true := by
        simpa only [Impl.listsNone, stored, Option.all_some] using validated
      dsimp only
      rw [recounted.assess_eq listed, recounted.liveFlows_eq listed]
      refine ⟨rfl, ?_, rfl⟩
      congr 1
      refine List.filter_congr fun share _ => ?_
      rcases recounted.found { id := share.flow, generation := share.flowGeneration } with
        ⟨first, second⟩ | ⟨flow, other, first, second, counters, rfl, -⟩
      · rw [first, second]
      · rw [first, second]
        rfl

theorem FlowState.mustRevalidate_of_current {state : FlowState}
    (current : state.isParked = false) : state.mustRevalidate = false := by
  revert current
  cases state <;> decide

/-- Without any flow that is not current, the snapshot is the same too. -/
theorem Impl.Recounted.sameAnalysis (recounted : left.Recounted FlowState.isParked right)
    (current : left.listsNone FlowState.isParked id = true) (text : R → Bytes) :
    left.SameAnalysis text id right := by
  have validated : left.listsNone FlowState.mustRevalidate id = true := by
    unfold Impl.listsNone at current ⊢
    cases stored : left.domains.find? id with
    | none => rfl
    | some domain =>
        rw [stored, Option.all_some, listsNone_iff] at current
        rw [Option.all_some, listsNone_iff]
        exact fun ref listed flow found =>
          FlowState.mustRevalidate_of_current (current ref listed flow found)
  obtain ⟨assessment, fairness, backpressure⟩ := recounted.validated validated text
  refine ⟨assessment, fairness, backpressure, ?_⟩
  unfold Impl.snapshot
  rw [recounted.domains_eq]
  cases stored : left.domains.find? id with
  | none => rfl
  | some domain =>
      simp only [Impl.listsNone, stored, Option.all_some] at current validated
      dsimp only
      rw [recounted.aggregateDomain_eq validated, recounted.assess_eq validated,
        recounted.dominantContributor_eq current]

/-- Engines that differ in counters list the same states. -/
private theorem Impl.Recounted.listsNone_eq {anywhere among : FlowState → Bool}
    (recounted : left.Recounted anywhere right) :
    right.listsNone among id = left.listsNone among id := by
  unfold Impl.listsNone
  rw [recounted.domains_eq]
  refine congrArg (fun holds => Option.all holds _) (funext fun domain => ?_)
  unfold CongestionDomain.listsNone
  refine congrArg (fun holds => List.all _ holds) (funext fun ref => ?_)
  rcases recounted.found ref with ⟨first, second⟩ | ⟨flow, other, first, second, _, rfl, -⟩
  · rw [first, second]
  · rw [first, second]
    rfl

end Analysis

/-! ## One byte in flight -/

section Dominant

variable {flows : List (Flow R)} {domain : CongestionDomain R}

private theorem mostInFlight_eq_none (idle : ∀ flow ∈ flows, flow.inFlightBytes.value = 0) :
    mostInFlight flows = none := by
  unfold mostInFlight
  induction flows with
  | nil => rfl
  | cons head tail inductionHypothesis =>
      obtain ⟨first, rest⟩ := List.forall_mem_cons.mp idle
      rw [List.foldl_cons, first, Option.map_none, Option.getD_none, if_neg (UInt64.lt_irrefl 0)]
      exact inductionHypothesis rest

/-- A flow with bytes in flight is found when there is one. -/
private theorem mostInFlight_of_busy
    (busy : ∃ flow ∈ flows, 0 < flow.inFlightBytes.value) :
    ∃ flow ∈ flows, mostInFlight flows = some flow ∧ 0 < flow.inFlightBytes.value := by
  have walk : ∀ (rest : List (Flow R)) (most : Option (Flow R)),
      (∃ flow ∈ rest, 0 < flow.inFlightBytes.value) ∨
        (∃ flow, most = some flow ∧ 0 < flow.inFlightBytes.value) →
      ∃ flow, rest.foldl (fun most flow =>
        if flow.inFlightBytes.value > (most.map fun flow => flow.inFlightBytes.value).getD 0
        then some flow else most) most = some flow ∧ 0 < flow.inFlightBytes.value ∧
          (flow ∈ rest ∨ most = some flow) := by
    intro rest
    induction rest with
    | nil =>
        intro most started
        rcases started with ⟨_, member, _⟩ | ⟨flow, rfl, positive⟩
        · exact absurd member List.not_mem_nil
        · exact ⟨flow, rfl, positive, Or.inr rfl⟩
    | cons head tail inductionHypothesis =>
        intro most started
        rw [List.foldl_cons]
        split
        · next more =>
          have positive : 0 < head.inFlightBytes.value :=
            UInt64.lt_of_le_of_lt UInt64.zero_le more
          obtain ⟨flow, found, busy, origin⟩ :=
            inductionHypothesis (some head) (Or.inr ⟨head, rfl, positive⟩)
          refine ⟨flow, found, busy, Or.inl ?_⟩
          rcases origin with later | first
          · exact List.mem_cons_of_mem _ later
          · rw [← Option.some.inj first]
            exact List.mem_cons_self
        · next notMore =>
          have kept : (∃ flow ∈ tail, 0 < flow.inFlightBytes.value) ∨
              ∃ flow, most = some flow ∧ 0 < flow.inFlightBytes.value := by
            rcases started with ⟨flow, member, positive⟩ | started
            · rcases List.mem_cons.mp member with rfl | later
              · cases most with
                | none => exact absurd positive notMore
                | some largest =>
                    have least := UInt64.not_lt.mp notMore
                    exact Or.inr ⟨largest, rfl, UInt64.lt_of_lt_of_le positive least⟩
              · exact Or.inl ⟨flow, later, positive⟩
            · exact Or.inr started
          obtain ⟨flow, found, busy, origin⟩ := inductionHypothesis most kept
          exact ⟨flow, found, busy, origin.imp_left (List.mem_cons_of_mem _)⟩
  obtain ⟨flow, found, positive, member | none⟩ := walk flows none (Or.inl busy)
  · exact ⟨flow, member, found, positive⟩
  · exact absurd none (by simp)

/-- The dominant contributor is chosen among the flows that are not terminal. -/
private theorem dominantContributor_eq_mostInFlight (table : UnorderedMap FlowId (Flow R)) :
    dominantContributor domain table = mostInFlight (domain.flows.filterMap fun ref =>
      (findFlow table ref).filter fun flow => !flow.isTerminal) := by
  unfold dominantContributor mostInFlight
  rw [List.foldl_filterMap]
  refine List.foldl_ext _ _ _ fun most ref _ => ?_
  cases findFlow table ref with
  | none => rfl
  | some flow =>
      cases terminal : flow.isTerminal with
      | true => simp [Option.filter, terminal]
      | false => simp [Option.filter, terminal]

end Dominant

section Exact

variable {state : Impl R} {id : CongestionDomainId}

/-- The engine with all counters at zero, apart from one byte in flight for the flow
of the given key, if that flow is not current. -/
private def withOneByte (key : Option FlowId) (state : Impl R) : Impl R :=
  { state with
    flows := state.flows.mapValues fun other flow => flow.recount
      { inFlight := ⟨if key = some other ∧ flow.state.isParked = true then 1 else 0⟩ } }

private theorem recounted_withOneByte (state : Impl R) :
    state.Recounted (fun _ => true) (withOneByte none state) where
  rest := rfl
  flows := by
    have alike : (state.flows.mapValues fun _ flow => flow).Alike
        (Flow.Recounted fun _ => true) (withOneByte none state).flows :=
      UnorderedMap.alike_mapValues
        (fun _ _ => ⟨_, rfl, fun impossible => absurd impossible (by simp)⟩) state.flows
    rwa [UnorderedMap.mapValues_same] at alike

private theorem withOneByte_recounted (key : FlowId) (state : Impl R) :
    (withOneByte none state).Recounted FlowState.isParked (withOneByte (some key) state) where
  rest := rfl
  flows := by
    refine UnorderedMap.alike_mapValues (fun other flow => ⟨_, (flow.recount_recount _ _).symm, ?_⟩)
      state.flows
    intro current
    rw [Flow.recount_state] at current
    simp [current]

private theorem findFlow_withOneByte {key : Option FlowId} {ref : EntityRef FlowTag}
    {flow : Flow R} :
    findFlow (withOneByte key state).flows ref = some flow ↔
      ∃ before, findFlow state.flows ref = some before ∧ flow = before.recount
        { inFlight := ⟨if key = some ref.id ∧ before.state.isParked = true then 1 else 0⟩ } := by
  rw [findFlow_eq_some]
  change (state.flows.mapValues _).find? ref.id = some flow ∧ _ ↔ _
  rw [UnorderedMap.find?_mapValues_eq_some]
  constructor
  · rintro ⟨⟨before, found, rfl⟩, generation⟩
    exact ⟨before, findFlow_eq_some.mpr ⟨found, generation⟩, rfl⟩
  · rintro ⟨before, found, rfl⟩
    obtain ⟨stored, generation⟩ := findFlow_eq_some.mp found
    exact ⟨⟨before, stored, rfl⟩, generation⟩

/-- Without bytes in flight there is no dominant contributor. -/
private theorem dominant_withNone (state : Impl R) (domain : CongestionDomain R) :
    dominantContributor domain (withOneByte none state).flows = none := by
  rw [dominantContributor_eq_mostInFlight]
  refine mostInFlight_eq_none fun flow member => ?_
  obtain ⟨ref, -, kept⟩ := List.mem_filterMap.mp member
  obtain ⟨before, -, rfl⟩ := findFlow_withOneByte.mp (Option.filter_eq_some_iff.mp kept).1
  simp

/-- The flow with the byte is the dominant contributor. -/
private theorem dominant_withOneByte {domain : CongestionDomain R} {ref : EntityRef FlowTag}
    {flow : Flow R} (listed : ref ∈ domain.flows) (found : findFlow state.flows ref = some flow)
    (parked : flow.state.isParked = true) :
    ∃ busy, dominantContributor domain (withOneByte (some ref.id) state).flows = some busy ∧
      busy.ref = flow.ref := by
  have live : (flow.recount { inFlight := ⟨1⟩ }).isTerminal = false := by
    revert parked
    change flow.state.isParked = true → flow.state.isTerminal = false
    cases flow.state <;> decide
  have member : flow.recount { inFlight := ⟨1⟩ } ∈ domain.flows.filterMap fun other =>
      (findFlow (withOneByte (some ref.id) state).flows other).filter fun flow =>
        !flow.isTerminal := by
    refine List.mem_filterMap.mpr ⟨ref, listed, Option.filter_eq_some_iff.mpr ⟨?_, ?_⟩⟩
    · exact findFlow_withOneByte.mpr ⟨flow, found, by simp [parked]⟩
    · rw [live]
      rfl
  obtain ⟨busy, inside, dominant, positive⟩ := mostInFlight_of_busy
    ⟨_, member, show (0 : UInt64) < 1 by decide⟩
  refine ⟨busy, (dominantContributor_eq_mostInFlight _).trans dominant, ?_⟩
  obtain ⟨other, -, kept⟩ := List.mem_filterMap.mp inside
  obtain ⟨before, otherFound, rfl⟩ := findFlow_withOneByte.mp (Option.filter_eq_some_iff.mp kept).1
  -- No other flow has a byte in flight, and both references lead to the flow of the key.
  have here : ref.id = other.id := by
    by_contra elsewhere
    simp [elsewhere] at positive
  have stored := (findFlow_eq_some.mp found).1
  rw [here, (findFlow_eq_some.mp otherFound).1] at stored
  rw [Option.some.inj stored, Flow.recount_ref]

/-- Every flow of the engine has a valid identifier. -/
def Impl.FlowsNamed (state : Impl R) : Prop :=
  ∀ key flow, state.flows.find? key = some flow → flow.ref.id.isValid = true

/-- A listed flow that is not current shows in the snapshot by one byte. -/
private theorem Impl.FlowsNamed.listsNone (named : state.FlowsNamed)
    (ignored : ∀ left right : Impl R, state.Recounted (fun _ => true) left →
      left.Recounted FlowState.isParked right → right.snapshot id = left.snapshot id) :
    state.listsNone FlowState.isParked id = true := by
  unfold Impl.listsNone
  rw [Option.all_eq_true]
  intro domain stored
  rw [listsNone_iff]
  intro ref listed flow found
  by_contra parked
  rw [Bool.not_eq_false] at parked
  have same := congrArg DomainSnapshot.dominantContributor
    (ignored _ _ (recounted_withOneByte state) (withOneByte_recounted ref.id state))
  obtain ⟨busy, dominant, sameRef⟩ := dominant_withOneByte listed found parked
  have storedIn : ∀ key, (withOneByte key state).domains.find? id = some domain := fun _ => stored
  simp only [Impl.snapshot, storedIn, dominant_withNone, dominant, Option.map_some,
    Option.getD_some, Option.map_none, Option.getD_none, sameRef] at same
  have valid := named ref.id flow (findFlow_eq_some.mp found).1
  rw [same] at valid
  exact absurd valid (by decide)

/-- The counters of flows that are not current are no evidence, exactly for domains
that list no such flow. For two engines that differ only in these counters, a domain
that lists no REVALIDATION_REQUIRED flow has the same assessment, the same shares and
the same backpressure, and a domain that lists no STALE flow either has the same
snapshot too. And a domain that lists a flow of either kind has another snapshot for
some counters of its flows. -/
theorem staleTraffic_ignored_iff (text : R → Bytes) (id : CongestionDomainId) :
    (∀ left right : Impl R, left.Recounted FlowState.isParked right →
      (left.listsNone FlowState.mustRevalidate id = true →
        right.assessCongestion id = left.assessCongestion id ∧
          right.otherShares id = left.otherShares id ∧
          right.evalBackpressure text id = left.evalBackpressure text id) ∧
      (left.listsNone FlowState.isParked id = true → left.SameAnalysis text id right)) ∧
    ∀ state : Impl R, state.FlowsNamed →
      ((∀ left right : Impl R, state.Recounted (fun _ => true) left →
          left.Recounted FlowState.isParked right → left.SameAnalysis text id right) ↔
        state.listsNone FlowState.isParked id = true) := by
  constructor
  · intro left right recounted
    exact ⟨fun validated => recounted.validated validated text,
      fun current => recounted.sameAnalysis current text⟩
  · intro state named
    constructor
    · intro ignored
      exact named.listsNone fun left right first second =>
        (ignored left right first second).snapshot
    · intro current left right first second
      rw [← first.listsNone_eq] at current
      exact second.sameAnalysis current text

end Exact

/-! ## A flow from before a recovery -/

/-- A flow starts, the engine recovers, and another flow starts in the same domain;
a third one starts in a domain of its own. -/
private def recoveredTraffic : Impl Binary64 :=
  execAll {} [(1, .registerWorker ⟨1⟩ ⟨1⟩), (1, .registerSource ⟨1⟩ ⟨1⟩),
    (1, .createDomain DomainKind.nicTx (.ofTheoretical 1000.0)),
    (1, .createDomain DomainKind.nicTx (.ofTheoretical 1000.0)),
    (2, .declareFlow (.ofFirst 100)), (2, .admitFlow ⟨⟨1⟩, ⟨1⟩⟩),
    (2, .startFlow ⟨⟨1⟩, ⟨1⟩⟩ ⟨1⟩), (3, .recoverDynamicEvidence),
    (4, .publishMeasurement ⟨1⟩
      { kind := MeasurementKind.offeredBytesPerSec, value := 2000.0 } ⟨0⟩ ⟨0⟩),
    (5, .declareFlow (.ofFirst 70)), (5, .admitFlow ⟨⟨2⟩, ⟨1⟩⟩),
    (5, .startFlow ⟨⟨2⟩, ⟨1⟩⟩ ⟨1⟩),
    (5, .declareFlow { FlowOptions.ofFirst 30 with domain := ⟨⟨2⟩, ⟨1⟩⟩ }),
    (5, .admitFlow ⟨⟨3⟩, ⟨1⟩⟩), (5, .startFlow ⟨⟨3⟩, ⟨1⟩⟩ ⟨1⟩)] Impl.fresh

/-- The same engine, had the flows from before the recovery been smaller. -/
private def withSmaller (state : Impl Binary64) : Impl Binary64 :=
  { state with
    flows := state.flows.mapValues fun _ flow =>
      if flow.state.isParked then
        flow.recount { submitted := ⟨50⟩, admitted := ⟨50⟩, inFlight := ⟨50⟩ }
      else flow }

private theorem recounted_withSmaller (state : Impl Binary64) :
    state.Recounted FlowState.isParked (withSmaller state) where
  rest := rfl
  flows := by
    have alike : (state.flows.mapValues fun _ flow => flow).Alike
        (Flow.Recounted FlowState.isParked) (withSmaller state).flows := by
      refine UnorderedMap.alike_mapValues (fun _ flow => ?_) state.flows
      by_cases parked : flow.state.isParked = true
      · rw [if_pos parked]
        exact ⟨_, rfl, fun current => absurd (current.symm.trans parked) (by simp)⟩
      · rw [if_neg parked]
        exact ⟨⟨_, _, _, _, _, _, _⟩, rfl, fun _ => rfl⟩
    rwa [UnorderedMap.mapValues_same] at alike

theorem recoveredTraffic_elsewhere :
    recoveredTraffic.listsNone FlowState.isParked ⟨2⟩ = true ∧
      (recoveredTraffic.snapshot ⟨2⟩).dominantContributor = ⟨3⟩ ∧
      recoveredTraffic.SameAnalysis Binary64.toDecimal ⟨2⟩ (withSmaller recoveredTraffic) := by
  have current : recoveredTraffic.listsNone FlowState.isParked ⟨2⟩ = true := by decide +kernel
  refine ⟨current, by decide +kernel, ?_⟩
  exact ((staleTraffic_ignored_iff Binary64.toDecimal ⟨2⟩).1 _ _
    (recounted_withSmaller recoveredTraffic)).2 current

/-- The larger flow is the dominant contributor although it awaits revalidation. -/
theorem recoveredTraffic_dominated :
    ¬∀ (left right : Impl Binary64) (id : CongestionDomainId),
      left.Recounted FlowState.isParked right →
        left.SameAnalysis Binary64.toDecimal id right := by
  intro ignored
  have same := ignored _ _ ⟨1⟩ (recounted_withSmaller recoveredTraffic)
  have dominant := congrArg DomainSnapshot.dominantContributor same.snapshot
  exact absurd dominant (by decide +kernel)

end CongestionFabric
