import CongestionFabric.Engine.Accounting
import CongestionFabric.Engine.DomainEffect

/-!
Contract: the lists in which the domains keep their admitted flows.

Owns the invariant that no list has a flow twice and that every listed flow names
the domain and is past its declaration, with a further property of the listed flows
as a parameter, the invariant that every flow names itself by its key, and their
preservation by every operation.

`admit_flow` appends without looking: it relies on the lifecycle, which never returns
a flow to a state that can be admitted.
-/

namespace CongestionFabric

open Foundation

variable {R : Type} [Arithmetic R]

/-- Every reference in the list of a domain names, under its own identifier, a flow of
the domain that is past its declaration and has the property; no list has an
identifier twice. -/
structure Impl.Binds (holds : Flow R → Prop) (state : Impl R) : Prop where
  sound : state.WellAccounted
  distinct : ∀ id domain, state.domains.find? id = some domain →
    (domain.flows.map EntityRef.id).Nodup
  listed : ∀ id domain, state.domains.find? id = some domain → ∀ ref ∈ domain.flows,
    ∃ flow, state.flows.find? ref.id = some flow ∧ flow.domain.id = id ∧
      flow.state ≠ .declared ∧ holds flow

variable {holds : Flow R → Prop} {limits : EngineLimits} {now : UInt64} {op : Op R}
  {state next : Impl R}

theorem Impl.binds_fresh : (Impl.fresh : Impl R).Binds holds where
  sound := Impl.wellAccounted_fresh
  distinct id domain stored := absurd stored (by simp [Impl.fresh])
  listed id domain stored := absurd stored (by simp [Impl.fresh])

/-! ## One flow -/

/-- What the operations leave alone once a flow is past its declaration. -/
structure Flow.Settled (flow after : Flow R) : Prop where
  state : after.state ≠ .declared
  admitted : after.admittedBytes = flow.admittedBytes
  submitted : after.submittedBytes = flow.submittedBytes

theorem Flow.WellAccounted.settled {flow : Flow R} (sound : flow.WellAccounted)
    (past : flow.state ≠ .declared) (limits : EngineLimits) (now : UInt64) (op : Op R)
    (state : Impl R) (id : FlowId) : flow.Settled (flowAfter limits now op state id flow) := by
  have same : flow.Settled flow := ⟨past, rfl, rfl⟩
  have moved : ∀ {state : FlowState}, state ≠ .declared →
      flow.Settled { flow with state := state } := fun other => ⟨other, rfl, rfl⟩
  have fence : ∀ owned, flow.Settled (flow.fence owned) := by
    intro owned
    unfold Flow.fence
    split
    · exact moved (by simp)
    · exact same
  apply flowAfter_elim (motive := flow.Settled)
  case same => exact same
  case fenceWorker => exact fun _ _ _ _ => fence _
  case fenceSource => exact fun _ _ _ _ => fence _
  case admission =>
    intro ref _ _
    rcases sound.admission (state.domains.contains flow.domain.id) with ⟨-, refused⟩ | ⟨declared, -⟩
    · rw [refused]
      exact same
    · exact absurd declared past
  case queue =>
    intro ref _ _
    rcases flow.queue_cases limits (state.domains.contains flow.domain.id)
      (state.queuedFlows flow.domain.id) with refused | ⟨-, accepted⟩
    · rw [refused]
      exact same
    · rw [accepted]
      exact moved (by simp)
  case start =>
    intro ref boot _ _
    rcases sound.start now boot with ⟨-, refused⟩ | ⟨-, -, accepted⟩
    · rw [refused]
      exact same
    · rw [accepted]
      exact ⟨by simp [Flow.started], rfl, rfl⟩
  case progress =>
    intro ref boot delta _ _
    rcases sound.progress now boot delta with ⟨-, refused⟩ | ⟨-, -, _, _, -, -, -, accepted⟩
    · rw [refused]
      exact same
    · rw [accepted]
      exact ⟨past, rfl, rfl⟩
  case complete =>
    intro ref boot _ _
    rcases sound.complete now boot with ⟨-, refused⟩ | ⟨-, -, accepted⟩
    · rw [refused]
      exact same
    · rw [accepted]
      exact ⟨by simp, rfl, rfl⟩
  case cancel =>
    intro ref boot soFar _ _
    rcases sound.cancel now boot soFar with ⟨-, refused⟩ | ⟨-, -, _, -, accepted⟩
    · rw [refused]
      exact same
    · rw [accepted]
      exact ⟨by simp, rfl, rfl⟩
  case fail =>
    intro ref boot _ _
    rcases sound.fail now boot with ⟨-, refused⟩ | ⟨-, -, _, -, accepted⟩
    · rw [refused]
      exact same
    · rw [accepted]
      exact ⟨by simp, rfl, rfl⟩
  case advance =>
    intro ref following _ _
    unfold Flow.advanceGeneration
    split_ifs
    · exact same
    · exact ⟨by simp, rfl, rfl⟩
    · exact ⟨past, rfl, rfl⟩
  case revalidate =>
    intro ref boot _ _
    rcases flow.revalidate_cases boot with ⟨-, refused⟩ | ⟨-, -, accepted⟩
    · rw [refused]
      exact same
    · rw [accepted]
      exact moved (by simp)
  case recover =>
    intro _
    unfold Flow.requireRevalidation
    split
    · exact moved (by simp)
    · exact same

/-! ## The lists -/

/-- Only an admission writes to the list of a domain. -/
theorem domainAfter_flows (limits : EngineLimits) (now : UInt64) (op : Op R) (state : Impl R)
    (invalidated : Bool) (id : CongestionDomainId) (domain : CongestionDomain R) :
    (domainAfter limits now op state invalidated id domain).flows = domain.flows ∨
      ∃ ref, op = .admitFlow ref ∧
        state.reaches ref (fun flow => (flow.admission (state.domains.contains flow.domain.id)).1)
          id = true ∧
        (domainAfter limits now op state invalidated id domain).flows = domain.flows ++ [ref] := by
  apply domainAfter_elim (motive := fun after => after.flows = domain.flows ∨
    ∃ ref, op = .admitFlow ref ∧
      state.reaches ref (fun flow => (flow.admission (state.domains.contains flow.domain.id)).1)
        id = true ∧ after.flows = domain.flows ++ [ref])
  case same => exact Or.inl rfl
  case fenceWorker =>
    intro worker deadBoot _ _
    obtain ⟨any, -, fields⟩ := domain.dropEvidence_eq worker deadBoot invalidated
    rw [fields]
    exact Or.inl rfl
  case admission => exact fun ref admits reached => Or.inr ⟨ref, admits, reached, rfl⟩
  case start =>
    intro ref boot _ _
    rw [domain.clearRevalidation_eq]
    exact Or.inl rfl
  case publish => exact fun measurement owner ownerBoot _ _ => Or.inl (domain.record_frame ..).2
  case recompute =>
    intro _
    obtain ⟨_, _, _, written⟩ := state.recomputed_eq limits now domain
    rw [written]
    exact Or.inl rfl
  case shape => exact fun _ _ _ => Or.inl rfl
  case recover =>
    intro _
    obtain ⟨_, _, required⟩ := domain.requireRevalidation_eq
    rw [required]
    exact Or.inl rfl

/-- The flow that an accepted admission names is DECLARED, and becomes ADMITTED with
all its bytes. -/
private theorem Impl.WellAccounted.admission {id : CongestionDomainId} {ref : EntityRef FlowTag}
    (sound : state.WellAccounted) (reached : state.reaches ref
      (fun flow => (flow.admission (state.domains.contains flow.domain.id)).1) id = true) :
    ∃ flow, state.flows.find? ref.id = some flow ∧ flow.ref.generation = ref.generation ∧
      flow.domain.id = id ∧ flow.state = .declared ∧
      (flow.admission (state.domains.contains flow.domain.id)).2 =
        { flow with admittedBytes := flow.submittedBytes, state := .admitted } := by
  obtain ⟨flow, resolved, accepts⟩ := (Option.any_eq_true _ _).mp reached
  obtain ⟨found, current⟩ := findFlow_eq_some.mp resolved
  rw [Bool.and_eq_true, decide_eq_true_eq] at accepts
  dsimp only at accepts
  rcases (sound ref.id flow found).admission (state.domains.contains flow.domain.id) with
    ⟨-, refused⟩ | ⟨declared, -, accepted⟩
  · rw [refused] at accepts
    exact absurd accepts.1 Bool.false_ne_true
  · exact ⟨flow, found, current, accepts.2, declared, by rw [accepted]⟩

/-- No list has it yet. -/
private theorem Impl.Binds.not_listed {id : CongestionDomainId} {domain : CongestionDomain R}
    {ref : EntityRef FlowTag} (binds : state.Binds holds)
    (stored : state.domains.find? id = some domain) (reached : state.reaches ref
      (fun flow => (flow.admission (state.domains.contains flow.domain.id)).1) id = true) :
    ref.id ∉ domain.flows.map EntityRef.id := by
  obtain ⟨flow, found, -, -, declared, -⟩ := binds.sound.admission reached
  intro member
  obtain ⟨listed, memberListed, same⟩ := List.mem_map.mp member
  obtain ⟨earlier, there, -, past, -⟩ := binds.listed id domain stored listed memberListed
  rw [same, found] at there
  obtain rfl := Option.some.inj there
  exact past declared

section Preservation

variable (admitted : ∀ flow : Flow R,
    holds { flow with admittedBytes := flow.submittedBytes, state := .admitted })
  (settled : ∀ {flow after : Flow R}, flow.Settled after → holds flow → holds after)

include admitted settled

theorem Impl.Binds.exec (binds : state.Binds holds) (limits : EngineLimits) (now : UInt64)
    (op : Op R) : (exec limits now op state).2.Binds holds := by
  refine ⟨binds.sound.exec limits now op, ?_, ?_⟩
  · intro id after stored
    rcases exec_domain_origin stored with
      ⟨domain, invalidated, found, -, rfl⟩ | ⟨kind, capacity, -, -, -, -, rfl⟩
    · have distinct := binds.distinct id domain found
      rcases domainAfter_flows limits now op state invalidated id domain with
        same | ⟨ref, rfl, reached, appended⟩
      · rw [same]
        exact distinct
      · rw [appended, List.map_append]
        exact distinct.append (List.nodup_singleton _)
          (List.disjoint_singleton.mpr (binds.not_listed found reached))
    · exact List.nodup_nil
  · intro id after stored ref listed
    rcases exec_domain_origin stored with
      ⟨domain, invalidated, found, -, rfl⟩ | ⟨kind, capacity, -, -, -, -, rfl⟩
    · have kept : ref ∈ domain.flows → ∃ flow,
          (CongestionFabric.exec limits now op state).2.flows.find? ref.id = some flow ∧
            flow.domain.id = id ∧ flow.state ≠ .declared ∧ holds flow := by
        intro earlier
        obtain ⟨flow, there, names, past, still⟩ := binds.listed id domain found ref earlier
        have after := (binds.sound ref.id flow there).settled past limits now op state ref.id
        refine ⟨_, exec_flow there, ?_, after.state, settled after still⟩
        rw [(flowAfter_sameOrigin ..).domain]
        exact names
      rcases domainAfter_flows limits now op state invalidated id domain with
        same | ⟨new, rfl, reached, appended⟩
      · rw [same] at listed
        exact kept listed
      · rw [appended, List.mem_append, List.mem_singleton] at listed
        rcases listed with earlier | rfl
        · exact kept earlier
        · obtain ⟨flow, there, current, names, -, accepted⟩ := binds.sound.admission reached
          have after : flowAfter limits now (.admitFlow ref) state ref.id flow =
              { flow with admittedBytes := flow.submittedBytes, state := .admitted } := by
            rw [flowAfter, if_pos ⟨rfl, current⟩, accepted]
          refine ⟨_, exec_flow there, ?_⟩
          rw [after]
          exact ⟨names, by simp, admitted flow⟩
    · exact absurd listed List.not_mem_nil

theorem Impl.Binds.step {label : Label R} (binds : state.Binds holds)
    (taken : Step limits state label next) : next.Binds holds := by
  cases taken with
  | call now op => exact binds.exec admitted settled limits now op
  | rehash same =>
      refine ⟨binds.sound.step (.rehash same : Step limits _ _ _), ?_, ?_⟩
      · intro id domain stored
        rw [← same.domains.find?_eq] at stored
        exact binds.distinct id domain stored
      · intro id domain stored ref listed
        rw [← same.domains.find?_eq] at stored
        obtain ⟨flow, found, rest⟩ := binds.listed id domain stored ref listed
        refine ⟨flow, ?_, rest⟩
        rw [← same.flows.find?_eq]
        exact found

end Preservation

/-! ## Keys -/

/-- Every flow names itself by the key it is stored under. -/
def Impl.FlowsKeyed (state : Impl R) : Prop :=
  ∀ id flow, state.flows.find? id = some flow → flow.ref.id = id

theorem Impl.flowsKeyed_fresh : (Impl.fresh : Impl R).FlowsKeyed := by
  intro id flow stored
  exact absurd stored (by simp [Impl.fresh])

/-- A flow is declared with its key, and keeps its identifier. -/
theorem Impl.FlowsKeyed.exec (keyed : state.FlowsKeyed) (limits : EngineLimits) (now : UInt64)
    (op : Op R) : (exec limits now op state).2.FlowsKeyed := by
  intro id after stored
  rcases exec_flow_origin stored with ⟨flow, found, rfl⟩ | ⟨options, -, -, -, rfl, rfl⟩
  · exact (flowAfter_sameOrigin ..).id.trans (keyed id flow found)
  · rfl

theorem Impl.FlowsKeyed.step {label : Label R} (keyed : state.FlowsKeyed)
    (taken : Step limits state label next) : next.FlowsKeyed := by
  cases taken with
  | call now op => exact keyed.exec limits now op
  | rehash same =>
      intro id flow stored
      rw [← same.flows.find?_eq] at stored
      exact keyed id flow stored

end CongestionFabric
