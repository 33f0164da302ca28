import CongestionFabric.Engine.Totals
import CongestionFabric.Foundation.Weight

/-!
Contract: the bounds on the queue of a domain.

Owns the number and the bytes of the flows that wait in a domain's queue, counted in
the flow map, how many of them the domain lists and how many its list overlooks, what
an operation does to them, and the exact condition on the steps of a run under which
the limits hold in every state.

`queue_flow` counts through the references of the domain's list, and one whose flow
has since advanced its generation finds nothing; the bytes it does not look at.
-/

namespace CongestionFabric

open Foundation

variable {R : Type} [Arithmetic R]

/-! ## What is queued -/

/-- The flow waits in the queue of the domain. -/
def Flow.queuedIn (id : CongestionDomainId) (flow : Flow R) : Bool :=
  flow.domain.id = id && flow.state = .queued

namespace Impl

/-- The queue of a domain, with a size for the admitted bytes of a flow. -/
def queueSize (size : ByteCounter → Nat) (state : Impl R) (id : CongestionDomainId) : Nat :=
  state.flows.total fun flow => if flow.queuedIn id then size flow.admittedBytes else 0

/-- The number of flows of the domain in state QUEUED. -/
def queueDepth (state : Impl R) (id : CongestionDomainId) : Nat :=
  state.queueSize (fun _ => 1) id

/-- The sum of their admitted bytes. -/
def queueBytes (state : Impl R) (id : CongestionDomainId) : Nat :=
  state.queueSize (fun bytes => bytes.value.toNat) id

/-- No queue is deeper or longer than the limits allow. -/
def QueuesBounded (limits : EngineLimits) (state : Impl R) : Prop :=
  ∀ id, state.queueDepth id ≤ limits.maxQueueDepthOps.toNat ∧
    state.queueBytes id ≤ limits.maxQueuedBytes.toNat

/-- The QUEUED flows of the domain that its list has under their current generation. -/
def listedDepth (state : Impl R) (id : CongestionDomainId) : Nat :=
  state.flows.count fun flow => flow.queuedIn id && state.lists id flow.ref

/-- The QUEUED flows of the domain that its list does not have. -/
def overlookedDepth (state : Impl R) (id : CongestionDomainId) : Nat :=
  state.flows.count fun flow => flow.queuedIn id && !state.lists id flow.ref

/-- The flow is ADMITTED to a domain that lists fewer QUEUED flows than the limit. -/
def mayQueue (limits : EngineLimits) (state : Impl R) (flow : Flow R) : Bool :=
  flow.state = .admitted && state.domains.contains flow.domain.id &&
    decide (state.listedDepth flow.domain.id < limits.maxQueueDepthOps.toNat)

/-- `queue_flow` is not called on such a flow where the flows that the list overlooks
use up the rest of the depth, or where its bytes are too many. -/
def hasRoom (limits : EngineLimits) (state : Impl R) : Op R → Bool
  | .queueFlow ref => ((findFlow state.flows ref).filter (state.mayQueue limits)).all fun flow =>
      decide (state.listedDepth flow.domain.id + state.overlookedDepth flow.domain.id <
          limits.maxQueueDepthOps.toNat) &&
        decide (state.queueBytes flow.domain.id + flow.admittedBytes.value.toNat ≤
          limits.maxQueuedBytes.toNat)
  | _ => true

/-- The flow that the operation moves into a queue. -/
def enqueued (limits : EngineLimits) (state : Impl R) : Op R → Option (Flow R)
  | .queueFlow ref => (findFlow state.flows ref).filter fun flow =>
      (flow.queue limits (state.domains.contains flow.domain.id)
        (state.queuedFlows flow.domain.id)).1
  | _ => none

end Impl

/-! ## The depth that `queue_flow` counts -/

section Recount

variable {limits : EngineLimits} {state : Impl R} {id : CongestionDomainId}
  {domain : CongestionDomain R} {key : FlowId} {flow : Flow R}

theorem Impl.queueDepth_eq (state : Impl R) (id : CongestionDomainId) :
    state.queueDepth id = state.listedDepth id + state.overlookedDepth id := by
  unfold Impl.queueDepth Impl.queueSize
  rw [UnorderedMap.total_indicator]
  exact UnorderedMap.count_split _ _ _

private theorem recount (flows : UnorderedMap FlowId (Flow R))
    (refs : List (EntityRef FlowTag)) (counted : UInt64) :
    refs.foldl (fun queued ref =>
        match findFlow flows ref with
        | none => queued
        | some flow => if flow.state = .queued then queued + 1 else queued) counted =
      counted + UInt64.ofNat (refs.countP fun ref =>
        (findFlow flows ref).any fun flow => flow.state = .queued) := by
  induction refs generalizing counted with
  | nil => simp
  | cons ref rest inductionHypothesis =>
      rw [List.foldl_cons, List.countP_cons, inductionHypothesis]
      cases findFlow flows ref with
      | none => simp
      | some flow =>
          by_cases queued : flow.state = .queued
          · simp [queued, UInt64.ofNat_add, UInt64.add_assoc, UInt64.add_comm]
          · simp [queued]

/-- The loop counts the QUEUED flows that the list has under their current generation. -/
theorem Impl.Enrolled.queuedFlows_toNat (enrolled : state.Enrolled) (keyed : state.FlowsKeyed)
    (stored : state.domains.find? id = some domain) :
    (state.queuedFlows id).toNat = state.listedDepth id := by
  have counted : state.queuedFlows id = UInt64.ofNat (domain.flows.countP fun ref =>
      (findFlow state.flows ref).any fun flow => flow.state = .queued) := by
    unfold Impl.queuedFlows
    rw [stored]
    exact (recount state.flows domain.flows 0).trans (UInt64.zero_add _)
  have queued : ∀ flow : Flow R, decide (flow.state = .queued) = true →
      flow.state.canProgress = true := by
    intro flow waits
    rw [of_decide_eq_true waits]
    rfl
  rw [counted, enrolled.toNat_ofNat stored queued, List.countP_eq_length_filter,
    ← List.length_map EntityRef.id]
  obtain ⟨distinct, pass⟩ := enrolled.resolved stored fun flow => flow.state = .queued
  have listed : ∀ {flow : Flow R}, state.lists id flow.ref = decide (flow.ref ∈ domain.flows) := by
    intro flow
    rw [Impl.lists, stored, Option.all_some]
  refine (UnorderedMap.length_eq_count_iff distinct fun key member => ?_).mpr fun key member => ?_
  · obtain ⟨flow, found, waits⟩ := UnorderedMap.mem_keysWhere.mp (pass key member)
    obtain ⟨ref, passes, rfl⟩ := List.mem_map.mp member
    obtain ⟨inList, resolves⟩ := List.mem_filter.mp passes
    obtain ⟨resolved, looked, -⟩ := (Option.any_eq_true _ _).mp resolves
    obtain ⟨again, current⟩ := findFlow_eq_some.mp looked
    obtain rfl := Option.some.inj (found.symm.trans again)
    have same : flow.ref = ref :=
      (EntityRef.mk.injEq ..).mpr ⟨keyed ref.id flow found, current⟩
    refine UnorderedMap.mem_keysWhere.mpr ⟨flow, found, ?_⟩
    rw [listed, same, decide_eq_true inList, Bool.and_true]
    exact waits
  · obtain ⟨flow, found, passes⟩ := UnorderedMap.mem_keysWhere.mp member
    rw [listed, Bool.and_eq_true, decide_eq_true_eq] at passes
    obtain ⟨waits, inList⟩ := passes
    have named : flow.ref.id = key := keyed key flow found
    have resolves : findFlow state.flows flow.ref = some flow :=
      findFlow_eq_some.mpr ⟨by rw [named, found], rfl⟩
    refine List.mem_map.mpr ⟨flow.ref, List.mem_filter.mpr ⟨inList, ?_⟩, named⟩
    rw [resolves, Option.any_some]
    exact (Bool.and_eq_true_iff.mp waits).2

/-- Beside an ADMITTED flow the count and one more fit the counter. -/
theorem Impl.Enrolled.listedDepth_lt (enrolled : state.Enrolled)
    (found : state.flows.find? key = some flow) (admitted : flow.state = .admitted) :
    state.listedDepth id + 1 < 2 ^ 64 := by
  have running : ∀ {other : FlowId}, other ∈ key :: state.flows.keysWhere (fun flow =>
      flow.queuedIn id && state.lists id flow.ref) →
        other ∈ state.flows.keysWhere fun flow => !flow.isTerminal := by
    intro other member
    rcases List.mem_cons.mp member with rfl | waits
    · refine UnorderedMap.mem_keysWhere.mpr ⟨flow, found, ?_⟩
      rw [Flow.isTerminal, admitted]
      rfl
    · obtain ⟨waiting, stored, passes⟩ := UnorderedMap.mem_keysWhere.mp waits
      refine UnorderedMap.mem_keysWhere.mpr ⟨waiting, stored, ?_⟩
      simp only [Flow.queuedIn, Bool.and_eq_true, decide_eq_true_eq] at passes
      rw [Flow.isTerminal, passes.1.2]
      rfl
  have distinct : (key :: state.flows.keysWhere (fun flow =>
      flow.queuedIn id && state.lists id flow.ref)).Nodup := by
    refine UnorderedMap.nodup_keysWhere.cons fun waits => ?_
    obtain ⟨waiting, stored, passes⟩ := UnorderedMap.mem_keysWhere.mp waits
    obtain rfl := Option.some.inj (found.symm.trans stored)
    simp [Flow.queuedIn, admitted] at passes
  have fewer := UnorderedMap.length_le_count distinct fun _ member => running member
  have enough := enrolled.slots.enough
  have bound := state.activeFlows.toNat_lt
  rw [List.length_cons] at fewer
  change state.listedDepth id + 1 ≤ state.openFlows at fewer
  omega

theorem Flow.queue_accepted {domainExists : Bool} {queued : UInt64} :
    (flow.queue limits domainExists queued).1 = true ↔
      flow.state = .admitted ∧ domainExists = true ∧ queued + 1 ≤ limits.maxQueueDepthOps := by
  unfold Flow.queue
  cases flow.state <;> cases domainExists <;>
    simp [flowTransitionAllowed, apply_ite Prod.fst]

/-- `queue_flow` accepts a flow exactly if it is ADMITTED to a domain that lists fewer
QUEUED flows than the limit. -/
theorem Impl.Enrolled.queue_accepted (enrolled : state.Enrolled) (keyed : state.FlowsKeyed)
    (found : state.flows.find? key = some flow) :
    (flow.queue limits (state.domains.contains flow.domain.id)
      (state.queuedFlows flow.domain.id)).1 = state.mayQueue limits flow := by
  rw [Bool.eq_iff_iff, Flow.queue_accepted, Impl.mayQueue, Bool.and_eq_true, Bool.and_eq_true,
    decide_eq_true_eq, decide_eq_true_eq, and_assoc]
  refine and_congr_right fun admitted => and_congr_right fun present => ?_
  obtain ⟨domain, stored⟩ := UnorderedMap.contains_eq_true.mp present
  have small : state.listedDepth flow.domain.id + 1 < 2 ^ 64 :=
    enrolled.listedDepth_lt found admitted
  rw [UInt64.le_iff_toNat_le, UInt64.toNat_add, enrolled.queuedFlows_toNat keyed stored,
    UInt64.toNat_one, Nat.mod_eq_of_lt small]
  exact Nat.succ_le_iff

/-- The condition, on the flow that the operation moves. -/
theorem Impl.Enrolled.hasRoom_iff {op : Op R} (enrolled : state.Enrolled)
    (keyed : state.FlowsKeyed) :
    state.hasRoom limits op = true ↔ ∀ flow, state.enqueued limits op = some flow →
      state.queueDepth flow.domain.id + 1 ≤ limits.maxQueueDepthOps.toNat ∧
        state.queueBytes flow.domain.id + flow.admittedBytes.value.toNat ≤
          limits.maxQueuedBytes.toNat := by
  cases op with
  | queueFlow ref =>
      have moved : state.enqueued limits (.queueFlow ref) =
          (findFlow state.flows ref).filter (state.mayQueue limits) := by
        rw [Impl.enqueued]
        cases resolved : findFlow state.flows ref with
        | none => rfl
        | some flow =>
            simp only [Option.filter,
              enrolled.queue_accepted keyed (findFlow_eq_some.mp resolved).1]
      rw [Impl.hasRoom, moved, Option.all_eq_true]
      refine forall_congr' fun flow => forall_congr' fun _ => ?_
      rw [Bool.and_eq_true, decide_eq_true_eq, decide_eq_true_eq, Impl.queueDepth_eq]
      exact and_congr_left' Nat.succ_le_iff.symm
  | _ => exact iff_of_true rfl fun _ never => absurd never (by simp [Impl.enqueued])

end Recount

/-! ## One operation -/

section Operation

variable {limits : EngineLimits} {now : UInt64} {op : Op R} {state : Impl R} {id : FlowId}
  {flow : Flow R}

/-- A flow that waits after an operation waited before it, with the same bytes, or is
the one that `queue_flow` accepts. -/
private theorem queued_origin (sound : flow.WellAccounted)
    (waits : (flowAfter limits now op state id flow).state = .queued) :
    flow.state = .queued ∧
        (flowAfter limits now op state id flow).admittedBytes = flow.admittedBytes ∨
      ∃ ref, op = .queueFlow ref ∧ ref.names id flow ∧
        (flow.queue limits (state.domains.contains flow.domain.id)
          (state.queuedFlows flow.domain.id)).1 = true := by
  have refused : ∀ {after : Bool × Flow R} {other : Prop}, after = (false, flow) →
      after.2.state = .queued →
        flow.state = .queued ∧ after.2.admittedBytes = flow.admittedBytes ∨ other := by
    rintro after other rfl waits
    exact Or.inl ⟨waits, rfl⟩
  have moved : ∀ {after : Bool × Flow R} {record : Flow R} {other : Prop},
      after = (true, record) → record.state ≠ .queued → after.2.state = .queued → other := by
    rintro after record other rfl elsewhere waits
    exact absurd waits elsewhere
  revert waits
  apply flowAfter_elim (motive := fun after => after.state = .queued →
    flow.state = .queued ∧ after.admittedBytes = flow.admittedBytes ∨ _)
  case same => exact fun waits => Or.inl ⟨waits, rfl⟩
  case fenceWorker =>
    intro worker deadBoot _ _ waits
    unfold Flow.fence at waits ⊢
    split_ifs at waits ⊢
    exact Or.inl ⟨waits, rfl⟩
  case fenceSource =>
    intro source deadBoot _ _ waits
    unfold Flow.fence at waits ⊢
    split_ifs at waits ⊢
    exact Or.inl ⟨waits, rfl⟩
  case admission =>
    intro ref _ _
    rcases sound.admission (state.domains.contains flow.domain.id) with
      ⟨-, same⟩ | ⟨-, -, accepted⟩
    · exact refused same
    · exact moved accepted (by simp)
  case queue =>
    intro ref isQueue named
    rcases flow.queue_cases limits (state.domains.contains flow.domain.id)
      (state.queuedFlows flow.domain.id) with same | ⟨-, accepted⟩
    · exact refused same
    · exact fun _ => Or.inr ⟨ref, isQueue, named, by rw [accepted]⟩
  case start =>
    intro ref boot _ _
    rcases sound.start now boot with ⟨-, same⟩ | ⟨-, -, accepted⟩
    · exact refused same
    · exact moved accepted (by simp [Flow.started])
  case progress =>
    intro ref boot delta _ _
    rcases sound.progress now boot delta with ⟨-, same⟩ | ⟨-, -, _, _, -, -, -, accepted⟩
    · exact refused same
    · rw [accepted]
      exact fun waits => Or.inl ⟨waits, rfl⟩
  case complete =>
    intro ref boot _ _
    rcases sound.complete now boot with ⟨-, same⟩ | ⟨-, -, accepted⟩
    · exact refused same
    · exact moved accepted (by simp)
  case cancel =>
    intro ref boot soFar _ _
    rcases sound.cancel now boot soFar with ⟨-, same⟩ | ⟨-, -, _, -, accepted⟩
    · exact refused same
    · exact moved accepted (by simp)
  case fail =>
    intro ref boot _ _
    rcases sound.fail now boot with ⟨-, same⟩ | ⟨-, -, _, -, accepted⟩
    · exact refused same
    · exact moved accepted (by simp)
  case advance =>
    intro ref next _ _ waits
    unfold Flow.advanceGeneration at waits ⊢
    split_ifs at waits ⊢
    · exact Or.inl ⟨waits, rfl⟩
    · exact Or.inl ⟨waits, rfl⟩
  case revalidate =>
    intro ref boot _ _
    rcases flow.revalidate_cases boot with ⟨-, same⟩ | ⟨-, -, accepted⟩
    · exact refused same
    · exact moved accepted (by simp)
  case recover =>
    intro _ waits
    unfold Flow.requireRevalidation at waits ⊢
    split_ifs at waits ⊢
    exact Or.inl ⟨waits, rfl⟩

/-- The weight of a flow in the queue of a domain, after an operation that moves no
flow into a queue. -/
private theorem weight_after_le (size : ByteCounter → Nat) (target : CongestionDomainId)
    (sound : flow.WellAccounted) (stored : state.flows.find? id = some flow)
    (none : state.enqueued limits op = none) :
    (if (flowAfter limits now op state id flow).queuedIn target then
        size (flowAfter limits now op state id flow).admittedBytes else 0) ≤
      if flow.queuedIn target then size flow.admittedBytes else 0 := by
  have origin := flowAfter_sameOrigin limits now op state id flow
  unfold Flow.queuedIn
  rw [origin.domain]
  by_cases waits : (flowAfter limits now op state id flow).state = .queued
  · rcases queued_origin sound waits with ⟨before, bytes⟩ | ⟨ref, rfl, named, accepted⟩
    · rw [waits, before, bytes]
    · -- The operation would have moved this flow.
      obtain ⟨rfl, current⟩ := named
      have found := findFlow_eq_some.mpr ⟨stored, current⟩
      rw [Impl.enqueued, found, Option.filter, accepted] at none
      exact absurd none (by simp)
  · rw [decide_eq_false waits, Bool.and_false]
    exact Nat.zero_le _

private theorem queueSize_exec_le (sound : state.WellAccounted) (size : ByteCounter → Nat)
    (target : CongestionDomainId) (none : state.enqueued limits op = none) :
    (exec limits now op state).2.queueSize size target ≤ state.queueSize size target := by
  apply UnorderedMap.total_le
  intro key
  cases stored : (exec limits now op state).2.flows.find? key with
  | none =>
      rw [UnorderedMap.weightAt_of_none stored]
      exact Nat.zero_le _
  | some after =>
      rw [UnorderedMap.weightAt_of_find? stored]
      rcases exec_flow_origin stored with ⟨flow, before, rfl⟩ | ⟨options, -, -, -, -, rfl⟩
      · rw [UnorderedMap.weightAt_of_find? before]
        exact weight_after_le size target (sound key flow before) before none
      · have fresh : (Flow.declare key now options).queuedIn target = false := by
          simp [Flow.queuedIn, Flow.declare]
        rw [fresh]
        exact Nat.zero_le _

/-- A flow that is moved into a queue adds its size there, and nowhere else. -/
private theorem queueSize_exec_of_enqueued (size : ByteCounter → Nat)
    (target : CongestionDomainId) (moved : state.enqueued limits op = some flow) :
    (exec limits now op state).2.queueSize size target =
      state.queueSize size target +
        if flow.domain.id = target then size flow.admittedBytes else 0 := by
  cases op with
  | queueFlow ref =>
      obtain ⟨found, accepted⟩ := Option.filter_eq_some_iff.mp moved
      obtain ⟨stored, current⟩ := findFlow_eq_some.mp found
      obtain ⟨admitted, queued⟩ : flow.state = .admitted ∧
          flowAfter limits now (.queueFlow ref) state ref.id flow =
            { flow with state := .queued } := by
        rcases flow.queue_cases limits (state.domains.contains flow.domain.id)
          (state.queuedFlows flow.domain.id) with same | ⟨admitted, same⟩
        · rw [same] at accepted
          exact absurd accepted (by simp)
        · refine ⟨admitted, ?_⟩
          rw [flowAfter, if_pos ⟨rfl, current⟩, same]
      apply UnorderedMap.total_add ref.id
      · rw [UnorderedMap.weightAt_of_find? (exec_flow stored),
          UnorderedMap.weightAt_of_find? stored, queued]
        simp [Flow.queuedIn, admitted]
      · intro another other
        cases before : state.flows.find? another with
        | some unmoved =>
            have same : flowAfter limits now (.queueFlow ref) state another unmoved = unmoved :=
              if_neg fun named => other named.1
            rw [UnorderedMap.weightAt_of_find? (exec_flow before),
              UnorderedMap.weightAt_of_find? before, same]
        | none =>
            have after : (exec limits now (.queueFlow ref) state).2.flows.find? another = none := by
              cases stored : (exec limits now (.queueFlow ref) state).2.flows.find? another with
              | none => rfl
              | some after =>
                  rcases exec_flow_origin stored with ⟨flow, found, -⟩ | ⟨_, declares, -⟩
                  · exact absurd (before.symm.trans found) (by simp)
                  · exact absurd declares (by simp)
            rw [UnorderedMap.weightAt_of_none after, UnorderedMap.weightAt_of_none before]
  | _ => exact absurd moved (by simp [Impl.enqueued])

/-! ## Runs -/

/-- What the limits say after an operation is that a flow it moves into a queue found
room. -/
private theorem queuesBounded_exec_iff (enrolled : state.Enrolled) (keyed : state.FlowsKeyed)
    (bounded : state.QueuesBounded limits) :
    state.hasRoom limits op = true ↔ (exec limits now op state).2.QueuesBounded limits := by
  rw [enrolled.hasRoom_iff keyed]
  cases moved : state.enqueued limits op with
  | none =>
      refine iff_of_true (fun _ never => absurd never (by simp)) fun id => ?_
      obtain ⟨depth, bytes⟩ := bounded id
      exact ⟨(queueSize_exec_le enrolled.slots.sound _ id moved).trans depth,
        (queueSize_exec_le enrolled.slots.sound _ id moved).trans bytes⟩
  | some flow =>
      constructor
      · intro room id
        obtain ⟨depthRoom, bytesRoom⟩ := room flow rfl
        obtain ⟨depth, bytes⟩ := bounded id
        unfold Impl.queueDepth Impl.queueBytes
        rw [queueSize_exec_of_enqueued _ id moved, queueSize_exec_of_enqueued _ id moved]
        by_cases here : flow.domain.id = id
        · subst here
          rw [if_pos rfl, if_pos rfl]
          exact ⟨depthRoom, bytesRoom⟩
        · rw [if_neg here, if_neg here]
          exact ⟨depth, bytes⟩
      · intro after _ same
        obtain rfl := Option.some.inj same
        obtain ⟨depth, bytes⟩ := after flow.domain.id
        rw [Impl.queueDepth, queueSize_exec_of_enqueued _ _ moved, if_pos rfl] at depth
        rw [Impl.queueBytes, queueSize_exec_of_enqueued _ _ moved, if_pos rfl] at bytes
        exact ⟨depth, bytes⟩

end Operation

/-- The call, if the step is one, finds room in that sense. -/
def Label.hasRoom (limits : EngineLimits) (state : Impl R) : Label R → Bool
  | .call _ op => state.hasRoom limits op
  | .rehash => true

theorem Impl.Reordered.queueSize_eq {left right : Impl R} (same : left.Reordered right)
    (size : ByteCounter → Nat) (id : CongestionDomainId) :
    right.queueSize size id = left.queueSize size id := by
  apply UnorderedMap.total_congr
  intro key
  unfold UnorderedMap.weightAt
  rw [same.flows.find?_eq]

/-- In every run without a load the queues of all domains keep both limits in every
state if and only if, whenever `queue_flow` is called on an ADMITTED flow whose domain
lists fewer QUEUED flows than the limit, those that the list overlooks leave room for
it and its bytes are not too many. -/
theorem queuesBounded_throughout_iff {limits : EngineLimits}
    {history : List (Impl R × Label R)} {final : Impl R}
    (run : Run (Step limits) Impl.fresh history final) :
    (∀ taken ∈ history, taken.2.hasRoom limits taken.1 = true) ↔
      Throughout history final fun _ state => state.QueuesBounded limits := by
  refine run.forall_iff_throughout (fun state => state.Enrolled ∧ state.FlowsKeyed)
    (fun state label => label.hasRoom limits state = true)
    ⟨Impl.enrolled_fresh, Impl.flowsKeyed_fresh⟩ ?_
    (fun inv step => ⟨inv.1.step step, inv.2.step step⟩) ?_
  · exact fun id => ⟨Nat.zero_le _, Nat.zero_le _⟩
  · intro state label next inv bounded step
    cases step with
    | call now op => exact queuesBounded_exec_iff inv.1 inv.2 bounded
    | rehash same =>
        refine iff_of_true rfl fun id => ?_
        unfold Impl.queueDepth Impl.queueBytes
        rw [same.queueSize_eq, same.queueSize_eq]
        exact bounded id

/-- Two flows of 500 bytes are admitted to one domain. The first is queued, something
is done in between, and the second is queued. -/
private def queuesAround (between : List (Op Binary64)) : List (UInt64 × Op Binary64) :=
  let first : List (Op Binary64) :=
    [.registerWorker ⟨1⟩ ⟨1⟩, .registerSource ⟨1⟩ ⟨1⟩,
      .createDomain DomainKind.nicTx (.ofTheoretical 1000.0),
      .declareFlow (.ofFirst 500), .declareFlow (.ofFirst 500),
      .admitFlow ⟨⟨1⟩, ⟨1⟩⟩, .admitFlow ⟨⟨2⟩, ⟨1⟩⟩, .queueFlow ⟨⟨1⟩, ⟨1⟩⟩]
  (first ++ between ++ [Op.queueFlow ⟨⟨2⟩, ⟨1⟩⟩]).map fun op => (1, op)

/-- Room for two flows. -/
theorem queuesAround_nothing_bounded :
    (execAll { maxQueueDepthOps := 2 } (queuesAround []) Impl.fresh).queueDepth ⟨1⟩ = 2 ∧
      (execAll { maxQueueDepthOps := 2 } (queuesAround []) Impl.fresh).QueuesBounded
        { maxQueueDepthOps := 2 } :=
  ⟨by decide +kernel, ((queuesBounded_throughout_iff
    (run_execAll (queuesAround []) Run.nil)).mp (by decide +kernel)).2⟩

/-- Room for one flow: once the first has advanced its generation, the second finds
the queue empty. -/
theorem queuesAround_advance_exceeds :
    ¬∀ (limits : EngineLimits) (history : List (Impl Binary64 × Label Binary64))
      (final : Impl Binary64), Run (Step limits) Impl.fresh history final →
        final.QueuesBounded limits := by
  intro always
  have bounded := always { maxQueueDepthOps := 1 } _ _
    (run_execAll (queuesAround [.advanceFlowGeneration ⟨⟨1⟩, ⟨1⟩⟩ ⟨2⟩]) Run.nil)
  exact absurd (bounded ⟨1⟩).1 (by decide +kernel)

end CongestionFabric
