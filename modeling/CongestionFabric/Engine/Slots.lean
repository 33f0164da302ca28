import CongestionFabric.Engine.Closure
import CongestionFabric.Engine.Finality

/-!
Contract: the slots that flows take and give back.

Owns the number of flows that are not terminal, what one operation does to that
number and to the counter `active_flows_`, and the fact that a flow is finished
at most once, gives its slot back at that moment, and keeps its record from then
on.

Does not own: loaded files, which bring flows without slots.
-/

namespace CongestionFabric

open Foundation

variable {R : Type} [Arithmetic R]

/-! ## Finishing calls -/

/-- The reference of a `flow_complete`, `flow_cancel` or `flow_fail`. -/
def Op.finishing : Op R → Option (EntityRef FlowTag)
  | .flowComplete ref _ | .flowCancel ref _ _ | .flowFail ref _ => some ref
  | _ => none

/-- The call finishes this flow. -/
def Op.finishes (now : UInt64) (id : FlowId) (flow : Flow R) : Op R → Bool
  | .flowComplete ref boot => ref.names id flow && (flow.complete now boot).1
  | .flowCancel ref boot soFar => ref.names id flow && (flow.cancel now boot soFar).1
  | .flowFail ref boot => ref.names id flow && (flow.fail now boot).1
  | _ => false

/-- The number of flows that are not terminal. -/
def Impl.openFlows (state : Impl R) : Nat := state.flows.count fun flow => !flow.isTerminal

variable {limits : EngineLimits} {now : UInt64} {op : Op R} {options : FlowOptions R}
  {state next final : Impl R} {id : FlowId} {flow : Flow R}

private theorem not_terminal_of_live (live : flow.state.live = true) : flow.isTerminal = false := by
  unfold Flow.isTerminal
  cases state : flow.state <;> simp_all [FlowState.live, FlowState.isTerminal]

/-- Only a live flow is finished. -/
theorem Flow.WellAccounted.live_of_finishes (sound : flow.WellAccounted)
    (finishes : op.finishes now id flow = true) : flow.state.live = true := by
  cases op with
  | flowComplete ref boot =>
      obtain ⟨-, accepted⟩ := Bool.and_eq_true_iff.mp finishes
      rcases sound.complete now boot with ⟨-, refused⟩ | ⟨-, active, -⟩
      · rw [refused] at accepted
        exact absurd accepted Bool.false_ne_true
      · simp [active, FlowState.live]
  | flowCancel ref boot soFar =>
      obtain ⟨-, accepted⟩ := Bool.and_eq_true_iff.mp finishes
      rcases sound.cancel now boot soFar with ⟨-, refused⟩ | ⟨-, live, -⟩
      · rw [refused] at accepted
        exact absurd accepted Bool.false_ne_true
      · exact live
  | flowFail ref boot =>
      obtain ⟨-, accepted⟩ := Bool.and_eq_true_iff.mp finishes
      rcases sound.fail now boot with ⟨-, refused⟩ | ⟨-, live, -⟩
      · rw [refused] at accepted
        exact absurd accepted Bool.false_ne_true
      · exact live
  | _ => exact absurd finishes Bool.false_ne_true

/-- A live flow is not terminal after any other call. -/
private theorem Flow.WellAccounted.running_after (sound : flow.WellAccounted)
    (live : flow.state.live = true) (notFinishing : op.finishing = none) :
    (flowAfter limits now op state id flow).isTerminal = false := by
  have running := not_terminal_of_live live
  have fence : ∀ owned, (flow.fence owned).isTerminal = false := by
    intro owned
    unfold Flow.fence
    split
    · rfl
    · exact running
  apply flowAfter_elim (motive := fun after => after.isTerminal = false)
  case same => exact running
  case fenceWorker => exact fun _ _ _ _ => fence _
  case fenceSource => exact fun _ _ _ _ => fence _
  case admission =>
    intro ref _ _
    rcases sound.admission (state.domains.contains flow.domain.id) with
      ⟨-, refused⟩ | ⟨-, -, accepted⟩
    · rw [refused]
      exact running
    · rw [accepted]
      rfl
  case queue =>
    intro ref _ _
    rcases flow.queue_cases limits (state.domains.contains flow.domain.id)
      (state.queuedFlows flow.domain.id) with refused | ⟨-, accepted⟩
    · rw [refused]
      exact running
    · rw [accepted]
      rfl
  case start =>
    intro ref boot _ _
    rcases sound.start now boot with ⟨-, refused⟩ | ⟨-, -, accepted⟩
    · rw [refused]
      exact running
    · rw [accepted]
      rfl
  case progress =>
    intro ref boot delta _ _
    rcases sound.progress now boot delta with ⟨-, refused⟩ | ⟨-, -, _, _, -, -, -, accepted⟩
    · rw [refused]
      exact running
    · rw [accepted]
      exact running
  case complete =>
    rintro ref boot rfl _
    exact absurd notFinishing (by simp [Op.finishing])
  case cancel =>
    rintro ref boot soFar rfl _
    exact absurd notFinishing (by simp [Op.finishing])
  case fail =>
    rintro ref boot rfl _
    exact absurd notFinishing (by simp [Op.finishing])
  case advance =>
    intro ref following _ _
    unfold Flow.advanceGeneration
    split_ifs
    · exact running
    · rfl
    · exact running
  case revalidate =>
    intro ref boot _ _
    rcases flow.revalidate_cases boot with ⟨-, refused⟩ | ⟨-, -, accepted⟩
    · rw [refused]
      exact running
    · rw [accepted]
      rfl
  case recover =>
    intro _
    unfold Flow.requireRevalidation
    split
    · rfl
    · exact running

/-- Exactly the finishing calls that are accepted make a flow terminal. -/
theorem Flow.WellAccounted.terminal_after (sound : flow.WellAccounted) (limits : EngineLimits)
    (now : UInt64) (op : Op R) (state : Impl R) (id : FlowId) :
    (flowAfter limits now op state id flow).isTerminal =
      (flow.isTerminal || op.finishes now id flow) := by
  cases live : flow.state.live with
  | false =>
      have untouched : op.finishes now id flow = false := by
        rw [Bool.eq_false_iff]
        intro finishes
        rw [sound.live_of_finishes finishes] at live
        exact absurd live (by simp)
      rw [untouched, Bool.or_false]
      unfold Flow.isTerminal
      rcases (sound.parked live limits now op state id).state with
        same | ⟨running, awaits | ⟨-, stale⟩⟩
      · rw [same]
      · rw [Flow.isTerminal] at running
        rw [running, awaits]
        rfl
      · rw [Flow.isTerminal] at running
        rw [running, stale]
        rfl
  | true =>
      have running := not_terminal_of_live live
      rw [running, Bool.false_or]
      -- A body that refuses leaves the flow as it is; one that accepts ends it.
      have reached : ∀ {body : Bool × Flow R} {named : Prop} [Decidable named],
          body = (false, flow) ∨ body.1 = true ∧ body.2.isTerminal = true →
          (if named then body.2 else flow).isTerminal = (decide named && body.1) := by
        intro body named _ outcome
        by_cases here : named
        · rcases outcome with refused | ⟨accepted, terminal⟩
          · simp [here, refused, running]
          · simp [here, accepted, terminal]
        · simp [here, running]
      cases op with
      | flowComplete ref boot =>
          apply reached
          rcases sound.complete now boot with ⟨-, refused⟩ | ⟨-, -, accepted⟩
          · exact Or.inl refused
          · rw [accepted]
            exact Or.inr ⟨rfl, rfl⟩
      | flowCancel ref boot soFar =>
          apply reached
          rcases sound.cancel now boot soFar with ⟨-, refused⟩ | ⟨-, -, _, -, accepted⟩
          · exact Or.inl refused
          · rw [accepted]
            exact Or.inr ⟨rfl, rfl⟩
      | flowFail ref boot =>
          apply reached
          rcases sound.fail now boot with ⟨-, refused⟩ | ⟨-, -, _, -, accepted⟩
          · exact Or.inl refused
          · rw [accepted]
            exact Or.inr ⟨rfl, rfl⟩
      | _ => exact sound.running_after live rfl

/-! ## One operation -/

/-- The flows that are not terminal after an operation. -/
private theorem mem_runningexec (sound : state.WellAccounted) {key : FlowId} :
    key ∈ (exec limits now op state).2.flows.keysWhere (fun flow => !flow.isTerminal) ↔
      (∃ flow, state.flows.find? key = some flow ∧ flow.isTerminal = false ∧
          op.finishes now key flow = false) ∨
        ∃ options, op = .declareFlow options ∧ Declarable limits options state ∧
          state.flows.find? key = none ∧ key = ⟨state.nextFlow⟩ := by
  rw [UnorderedMap.mem_keysWhere]
  constructor
  · rintro ⟨after, stored, running⟩
    rw [Bool.not_eq_true'] at running
    rcases exec_flow_origin stored with
      ⟨flow, found, rfl⟩ | ⟨options, rfl, declarable, absent, rfl, -⟩
    · rw [(sound key flow found).terminal_after, Bool.or_eq_false_iff] at running
      exact Or.inl ⟨flow, found, running⟩
    · exact Or.inr ⟨options, rfl, declarable, absent, rfl⟩
  · rintro (⟨flow, found, running⟩ | ⟨options, rfl, declarable, absent, rfl⟩)
    · refine ⟨_, exec_flow found, ?_⟩
      rw [(sound key flow found).terminal_after, Bool.not_eq_true', Bool.or_eq_false_iff]
      exact running
    · refine ⟨.declare ⟨state.nextFlow⟩ now options, ?_, rfl⟩
      change (state.declareFlow limits now options).2.flows.find? _ = _
      rw [declareFlow_find? declarable, if_pos ⟨absent, rfl⟩]

private theorem mem_open {key : FlowId} :
    key ∈ state.flows.keysWhere (fun flow => !flow.isTerminal) ↔
      ∃ flow, state.flows.find? key = some flow ∧ flow.isTerminal = false := by
  simp only [UnorderedMap.mem_keysWhere, Bool.not_eq_true']

/-- A call finishes only the flow that its reference names. -/
private theorem Op.finishing_of_finishes (finishes : op.finishes now id flow = true) :
    ∃ ref, op.finishing = some ref ∧ ref.names id flow := by
  cases op with
  | flowComplete ref boot =>
      exact ⟨ref, rfl, of_decide_eq_true (Bool.and_eq_true_iff.mp finishes).1⟩
  | flowCancel ref boot soFar =>
      exact ⟨ref, rfl, of_decide_eq_true (Bool.and_eq_true_iff.mp finishes).1⟩
  | flowFail ref boot =>
      exact ⟨ref, rfl, of_decide_eq_true (Bool.and_eq_true_iff.mp finishes).1⟩
  | _ => exact absurd finishes Bool.false_ne_true

private theorem openFlows_of_finishes (sound : state.WellAccounted)
    (stored : state.flows.find? id = some flow) (finishes : op.finishes now id flow = true) :
    state.openFlows = (exec limits now op state).2.openFlows + 1 := by
  obtain ⟨ref, named, here, -⟩ := Op.finishing_of_finishes finishes
  have running := not_terminal_of_live ((sound id flow stored).live_of_finishes finishes)
  refine UnorderedMap.count_eq_add_one (?_ : id ∉ _) ?_
  · rw [mem_runningexec sound]
    rintro (⟨other, found, -, unfinished⟩ | ⟨options, rfl, -⟩)
    · obtain rfl := Option.some.inj (stored.symm.trans found)
      rw [finishes] at unfinished
      exact absurd unfinished (by simp)
    · exact absurd finishes Bool.false_ne_true
  · intro key
    rw [mem_open, mem_runningexec sound]
    constructor
    · rintro ⟨other, found, running⟩
      cases finished : op.finishes now key other with
      | false => exact Or.inr (Or.inl ⟨other, found, running, finished⟩)
      | true =>
          obtain ⟨again, same, there, -⟩ := Op.finishing_of_finishes finished
          obtain rfl := Option.some.inj (named.symm.trans same)
          exact Or.inl (there.trans here.symm)
    · rintro (rfl | ⟨other, found, running, -⟩ | ⟨options, rfl, -⟩)
      · exact ⟨flow, stored, running⟩
      · exact ⟨other, found, running⟩
      · exact absurd finishes Bool.false_ne_true

private theorem openFlows_of_declares (sound : state.WellAccounted)
    (declarable : Declarable limits options state) :
    (exec limits now (.declareFlow options) state).2.openFlows =
      state.openFlows + if state.flows.find? ⟨state.nextFlow⟩ = none then 1 else 0 := by
  by_cases absent : state.flows.find? ⟨state.nextFlow⟩ = none
  · rw [if_pos absent]
    refine UnorderedMap.count_eq_add_one (?_ : ⟨state.nextFlow⟩ ∉ _) fun key => ?_
    · rw [mem_open, absent]
      rintro ⟨flow, found, -⟩
      exact absurd found (by simp)
    · rw [mem_runningexec sound, mem_open]
      constructor
      · rintro (⟨flow, found, running, -⟩ | ⟨_, -, -, -, rfl⟩)
        · exact Or.inr ⟨flow, found, running⟩
        · exact Or.inl rfl
      · rintro (rfl | ⟨flow, found, running⟩)
        · exact Or.inr ⟨options, rfl, declarable, absent, rfl⟩
        · exact Or.inl ⟨flow, found, running, rfl⟩
  · rw [if_neg absent, Nat.add_zero]
    apply UnorderedMap.count_eq_of_mem_iff
    intro key
    rw [mem_runningexec sound, mem_open]
    constructor
    · rintro (⟨flow, found, running, -⟩ | ⟨_, -, -, unused, rfl⟩)
      · exact ⟨flow, found, running⟩
      · exact absurd unused absent
    · rintro ⟨flow, found, running⟩
      exact Or.inl ⟨flow, found, running, rfl⟩

private theorem openFlows_of_neither (sound : state.WellAccounted)
    (undeclared : ∀ options, op = .declareFlow options → ¬Declarable limits options state)
    (unfinished : ∀ id flow, state.flows.find? id = some flow → op.finishes now id flow = false) :
    (exec limits now op state).2.openFlows = state.openFlows := by
  apply UnorderedMap.count_eq_of_mem_iff
  intro key
  rw [mem_runningexec sound, mem_open]
  constructor
  · rintro (⟨flow, found, running, -⟩ | ⟨options, declares, declarable, -⟩)
    · exact ⟨flow, found, running⟩
    · exact absurd declarable (undeclared options declares)
  · rintro ⟨flow, found, running⟩
    exact Or.inl ⟨flow, found, running, unfinished key flow found⟩

private theorem releaseSlot_activeFlows (state : Impl R) :
    state.releaseSlot.activeFlows = Impl.freed state.activeFlows := by
  rw [Impl.releaseSlot_eq]

private theorem onFlow_activeFlows {ref : EntityRef FlowTag} {body : Flow R → Bool × Flow R}
    {after : Flow R → Impl R → Impl R} (slots : UInt64 → UInt64)
    (frame : ∀ flow state, (after flow state).activeFlows = slots state.activeFlows) :
    (state.onFlow ref body after).2.activeFlows =
      if (findFlow state.flows ref).any (fun flow => (body flow).1) then slots state.activeFlows
      else state.activeFlows := by
  unfold Impl.onFlow
  cases findFlow state.flows ref with
  | none => rfl
  | some flow =>
      cases accepted : (body flow).1 with
      | false => simp [accepted]
      | true => simp [accepted, frame]

private theorem onFlow_keeps_activeFlows {ref : EntityRef FlowTag}
    {body : Flow R → Bool × Flow R} {after : Flow R → Impl R → Impl R}
    (frame : ∀ flow state, (after flow state).activeFlows = state.activeFlows) :
    (state.onFlow ref body after).2.activeFlows = state.activeFlows :=
  Impl.onFlow_frame (fun _ _ => rfl) frame

/-- What an operation does to the counter and to the number of open flows: a
declaration takes a slot, an accepted finishing call gives one back, and nothing
else touches either. A declaration whose number is in use takes a slot without
adding a flow. -/
inductive SlotEffect (limits : EngineLimits) (now : UInt64) (op : Op R) (state : Impl R) : Prop
  | takes (options : FlowOptions R) (declares : op = .declareFlow options)
      (declarable : Declarable limits options state)
      (counter : (exec limits now op state).2.activeFlows = state.activeFlows + 1)
      (flows : (exec limits now op state).2.openFlows =
        state.openFlows + if state.flows.find? ⟨state.nextFlow⟩ = none then 1 else 0)
  | gives (id : FlowId) (flow : Flow R) (stored : state.flows.find? id = some flow)
      (finishes : op.finishes now id flow = true)
      (counter : (exec limits now op state).2.activeFlows = state.releaseSlot.activeFlows)
      (flows : state.openFlows = (exec limits now op state).2.openFlows + 1)
  | leaves (undeclared : ∀ options, op = .declareFlow options → ¬Declarable limits options state)
      (unfinished : ∀ id flow, state.flows.find? id = some flow →
        op.finishes now id flow = false)
      (counter : (exec limits now op state).2.activeFlows = state.activeFlows)
      (flows : (exec limits now op state).2.openFlows = state.openFlows)

private theorem slotEffect_of_untouched (sound : state.WellAccounted)
    (notDeclare : ∀ options, op ≠ .declareFlow options) (notFinishing : op.finishing = none)
    (counter : (exec limits now op state).2.activeFlows = state.activeFlows) :
    SlotEffect limits now op state := by
  have undeclared : ∀ options, op = .declareFlow options → ¬Declarable limits options state :=
    fun options declares => absurd declares (notDeclare options)
  have unfinished : ∀ id flow, state.flows.find? id = some flow →
      op.finishes now id flow = false := by
    intro id flow _
    rw [Bool.eq_false_iff]
    intro finishes
    obtain ⟨ref, named, -⟩ := Op.finishing_of_finishes finishes
    rw [notFinishing] at named
    exact absurd named (by simp)
  exact .leaves undeclared unfinished counter (openFlows_of_neither sound undeclared unfinished)

private theorem slotEffect_of_finishing (sound : state.WellAccounted)
    {body : Flow R → Bool × Flow R} {ref : EntityRef FlowTag}
    (notDeclare : ∀ options, op ≠ .declareFlow options)
    (written : (exec limits now op state).2 =
      (state.onFlow ref body fun _ after => after.releaseSlot).2)
    (finishes : ∀ id flow, op.finishes now id flow = (ref.names id flow && (body flow).1)) :
    SlotEffect limits now op state := by
  have counter : (state.onFlow ref body fun _ after => after.releaseSlot).2.activeFlows = _ :=
    onFlow_activeFlows Impl.freed fun _ after => releaseSlot_activeFlows after
  rw [← written, ← releaseSlot_activeFlows] at counter
  cases accepted : (findFlow state.flows ref).any fun flow => (body flow).1 with
  | true =>
      obtain ⟨flow, found, verdict⟩ := (Option.any_eq_true _ _).mp accepted
      obtain ⟨stored, current⟩ := findFlow_eq_some.mp found
      have ends : op.finishes now ref.id flow = true := by
        simp [finishes, EntityRef.names, current, verdict]
      rw [accepted, if_pos rfl] at counter
      exact .gives ref.id flow stored ends counter (openFlows_of_finishes sound stored ends)
  | false =>
      have undeclared : ∀ options, op = .declareFlow options →
          ¬Declarable limits options state :=
        fun options declares => absurd declares (notDeclare options)
      have unfinished : ∀ id flow, state.flows.find? id = some flow →
          op.finishes now id flow = false := by
        intro id flow stored
        rw [finishes, Bool.and_eq_false_iff]
        by_cases named : ref.names id flow
        · obtain ⟨rfl, current⟩ := named
          right
          rw [findFlow_eq_some.mpr ⟨stored, current⟩, Option.any_some] at accepted
          exact accepted
        · exact Or.inl (decide_eq_false named)
      rw [accepted, if_neg Bool.false_ne_true] at counter
      exact .leaves undeclared unfinished counter
        (openFlows_of_neither sound undeclared unfinished)

theorem exec_slots (sound : state.WellAccounted) (limits : EngineLimits) (now : UInt64)
    (op : Op R) : SlotEffect limits now op state := by
  cases op with
  | declareFlow options =>
      by_cases declarable : Declarable limits options state
      · refine .takes options rfl declarable ?_ (openFlows_of_declares sound declarable)
        change (state.declareFlow limits now options).2.activeFlows = _
        rw [declareFlow_of_declarable declarable]
        rfl
      · have undeclared : ∀ other, Op.declareFlow options = .declareFlow other →
            ¬Declarable limits other state := by
          rintro other same
          obtain rfl := Op.declareFlow.inj same
          exact declarable
        refine .leaves undeclared (fun _ _ _ => rfl) ?_
          (openFlows_of_neither sound undeclared fun _ _ _ => rfl)
        change (state.declareFlow limits now options).2.activeFlows = _
        rw [declareFlow_of_not_declarable declarable]
  | flowComplete ref boot =>
      exact slotEffect_of_finishing sound (by simp) rfl fun _ _ => rfl
  | flowCancel ref boot soFar =>
      exact slotEffect_of_finishing sound (by simp) rfl fun _ _ => rfl
  | flowFail ref boot =>
      exact slotEffect_of_finishing sound (by simp) rfl fun _ _ => rfl
  | admitFlow ref =>
      refine slotEffect_of_untouched sound (by simp) rfl ?_
      change (state.admitFlow ref).2.activeFlows = _
      exact onFlow_keeps_activeFlows fun _ after => by rw [Impl.onDomain_eq]
  | startFlow ref boot =>
      refine slotEffect_of_untouched sound (by simp) rfl ?_
      change (state.startFlow now ref boot).2.activeFlows = _
      exact onFlow_keeps_activeFlows fun _ after => by rw [Impl.onDomain_eq]
  | queueFlow ref =>
      exact slotEffect_of_untouched sound (by simp) rfl (onFlow_keeps_activeFlows fun _ _ => rfl)
  | flowProgress ref boot delta =>
      exact slotEffect_of_untouched sound (by simp) rfl (onFlow_keeps_activeFlows fun _ _ => rfl)
  | revalidateFlow ref boot =>
      exact slotEffect_of_untouched sound (by simp) rfl (onFlow_keeps_activeFlows fun _ _ => rfl)
  | advanceFlowGeneration ref following =>
      refine slotEffect_of_untouched sound (by simp) rfl ?_
      simp only [exec, Prod.map_snd, id_eq, Impl.advanceFlowGeneration]
      split <;> rfl
  | advanceEpoch following =>
      refine slotEffect_of_untouched sound (by simp) rfl ?_
      simp only [exec, Prod.map_snd, id_eq, Impl.advanceEpoch]
      split <;> rfl
  | registerWorker worker boot => exact slotEffect_of_untouched sound (by simp) rfl rfl
  | registerSource source boot => exact slotEffect_of_untouched sound (by simp) rfl rfl
  | fenceWorker worker deadBoot =>
      refine slotEffect_of_untouched sound (by simp) rfl ?_
      simp only [exec, Prod.map_snd, id_eq, Impl.fenceWorker]
      split <;> rfl
  | fenceSource source deadBoot =>
      refine slotEffect_of_untouched sound (by simp) rfl ?_
      simp only [exec, Prod.map_snd, id_eq, Impl.fenceSource]
      split <;> rfl
  | createDomain kind capacity =>
      refine slotEffect_of_untouched sound (by simp) rfl ?_
      simp only [exec, Prod.map_snd, id_eq, Impl.createDomain]
      split_ifs <;> rfl
  | removeDomain domain =>
      refine slotEffect_of_untouched sound (by simp) rfl ?_
      simp only [exec, Prod.map_snd, id_eq, Impl.removeDomain]
      split <;> rfl
  | publishMeasurement domain measurement owner ownerBoot =>
      refine slotEffect_of_untouched sound (by simp) rfl ?_
      simp only [exec, Prod.map_snd, id_eq, Impl.publishMeasurement]
      cases state.domains.find? domain <;> split_ifs <;> rfl
  | recomputeDomain domain =>
      refine slotEffect_of_untouched sound (by simp) rfl ?_
      simp only [exec, Prod.map_snd, id_eq, Impl.recomputeDomain]
      split <;> rfl
  | applyLocalShaping domain action =>
      refine slotEffect_of_untouched sound (by simp) rfl ?_
      simp only [exec, Prod.map_snd, id_eq, Impl.applyLocalShaping]
      cases state.domains.find? domain <;> split_ifs <;> rfl
  | recoverDynamicEvidence => exact slotEffect_of_untouched sound (by simp) rfl rfl

/-! ## Steps and runs -/

namespace Label

/-- The step is a `flow_complete`, `flow_cancel` or `flow_fail` for some flow,
and it returns true. -/
def releases (limits : EngineLimits) (state : Impl R) : Label R → Bool
  | .call now op => op.finishing.isSome && !(exec limits now op state).1.failed
  | .rehash => false

/-- The step is such a call for the given flow, and it returns true. -/
def finishes (limits : EngineLimits) (state : Impl R) (id : FlowId) : Label R → Bool
  | .call now op =>
      op.finishing.any (fun ref => ref.id = id) && !(exec limits now op state).1.failed
  | .rehash => false

/-- The step is a `declare_flow` that passes all its checks. -/
def declares (limits : EngineLimits) (state : Impl R) : Label R → Bool
  | .call _ (.declareFlow options) => decide (Declarable limits options state)
  | _ => false

end Label

variable {label : Label R} {history continuation : List (Impl R × Label R)}

/-- The verdict of a finishing call is that of its body on the flow it names. -/
private theorem accepted_iff {ref : EntityRef FlowTag} (named : op.finishing = some ref) :
    (exec limits now op state).1.failed = false ↔
      ∃ flow, state.flows.find? ref.id = some flow ∧ op.finishes now ref.id flow = true := by
  have through : ∀ {body : Flow R → Bool × Flow R} {outcome : Result R},
      outcome = .verdict (state.onFlow ref body fun _ after => after.releaseSlot).1 →
      (∀ flow, op.finishes now ref.id flow = (ref.names ref.id flow && (body flow).1)) →
      (outcome.failed = false ↔
        ∃ flow, state.flows.find? ref.id = some flow ∧ op.finishes now ref.id flow = true) := by
    rintro body _ rfl finishes
    rw [Result.failed, Bool.not_eq_false', Impl.onFlow_accepted]
    constructor
    · rintro ⟨flow, found, accepted⟩
      obtain ⟨stored, current⟩ := findFlow_eq_some.mp found
      exact ⟨flow, stored, by simp [finishes, EntityRef.names, current, accepted]⟩
    · rintro ⟨flow, stored, ends⟩
      rw [finishes, Bool.and_eq_true, decide_eq_true_eq] at ends
      exact ⟨flow, findFlow_eq_some.mpr ⟨stored, ends.1.2⟩, ends.2⟩
  cases op with
  | flowComplete other boot =>
      obtain rfl := Option.some.inj named
      exact through rfl fun _ => rfl
  | flowCancel other boot soFar =>
      obtain rfl := Option.some.inj named
      exact through rfl fun _ => rfl
  | flowFail other boot =>
      obtain rfl := Option.some.inj named
      exact through rfl fun _ => rfl
  | _ => exact absurd named (by simp [Op.finishing])

theorem Label.finishes_call_iff :
    Label.finishes limits state id (.call now op) = true ↔
      ∃ flow, state.flows.find? id = some flow ∧ op.finishes now id flow = true := by
  unfold Label.finishes
  rw [Bool.and_eq_true, Bool.not_eq_true', Option.any_eq_true]
  constructor
  · rintro ⟨⟨ref, named, same⟩, accepted⟩
    obtain rfl := of_decide_eq_true same
    exact (accepted_iff named).mp accepted
  · rintro ⟨flow, stored, ends⟩
    obtain ⟨ref, named, rfl, -⟩ := Op.finishing_of_finishes ends
    exact ⟨⟨ref, named, decide_eq_true rfl⟩, (accepted_iff named).mpr ⟨flow, stored, ends⟩⟩

private theorem Label.releases_call_iff :
    Label.releases limits state (.call now op) = true ↔
      ∃ id flow, state.flows.find? id = some flow ∧ op.finishes now id flow = true := by
  unfold Label.releases
  rw [Bool.and_eq_true, Bool.not_eq_true', Option.isSome_iff_exists]
  constructor
  · rintro ⟨⟨ref, named⟩, accepted⟩
    exact ⟨ref.id, (accepted_iff named).mp accepted⟩
  · rintro ⟨id, flow, stored, ends⟩
    obtain ⟨ref, named, rfl, -⟩ := Op.finishing_of_finishes ends
    exact ⟨⟨ref, named⟩, (accepted_iff named).mpr ⟨flow, stored, ends⟩⟩

private theorem not_declares_of_finishes (finishes : op.finishes now id flow = true) :
    Label.declares limits state (.call now op) = false := by
  cases op with
  | declareFlow options => exact absurd finishes Bool.false_ne_true
  | _ => rfl

theorem Impl.Reordered.openFlows_eq (same : state.Reordered next) :
    next.openFlows = state.openFlows := by
  apply UnorderedMap.count_eq_of_mem_iff
  intro key
  simp only [UnorderedMap.mem_keysWhere, same.flows.find?_eq]

theorem Impl.Reordered.activeFlows_eq (same : state.Reordered next) :
    next.activeFlows = state.activeFlows := by
  rw [same.rest]

/-- Every open flow has a slot. -/
structure Impl.SlotsSuffice (state : Impl R) : Prop where
  sound : state.WellAccounted
  enough : state.openFlows ≤ state.activeFlows.toNat

theorem Declarable.toNat_add_one (declarable : Declarable limits options state) :
    (state.activeFlows + 1).toNat = state.activeFlows.toNat + 1 := by
  have room := UInt64.lt_iff_toNat_lt.mp declarable.room
  have bound := limits.maxActiveFlows.toNat_lt
  rw [UInt64.toNat_add, UInt64.toNat_one]
  omega

theorem Impl.releaseSlot_toNat (occupied : 0 < state.activeFlows.toNat) :
    state.releaseSlot.activeFlows.toNat + 1 = state.activeFlows.toNat := by
  have positive : state.activeFlows > 0 := UInt64.lt_iff_toNat_lt.mpr occupied
  have least : (1 : UInt64) ≤ state.activeFlows := by
    rw [UInt64.le_iff_toNat_le, UInt64.toNat_one]
    exact occupied
  rw [releaseSlot_activeFlows, Impl.freed, if_pos positive, UInt64.toNat_sub_of_le _ _ least,
    UInt64.toNat_one]
  omega

/-- One step: the counter moves by the slots taken and given back. -/
theorem Impl.SlotsSuffice.step (covered : state.SlotsSuffice)
    (taken : Step limits state label next) :
    next.SlotsSuffice ∧
      next.activeFlows.toNat + (if label.releases limits state then 1 else 0) =
        state.activeFlows.toNat + (if label.declares limits state then 1 else 0) := by
  have sound := covered.sound.step taken
  have enough := covered.enough
  cases taken with
  | rehash same =>
      refine ⟨⟨sound, ?_⟩, ?_⟩
      · rw [same.openFlows_eq, same.activeFlows_eq]
        exact enough
      · rw [same.activeFlows_eq]
        rfl
  | call now op =>
      cases exec_slots covered.sound limits now op with
      | takes options declares declarable counter flows =>
          subst declares
          have taken : Label.declares limits state (.call now (.declareFlow options)) = true :=
            decide_eq_true declarable
          rw [counter, declarable.toNat_add_one, taken]
          refine ⟨⟨sound, ?_⟩, rfl⟩
          rw [flows, counter, declarable.toNat_add_one]
          split <;> omega
      | gives id flow stored finishes counter flows =>
          have given : Label.releases limits state (.call now op) = true :=
            Label.releases_call_iff.mpr ⟨id, flow, stored, finishes⟩
          have notTaken : Label.declares limits state (.call now op) = false :=
            not_declares_of_finishes finishes
          have rest : state.releaseSlot.activeFlows.toNat + 1 = state.activeFlows.toNat :=
            Impl.releaseSlot_toNat (by omega)
          rw [given, notTaken, counter]
          refine ⟨⟨sound, ?_⟩, rest⟩
          rw [counter]
          omega
      | leaves undeclared unfinished counter flows =>
          have notGiven : Label.releases limits state (.call now op) = false := by
            rw [Bool.eq_false_iff, ne_eq, Label.releases_call_iff]
            rintro ⟨id, flow, stored, finishes⟩
            rw [unfinished id flow stored] at finishes
            exact absurd finishes Bool.false_ne_true
          have notTaken : Label.declares limits state (.call now op) = false := by
            cases op with
            | declareFlow options => exact decide_eq_false (undeclared options rfl)
            | _ => rfl
          rw [notGiven, notTaken, counter]
          refine ⟨⟨sound, ?_⟩, rfl⟩
          rw [flows, counter]
          exact enough

theorem Impl.slotsSuffice_fresh : (Impl.fresh : Impl R).SlotsSuffice :=
  ⟨Impl.wellAccounted_fresh, Nat.zero_le _⟩

/-- Every run: the counter is what was taken and not given back. -/
theorem Impl.SlotsSuffice.run (covered : state.SlotsSuffice)
    (run : Run (Step limits) state history final) :
    final.SlotsSuffice ∧
      final.activeFlows.toNat + history.countP (fun taken => taken.2.releases limits taken.1) =
        state.activeFlows.toNat +
          history.countP (fun taken => taken.2.declares limits taken.1) := by
  induction run with
  | nil => exact ⟨covered, rfl⟩
  | snoc previous last inductionHypothesis =>
      obtain ⟨reached, sum⟩ := inductionHypothesis
      obtain ⟨next, moved⟩ := reached.step last
      refine ⟨next, ?_⟩
      simp only [List.countP_append, List.countP_singleton]
      omega

private theorem isFinished_of_finishes (sound : flow.WellAccounted)
    (finishes : op.finishes now id flow = true) :
    (flowAfter limits now op state id flow).state.isFinished = true := by
  cases op with
  | flowComplete ref boot =>
      obtain ⟨named, accepted⟩ := Bool.and_eq_true_iff.mp finishes
      simp only [flowAfter, of_decide_eq_true named, if_true]
      rcases sound.complete now boot with ⟨-, refused⟩ | ⟨-, -, written⟩
      · rw [refused] at accepted
        exact absurd accepted Bool.false_ne_true
      · rw [written]
        rfl
  | flowCancel ref boot soFar =>
      obtain ⟨named, accepted⟩ := Bool.and_eq_true_iff.mp finishes
      simp only [flowAfter, of_decide_eq_true named, if_true]
      rcases sound.cancel now boot soFar with ⟨-, refused⟩ | ⟨-, -, _, -, written⟩
      · rw [refused] at accepted
        exact absurd accepted Bool.false_ne_true
      · rw [written]
        rfl
  | flowFail ref boot =>
      obtain ⟨named, accepted⟩ := Bool.and_eq_true_iff.mp finishes
      simp only [flowAfter, of_decide_eq_true named, if_true]
      rcases sound.fail now boot with ⟨-, refused⟩ | ⟨-, -, _, -, written⟩
      · rw [refused] at accepted
        exact absurd accepted Bool.false_ne_true
      · rw [written]
        rfl
  | _ => exact absurd finishes Bool.false_ne_true

private theorem finished_of_step (sound : state.WellAccounted)
    (taken : Step limits state label next) (finishes : label.finishes limits state id = true) :
    ∃ flow, next.flows.find? id = some flow ∧ flow.state.isFinished = true := by
  cases taken with
  | rehash same => exact absurd finishes Bool.false_ne_true
  | call now op =>
      obtain ⟨flow, stored, ends⟩ := Label.finishes_call_iff.mp finishes
      exact ⟨_, exec_flow stored, isFinished_of_finishes (sound id flow stored) ends⟩

/-- No call finishes a flow that nobody can act on. -/
private theorem not_finishes_of_inert (sound : state.WellAccounted)
    (stored : state.flows.find? id = some flow) (inert : flow.state.live = false) :
    label.finishes limits state id = false := by
  cases label with
  | rehash => rfl
  | call now op =>
      rw [Bool.eq_false_iff, ne_eq, Label.finishes_call_iff]
      rintro ⟨other, found, ends⟩
      obtain rfl := Option.some.inj (stored.symm.trans found)
      rw [(sound id flow stored).live_of_finishes ends] at inert
      exact absurd inert (by simp)

private theorem isTerminal_of_isFinished (finished : flow.state.isFinished = true) :
    flow.isTerminal = true := by
  unfold Flow.isTerminal
  cases state : flow.state <;> simp_all [FlowState.isFinished, FlowState.isTerminal]

/-- A terminal flow keeps its state and its counters, and is not finished again. -/
private theorem kept_of_terminal (sound : state.WellAccounted)
    (stored : state.flows.find? id = some flow) (terminal : flow.isTerminal = true)
    (later : Run (Step limits) state continuation final) :
    (∀ taken ∈ continuation, taken.2.finishes limits taken.1 id = false) ∧
      ∃ after, final.flows.find? id = some after ∧ after.state = flow.state ∧
        after.counters = flow.counters := by
  have inert := FlowState.inert_of_isTerminal terminal
  have kept : ∀ {history final}, Run (Step limits) state history final →
      ∃ after, final.flows.find? id = some after ∧ after.state = flow.state ∧
        after.counters = flow.counters := by
    intro history final run
    obtain ⟨after, found, inherits⟩ := inherits_of_run sound stored inert run
    refine ⟨after, found, inherits.state.resolve_right ?_, inherits.counters⟩
    rintro ⟨running, -⟩
    rw [terminal] at running
    exact absurd running (by simp)
  refine ⟨?_, kept later⟩
  induction later with
  | nil => exact fun taken member => absurd member List.not_mem_nil
  | snoc previous last inductionHypothesis =>
      intro taken member
      rcases List.mem_append.mp member with earlier | here
      · exact inductionHypothesis taken earlier
      · obtain rfl := List.mem_singleton.mp here
        obtain ⟨before, found, same, -⟩ := kept previous
        have accounted := previous.invariant Impl.WellAccounted sound
          fun sound taken => sound.step taken
        exact not_finishes_of_inert accounted found (by rw [same]; exact inert)

/-- A flow that was finished is terminal from then on. -/
private theorem terminal_of_finished (reached : Run (Step limits) Impl.fresh history state)
    (finished : ∃ earlier ∈ history, earlier.2.finishes limits earlier.1 id = true) :
    ∃ flow, state.flows.find? id = some flow ∧ flow.isTerminal = true := by
  induction reached with
  | nil =>
      obtain ⟨earlier, member, -⟩ := finished
      exact absurd member List.not_mem_nil
  | snoc previous last inductionHypothesis =>
      have sound := previous.invariant Impl.WellAccounted Impl.wellAccounted_fresh
        fun sound taken => sound.step taken
      obtain ⟨earlier, member, finishes⟩ := finished
      rcases List.mem_append.mp member with before | here
      · obtain ⟨flow, stored, terminal⟩ := inductionHypothesis ⟨earlier, before, finishes⟩
        obtain ⟨-, after, found, same, -⟩ :=
          kept_of_terminal sound stored terminal (Run.nil.snoc last)
        exact ⟨after, found, by rw [Flow.isTerminal, same]; exact terminal⟩
      · obtain rfl := List.mem_singleton.mp here
        obtain ⟨flow, found, ended⟩ := finished_of_step sound last finishes
        exact ⟨flow, found, isTerminal_of_isFinished ended⟩

/-- Along every run from a fresh engine, when a call finishes a flow: no call
finished it before or finishes it again, its state and its counters never change
any more, its slot is given back in this step, and every later move of the
counter belongs to a declaration or to a call that finishes another flow. -/
theorem finished_once (reached : Run (Step limits) Impl.fresh history state)
    (taken : Step limits state label next) (finishes : label.finishes limits state id = true)
    (later : Run (Step limits) next continuation final) :
    (∀ earlier ∈ history, earlier.2.finishes limits earlier.1 id = false) ∧
      (∀ following ∈ continuation, following.2.finishes limits following.1 id = false) ∧
      (∃ finished after, next.flows.find? id = some finished ∧
        finished.state.isFinished = true ∧ final.flows.find? id = some after ∧
        after.state = finished.state ∧ after.counters = finished.counters) ∧
      next.activeFlows.toNat + 1 = state.activeFlows.toNat ∧
      final.activeFlows.toNat +
          continuation.countP (fun taken => taken.2.releases limits taken.1) =
        next.activeFlows.toNat +
          continuation.countP (fun taken => taken.2.declares limits taken.1) := by
  have covered := (Impl.slotsSuffice_fresh.run reached).1
  obtain ⟨coveredNext, moved⟩ := covered.step taken
  obtain ⟨finished, stored, ended⟩ := finished_of_step covered.sound taken finishes
  obtain ⟨never, after, found, sameState, sameCounters⟩ :=
    kept_of_terminal coveredNext.sound stored (isTerminal_of_isFinished ended) later
  refine ⟨?_, never, ⟨finished, after, stored, ended, found, sameState, sameCounters⟩, ?_,
    (coveredNext.run later).2⟩
  · intro earlier member
    rw [Bool.eq_false_iff]
    intro before
    obtain ⟨flow, present, terminal⟩ := terminal_of_finished reached ⟨earlier, member, before⟩
    rw [not_finishes_of_inert covered.sound present
      (FlowState.inert_of_isTerminal terminal)] at finishes
    exact absurd finishes Bool.false_ne_true
  · cases taken with
    | rehash same => exact absurd finishes Bool.false_ne_true
    | call now op =>
        obtain ⟨flow, present, ends⟩ := Label.finishes_call_iff.mp finishes
        have given : Label.releases limits state (.call now op) = true :=
          Label.releases_call_iff.mpr ⟨id, flow, present, ends⟩
        have notTaken : Label.declares limits state (.call now op) = false :=
          not_declares_of_finishes ends
        simpa [given, notTaken] using moved

/-- Two flows, the first of them running. -/
private def twoFlows : List (UInt64 × Op Binary64) :=
  [(1, .registerWorker ⟨1⟩ ⟨1⟩), (1, .registerSource ⟨1⟩ ⟨1⟩),
    (1, .createDomain DomainKind.nicTx {}), (1, .declareFlow (.ofFirst 100)),
    (2, .declareFlow (.ofFirst 100)), (3, .admitFlow ⟨⟨1⟩, ⟨1⟩⟩), (4, .startFlow ⟨⟨1⟩, ⟨1⟩⟩ ⟨1⟩)]

private def twoFlowsEngine : Impl Binary64 := execAll {} twoFlows Impl.fresh

/-- The first flow is cancelled and failed once more, and its worker is fenced. -/
private def finishAgain : List (UInt64 × Op Binary64) :=
  [(6, .flowCancel ⟨⟨1⟩, ⟨1⟩⟩ ⟨1⟩ 100), (7, .flowFail ⟨⟨1⟩, ⟨1⟩⟩ ⟨1⟩),
    (8, .fenceWorker ⟨1⟩ ⟨1⟩)]

theorem twoFlowsEngine_finished_once :
    (∃ finished after,
        (exec {} 5 (.flowComplete ⟨⟨1⟩, ⟨1⟩⟩ ⟨1⟩) twoFlowsEngine).2.flows.find? ⟨1⟩ =
          some finished ∧ finished.state.isFinished = true ∧
        (execAll {} finishAgain
          (exec {} 5 (.flowComplete ⟨⟨1⟩, ⟨1⟩⟩ ⟨1⟩) twoFlowsEngine).2).flows.find? ⟨1⟩ =
          some after ∧ after.state = finished.state ∧ after.counters = finished.counters) ∧
      (exec {} 5 (.flowComplete ⟨⟨1⟩, ⟨1⟩⟩ ⟨1⟩) twoFlowsEngine).2.activeFlows.toNat + 1 =
        twoFlowsEngine.activeFlows.toNat := by
  obtain ⟨-, -, kept, given, -⟩ := finished_once (run_execAll twoFlows Run.nil)
    (.call twoFlowsEngine 5 (.flowComplete ⟨⟨1⟩, ⟨1⟩⟩ ⟨1⟩))
    (by decide +kernel : Label.finishes {} twoFlowsEngine ⟨1⟩ _ = true)
    (run_execAll finishAgain Run.nil)
  exact ⟨kept, given⟩

end CongestionFabric
