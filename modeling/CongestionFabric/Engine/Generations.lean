import CongestionFabric.Engine.FlowEffect

/-!
Contract: references to flows whose generation has passed.

Owns the operations that name a flow by reference, the fact that a reference
with another generation than the current one reaches nothing except in
`advance_flow_generation`, and the growth of generations along every run.

`advance_flow_generation` looks the flow up by its identifier alone, so the
holder of a stale reference can still move the generation on and lock the current
holder out.
-/

namespace CongestionFabric

open Foundation

variable {R : Type} [Arithmetic R]

/-- The flow reference that an operation takes. -/
def Op.flowRef : Op R → Option (EntityRef FlowTag)
  | .admitFlow ref | .queueFlow ref | .startFlow ref _ | .flowProgress ref _ _
  | .flowComplete ref _ | .flowCancel ref _ _ | .flowFail ref _ | .revalidateFlow ref _
  | .advanceFlowGeneration ref _ => some ref
  | _ => none

/-- The operation is an `advance_flow_generation` beyond the generation of the
flow. -/
def Op.advancesBeyond (op : Op R) (flow : Flow R) : Bool :=
  match op with
  | .advanceFlowGeneration _ next =>
      next.isValid && decide (flow.ref.generation.value < next.value)
  | _ => false

variable {limits : EngineLimits} {now : UInt64} {op : Op R} {state start final : Impl R}
  {id : FlowId} {flow : Flow R} {ref : EntityRef FlowTag} {history : List (Impl R × Label R)}

/-! ## Stale references -/

/-- Every operation on a flow but one goes through the generation check. -/
private theorem exec_unknown (limits : EngineLimits) (now : UInt64)
    (unknown : findFlow state.flows ref = none) (named : op.flowRef = some ref) :
    (∃ next, op = .advanceFlowGeneration ref next) ∨
      (∀ flow, op.advancesBeyond flow = false) ∧
        exec limits now op state = (.verdict false, state) := by
  have refused : ∀ body after, state.onFlow ref body after = (false, state) := by
    intro body after
    simp only [Impl.onFlow, unknown]
  cases op with
  | advanceFlowGeneration other next =>
      obtain rfl := Option.some.inj named
      exact Or.inl ⟨next, rfl⟩
  | admitFlow other =>
      obtain rfl := Option.some.inj named
      exact Or.inr ⟨fun _ => rfl,
        by simp only [exec, Impl.admitFlow, refused, Prod.map_apply, id_eq]⟩
  | queueFlow other =>
      obtain rfl := Option.some.inj named
      exact Or.inr ⟨fun _ => rfl,
        by simp only [exec, Impl.queueFlow, refused, Prod.map_apply, id_eq]⟩
  | startFlow other boot =>
      obtain rfl := Option.some.inj named
      exact Or.inr ⟨fun _ => rfl,
        by simp only [exec, Impl.startFlow, refused, Prod.map_apply, id_eq]⟩
  | flowProgress other boot delta =>
      obtain rfl := Option.some.inj named
      exact Or.inr ⟨fun _ => rfl,
        by simp only [exec, Impl.flowProgress, refused, Prod.map_apply, id_eq]⟩
  | flowComplete other boot =>
      obtain rfl := Option.some.inj named
      exact Or.inr ⟨fun _ => rfl,
        by simp only [exec, Impl.flowComplete, refused, Prod.map_apply, id_eq]⟩
  | flowCancel other boot soFar =>
      obtain rfl := Option.some.inj named
      exact Or.inr ⟨fun _ => rfl,
        by simp only [exec, Impl.flowCancel, refused, Prod.map_apply, id_eq]⟩
  | flowFail other boot =>
      obtain rfl := Option.some.inj named
      exact Or.inr ⟨fun _ => rfl,
        by simp only [exec, Impl.flowFail, refused, Prod.map_apply, id_eq]⟩
  | revalidateFlow other boot =>
      obtain rfl := Option.some.inj named
      exact Or.inr ⟨fun _ => rfl,
        by simp only [exec, Impl.revalidateFlow, refused, Prod.map_apply, id_eq]⟩
  | _ => exact absurd named (by simp [Op.flowRef])

/-- The verdict of `advance_flow_generation`, whatever generation its reference
carries. -/
theorem advanceGeneration_accepted (ref : EntityRef FlowTag) (next : FlowGeneration)
    (flow : Flow R) :
    (flow.advanceGeneration next).1 =
      Op.advancesBeyond (.advanceFlowGeneration ref next) flow := by
  unfold Flow.advanceGeneration Op.advancesBeyond
  by_cases valid : next.isValid = true
  · by_cases older : next.value ≤ flow.ref.generation.value
    · simp [valid, older]
    · simp [valid, older, UInt64.not_le.mp older]
  · simp [valid]

/-- A stale reference is refused without effect, unless it advances the
generation further. -/
private theorem exec_stale_iff (named : op.flowRef = some ref)
    (stored : state.flows.find? ref.id = some flow)
    (stale : flow.ref.generation ≠ ref.generation) :
    exec limits now op state = (.verdict false, state) ↔ op.advancesBeyond flow = false := by
  have unknown : findFlow state.flows ref = none := by
    simp [findFlow, stored, stale]
  rcases exec_unknown limits now unknown named with ⟨next, rfl⟩ | ⟨advancesNothing, refused⟩
  · have outcome : exec limits now (.advanceFlowGeneration ref next) state =
        (.verdict (flow.advanceGeneration next).1, { state with
          flows := state.flows.modify ref.id (flow.advanceGeneration next).2 }) := by
      simp only [exec, Impl.advanceFlowGeneration, stored, Prod.map_apply, id_eq]
    rw [outcome, ← advanceGeneration_accepted]
    constructor
    · intro same
      exact Result.verdict.inj (congrArg Prod.fst same)
    · intro unmoved
      have kept : (flow.advanceGeneration next).2 = flow := by
        unfold Flow.advanceGeneration at unmoved ⊢
        split at unmoved
        · next older => rw [if_pos older]
        · exact absurd unmoved (by simp)
      rw [unmoved, kept, UnorderedMap.modify_self stored]
  · exact iff_of_true refused (advancesNothing flow)

/-! ## Generations only increase -/

/-- Only `advance_flow_generation` writes the reference of a flow, and it raises
the generation. -/
theorem flowAfter_ref (limits : EngineLimits) (now : UInt64) (op : Op R) (state : Impl R)
    (id : FlowId) (flow : Flow R) :
    (flowAfter limits now op state id flow).ref = flow.ref ∨
      ∃ ref next, op = .advanceFlowGeneration ref next ∧ id = ref.id ∧
        flow.ref.generation.value < next.value ∧
        (flowAfter limits now op state id flow).ref = { flow.ref with generation := next } := by
  obtain ⟨ref, _, _, _, _, _, _, _, _, written, moved⟩ :=
    flowAfter_written limits now op state id flow
  rw [written]
  exact moved

theorem flowAfter_ref_of_not_advance (limits : EngineLimits) (now : UInt64) (state : Impl R)
    (id : FlowId) (flow : Flow R) (other : ∀ ref next, op ≠ .advanceFlowGeneration ref next) :
    (flowAfter limits now op state id flow).ref = flow.ref := by
  rcases flowAfter_ref limits now op state id flow with same | ⟨ref, next, advances, -⟩
  · exact same
  · exact absurd advances (other ref next)

private theorem generation_le_flowAfter (limits : EngineLimits) (now : UInt64) (op : Op R)
    (state : Impl R) (id : FlowId) (flow : Flow R) :
    flow.ref.generation.value ≤
      (flowAfter limits now op state id flow).ref.generation.value := by
  rcases flowAfter_ref limits now op state id flow with same | ⟨-, next, -, -, newer, raised⟩
  · rw [same]
    exact UInt64.le_refl _
  · rw [raised]
    exact UInt64.le_of_lt newer

private theorem generation_le_of_run (stored : start.flows.find? id = some flow)
    (run : Run (Step limits) start history final) :
    ∃ after, final.flows.find? id = some after ∧
      flow.ref.generation.value ≤ after.ref.generation.value := by
  apply run.invariant (fun reached => ∃ after, reached.flows.find? id = some after ∧
    flow.ref.generation.value ≤ after.ref.generation.value)
  · exact ⟨flow, stored, UInt64.le_refl _⟩
  · rintro reached label next ⟨before, found, grown⟩ taken
    cases taken with
    | call now op =>
        exact ⟨_, exec_flow found, UInt64.le_trans grown (generation_le_flowAfter ..)⟩
    | rehash same =>
        rw [← same.flows.find?_eq]
        exact ⟨before, found, grown⟩

/-- Along every run without files, from any state: the generation of a flow never
decreases; and in the state reached, an operation with a stale reference is
refused without effect exactly if it is not an `advance_flow_generation` to a
generation beyond the current one. -/
theorem stale_reference_inert_iff (run : Run (Step limits) start history final) :
    (∀ id flow, start.flows.find? id = some flow → ∃ after,
        final.flows.find? id = some after ∧
          flow.ref.generation.value ≤ after.ref.generation.value) ∧
      ∀ now op ref flow, Op.flowRef op = some ref → final.flows.find? ref.id = some flow →
        flow.ref.generation ≠ ref.generation →
        (exec limits now op final = (.verdict false, final) ↔ op.advancesBeyond flow = false) :=
  ⟨fun _ _ stored => generation_le_of_run stored run,
    fun _ _ _ _ named stored stale => exec_stale_iff named stored stale⟩

/-- The flow is declared at generation 1 and advanced to generation 2. -/
private def advanceToTwo : List (UInt64 × Op Binary64) :=
  [(1, .registerWorker ⟨1⟩ ⟨1⟩), (1, .registerSource ⟨1⟩ ⟨1⟩),
    (1, .createDomain DomainKind.nicTx {}), (1, .declareFlow (.ofFirst 100)),
    (2, .advanceFlowGeneration ⟨⟨1⟩, ⟨1⟩⟩ ⟨2⟩)]

private def advancedEngine : Impl Binary64 := execAll {} advanceToTwo Impl.fresh

private theorem advanced_stored : (advancedEngine.flows.find? ⟨1⟩).isSome = true := by
  decide +kernel

theorem advancedEngine_stale_cancel :
    exec {} 3 (.flowCancel ⟨⟨1⟩, ⟨1⟩⟩ ⟨1⟩ 100) advancedEngine =
      (.verdict false, advancedEngine) :=
  ((stale_reference_inert_iff (run_execAll advanceToTwo Run.nil)).2 3 _ ⟨⟨1⟩, ⟨1⟩⟩ _ rfl
    (Option.some_get advanced_stored).symm (by decide +kernel)).mpr rfl

/-- The holder of generation 1 advances the flow to generation 3. -/
theorem advancedEngine_stale_advance :
    ¬∀ (limits : EngineLimits) (history : List (Impl Binary64 × Label Binary64))
      (final : Impl Binary64), Run (Step limits) Impl.fresh history final →
        ∀ now op ref flow, Op.flowRef op = some ref → final.flows.find? ref.id = some flow →
          flow.ref.generation ≠ ref.generation →
          exec limits now op final = (.verdict false, final) := by
  intro always
  have refused := always {} _ advancedEngine (run_execAll advanceToTwo Run.nil) 3
    (.advanceFlowGeneration ⟨⟨1⟩, ⟨1⟩⟩ ⟨3⟩) ⟨⟨1⟩, ⟨1⟩⟩ _ rfl (Option.some_get advanced_stored).symm
    (by decide +kernel)
  have generation := congrArg (fun outcome => (outcome.2.flows.find? ⟨1⟩).map fun flow =>
    flow.ref.generation) refused
  exact absurd generation (by decide +kernel)

end CongestionFabric
