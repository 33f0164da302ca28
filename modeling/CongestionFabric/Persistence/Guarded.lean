import CongestionFabric.Persistence.Loaded

/-!
Contract: the lifecycle table against the operations.

Owns the statement that an operation moves every flow along a pair of states that
the table permits, the fences that leave the table, and the theorem that the two
exclude each other along every run.

Most operations consult the table; `start_flow`, `advance_flow_generation` and the
two fences assign the state by lists of their own. Recovery is exempt.
-/

namespace CongestionFabric

open Foundation

variable {R : Type} [Arithmetic R]

/-! ## One flow -/

/-- The table permits the change of state, if there is one. -/
def FlowState.Moves (state after : FlowState) : Prop :=
  after ≠ state → flowTransitionAllowed state after = true

instance (state after : FlowState) : Decidable (state.Moves after) :=
  inferInstanceAs (Decidable (_ → _))

/-- A state that a fence makes STALE against the table. -/
def FlowState.rooted (state : FlowState) : Bool :=
  state = .declared || state = .revalidationRequired

/-- The operation fences the worker or the source of the flow. -/
def Op.strikes (state : Impl R) (flow : Flow R) : Op R → Bool
  | .fenceWorker worker deadBoot =>
      worker.isValid && state.workerBoot.find? worker = some deadBoot &&
        flow.ownerWorker = worker && flow.ownerBoot = deadBoot
  | .fenceSource source deadBoot =>
      source.isValid && state.sourceBoot.find? source = some deadBoot &&
        flow.source = source && flow.sourceBoot = deadBoot
  | _ => false

variable {limits : EngineLimits} {now : UInt64} {op : Op R} {state : Impl R} {id : FlowId}
  {flow : Flow R}

/-- A fence moves the flows it owns along the table, except those in the two
states. -/
private theorem fence_moves_iff (sound : flow.WellAccounted) (owned : Bool) :
    flow.state.Moves (flow.fence owned).state ↔ (owned && flow.state.rooted) = false := by
  have entered := sound.entered.1
  unfold Flow.fence
  cases owned with
  | false => simp [FlowState.Moves]
  | true =>
      cases current : flow.state <;>
        simp_all [Flow.isTerminal, FlowState.isTerminal, FlowState.isStaleOrSuperseded,
          FlowState.Moves, FlowState.rooted, flowTransitionAllowed]

private theorem moves_refl (state : FlowState) : state.Moves state := fun changed =>
  absurd rfl changed

/-- The operations that are no fence and no recovery move along the table, whether
they consult it or not. -/
private theorem moves_of_not_fence (sound : flow.WellAccounted) (notFence : op.isFence = false)
    (notRecovery : op ≠ .recoverDynamicEvidence) :
    flow.state.Moves (flowAfter limits now op state id flow).state := by
  apply flowAfter_elim (motive := fun after => flow.state.Moves after.state)
  case same => exact moves_refl flow.state
  case fenceWorker =>
    rintro worker deadBoot rfl
    exact absurd notFence (by simp [Op.isFence])
  case fenceSource =>
    rintro source deadBoot rfl
    exact absurd notFence (by simp [Op.isFence])
  case admission =>
    intro ref _ _
    rcases sound.admission (state.domains.contains flow.domain.id) with
      ⟨-, refused⟩ | ⟨declared, -, accepted⟩
    · rw [refused]
      exact moves_refl flow.state
    · rw [accepted, declared]
      exact fun _ => rfl
  case queue =>
    intro ref _ _
    rcases flow.queue_cases limits (state.domains.contains flow.domain.id)
      (state.queuedFlows flow.domain.id) with refused | ⟨admitted, accepted⟩
    · rw [refused]
      exact moves_refl flow.state
    · rw [accepted, admitted]
      exact fun _ => rfl
  case start =>
    intro ref boot _ _
    rcases sound.start now boot with ⟨-, refused⟩ | ⟨-, ready, accepted⟩
    · rw [refused]
      exact moves_refl flow.state
    · rw [accepted]
      rcases ready with ready | ready <;> rw [ready] <;> exact fun _ => rfl
  case progress =>
    intro ref boot delta _ _
    rcases sound.progress now boot delta with ⟨-, refused⟩ | ⟨-, -, _, _, -, -, -, accepted⟩
    · rw [refused]
      exact moves_refl flow.state
    · rw [accepted]
      exact moves_refl flow.state
  case complete =>
    intro ref boot _ _
    rcases sound.complete now boot with ⟨-, refused⟩ | ⟨-, active, accepted⟩
    · rw [refused]
      exact moves_refl flow.state
    · rw [accepted, active]
      exact fun _ => rfl
  case cancel =>
    intro ref boot soFar _ _
    rcases sound.cancel now boot soFar with ⟨-, refused⟩ | ⟨-, live, _, -, accepted⟩
    · rw [refused]
      exact moves_refl flow.state
    · rw [accepted]
      exact fun _ => (mayFinish_of_live live).1
  case fail =>
    intro ref boot _ _
    rcases sound.fail now boot with ⟨-, refused⟩ | ⟨-, live, _, -, accepted⟩
    · rw [refused]
      exact moves_refl flow.state
    · rw [accepted]
      exact fun _ => (mayFinish_of_live live).2
  case advance =>
    intro ref following _ _
    unfold Flow.advanceGeneration
    split_ifs with refused stale
    · exact moves_refl flow.state
    · rw [stale]
      exact fun _ => rfl
    · exact moves_refl flow.state
  case revalidate =>
    intro ref boot _ _
    rcases flow.revalidate_cases boot with ⟨-, refused⟩ | ⟨-, stale, accepted⟩
    · rw [refused]
      exact moves_refl flow.state
    · rw [accepted, stale]
      exact fun _ => rfl
  case recover => exact fun recovery => absurd recovery notRecovery

/-- A fence of one table does nothing if it is refused. -/
private theorem fenced_moves_iff {Tag BootTag : Type}
    {table : UnorderedMap (Id Tag) (Generation BootTag)} {target : Id Tag}
    {deadBoot : Generation BootTag} (sound : flow.WellAccounted) (owned : Bool) :
    flow.state.Moves (if (fenceBoot table target deadBoot).isSome then flow.fence owned
        else flow).state ↔
      (((target.isValid && table.find? target = some deadBoot) && owned) &&
        flow.state.rooted) = false := by
  by_cases guard : target.value ≠ 0 ∧ table.find? target = some deadBoot
  · rw [if_pos (fenceBoot_isSome.mpr guard), fence_moves_iff sound]
    simp [Id.isValid, guard.1, guard.2]
  · rw [if_neg fun fenced => guard (fenceBoot_isSome.mp fenced)]
    have refused : (target.isValid && decide (table.find? target = some deadBoot)) = false := by
      rw [Bool.and_eq_false_iff, ← Bool.not_eq_true, Id.isValid_eq_true]
      simpa [Classical.or_iff_not_imp_left] using guard
    simp [refused, moves_refl]

/-- On a flow that satisfies the lifecycle invariant every operation but recovery
moves along the table, except a fence that strikes it in one of the two states. -/
private theorem moves_iff (sound : flow.WellAccounted)
    (notRecovery : op ≠ .recoverDynamicEvidence) :
    flow.state.Moves (flowAfter limits now op state id flow).state ↔
      (op.strikes state flow && flow.state.rooted) = false := by
  cases fence : op.isFence with
  | false =>
      refine iff_of_true (moves_of_not_fence sound fence notRecovery) ?_
      cases op <;> first | rfl | exact absurd fence (by simp [Op.isFence])
  | true =>
      cases op with
      | fenceWorker worker deadBoot =>
          refine (fenced_moves_iff sound _).trans ?_
          simp only [Op.strikes, Bool.and_assoc]
      | fenceSource source deadBoot =>
          refine (fenced_moves_iff sound _).trans ?_
          simp only [Op.strikes, Bool.and_assoc]
      | _ => exact absurd fence (by simp [Op.isFence])

/-! ## Runs -/

/-- The event moves every flow along the table. Recovery and loads are exempt. -/
def Event.Guarded (limits : EngineLimits) (state : Impl Binary64) : Event → Prop
  | .engine (.call now op) => op ≠ .recoverDynamicEvidence →
      ∀ id flow after, state.flows.find? id = some flow →
        (exec limits now op state).2.flows.find? id = some after → flow.state.Moves after.state
  | _ => True

/-- The event is a fence that strikes a flow in one of the two states. -/
def Event.uproots (state : Impl Binary64) : Event → Bool
  | .engine (.call _ op) => state.flows.entries.any fun entry =>
      op.strikes state entry.2 && entry.2.state.rooted
  | _ => false

private theorem guarded_iff {state : Impl Binary64} {event : Event}
    (sound : state.WellAccounted) :
    event.uproots state = false ↔ event.Guarded limits state := by
  match event with
  | .load file => exact iff_of_true rfl trivial
  | .engine .rehash => exact iff_of_true rfl trivial
  | .engine (.call now op) =>
      by_cases recovery : op = .recoverDynamicEvidence
      · subst recovery
        refine iff_of_true ?_ fun notRecovery => absurd rfl notRecovery
        simp [Event.uproots, Op.strikes]
      · simp only [Event.uproots, List.any_eq_false, Bool.not_eq_true]
        constructor
        · intro none _ id flow after stored made
          obtain rfl := Option.some.inj ((exec_flow stored).symm.trans made)
          exact (moves_iff (sound id flow stored) recovery).mpr
            (none (id, flow) (UnorderedMap.mem_entries_iff.mpr stored))
        · rintro guarded ⟨id, flow⟩ member
          have stored := UnorderedMap.mem_entries_iff.mp member
          exact (moves_iff (sound id flow stored) recovery).mp
            (guarded recovery id flow _ stored (exec_flow stored))

/-- Along every run, whatever files it loads: every operation but recovery moves
every flow along the table, exactly if no fence strikes a flow that is DECLARED or
awaits revalidation. -/
theorem guarded_everyStep_iff {history : List (Impl Binary64 × Event)} {final : Impl Binary64}
    (run : Run (FileStep limits) Impl.fresh history final) :
    EveryStep history (fun _ state event => event.uproots state = false) ↔
      EveryStep history fun _ state event => event.Guarded limits state := by
  apply run.everyStep_iff_everyStep Impl.WellAccounted Impl.wellAccounted_fresh
  · exact fun sound _ taken => sound.fileStep taken
  · exact fun sound _ => guarded_iff sound

/-- A worker declares a flow, gets it so far, and dies. -/
private def fencedAfter (progress : List Event) : List Event :=
  [.engine (.call 1 (.registerWorker ⟨1⟩ ⟨1⟩)), .engine (.call 1 (.registerSource ⟨1⟩ ⟨1⟩)),
    .engine (.call 1 (.createDomain DomainKind.nicTx {})),
    .engine (.call 2 (.declareFlow (.ofFirst 100)))] ++ progress ++
  [.engine (.call 5 (.fenceWorker ⟨1⟩ ⟨1⟩))]

private def admits : Event := .engine (.call 3 (.admitFlow { id := ⟨1⟩, generation := ⟨1⟩ }))

theorem fencedAfter_admits_guarded :
    EveryStep (followed (fun state event => event.next {} state) (fencedAfter [admits]) Impl.fresh)
      fun _ state event => event.Guarded {} state :=
  (guarded_everyStep_iff (run_follow (fileStep_next {}) (fencedAfter [admits]) Run.nil)).mp
    (by decide +kernel)

/-- A worker dies right after a declaration: its fence makes the DECLARED flow STALE,
which the table refuses. -/
theorem fencedAfter_not_guarded :
    ¬∀ (limits : EngineLimits) (history : List (Impl Binary64 × Event)) (state : Impl Binary64)
      (event : Event), Run (FileStep limits) Impl.fresh history state →
        event.Guarded limits state := by
  intro always
  have run := run_follow (fileStep_next {}) ((fencedAfter []).take 4)
    (Run.nil : Run (FileStep {}) Impl.fresh [] Impl.fresh)
  have guarded := always {} _ _ (.engine (.call 5 (.fenceWorker ⟨1⟩ ⟨1⟩))) run
  have sound := Impl.WellAccounted.of_reached run
  exact absurd ((guarded_iff sound).mpr guarded) (by decide +kernel)

end CongestionFabric
