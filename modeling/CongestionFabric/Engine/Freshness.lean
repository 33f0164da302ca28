import CongestionFabric.Engine.Accounting

/-!
Contract: which boots can act on a flow.

Owns the statement that only recorded boots act on flows, the flows for which a
state exposes that question, the moves of the boot tables that break it, and the
theorem that identifies the runs that keep it.

After its declaration a flow is checked against its own copy of the boots.
`register_worker` and `register_source` move a table without retiring the flows
of the old boot, and a fence leaves STALE flows on which `revalidate_flow` still
accepts the dead boot.
-/

namespace CongestionFabric

open Foundation

variable {R : Type} [Arithmetic R]

/-- One of the calls that act under the authority of a flow's owner returns
true. -/
def Impl.Acts (state : Impl R) (now : UInt64) (ref : EntityRef FlowTag) (boot : WorkerBootId)
    (amount : UInt64) : Prop :=
  (state.startFlow now ref boot).1 = true ∨ (state.flowProgress now ref boot amount).1 = true ∨
    (state.flowComplete now ref boot).1 = true ∨
    (state.flowCancel now ref boot amount).1 = true ∨
    (state.flowFail now ref boot).1 = true ∨ (state.revalidateFlow ref boot).1 = true

/-- Whoever acts on a flow does so with the boot recorded for its owner, while
the boot of its source is recorded as well. -/
def Impl.FreshAuthority (state : Impl R) : Prop :=
  ∀ now ref boot amount flow, findFlow state.flows ref = some flow →
    state.Acts now ref boot amount →
    state.workerBoot.find? flow.ownerWorker = some boot ∧
      state.sourceBoot.find? flow.source = some flow.sourceBoot

/-- Some call with the owner's boot succeeds on a flow in this state. -/
def FlowState.answers (state : FlowState) : Bool := state.live || state = .stale

/-- A fence of the owner makes a flow in this state STALE, or finds it so. -/
def FlowState.unfinished (state : FlowState) : Bool :=
  state.answers || state = .revalidationRequired

/-- The step does not take the recorded boot away from a flow that still
answers: a registration replaces a boot only while no flow of that worker or
source answers, and a fence reaches an unfinished flow only at the largest boot,
which it cannot bump, and with the other boot of the flow recorded. -/
def BootsMoveUnused (state : Impl R) : Label R → Prop
  | .call _ (.registerWorker worker boot) =>
      worker.value ≠ 0 → (∀ recorded ∈ state.workerBoot.find? worker,
        recorded.value < boot.value → ∀ entry ∈ state.flows.entries,
          entry.2.ownerWorker = worker → entry.2.state.answers = false)
  | .call _ (.registerSource source boot) =>
      source.value ≠ 0 → (∀ recorded ∈ state.sourceBoot.find? source,
        recorded.value < boot.value → ∀ entry ∈ state.flows.entries,
          entry.2.source = source → entry.2.state.answers = false)
  | .call _ (.fenceWorker worker deadBoot) =>
      worker.value ≠ 0 → state.workerBoot.find? worker = some deadBoot →
        ∀ entry ∈ state.flows.entries, entry.2.ownerWorker = worker →
          entry.2.ownerBoot = deadBoot → entry.2.state.unfinished = true →
          deadBoot.value = maxUInt64 ∧
            state.sourceBoot.find? entry.2.source = some entry.2.sourceBoot
  | .call _ (.fenceSource source deadBoot) =>
      source.value ≠ 0 → state.sourceBoot.find? source = some deadBoot →
        ∀ entry ∈ state.flows.entries, entry.2.source = source →
          entry.2.sourceBoot = deadBoot → entry.2.state.unfinished = true →
          deadBoot.value = maxUInt64 ∧
            state.workerBoot.find? entry.2.ownerWorker = some entry.2.ownerBoot
  | _ => True

instance (state : Impl R) : (label : Label R) → Decidable (BootsMoveUnused state label)
  | .call _ (.registerWorker ..) | .call _ (.registerSource ..) | .call _ (.fenceWorker ..)
  | .call _ (.fenceSource ..) => inferInstanceAs (Decidable (_ → _))
  | .rehash
  | .call _ (.advanceEpoch ..) | .call _ (.createDomain ..) | .call _ (.removeDomain ..)
  | .call _ (.declareFlow ..) | .call _ (.admitFlow ..) | .call _ (.queueFlow ..)
  | .call _ (.startFlow ..) | .call _ (.flowProgress ..) | .call _ (.flowComplete ..)
  | .call _ (.flowCancel ..) | .call _ (.flowFail ..) | .call _ (.advanceFlowGeneration ..)
  | .call _ (.revalidateFlow ..) | .call _ (.publishMeasurement ..)
  | .call _ (.recomputeDomain ..) | .call _ (.applyLocalShaping ..)
  | .call _ .recoverDynamicEvidence =>
      .isTrue trivial

/-! ## From calls to records -/

/-- Both boots of the flow are the recorded ones. -/
def Impl.Recorded (state : Impl R) (flow : Flow R) : Prop :=
  state.workerBoot.find? flow.ownerWorker = some flow.ownerBoot ∧
    state.sourceBoot.find? flow.source = some flow.sourceBoot

variable {limits : EngineLimits} {now : UInt64} {op : Op R} {state next : Impl R} {id : FlowId}
  {flow : Flow R} {label : Label R}

private theorem FlowState.answers_of_live {state : FlowState} (live : state.live = true) :
    state.answers = true := by
  simp [FlowState.answers, live]

/-- Accepted calls reach exactly the flows that answer, with their own boot. -/
private theorem Impl.Acts.answers {ref : EntityRef FlowTag} {boot : WorkerBootId}
    {amount : UInt64} (sound : state.WellAccounted) (found : findFlow state.flows ref = some flow)
    (acts : state.Acts now ref boot amount) :
    flow.ownerBoot = boot ∧ flow.state.answers = true := by
  have accounted := sound ref.id flow (findFlow_eq_some.mp found).1
  have reached : ∀ {body : Flow R → Bool × Flow R} {after : Flow R → Impl R → Impl R},
      (state.onFlow ref body after).1 = true → (body flow).1 = true := by
    intro body after accepted
    obtain ⟨other, same, verdict⟩ := Impl.onFlow_accepted.mp accepted
    rw [found] at same
    rwa [Option.some.inj same]
  rcases acts with accepted | accepted | accepted | accepted | accepted | accepted
  · rcases accounted.start now boot with ⟨-, refused⟩ | ⟨owned, ready, -⟩
    · have verdict := reached accepted
      rw [refused] at verdict
      exact absurd verdict (by simp)
    · refine ⟨owned, FlowState.answers_of_live ?_⟩
      rcases ready with ready | ready <;> simp [FlowState.live, ready]
  · rcases accounted.progress now boot amount with ⟨-, refused⟩ | ⟨owned, running, -⟩
    · have verdict := reached accepted
      rw [refused] at verdict
      exact absurd verdict (by simp)
    · refine ⟨owned, FlowState.answers_of_live ?_⟩
      rcases running with running | running <;> simp [FlowState.live, running]
  · rcases accounted.complete now boot with ⟨-, refused⟩ | ⟨owned, active, -⟩
    · have verdict := reached accepted
      rw [refused] at verdict
      exact absurd verdict (by simp)
    · exact ⟨owned, FlowState.answers_of_live (by simp [FlowState.live, active])⟩
  · rcases accounted.cancel now boot amount with ⟨-, refused⟩ | ⟨owned, live, -⟩
    · have verdict := reached accepted
      rw [refused] at verdict
      exact absurd verdict (by simp)
    · exact ⟨owned, FlowState.answers_of_live live⟩
  · rcases accounted.fail now boot with ⟨-, refused⟩ | ⟨owned, live, -⟩
    · have verdict := reached accepted
      rw [refused] at verdict
      exact absurd verdict (by simp)
    · exact ⟨owned, FlowState.answers_of_live live⟩
  · rcases flow.revalidate_cases boot with ⟨-, refused⟩ | ⟨owned, stale, -⟩
    · have verdict := reached accepted
      rw [refused] at verdict
      exact absurd verdict (by simp)
    · exact ⟨owned, by simp [FlowState.answers, stale]⟩

/-- A flow that answers accepts a cancellation or a revalidation. -/
private theorem acts_of_answers (sound : state.WellAccounted)
    (stored : state.flows.find? id = some flow) (answers : flow.state.answers = true) :
    state.Acts now ⟨id, flow.ref.generation⟩ flow.ownerBoot 0 := by
  have found : findFlow state.flows ⟨id, flow.ref.generation⟩ = some flow :=
    findFlow_eq_some.mpr ⟨stored, rfl⟩
  have accounted := sound id flow stored
  by_cases live : flow.state.live = true
  · have accepted : (flow.cancel now flow.ownerBoot 0).1 = true := by
      rcases accounted.cancel now flow.ownerBoot 0 with ⟨never, -⟩ | ⟨-, -, cancelled, -, accepted⟩
      · exact absurd ⟨rfl, live⟩ never
      · rw [accepted]
    exact Or.inr (Or.inr (Or.inr (Or.inl (Impl.onFlow_accepted.mpr ⟨flow, found, accepted⟩))))
  · have stale : flow.state = .stale := by simpa [FlowState.answers, live] using answers
    have accepted : (flow.revalidate flow.ownerBoot).1 = true := by
      rcases flow.revalidate_cases flow.ownerBoot with ⟨never, -⟩ | ⟨-, -, accepted⟩
      · exact absurd ⟨rfl, stale⟩ never
      · rw [accepted]
    exact Or.inr (Or.inr (Or.inr (Or.inr (Or.inr
      (Impl.onFlow_accepted.mpr ⟨flow, found, accepted⟩)))))

/-- Authority is fresh exactly when the flows that answer are recorded. -/
private theorem freshAuthority_iff (sound : state.WellAccounted) :
    state.FreshAuthority ↔ ∀ id flow, state.flows.find? id = some flow →
      flow.state.answers = true → state.Recorded flow := by
  constructor
  · intro fresh id flow stored answers
    exact fresh 0 ⟨id, flow.ref.generation⟩ flow.ownerBoot 0 flow
      (findFlow_eq_some.mpr ⟨stored, rfl⟩) (acts_of_answers sound stored answers)
  · intro recorded now ref boot amount flow found acts
    obtain ⟨rfl, answers⟩ := acts.answers sound found
    exact recorded ref.id flow (findFlow_eq_some.mp found).1 answers

/-! ## One step -/

/-- Outside of fences only flows that answered before answer afterwards. -/
private theorem answers_before (sound : flow.WellAccounted) (notFence : op.isFence = false)
    (answers : (flowAfter limits now op state id flow).state.answers = true) :
    flow.state.answers = true := by
  by_cases live : flow.state.live = true
  · exact FlowState.answers_of_live live
  · rcases sound.after_inert (by simpa using live) limits now op state id with
      same | parked | ⟨fence, -⟩
    · rw [same] at answers
      exact answers
    · rw [parked] at answers
      exact absurd answers (by decide)
    · rw [notFence] at fence
      exact absurd fence (by simp)

/-- A fence of its owner finds a flow that answers afterwards unfinished. -/
private theorem unfinished_of_fence (sound : flow.WellAccounted) {owned : Bool}
    (answers : (flow.fence owned).state.answers = true) : flow.state.unfinished = true := by
  have entered := sound.entered
  revert answers entered
  unfold Flow.fence
  split
  · rename_i reached
    revert reached
    cases state : flow.state <;>
      simp [Flow.isTerminal, state, FlowState.isTerminal, FlowState.isStaleOrSuperseded,
        FlowState.unfinished, FlowState.answers, FlowState.live]
  · intro answers _
    simp [FlowState.unfinished, answers]

/-- A fence of its owner leaves an unfinished flow STALE. -/
private theorem fence_unfinished (unfinished : flow.state.unfinished = true) :
    (flow.fence true).state = .stale := by
  revert unfinished
  unfold Flow.fence
  cases state : flow.state <;>
    simp [Flow.isTerminal, state, FlowState.isTerminal, FlowState.isStaleOrSuperseded,
      FlowState.unfinished, FlowState.answers, FlowState.live]

/-- The flows of a state that answer are recorded. -/
private def Impl.AnswersRecorded (state : Impl R) : Prop :=
  ∀ id flow, state.flows.find? id = some flow → flow.state.answers = true → state.Recorded flow

/-! Workers and sources follow the same argument, so it is made once over a table
and over the way a flow names its entry in it; `other` stands for the entry in
the table that does not move. -/

section Table

variable {Tag BootTag : Type} {table : UnorderedMap (Id Tag) (Generation BootTag)}
  {key : Id Tag} {boot : Generation BootTag} (owner : Flow R → Id Tag)
  (held : Flow R → Generation BootTag) (other : Flow R → Prop)

private theorem register_iff
    (recorded : ∀ id flow, state.flows.find? id = some flow → flow.state.answers = true →
      table.find? (owner flow) = some (held flow)) :
    (key.value ≠ 0 → ∀ current ∈ table.find? key, current.value < boot.value →
      ∀ entry ∈ state.flows.entries, owner entry.2 = key → entry.2.state.answers = false) ↔
    ∀ id flow, state.flows.find? id = some flow → flow.state.answers = true →
      (registerBoot table key boot).2.find? (owner flow) = some (held flow) := by
  constructor
  · intro unused id flow stored answers
    have entry := recorded id flow stored answers
    rw [registerBoot_find?, if_neg, entry]
    rintro ⟨verdict, rfl⟩
    obtain ⟨nonzero, -, newer⟩ := registerBoot_accepted.mp verdict
    have silent := unused nonzero (held flow) entry (newer _ entry) (id, flow)
      (UnorderedMap.mem_entries_iff.mpr stored) rfl
    exact absurd (answers.symm.trans silent) (by simp)
  · intro kept nonzero current found newer entry member owned
    by_contra notSilent
    have answers : entry.2.state.answers = true := by simpa using notSilent
    have stored := UnorderedMap.mem_entries_iff.mp member
    have old := recorded entry.1 entry.2 stored answers
    have new := kept entry.1 entry.2 stored answers
    have accepted : (registerBoot table key boot).1 = true := by
      refine registerBoot_accepted.mpr ⟨nonzero, ?_, ?_⟩
      · intro zero
        rw [zero] at newer
        exact absurd newer (UInt64.not_lt.mpr (UInt64.zero_le ..))
      · intro recordedBoot same
        rw [Option.mem_def.mp found] at same
        rwa [← Option.some.inj same]
    rw [owned, Option.mem_def.mp found] at old
    rw [registerBoot_find?, if_pos ⟨accepted, owned⟩] at new
    rw [Option.some.inj old, Option.some.inj new] at newer
    exact absurd newer (UInt64.lt_irrefl _)

private theorem fence_iff (sound : state.WellAccounted)
    (recorded : ∀ id flow, state.flows.find? id = some flow → flow.state.answers = true →
      table.find? (owner flow) = some (held flow) ∧ other flow) :
    (key.value ≠ 0 → table.find? key = some boot → ∀ entry ∈ state.flows.entries,
      owner entry.2 = key → held entry.2 = boot → entry.2.state.unfinished = true →
        boot.value = maxUInt64 ∧ other entry.2) ↔
    ∀ id flow, state.flows.find? id = some flow →
      (if (fenceBoot table key boot).isSome then
        flow.fence (owner flow = key && held flow = boot) else flow).state.answers = true →
      ((fenceBoot table key boot).getD table).find? (owner flow) = some (held flow) ∧
        other flow := by
  constructor
  · intro unused id flow stored answers
    by_cases guard : key.value ≠ 0 ∧ table.find? key = some boot
    · have fenced := fenceBoot_eq_some.mpr ⟨guard.1, guard.2, rfl⟩
      rw [fenced, Option.isSome_some, if_pos rfl] at answers
      by_cases owned : owner flow = key ∧ held flow = boot
      · obtain ⟨saturated, rest⟩ := unused guard.1 guard.2 (id, flow)
          (UnorderedMap.mem_entries_iff.mpr stored) owned.1 owned.2
          (unfinished_of_fence (sound id flow stored) answers)
        rw [fenceBoot_find?, if_pos ⟨guard, owned.1⟩, owned.2,
          Generation.next_eq_self_iff.mpr saturated]
        exact ⟨rfl, rest⟩
      · -- A flow of this key under another boot would not be recorded.
        have untouched : (owner flow = key && held flow = boot) = false := by
          simpa using owned
        rw [untouched] at answers
        obtain ⟨entry, rest⟩ := recorded id flow stored (by simpa [Flow.fence] using answers)
        have elsewhere : owner flow ≠ key := by
          intro here
          rw [here, guard.2] at entry
          exact owned ⟨here, (Option.some.inj entry).symm⟩
        rw [fenceBoot_find?, if_neg fun both => elsewhere both.2]
        exact ⟨entry, rest⟩
    · have refused : fenceBoot table key boot = none := by
        rw [Option.eq_none_iff_forall_ne_some]
        intro after fenced
        obtain ⟨nonzero, current, -⟩ := fenceBoot_eq_some.mp fenced
        exact guard ⟨nonzero, current⟩
      rw [refused] at answers ⊢
      exact recorded id flow stored (by simpa using answers)
  · intro kept nonzero current entry member owned holds unfinished
    have stored := UnorderedMap.mem_entries_iff.mp member
    have fenced := fenceBoot_eq_some.mpr ⟨nonzero, current, rfl⟩
    have stale : (entry.2.fence true).state.answers = true := by
      rw [fence_unfinished unfinished]
      rfl
    obtain ⟨moved, rest⟩ := kept entry.1 entry.2 stored (by
      simpa [fenced, owned, holds] using stale)
    rw [fenceBoot_find?, if_pos ⟨⟨nonzero, current⟩, owned⟩, holds] at moved
    exact ⟨Generation.next_eq_self_iff.mp (Option.some.inj moved), rest⟩

end Table

/-- What a call leaves to be shown, as an equivalence: the flows that answer
afterwards are exactly those whose entries must still be there. -/
private theorem exec_answersRecorded_iff :
    (exec limits now op state).2.AnswersRecorded ↔
      ∀ id flow, state.flows.find? id = some flow →
        (flowAfter limits now op state id flow).state.answers = true →
        (workerBootAfter op state).find? flow.ownerWorker = some flow.ownerBoot ∧
          (sourceBootAfter op state).find? flow.source = some flow.sourceBoot := by
  obtain ⟨workers, sources⟩ := exec_tables limits now op state
  rw [← workers, ← sources]
  constructor
  · intro kept id flow stored answers
    have same := flowAfter_sameOrigin limits now op state id flow
    obtain ⟨worker, source⟩ := kept id _ (exec_flow stored) answers
    rw [same.ownerWorker, same.ownerBoot] at worker
    rw [same.source, same.sourceBoot] at source
    exact ⟨worker, source⟩
  · intro existing id after stored answers
    rcases exec_flow_origin stored with ⟨flow, found, rfl⟩ | ⟨options, rfl, allowed, -, -, rfl⟩
    · have same := flowAfter_sameOrigin limits now op state id flow
      obtain ⟨worker, source⟩ := existing id flow found answers
      refine ⟨?_, ?_⟩
      · rw [same.ownerWorker, same.ownerBoot]
        exact worker
      · rw [same.source, same.sourceBoot]
        exact source
    · refine ⟨?_, ?_⟩
      · rw [workers]
        exact allowed.workerRecorded
      · rw [sources]
        exact allowed.sourceRecorded

/-- A call keeps authority fresh exactly if it moves no boot from under a flow
that answers. -/
private theorem bootsMoveUnused_iff (sound : state.WellAccounted)
    (fresh : state.AnswersRecorded) :
    BootsMoveUnused state (.call now op) ↔
      (exec limits now op state).2.AnswersRecorded := by
  rw [exec_answersRecorded_iff]
  have workers := fun id flow stored answers => (fresh id flow stored answers).1
  have sources := fun id flow stored answers => (fresh id flow stored answers).2
  cases op with
  | registerWorker worker boot =>
      refine (register_iff Flow.ownerWorker Flow.ownerBoot workers).trans ?_
      refine forall_congr' fun id => forall_congr' fun flow => forall_congr' fun stored =>
        forall_congr' fun answers => ?_
      exact (and_iff_left (sources id flow stored answers)).symm
  | registerSource source boot =>
      refine (register_iff Flow.source Flow.sourceBoot sources).trans ?_
      refine forall_congr' fun id => forall_congr' fun flow => forall_congr' fun stored =>
        forall_congr' fun answers => ?_
      exact (and_iff_right (workers id flow stored answers)).symm
  | fenceWorker worker deadBoot =>
      exact fence_iff Flow.ownerWorker Flow.ownerBoot
        (fun flow => state.sourceBoot.find? flow.source = some flow.sourceBoot)
        sound fresh
  | fenceSource source deadBoot =>
      refine (fence_iff Flow.source Flow.sourceBoot
        (fun flow => state.workerBoot.find? flow.ownerWorker = some flow.ownerBoot)
        sound fun id flow stored answers => (fresh id flow stored answers).symm).trans ?_
      refine forall_congr' fun id => forall_congr' fun flow => forall_congr' fun stored =>
        forall_congr' fun answers => ?_
      exact and_comm
  | _ =>
      refine iff_of_true trivial fun id flow stored answers => ?_
      exact fresh id flow stored (answers_before (sound id flow stored) rfl answers)

/-! ## Runs -/

/-- Along every run from a fresh engine, every call that acts on a flow is made
with recorded boots, in every state, exactly if no step moves a boot away from a
flow that still answers. -/
theorem freshAuthority_throughout_iff {history : List (Impl R × Label R)} {final : Impl R}
    (run : Run (Step limits) Impl.fresh history final) :
    (∀ taken ∈ history, BootsMoveUnused taken.1 taken.2) ↔
      Throughout history final fun _ reached => reached.FreshAuthority := by
  apply run.forall_iff_throughout Impl.WellAccounted BootsMoveUnused Impl.wellAccounted_fresh
  · rw [freshAuthority_iff Impl.wellAccounted_fresh]
    intro id flow stored
    simp [Impl.fresh] at stored
  · exact fun sound taken => sound.step taken
  · intro state label next sound fresh taken
    rw [freshAuthority_iff (sound.step taken)]
    rw [freshAuthority_iff sound] at fresh
    cases taken with
    | call now op => exact bootsMoveUnused_iff sound fresh
    | rehash same =>
        refine iff_of_true trivial fun id flow stored answers => ?_
        rw [← same.flows.find?_eq] at stored
        obtain ⟨worker, source⟩ := fresh id flow stored answers
        rw [same.workerBoot.find?_eq] at worker
        rw [same.sourceBoot.find?_eq] at source
        exact ⟨worker, source⟩

private def admitOwned : List (UInt64 × Op Binary64) :=
  [(1, .registerWorker ⟨1⟩ ⟨1⟩), (1, .registerSource ⟨1⟩ ⟨1⟩),
    (1, .createDomain DomainKind.nicTx {}), (1, .declareFlow (.ofFirst 100)),
    (2, .admitFlow ⟨⟨1⟩, ⟨1⟩⟩)]

private def restartAfterwards : List (UInt64 × Op Binary64) :=
  admitOwned ++ [(3, .startFlow ⟨⟨1⟩, ⟨1⟩⟩ ⟨1⟩), (4, .flowComplete ⟨⟨1⟩, ⟨1⟩⟩ ⟨1⟩),
    (5, .registerWorker ⟨1⟩ ⟨2⟩), (6, .fenceSource ⟨1⟩ ⟨1⟩)]

private def restartMeanwhile : List (UInt64 × Op Binary64) :=
  admitOwned ++ [(3, .registerWorker ⟨1⟩ ⟨2⟩)]

/-- A worker that restarts after its flow completed leaves authority fresh. -/
theorem restart_afterwards_fresh :
    Throughout (trace {} restartAfterwards Impl.fresh) (execAll {} restartAfterwards Impl.fresh)
      fun _ reached => reached.FreshAuthority :=
  (freshAuthority_throughout_iff (run_execAll restartAfterwards Run.nil)).mp (by decide +kernel)

/-- A worker that restarts while its flow is ADMITTED: the old boot still starts
the flow, although the new one is recorded. -/
theorem restart_meanwhile_not_fresh :
    ¬∀ (limits : EngineLimits) (history : List (Impl Binary64 × Label Binary64))
      (final : Impl Binary64), Run (Step limits) Impl.fresh history final →
        final.FreshAuthority := by
  intro always
  have fresh := always {} _ _ (run_execAll restartMeanwhile Run.nil)
  have outdated : (findFlow (execAll {} restartMeanwhile Impl.fresh).flows ⟨⟨1⟩, ⟨1⟩⟩).any
      (fun flow => (execAll {} restartMeanwhile Impl.fresh).workerBoot.find? flow.ownerWorker !=
        some ⟨1⟩) = true := by
    decide +kernel
  have starts : ((execAll {} restartMeanwhile Impl.fresh).startFlow 4 ⟨⟨1⟩, ⟨1⟩⟩ ⟨1⟩).1 = true := by
    decide +kernel
  obtain ⟨flow, found, other⟩ := (Option.any_eq_true _ _).mp outdated
  have recorded := (fresh 4 ⟨⟨1⟩, ⟨1⟩⟩ ⟨1⟩ 0 flow found (Or.inl starts)).1
  rw [recorded] at other
  exact absurd other (by decide)

end CongestionFabric
