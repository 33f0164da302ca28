import CongestionFabric.Persistence.Loaded
import CongestionFabric.Persistence.SavedFile

/-!
Contract: how long a fence keeps a dead boot out.

Owns the statement that a state refuses an identity, the order of the boot tables
along every run, the loads that keep that order, and the theorem that a fence is
permanent in every run whose loads do.

Does not own: flows that the dead boot declared before it was fenced; their own
copy of the boot is compared elsewhere.
-/

namespace CongestionFabric

open Foundation

variable {R : Type} [Arithmetic R]

/-- No declaration and no publication under this identity is accepted, and none
of them changes anything. -/
structure Impl.Refuses (limits : EngineLimits) (state : Impl R) (worker : WorkerId)
    (boot : WorkerBootId) : Prop where
  declaration : ∀ now options, options.ownerWorker = worker → options.ownerBoot = boot →
    state.declareFlow limits now options = ({}, state)
  publication : ∀ domain measurement,
    state.publishMeasurement domain measurement worker boot = (false, state)

/-! ## The order of a boot table -/

section BootTable

variable {Tag BootTag : Type} {table : UnorderedMap (Id Tag) (Generation BootTag)}
  {id other : Id Tag} {boot later : Generation BootTag}

/-- The table has a boot for the identity, and it is newer than this one. -/
def recordsAbove (table : UnorderedMap (Id Tag) (Generation BootTag)) (id : Id Tag)
    (boot : Generation BootTag) : Bool :=
  (table.find? id).any fun recorded => decide (boot.value < recorded.value)

theorem recordsAbove_iff :
    recordsAbove table id boot = true ↔
      ∃ recorded, table.find? id = some recorded ∧ boot.value < recorded.value := by
  simp [recordsAbove, Option.any_eq_true]

/-- A registration replaces a boot only by a newer one. -/
theorem recordsAbove_registerBoot (above : recordsAbove table id boot = true) :
    recordsAbove (registerBoot table other later).2 id boot = true := by
  obtain ⟨recorded, found, newer⟩ := recordsAbove_iff.mp above
  rw [recordsAbove_iff, registerBoot_find?]
  split_ifs with replaced
  · obtain ⟨accepted, rfl⟩ := replaced
    obtain ⟨-, -, order⟩ := registerBoot_accepted.mp accepted
    exact ⟨later, rfl, UInt64.lt_trans newer (order recorded found)⟩
  · exact ⟨recorded, found, newer⟩

/-- A fence bumps the boot it finds, or leaves it at the maximum. -/
theorem recordsAbove_fenceBoot (above : recordsAbove table id boot = true) :
    recordsAbove ((fenceBoot table other later).getD table) id boot = true := by
  obtain ⟨recorded, found, newer⟩ := recordsAbove_iff.mp above
  rw [recordsAbove_iff, fenceBoot_find?]
  split_ifs with bumped
  · obtain ⟨⟨-, current⟩, rfl⟩ := bumped
    rw [found] at current
    obtain rfl := Option.some.inj current
    exact ⟨recorded.next, rfl, Nat.lt_of_lt_of_le newer recorded.le_next⟩
  · exact ⟨recorded, found, newer⟩

end BootTable

/-! ## One step -/

variable {limits : EngineLimits} {worker : WorkerId} {boot : WorkerBootId}

/-- Declarations and publications are checked against the recorded boot. -/
theorem Impl.refuses_of_recordsAbove {state : Impl R} (nonzero : worker.value ≠ 0)
    (above : recordsAbove state.workerBoot worker boot = true) :
    state.Refuses limits worker boot := by
  obtain ⟨recorded, found, newer⟩ := recordsAbove_iff.mp above
  have outdated : state.workerBoot.find? worker ≠ some boot := by
    intro current
    rw [found] at current
    rw [Option.some.inj current] at newer
    exact absurd newer (UInt64.lt_irrefl _)
  refine ⟨fun now options owner ownerBoot => ?_, fun domain measurement => ?_⟩
  · apply declareFlow_of_not_declarable
    intro allowed
    have current := allowed.workerRecorded
    rw [owner, ownerBoot] at current
    exact outdated current
  · have checked :
        (worker.isValid && decide (state.workerBoot.find? worker ≠ some boot)) = true := by
      rw [Id.isValid_eq_true.mpr nonzero, Bool.true_and]
      exact decide_eq_true outdated
    unfold Impl.publishMeasurement
    cases state.domains.find? domain with
    | none => exact ite_self _
    | some found =>
        dsimp only
        rw [if_pos checked, ite_self]

/-- An accepted fence below the maximum leaves a newer boot in the table. -/
theorem Impl.recordsAbove_of_fenceWorker {state : Impl R} (below : boot.value ≠ maxUInt64)
    (fenced : (state.fenceWorker worker boot).1 = true) :
    worker.value ≠ 0 ∧
      recordsAbove (state.fenceWorker worker boot).2.workerBoot worker boot = true := by
  unfold Impl.fenceWorker at fenced ⊢
  cases bumped : fenceBoot state.workerBoot worker boot with
  | none =>
      rw [bumped] at fenced
      exact absurd fenced (by simp)
  | some table =>
      obtain ⟨nonzero, current, rfl⟩ := fenceBoot_eq_some.mp bumped
      refine ⟨nonzero, recordsAbove_iff.mpr ⟨boot.next, ?_, ?_⟩⟩
      · simp [current]
      · rw [UInt64.lt_iff_toNat_lt, Generation.next_toNat below]
        exact Nat.lt_succ_self _

/-- No operation takes the recorded boot back. -/
theorem Impl.recordsAbove_exec {state : Impl R} (now : UInt64) (op : Op R)
    (above : recordsAbove state.workerBoot worker boot = true) :
    recordsAbove (exec limits now op state).2.workerBoot worker boot = true := by
  rw [(exec_tables limits now op state).1]
  cases op with
  | registerWorker other later => exact recordsAbove_registerBoot above
  | fenceWorker other dead => exact recordsAbove_fenceBoot above
  | _ => exact above

/-- The event is not a load, or the file is refused, or it records the worker at
a newer boot. -/
def Event.keepsAbove (worker : WorkerId) (boot : WorkerBootId) : Event → Bool
  | .engine _ => true
  | .load file => (file.bind Impl.decode).all fun persisted =>
      recordsAbove persisted.workerBoot worker boot

/-- A file saved while the worker was recorded at a newer boot keeps it out. -/
theorem Event.keepsAbove_saveBytes {state : Impl Binary64}
    (above : recordsAbove state.workerBoot worker boot = true) :
    (Event.load (some (saveBytes state))).keepsAbove worker boot = true := by
  rw [Event.keepsAbove, Option.bind_some]
  cases decoded : Impl.decode (saveBytes state) with
  | none => rfl
  | some persisted =>
      rw [Option.all_some, eq_of_decode_saveBytes decoded]
      exact above

theorem Impl.recordsAbove_fileStep {state next : Impl Binary64} {event : Event}
    (above : recordsAbove state.workerBoot worker boot = true)
    (kept : event.keepsAbove worker boot = true) (taken : FileStep limits state event next) :
    recordsAbove next.workerBoot worker boot = true := by
  cases taken with
  | engine step =>
      cases step with
      | call now op => exact recordsAbove_exec now op above
      | rehash same =>
          unfold recordsAbove
          rw [← same.workerBoot.find?_eq]
          exact above
  | load file =>
      rcases Impl.load_cases file state with refused | ⟨bytes, persisted, rfl, decoded, accepted⟩
      · rw [refused]
        exact above
      · rw [accepted]
        rw [Event.keepsAbove, Option.bind_some, decoded, Option.all_some] at kept
        exact kept

/-! ## Runs -/

/-- Once a boot below the maximum has been fenced, every state of every run
refuses it, if the files the run loads record the worker at a newer boot. -/
theorem fence_permanent {before final : Impl Binary64} {history : List (Impl Binary64 × Event)}
    (fenced : (before.fenceWorker worker boot).1 = true) (below : boot.value ≠ maxUInt64)
    (run : Run (FileStep limits) (before.fenceWorker worker boot).2 history final)
    (loads : EveryStep history fun _ _ event => event.keepsAbove worker boot = true) :
    Throughout history final fun _ reached => reached.Refuses limits worker boot := by
  obtain ⟨nonzero, start⟩ := Impl.recordsAbove_of_fenceWorker below fenced
  have throughout := run.throughout_of_everyStep
    (fun _ reached => recordsAbove reached.workerBoot worker boot = true) start
    (fun above kept taken => Impl.recordsAbove_fileStep above kept taken) loads
  exact throughout.mono fun _ reached above => Impl.refuses_of_recordsAbove nonzero above

private def registeredAt (boot : WorkerBootId) : List Event :=
  [.engine (.call 1 (.registerWorker ⟨1⟩ boot)),
    .engine (.call 1 (.createDomain DomainKind.nicTx {}))]

private def servingAt (boot : WorkerBootId) : Impl Binary64 :=
  follow (fun state event => event.next {} state) (registeredAt boot) Impl.fresh

/-- The engine that has fenced the only boot of worker 1. -/
private def fencedAt (boot : WorkerBootId) : Impl Binary64 :=
  ((servingAt boot).fenceWorker ⟨1⟩ boot).2

private def queueDepth : Measurement Binary64 where
  kind := MeasurementKind.queueDepthOps
  value := 3.0

/-- The fenced engine is saved, the worker comes back at boot 5, and the file is
loaded. -/
private def restoredLater : List Event :=
  [.engine (.call 2 (.registerWorker ⟨1⟩ ⟨5⟩)), .load (some (saveBytes (fencedAt ⟨1⟩)))]

theorem fence_survives_restoredLater :
    ((fencedAt ⟨1⟩).load (some (saveBytes (fencedAt ⟨1⟩)))).1 = true ∧
      Throughout
        ([] ++ followed (fun state event => event.next {} state) restoredLater (fencedAt ⟨1⟩))
        (follow (fun state event => event.next {} state) restoredLater (fencedAt ⟨1⟩))
        (fun _ reached => reached.Refuses {} ⟨1⟩ ⟨1⟩) := by
  have restored := load_of_decode
    (decode_saveBytes (show (fencedAt ⟨1⟩).Loadable by decide +kernel)) (fencedAt ⟨1⟩)
  refine ⟨congrArg Prod.fst restored, ?_⟩
  exact fence_permanent (by decide +kernel) (by decide)
    (run_follow (fileStep_next {}) restoredLater Run.nil)
    (everyStep_snoc.mpr ⟨everyStep_snoc.mpr ⟨everyStep_nil, rfl⟩,
      Event.keepsAbove_saveBytes (by decide +kernel)⟩)

/-- The bump of the largest boot leaves it recorded, and a file saved before a
fence brings the fenced boot back: in both cases it publishes again. -/
theorem fence_not_permanent :
    ¬(∀ (limits : EngineLimits) (prior history : List (Impl Binary64 × Event))
      (before final : Impl Binary64) (worker : WorkerId) (boot : WorkerBootId),
      Run (FileStep limits) Impl.fresh prior before →
        (before.fenceWorker worker boot).1 = true →
          Run (FileStep limits) (before.fenceWorker worker boot).2 history final →
            (∀ taken ∈ history, ∃ label, taken.2 = .engine label) →
              final.Refuses limits worker boot) ∧
    ¬(∀ (limits : EngineLimits) (prior history : List (Impl Binary64 × Event))
      (before final : Impl Binary64) (worker : WorkerId) (boot : WorkerBootId),
      boot.value ≠ maxUInt64 → Run (FileStep limits) Impl.fresh prior before →
        (before.fenceWorker worker boot).1 = true →
          Run (FileStep limits) (before.fenceWorker worker boot).2 history final →
            (∀ taken ∈ history, taken.2 = .load (some (saveBytes before))) →
              final.Refuses limits worker boot) := by
  refine ⟨fun always => ?_, fun always => ?_⟩
  · have refuses := always {} _ [] _ _ ⟨1⟩ ⟨maxUInt64⟩
      (run_follow (fileStep_next {}) (registeredAt ⟨maxUInt64⟩) Run.nil) (by decide +kernel)
      Run.nil (by simp)
    have refused := congrArg Prod.fst (refuses.publication ⟨1⟩ queueDepth)
    have accepted : ((fencedAt ⟨maxUInt64⟩).publishMeasurement ⟨1⟩ queueDepth ⟨1⟩
        ⟨maxUInt64⟩).1 = true := by
      decide +kernel
    exact absurd (accepted.symm.trans refused) (by simp)
  · have refuses := always {} _ _ _ _ ⟨1⟩ ⟨1⟩ (by decide)
      (run_follow (fileStep_next {}) (registeredAt ⟨1⟩) Run.nil) (by decide +kernel)
      (Run.nil.snoc (.load (fencedAt ⟨1⟩) (some (saveBytes (servingAt ⟨1⟩))))) (by
        intro taken member
        rw [List.nil_append, List.mem_singleton] at member
        rw [member]
        rfl)
    have refused := congrArg Prod.fst (refuses.publication ⟨1⟩ queueDepth)
    have accepted : (((fencedAt ⟨1⟩).load (some (saveBytes (servingAt ⟨1⟩)))).2.publishMeasurement
        ⟨1⟩ queueDepth ⟨1⟩ ⟨1⟩).1 = true := by
      rw [load_of_decode (decode_saveBytes (show (servingAt ⟨1⟩).Loadable by decide +kernel))]
      decide +kernel
    exact absurd (accepted.symm.trans refused) (by simp)

end CongestionFabric
