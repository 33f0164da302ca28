import CongestionFabric.Engine.Accounting

/-!
Contract: conservation of bytes along runs of the engine.

Owns the statement that no byte of a flow is counted twice, the one kind of call
that can break it, and the theorem that identifies the runs that keep it.

`flow_progress` is accepted on a QUEUED flow and moves bytes to `completed`
while nothing is in flight; `start_flow` later loads the whole admitted amount
as in flight. Bytes that were completed in the queue are then counted again.
-/

namespace CongestionFabric

open Foundation

variable {R : Type} [Arithmetic R]

/-- Completed, in-flight, cancelled and failed bytes together stay within the
admitted ones, and these within the submitted ones, as mathematical integers. -/
def Flow.Conserved (flow : Flow R) : Prop :=
  flow.completedBytes.value.toNat + flow.inFlightBytes.value.toNat +
      flow.cancelledBytes.value.toNat + flow.failedBytes.value.toNat ≤
    flow.admittedBytes.value.toNat ∧
  flow.admittedBytes.value.toNat ≤ flow.submittedBytes.value.toNat

instance (flow : Flow R) : Decidable flow.Conserved := inferInstanceAs (Decidable (_ ∧ _))

def Impl.Conserved (state : Impl R) : Prop :=
  ∀ id flow, state.flows.find? id = some flow → flow.Conserved

/-- The step is not a `start_flow` that reaches, at its generation and with its
owner's boot, a QUEUED flow which has already completed bytes. -/
def StartsUnprogressed (state : Impl R) : Label R → Prop
  | .call _ (.startFlow ref boot) => ∀ flow ∈ findFlow state.flows ref,
      flow.ownerBoot = boot → flow.state = .queued → flow.completedBytes.value = 0
  | _ => True

instance (state : Impl R) : (label : Label R) → Decidable (StartsUnprogressed state label)
  | .call _ (.startFlow ref _) =>
      inferInstanceAs (Decidable (∀ flow ∈ findFlow state.flows ref, _))
  | .rehash
  | .call _ (.advanceEpoch ..) | .call _ (.registerWorker ..) | .call _ (.registerSource ..)
  | .call _ (.fenceWorker ..) | .call _ (.fenceSource ..) | .call _ (.createDomain ..)
  | .call _ (.removeDomain ..) | .call _ (.declareFlow ..) | .call _ (.admitFlow ..)
  | .call _ (.queueFlow ..) | .call _ (.flowProgress ..) | .call _ (.flowComplete ..)
  | .call _ (.flowCancel ..) | .call _ (.flowFail ..) | .call _ (.advanceFlowGeneration ..)
  | .call _ (.revalidateFlow ..) | .call _ (.publishMeasurement ..)
  | .call _ (.recomputeDomain ..) | .call _ (.applyLocalShaping ..)
  | .call _ .recoverDynamicEvidence =>
      .isTrue trivial

variable {flow : Flow R} {limits : EngineLimits} {now : UInt64} {op : Op R}
  {state next : Impl R} {id : FlowId} {label : Label R}

/-! ## One flow -/

private theorem Flow.Conserved.admission (conserved : flow.Conserved) (sound : flow.WellAccounted)
    (domainExists : Bool) : (flow.admission domainExists).2.Conserved := by
  rcases sound.admission domainExists with ⟨-, refused⟩ | ⟨declared, -, accepted⟩
  · rw [refused]
    exact conserved
  · have nothing := sound.unadmitted declared
    obtain ⟨within, -⟩ := conserved
    rw [nothing] at within
    rw [accepted]
    refine ⟨?_, Nat.le_refl _⟩
    change _ ≤ flow.submittedBytes.value.toNat
    exact Nat.le_trans within (Nat.zero_le _)

/-- Starting a flow keeps its bytes conserved exactly if none was completed. -/
private theorem Flow.conserved_started (sound : flow.WellAccounted)
    (live : flow.state.live = true) :
    (flow.started now).Conserved ↔ flow.completedBytes.value = 0 := by
  obtain ⟨-, admitted, -⟩ := sound.le
  obtain ⟨cancelled, failed⟩ := sound.unfinished live
  have shape : (flow.started now).Conserved ↔
      flow.completedBytes.value.toNat + flow.admittedBytes.value.toNat +
          flow.cancelledBytes.value.toNat + flow.failedBytes.value.toNat ≤
        flow.admittedBytes.value.toNat ∧
      flow.admittedBytes.value.toNat ≤ flow.submittedBytes.value.toNat := Iff.rfl
  rw [shape, cancelled, failed, ← UInt64.toNat_inj]
  simp only [UInt64.toNat_zero]
  omega

private theorem Flow.Conserved.start (conserved : flow.Conserved) (sound : flow.WellAccounted)
    (boot : WorkerBootId) :
    (flow.start now boot).2.Conserved ↔
      (flow.ownerBoot = boot → flow.state = .queued → flow.completedBytes.value = 0) := by
  rcases sound.start now boot with ⟨notBoth, refused⟩ | ⟨owned, ready, accepted⟩
  · rw [refused]
    exact iff_of_true conserved fun owned queued => absurd ⟨owned, Or.inl queued⟩ notBoth
  · have live : flow.state.live = true := by
      rcases ready with ready | ready <;> simp [FlowState.live, ready]
    rw [accepted]
    change (flow.started now).Conserved ↔ _
    rw [Flow.conserved_started sound live]
    constructor
    · exact fun nothing _ _ => nothing
    · intro queuedOnly
      rcases ready with queued | admitted
      · exact queuedOnly owned queued
      · exact sound.unprogressed (Or.inr admitted)

private theorem Flow.Conserved.progress (conserved : flow.Conserved) (sound : flow.WellAccounted)
    (boot : WorkerBootId) (delta : UInt64) : (flow.progress now boot delta).2.Conserved := by
  rcases sound.progress now boot delta with ⟨-, refused⟩ |
    ⟨-, running, completed, inFlight, total, within, moved, accepted⟩
  · rw [refused]
    exact conserved
  · have live : flow.state.live = true := by
      rcases running with running | running <;> simp [FlowState.live, running]
    obtain ⟨cancelled, failed⟩ := sound.unfinished live
    obtain ⟨sum, admitted⟩ := conserved
    rw [accepted]
    refine ⟨?_, admitted⟩
    change completed.toNat + inFlight.toNat + flow.cancelledBytes.value.toNat +
      flow.failedBytes.value.toNat ≤ flow.admittedBytes.value.toNat
    rw [cancelled, failed] at sum ⊢
    simp only [UInt64.toNat_zero] at sum ⊢
    omega

private theorem Flow.Conserved.complete (conserved : flow.Conserved) (sound : flow.WellAccounted)
    (boot : WorkerBootId) : (flow.complete now boot).2.Conserved := by
  rcases sound.complete now boot with ⟨-, refused⟩ | ⟨-, active, accepted⟩
  · rw [refused]
    exact conserved
  · obtain ⟨cancelled, failed⟩ := sound.unfinished (by simp [FlowState.live, active])
    rw [accepted]
    refine ⟨?_, conserved.2⟩
    change flow.admittedBytes.value.toNat + 0 + flow.cancelledBytes.value.toNat +
      flow.failedBytes.value.toNat ≤ flow.admittedBytes.value.toNat
    simp [cancelled, failed]

private theorem Flow.Conserved.cancel (conserved : flow.Conserved) (sound : flow.WellAccounted)
    (boot : WorkerBootId) (soFar : UInt64) : (flow.cancel now boot soFar).2.Conserved := by
  rcases sound.cancel now boot soFar with ⟨-, refused⟩ | ⟨-, live, cancelled, amount, accepted⟩
  · rw [refused]
    exact conserved
  · obtain ⟨-, failed⟩ := sound.unfinished live
    have within := sound.le.1
    rw [accepted]
    refine ⟨?_, conserved.2⟩
    change flow.completedBytes.value.toNat + 0 + cancelled.toNat +
      flow.failedBytes.value.toNat ≤ flow.admittedBytes.value.toNat
    rw [failed, amount]
    simp only [UInt64.toNat_zero]
    omega

private theorem Flow.Conserved.fail (conserved : flow.Conserved) (sound : flow.WellAccounted)
    (boot : WorkerBootId) : (flow.fail now boot).2.Conserved := by
  rcases sound.fail now boot with ⟨-, refused⟩ | ⟨-, live, failed, amount, accepted⟩
  · rw [refused]
    exact conserved
  · obtain ⟨cancelled, -⟩ := sound.unfinished live
    have within := sound.le.1
    rw [accepted]
    refine ⟨?_, conserved.2⟩
    change flow.completedBytes.value.toNat + 0 + flow.cancelledBytes.value.toNat +
      failed.toNat ≤ flow.admittedBytes.value.toNat
    rw [cancelled, amount]
    simp only [UInt64.toNat_zero]
    omega

private theorem Flow.Conserved.queue (conserved : flow.Conserved) (domainExists : Bool)
    (queued : UInt64) : (flow.queue limits domainExists queued).2.Conserved := by
  rcases flow.queue_cases limits domainExists queued with refused | ⟨-, accepted⟩
  · rw [refused]
    exact conserved
  · rw [accepted]
    exact conserved

private theorem Flow.Conserved.revalidate (conserved : flow.Conserved) (boot : WorkerBootId) :
    (flow.revalidate boot).2.Conserved := by
  rcases flow.revalidate_cases boot with ⟨-, refused⟩ | ⟨-, -, accepted⟩
  · rw [refused]
    exact conserved
  · rw [accepted]
    exact conserved

private theorem Flow.Conserved.fence (conserved : flow.Conserved) (owned : Bool) :
    (flow.fence owned).Conserved := by
  unfold Flow.fence
  split <;> exact conserved

private theorem Flow.Conserved.requireRevalidation (conserved : flow.Conserved) :
    flow.requireRevalidation.Conserved := by
  unfold Flow.requireRevalidation
  split <;> exact conserved

private theorem Flow.Conserved.advanceGeneration (conserved : flow.Conserved)
    (following : FlowGeneration) : (flow.advanceGeneration following).2.Conserved := by
  unfold Flow.advanceGeneration
  split <;> exact conserved

/-- Every operation but a `start_flow` that reaches the flow conserves its
bytes. -/
private theorem Flow.Conserved.after (conserved : flow.Conserved) (sound : flow.WellAccounted)
    (starts : ∀ ref boot, op = .startFlow ref boot → ref.names id flow →
      (flow.start now boot).2.Conserved) :
    (flowAfter limits now op state id flow).Conserved := by
  apply flowAfter_elim
  case same => exact conserved
  case fenceWorker => exact fun _ _ _ _ => conserved.fence _
  case fenceSource => exact fun _ _ _ _ => conserved.fence _
  case admission => exact fun _ _ _ => conserved.admission sound _
  case queue => exact fun _ _ _ => conserved.queue _ _
  case start => exact starts
  case progress => exact fun _ _ _ _ _ => conserved.progress sound _ _
  case complete => exact fun _ _ _ _ => conserved.complete sound _
  case cancel => exact fun _ _ _ _ _ => conserved.cancel sound _ _
  case fail => exact fun _ _ _ _ => conserved.fail sound _
  case advance => exact fun _ _ _ _ => conserved.advanceGeneration _
  case revalidate => exact fun _ _ _ _ => conserved.revalidate _
  case recover => exact fun _ => conserved.requireRevalidation

/-! ## Steps and runs -/

/-- A step conserves bytes exactly if it does not start a flow that already
progressed in its queue. -/
private theorem startsUnprogressed_iff (sound : state.WellAccounted)
    (conserved : state.Conserved) (taken : Step limits state label next) :
    StartsUnprogressed state label ↔ next.Conserved := by
  cases taken with
  | rehash same =>
      refine iff_of_true trivial ?_
      intro id flow stored
      rw [← same.flows.find?_eq] at stored
      exact conserved id flow stored
  | call now op =>
      unfold Impl.Conserved
      rw [forall_flow_exec_iff fun options => ⟨Nat.zero_le _, Nat.zero_le _⟩]
      constructor
      · intro unprogressed id flow stored
        apply (conserved id flow stored).after (sound id flow stored)
        rintro ref boot rfl ⟨rfl, current⟩
        rw [(conserved _ flow stored).start (sound _ flow stored)]
        exact unprogressed flow (findFlow_eq_some.mpr ⟨stored, current⟩)
      · intro kept
        cases op with
        | startFlow ref boot =>
            intro flow found
            obtain ⟨stored, current⟩ := findFlow_eq_some.mp found
            have started := kept ref.id flow stored
            simp only [flowAfter, EntityRef.names, current, and_self, if_true] at started
            exact ((conserved ref.id flow stored).start (sound ref.id flow stored) boot).mp started
        | _ => trivial

/-- Along every run from a fresh engine, bytes are conserved in every state
exactly if no step starts a QUEUED flow that has already completed bytes. -/
theorem conserved_throughout_iff {history : List (Impl R × Label R)} {final : Impl R}
    (run : Run (Step limits) Impl.fresh history final) :
    (∀ taken ∈ history, StartsUnprogressed taken.1 taken.2) ↔
      Throughout history final fun _ reached => reached.Conserved := by
  apply run.forall_iff_throughout Impl.WellAccounted StartsUnprogressed Impl.wellAccounted_fresh
  · intro id flow stored
    simp [Impl.fresh] at stored
  · exact fun sound taken => sound.step taken
  · exact startsUnprogressed_iff

private def admitHundred : List (UInt64 × Op Binary64) :=
  [(1, .registerWorker ⟨1⟩ ⟨1⟩), (1, .registerSource ⟨1⟩ ⟨1⟩),
    (1, .createDomain DomainKind.nicTx {}), (1, .declareFlow (.ofFirst 100)),
    (2, .admitFlow ⟨⟨1⟩, ⟨1⟩⟩)]

private def straight : List (UInt64 × Op Binary64) :=
  admitHundred ++ [(3, .queueFlow ⟨⟨1⟩, ⟨1⟩⟩), (4, .startFlow ⟨⟨1⟩, ⟨1⟩⟩ ⟨1⟩),
    (5, .flowProgress ⟨⟨1⟩, ⟨1⟩⟩ ⟨1⟩ 50), (6, .flowComplete ⟨⟨1⟩, ⟨1⟩⟩ ⟨1⟩)]

private def progressInQueue : List (UInt64 × Op Binary64) :=
  admitHundred ++ [(3, .queueFlow ⟨⟨1⟩, ⟨1⟩⟩), (4, .flowProgress ⟨⟨1⟩, ⟨1⟩⟩ ⟨1⟩ 50),
    (5, .startFlow ⟨⟨1⟩, ⟨1⟩⟩ ⟨1⟩)]

/-- Queue, start, progress and complete conserve bytes throughout. -/
theorem straight_conserved :
    Throughout (trace {} straight Impl.fresh) (execAll {} straight Impl.fresh)
      fun _ reached => reached.Conserved :=
  (conserved_throughout_iff (run_execAll straight Run.nil)).mp (by decide +kernel)

/-- Fifty bytes completed in the queue and a hundred in flight afterwards: the
sum exceeds what was admitted. -/
theorem progress_in_queue_not_conserved :
    ¬∀ (limits : EngineLimits) (history : List (Impl Binary64 × Label Binary64))
      (final : Impl Binary64), Run (Step limits) Impl.fresh history final → final.Conserved := by
  intro always
  have conserved := always {} _ _ (run_execAll progressInQueue Run.nil)
  have broken : ((execAll {} progressInQueue Impl.fresh).flows.find? ⟨1⟩).any
      (fun flow => decide ¬flow.Conserved) = true := by
    decide +kernel
  obtain ⟨flow, stored, violated⟩ := (Option.any_eq_true _ _).mp broken
  exact of_decide_eq_true violated (conserved ⟨1⟩ flow stored)

end CongestionFabric
