import CongestionFabric.Engine.Accounting

/-!
Contract: what the counters of a finished flow add up to.

Owns the statement that a finished flow has accounted for every admitted byte,
the one call that can leave it open, and the theorem that identifies the runs
that close every flow exactly.

`flow_cancel` counts as cancelled what its caller reports, up to the remainder;
`flow_complete` and `flow_fail` count the whole remainder.
-/

namespace CongestionFabric

open Foundation

variable {R : Type} [Arithmetic R]

/-- COMPLETED, CANCELLED or FAILED. -/
def FlowState.isFinished (state : FlowState) : Bool :=
  state = .completed || state = .cancelled || state = .failed

/-- A finished flow has nothing in flight, and its completed, cancelled and
failed bytes are the admitted ones, as mathematical integers. -/
def Flow.Closed (flow : Flow R) : Prop :=
  flow.state.isFinished = true → flow.inFlightBytes.value = 0 ∧
    flow.completedBytes.value.toNat + flow.cancelledBytes.value.toNat +
        flow.failedBytes.value.toNat =
      flow.admittedBytes.value.toNat

def Impl.Closed (state : Impl R) : Prop :=
  ∀ id flow, state.flows.find? id = some flow → flow.Closed

/-- The amount covers what the flow has not completed. -/
def Flow.coversRemainder (flow : Flow R) (soFar : UInt64) : Bool :=
  flow.admittedBytes.value.toNat ≤ flow.completedBytes.value.toNat + soFar.toNat

/-- The step is not a `flow_cancel` that reaches, at its generation and with its
owner's boot, a live flow and reports less than the flow has not completed. -/
def CancelsRemainder (state : Impl R) : Label R → Prop
  | .call _ (.flowCancel ref boot soFar) => ∀ flow ∈ findFlow state.flows ref,
      flow.ownerBoot = boot → flow.state.live = true → flow.coversRemainder soFar = true
  | _ => True

instance (state : Impl R) (label : Label R) : Decidable (CancelsRemainder state label) := by
  unfold CancelsRemainder
  split <;> infer_instance

variable {flow : Flow R} {limits : EngineLimits} {now : UInt64} {op : Op R}
  {state next : Impl R} {id : FlowId} {label : Label R}

/-! ## One flow -/

private theorem Flow.closed_of_unfinished (running : flow.state.isFinished = false) :
    flow.Closed := by
  intro finished
  rw [running] at finished
  exact absurd finished Bool.false_ne_true

private theorem Flow.Closed.cancel (closed : flow.Closed) (sound : flow.WellAccounted)
    (boot : WorkerBootId) (soFar : UInt64) :
    (flow.cancel now boot soFar).2.Closed ↔
      (flow.ownerBoot = boot → flow.state.live = true → flow.coversRemainder soFar = true) := by
  rcases sound.cancel now boot soFar with
    ⟨notBoth, refused⟩ | ⟨rfl, live, cancelled, amount, accepted⟩
  · rw [refused]
    exact iff_of_true closed fun owned live => absurd ⟨owned, live⟩ notBoth
  · have failed := (sound.unfinished live).2
    have within := sound.le.1
    have shape : (flow.cancel now flow.ownerBoot soFar).2.Closed ↔
        flow.completedBytes.value.toNat + cancelled.toNat + flow.failedBytes.value.toNat =
          flow.admittedBytes.value.toNat := by
      rw [accepted]
      exact ⟨fun closes => (closes rfl).2, fun sum _ => ⟨rfl, sum⟩⟩
    rw [shape, failed, amount, Flow.coversRemainder, decide_eq_true_eq]
    simp only [UInt64.toNat_zero, live, forall_const]
    omega

private theorem Flow.closed_complete (closed : flow.Closed) (sound : flow.WellAccounted)
    (boot : WorkerBootId) : (flow.complete now boot).2.Closed := by
  rcases sound.complete now boot with ⟨-, refused⟩ | ⟨-, active, accepted⟩
  · rw [refused]
    exact closed
  · obtain ⟨cancelled, failed⟩ := sound.unfinished (by simp [FlowState.live, active])
    rw [accepted]
    intro _
    refine ⟨rfl, ?_⟩
    change flow.admittedBytes.value.toNat + flow.cancelledBytes.value.toNat +
      flow.failedBytes.value.toNat = flow.admittedBytes.value.toNat
    simp [cancelled, failed]

private theorem Flow.closed_fail (closed : flow.Closed) (sound : flow.WellAccounted)
    (boot : WorkerBootId) : (flow.fail now boot).2.Closed := by
  rcases sound.fail now boot with ⟨-, refused⟩ | ⟨-, live, failed, amount, accepted⟩
  · rw [refused]
    exact closed
  · have cancelled := (sound.unfinished live).1
    have within := sound.le.1
    rw [accepted]
    intro _
    refine ⟨rfl, ?_⟩
    change flow.completedBytes.value.toNat + flow.cancelledBytes.value.toNat + failed.toNat =
      flow.admittedBytes.value.toNat
    rw [cancelled, amount]
    simp only [UInt64.toNat_zero]
    omega

/-- Every operation but a `flow_cancel` that reaches the flow keeps it closed. -/
private theorem Flow.Closed.after (closed : flow.Closed) (sound : flow.WellAccounted)
    (cancels : ∀ ref boot soFar, op = .flowCancel ref boot soFar → ref.names id flow →
      (flow.cancel now boot soFar).2.Closed) :
    (flowAfter limits now op state id flow).Closed := by
  apply flowAfter_elim (motive := Flow.Closed)
  case same => exact closed
  case fenceWorker =>
    intro worker deadBoot _ _
    unfold Flow.fence
    split
    · exact Flow.closed_of_unfinished rfl
    · exact closed
  case fenceSource =>
    intro source deadBoot _ _
    unfold Flow.fence
    split
    · exact Flow.closed_of_unfinished rfl
    · exact closed
  case admission =>
    intro ref _ _
    rcases sound.admission (state.domains.contains flow.domain.id) with
      ⟨-, refused⟩ | ⟨-, -, accepted⟩
    · rw [refused]
      exact closed
    · rw [accepted]
      exact Flow.closed_of_unfinished rfl
  case queue =>
    intro ref _ _
    rcases flow.queue_cases limits (state.domains.contains flow.domain.id)
      (state.queuedFlows flow.domain.id) with refused | ⟨-, accepted⟩
    · rw [refused]
      exact closed
    · rw [accepted]
      exact Flow.closed_of_unfinished rfl
  case start =>
    intro ref boot _ _
    rcases sound.start now boot with ⟨-, refused⟩ | ⟨-, -, accepted⟩
    · rw [refused]
      exact closed
    · rw [accepted]
      exact Flow.closed_of_unfinished rfl
  case progress =>
    intro ref boot delta _ _
    rcases sound.progress now boot delta with ⟨-, refused⟩ | ⟨-, running, _, _, -, -, -, accepted⟩
    · rw [refused]
      exact closed
    · rw [accepted]
      apply Flow.closed_of_unfinished
      rcases running with running | running <;> simp [running, FlowState.isFinished]
  case complete => exact fun _ _ _ _ => Flow.closed_complete closed sound _
  case cancel => exact cancels
  case fail => exact fun _ _ _ _ => Flow.closed_fail closed sound _
  case advance =>
    intro ref following _ _
    unfold Flow.advanceGeneration
    split_ifs
    · exact closed
    · exact Flow.closed_of_unfinished rfl
    · exact closed
  case revalidate =>
    intro ref boot _ _
    rcases flow.revalidate_cases boot with ⟨-, refused⟩ | ⟨-, -, accepted⟩
    · rw [refused]
      exact closed
    · rw [accepted]
      exact Flow.closed_of_unfinished rfl
  case recover =>
    intro _
    unfold Flow.requireRevalidation
    split
    · exact Flow.closed_of_unfinished rfl
    · exact closed

/-! ## Steps and runs -/

private theorem cancelsRemainder_iff (sound : state.WellAccounted) (closed : state.Closed)
    (taken : Step limits state label next) :
    CancelsRemainder state label ↔ next.Closed := by
  cases taken with
  | rehash same =>
      refine iff_of_true trivial fun id flow stored => ?_
      rw [← same.flows.find?_eq] at stored
      exact closed id flow stored
  | call now op =>
      unfold Impl.Closed
      rw [forall_flow_exec_iff fun options => Flow.closed_of_unfinished rfl]
      constructor
      · intro covers id flow stored
        apply (closed id flow stored).after (sound id flow stored)
        rintro ref boot soFar rfl ⟨rfl, current⟩
        rw [(closed _ flow stored).cancel (sound _ flow stored)]
        exact covers flow (findFlow_eq_some.mpr ⟨stored, current⟩)
      · intro kept
        cases op with
        | flowCancel ref boot soFar =>
            intro flow found
            obtain ⟨stored, current⟩ := findFlow_eq_some.mp found
            have cancelled := kept ref.id flow stored
            simp only [flowAfter, EntityRef.names, current, and_self, if_true] at cancelled
            exact ((closed ref.id flow stored).cancel (sound ref.id flow stored) boot soFar).mp
              cancelled
        | _ => trivial

/-- Along every run from a fresh engine, every finished flow has accounted for
exactly its admitted bytes in every state exactly if every cancellation reports
at least what its flow has not completed. -/
theorem closed_throughout_iff {history : List (Impl R × Label R)} {final : Impl R}
    (run : Run (Step limits) Impl.fresh history final) :
    (∀ taken ∈ history, CancelsRemainder taken.1 taken.2) ↔
      Throughout history final fun _ reached => reached.Closed := by
  apply run.forall_iff_throughout Impl.WellAccounted CancelsRemainder Impl.wellAccounted_fresh
  · intro id flow stored
    simp [Impl.fresh] at stored
  · exact fun sound taken => sound.step taken
  · exact cancelsRemainder_iff

/-- A flow of a hundred bytes completes thirty of them and is cancelled. -/
private def cancelAfterThirty (soFar : UInt64) : List (UInt64 × Op Binary64) :=
  [(1, .registerWorker ⟨1⟩ ⟨1⟩), (1, .registerSource ⟨1⟩ ⟨1⟩),
    (1, .createDomain DomainKind.nicTx {}), (1, .declareFlow (.ofFirst 100)),
    (2, .admitFlow ⟨⟨1⟩, ⟨1⟩⟩), (3, .startFlow ⟨⟨1⟩, ⟨1⟩⟩ ⟨1⟩),
    (4, .flowProgress ⟨⟨1⟩, ⟨1⟩⟩ ⟨1⟩ 30), (5, .flowCancel ⟨⟨1⟩, ⟨1⟩⟩ ⟨1⟩ soFar)]

private def cancelledEngine (soFar : UInt64) : Impl Binary64 :=
  execAll {} (cancelAfterThirty soFar) Impl.fresh

theorem cancelSeventy_closed :
    ((cancelledEngine 70).flows.find? ⟨1⟩).map Flow.state = some .cancelled ∧
      Throughout ([] ++ trace {} (cancelAfterThirty 70) Impl.fresh) (cancelledEngine 70)
        fun _ reached => reached.Closed :=
  ⟨by decide +kernel, (closed_throughout_iff (run_execAll (cancelAfterThirty 70) Run.nil)).mp
    (by decide +kernel)⟩

private theorem cancelled_stored : ((cancelledEngine 10).flows.find? ⟨1⟩).isSome = true := by
  decide +kernel

/-- Sixty of the hundred admitted bytes are neither completed nor cancelled. -/
theorem cancelTen_not_closed :
    ¬∀ (limits : EngineLimits) (history : List (Impl Binary64 × Label Binary64))
      (final : Impl Binary64), Run (Step limits) Impl.fresh history final →
        Throughout history final fun _ reached => reached.Closed := by
  intro always
  have closed := (always {} _ _ (run_execAll (cancelAfterThirty 10) Run.nil)).2
  have sum := closed ⟨1⟩ _ (Option.some_get cancelled_stored).symm (by decide +kernel)
  exact absurd sum.2 (by decide +kernel)

end CongestionFabric
