import CongestionFabric.Engine.Accounting
import CongestionFabric.Persistence.Accepted

/-!
Contract: what a successful load leaves in the engine, whatever the file.

Owns the two outcomes of a load, the fact that a load leaves every flow in a
state nobody acts on, and the accounting of every run that may load arbitrary
files.

Does not own: files written by `save`, for which much more is known.
-/

namespace CongestionFabric

open Foundation

/-! ## Recovery -/

/-- Recovery leaves no flow in a state that anybody acts on. -/
theorem Flow.requireRevalidation_inert {R : Type} [Arithmetic R] (flow : Flow R) :
    (flow.requireRevalidation.state ≠ .validating ∧
        flow.requireRevalidation.state ≠ .backpressured ∧
        flow.requireRevalidation.state ≠ .throttled ∧
        flow.requireRevalidation.state ≠ .draining) ∧
      flow.requireRevalidation.state.live = false := by
  unfold Flow.requireRevalidation
  cases state : flow.state <;>
    simp [Flow.isTerminal, state, FlowState.isTerminal, FlowState.isStaleOrSuperseded,
      FlowState.live]

/-- A load either changes nothing or commits and recovers a decoded file. -/
theorem Impl.load_cases (file : Option Bytes) (state : Impl Binary64) :
    state.load file = (false, state) ∨ ∃ bytes persisted, file = some bytes ∧
      Impl.decode bytes = some persisted ∧
      state.load file = (true, (state.commit persisted).revalidateAll) := by
  rw [Impl.load_eq]
  cases file with
  | none => exact Or.inl rfl
  | some bytes =>
      rw [Option.bind_some]
      cases decoded : Impl.decode bytes with
      | none => exact Or.inl rfl
      | some persisted => exact Or.inr ⟨bytes, persisted, rfl, decoded, rfl⟩

/-- A load that is refused leaves the engine as it is. -/
theorem Impl.load_refused {file : Option Bytes} {state : Impl Binary64}
    (refused : (state.load file).1 = false) : (state.load file).2 = state := by
  rcases Impl.load_cases file state with unchanged | ⟨_, _, -, -, accepted⟩
  · rw [unchanged]
  · rw [accepted] at refused
    exact absurd refused (by simp)

section Committed

variable {state : Impl Binary64} {persisted : Persisted}

/-- The domains of an accepted file, as the recovery pass leaves them. -/
theorem Impl.committed_domain_iff {id : CongestionDomainId} {after : CongestionDomain Binary64} :
    (state.commit persisted).revalidateAll.domains.find? id = some after ↔
      ∃ domain, persisted.domains.find? id = some domain ∧ domain.requireRevalidation = after :=
  UnorderedMap.find?_mapValues_eq_some

/-- The flows of an accepted file, as the recovery pass leaves them. -/
theorem Impl.committed_flow_iff {id : FlowId} {after : Flow Binary64} :
    (state.commit persisted).revalidateAll.flows.find? id = some after ↔
      ∃ flow, persisted.flows.find? id = some flow ∧ flow.requireRevalidation = after :=
  UnorderedMap.find?_mapValues_eq_some

end Committed

/-- An accepted flow passed the accounting check, and recovery parks it. -/
theorem Persisted.Checked.wellAccounted {persisted : Persisted} (checked : persisted.Checked)
    (state : Impl Binary64) : (state.commit persisted).revalidateAll.WellAccounted := by
  intro id after stored
  obtain ⟨flow, found, rfl⟩ := Impl.committed_flow_iff.mp stored
  obtain ⟨entered, inert⟩ := flow.requireRevalidation_inert
  refine .of_inert ?_ entered inert
  have accounting := (checked.flows id flow found).accounting
  unfold Flow.requireRevalidation
  split
  · exact accounting
  · exact accounting

/-- Whatever the file, a load keeps the lifecycle invariant. -/
theorem Impl.WellAccounted.load {state : Impl Binary64} (sound : state.WellAccounted)
    (file : Option Bytes) : (state.load file).2.WellAccounted := by
  rcases Impl.load_cases file state with refused | ⟨bytes, persisted, -, decoded, accepted⟩
  · rw [refused]
    exact sound
  · rw [accepted]
    exact (checked_of_decode decoded).wellAccounted state

theorem Impl.WellAccounted.fileStep {limits : EngineLimits} {state next : Impl Binary64}
    {event : Event} (sound : state.WellAccounted) (taken : FileStep limits state event next) :
    next.WellAccounted := by
  cases taken with
  | engine step => exact sound.step step
  | load file => exact sound.load file

/-! ## Runs that load arbitrary files -/

theorem Impl.WellAccounted.of_reached {limits : EngineLimits}
    {history : List (Impl Binary64 × Event)} {state : Impl Binary64}
    (reached : Run (FileStep limits) Impl.fresh history state) : state.WellAccounted :=
  reached.invariant Impl.WellAccounted Impl.wellAccounted_fresh fun sound taken =>
    sound.fileStep taken

/-- The checked comparisons hold, and the unchecked expressions of
`flow_complete`, `flow_cancel` and `flow_fail` are the mathematical ones: the
remaining bytes, and, where `flow_cancel` reaches it, the sum it compares. -/
structure Flow.Unwrapped {R : Type} [Arithmetic R] (flow : Flow R) : Prop where
  accounting : flow.accountingValid = true
  remaining : flow.completedBytes.value.toNat +
    (flow.admittedBytes.value - flow.completedBytes.value).toNat = flow.admittedBytes.value.toNat
  cancelled : ∀ (cancelledSoFar : UInt64) (cancelled : ByteCounter),
    flow.state.isStaleOrSuperseded = false →
    flowTransitionAllowed flow.state .cancelled = true →
    flow.cancelledBytes.add
      (min cancelledSoFar (flow.admittedBytes.value - flow.completedBytes.value)) =
        some cancelled →
    (flow.completedBytes.value + cancelled.value).toNat =
      flow.completedBytes.value.toNat + cancelled.value.toNat

theorem Flow.WellAccounted.unwrapped {R : Type} [Arithmetic R] {flow : Flow R}
    (sound : flow.WellAccounted) : flow.Unwrapped where
  accounting := sound.accounting
  remaining := by
    have ordered := sound.le.1
    rw [sound.remaining]
    omega
  cancelled soFar cancelled _ allowed added := by
    have live := sound.live_of_mayFinish (Or.inl allowed)
    have ordered := sound.le.1
    have bound := flow.admittedBytes.value.toNat_lt
    have amount := Checked.toNat_min soFar (flow.admittedBytes.value - flow.completedBytes.value)
    -- Nothing was cancelled before, so the counter holds at most what remains.
    rw [ByteCounter.add_eq_some, (sound.unfinished live).1, amount, sound.remaining] at added
    rw [UInt64.toNat_add]
    change 0 + _ = _ at added
    omega

/-- In every state that any run reaches, whatever files it loads, every flow
passes the accounting check and no unchecked byte expression wraps. -/
theorem unwrapped_of_run {limits : EngineLimits} {history : List (Impl Binary64 × Event)}
    {final : Impl Binary64} (run : Run (FileStep limits) Impl.fresh history final) :
    ∀ id flow, final.flows.find? id = some flow → flow.Unwrapped := by
  have sound := Impl.WellAccounted.of_reached run
  exact fun id flow stored => (sound id flow stored).unwrapped

/-- A flow of the largest size makes progress, the engine is saved and loaded,
and a second such flow is started and cancelled. -/
private def largestFlows : List Event :=
  let declared : List Event :=
    [.engine (.call 1 (.registerWorker ⟨1⟩ ⟨1⟩)), .engine (.call 1 (.registerSource ⟨1⟩ ⟨1⟩)),
      .engine (.call 1 (.createDomain DomainKind.nicTx {})),
      .engine (.call 1 (.declareFlow (.ofFirst maxUInt64))),
      .engine (.call 2 (.admitFlow ⟨⟨1⟩, ⟨1⟩⟩)), .engine (.call 3 (.startFlow ⟨⟨1⟩, ⟨1⟩⟩ ⟨1⟩)),
      .engine (.call 4 (.flowProgress ⟨⟨1⟩, ⟨1⟩⟩ ⟨1⟩ 7))]
  declared ++ [.load (some (saveBytes (follow (fun state event => event.next {} state) declared
      Impl.fresh))),
    .engine (.call 5 (.declareFlow (.ofFirst maxUInt64))),
    .engine (.call 6 (.admitFlow ⟨⟨2⟩, ⟨1⟩⟩)), .engine (.call 7 (.startFlow ⟨⟨2⟩, ⟨1⟩⟩ ⟨1⟩)),
    .engine (.call 8 (.flowCancel ⟨⟨2⟩, ⟨1⟩⟩ ⟨1⟩ maxUInt64))]

theorem unwrapped_of_largestFlows :
    (follow (fun state event => event.next {} state) largestFlows Impl.fresh).flows.size = 2 ∧
      ∀ id flow, (follow (fun state event => event.next {} state) largestFlows
        Impl.fresh).flows.find? id = some flow → flow.Unwrapped :=
  ⟨by decide +kernel, unwrapped_of_run (run_follow (fileStep_next {}) largestFlows Run.nil)⟩

end CongestionFabric
