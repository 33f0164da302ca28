import CongestionFabric.Engine.Accounting

/-!
Contract: what becomes of a flow that nobody can act on.

Owns the counters of a flow as a whole, and the fact that along every run without
files a terminal flow keeps its record, while a STALE flow and one that awaits
revalidation keep their counters and stay in these two states.

Does not own: slots, which a finished flow gives back.
-/

namespace CongestionFabric

open Foundation

variable {R : Type} [Arithmetic R]

/-- The seven byte counters of a flow. -/
def Flow.counters (flow : Flow R) : List ByteCounter :=
  [flow.expectedBytes, flow.submittedBytes, flow.admittedBytes, flow.inFlightBytes,
    flow.completedBytes, flow.failedBytes, flow.cancelledBytes]

/-- The later record has the same counters, and the same state unless the flow
was parked in between. -/
structure Flow.Inherits (flow after : Flow R) : Prop where
  counters : after.counters = flow.counters
  state : after.state = flow.state ∨ flow.isTerminal = false ∧ after.state.isParked = true

variable {limits : EngineLimits} {now : UInt64} {op : Op R} {state final : Impl R} {id : FlowId}
  {flow : Flow R}

theorem FlowState.inert_of_isParked {state : FlowState} (parked : state.isParked = true) :
    state.live = false := by
  cases state <;> simp_all [FlowState.isParked, FlowState.live]

theorem FlowState.inert_of_isTerminal {state : FlowState} (terminal : state.isTerminal = true) :
    state.live = false := by
  cases state <;> simp_all [FlowState.isTerminal, FlowState.live]

theorem Flow.Inherits.inert {after : Flow R} (inherits : flow.Inherits after)
    (inert : flow.state.live = false) : after.state.live = false := by
  rcases inherits.state with same | ⟨-, parked⟩
  · rw [same]
    exact inert
  · exact FlowState.inert_of_isParked parked

/-- One operation. -/
private theorem Flow.Inherits.after {before : Flow R} (inherits : flow.Inherits before)
    (inert : flow.state.live = false) (sound : before.WellAccounted) (limits : EngineLimits)
    (now : UInt64) (op : Op R) (state : Impl R) (id : FlowId) :
    flow.Inherits (flowAfter limits now op state id before) := by
  have parked := sound.parked (inherits.inert inert) limits now op state id
  refine ⟨?_, ?_⟩
  · obtain ⟨generation, reached, written⟩ := parked.record
    rw [written]
    exact inherits.counters
  · rcases parked.state with same | ⟨notTerminal, moved⟩
    · rw [same]
      exact inherits.state
    · right
      constructor
      · rcases inherits.state with same | ⟨notTerminal, -⟩
        · rwa [Flow.isTerminal, same] at notTerminal
        · exact notTerminal
      · rcases moved with awaits | ⟨-, stale⟩
        · simp [awaits, FlowState.isParked]
        · simp [stale, FlowState.isParked]

/-- Every continuation. -/
theorem inherits_of_run {history : List (Impl R × Label R)} (sound : state.WellAccounted)
    (stored : state.flows.find? id = some flow) (inert : flow.state.live = false)
    (later : Run (Step limits) state history final) :
    ∃ after, final.flows.find? id = some after ∧ flow.Inherits after := by
  have both := later.invariant
    (fun reached => reached.WellAccounted ∧
      ∃ after, reached.flows.find? id = some after ∧ flow.Inherits after)
    ⟨sound, flow, stored, rfl, Or.inl rfl⟩ ?_
  · exact both.2
  · rintro reached label next ⟨accounted, before, found, inherits⟩ taken
    refine ⟨accounted.step taken, ?_⟩
    cases taken with
    | call now op =>
        exact ⟨_, exec_flow found,
          inherits.after inert (accounted id before found) limits now op reached id⟩
    | rehash same =>
        rw [← same.flows.find?_eq]
        exact ⟨before, found, inherits⟩

end CongestionFabric
