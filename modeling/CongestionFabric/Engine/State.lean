import CongestionFabric.Foundation.UnorderedMap
import CongestionFabric.Model.Domain

/-!
Contract: the state of the engine (`struct CongestionFabric::Impl` and
`EngineLimits` of `engine.hpp`).

Owns the state record, the limits that operations compare against, a fresh
engine, the lookup of a flow reference, the skeleton every flow operation
follows, and the relation between states that differ only in the enumeration
order of their maps.

Every public operation takes the engine's lock for its whole body, so an
operation is a function from a state to a result and a state. A reading of the
clock is an argument.
-/

namespace CongestionFabric

open Foundation

/-- `EngineLimits`, less the limits on paths and texts. The operations read all but
`max_queued_bytes`. -/
structure EngineLimits where
  maxDomains : UInt64 := 4096
  maxActiveFlows : UInt64 := 200000
  maxFlowHistory : UInt64 := 1000000
  maxEpisodeHistoryPerDomain : UInt64 := 256
  maxQueueDepthOps : UInt64 := 1073741824
  maxQueuedBytes : UInt64 := 9223372036854775807

/-- `CongestionFabric::Impl`. -/
structure Impl (R : Type) [Arithmetic R] where
  epoch : CoordinatorEpoch := {}
  workerBoot : UnorderedMap WorkerId WorkerBootId := .empty
  sourceBoot : UnorderedMap SourceId SourceBootId := .empty
  domains : UnorderedMap CongestionDomainId (CongestionDomain R) := .empty
  flows : UnorderedMap FlowId (Flow R) := .empty
  flowHistory : List FlowId := []
  nextDomain : UInt64 := 1
  nextFlow : UInt64 := 1
  nextEvent : UInt64 := 1
  nextPolicy : UInt64 := 1
  activeFlows : UInt64 := 0
  recovered : Bool := false

variable {R : Type} [Arithmetic R]

namespace Impl

/-- The state the constructor of `CongestionFabric` leaves. -/
def fresh : Impl R := { epoch := ⟨1⟩ }

/-- The two states hold the same data; only the enumeration order of the maps,
which the containers do not promise, may differ. -/
structure Reordered (left right : Impl R) : Prop where
  workerBoot : left.workerBoot.Same right.workerBoot
  sourceBoot : left.sourceBoot.Same right.sourceBoot
  domains : left.domains.Same right.domains
  flows : left.flows.Same right.flows
  rest : left = { right with
    workerBoot := left.workerBoot
    sourceBoot := left.sourceBoot
    domains := left.domains
    flows := left.flows }

theorem Reordered.refl (state : Impl R) : state.Reordered state :=
  ⟨.refl _, .refl _, .refl _, .refl _, rfl⟩

end Impl

/-! ## Flow references -/

/-- `find_flow` and `find_flow_mut`: the generation of the reference must be the
current one. -/
def findFlow (flows : UnorderedMap FlowId (Flow R)) (ref : EntityRef FlowTag) :
    Option (Flow R) :=
  match flows.find? ref.id with
  | none => none
  | some flow => if flow.ref.generation ≠ ref.generation then none else some flow

theorem findFlow_eq_some {flows : UnorderedMap FlowId (Flow R)} {ref : EntityRef FlowTag}
    {flow : Flow R} :
    findFlow flows ref = some flow ↔
      flows.find? ref.id = some flow ∧ flow.ref.generation = ref.generation := by
  unfold findFlow
  cases found : flows.find? ref.id with
  | none => simp
  | some stored =>
      by_cases current : stored.ref.generation = ref.generation
      · simp only [current, ne_eq, not_true_eq_false, if_false, Option.some.injEq]
        constructor
        · rintro rfl
          exact ⟨rfl, current⟩
        · exact And.left
      · simp only [current, ne_eq, not_false_eq_true, if_true, reduceCtorEq, Option.some.injEq,
          false_iff, not_and]
        rintro rfl
        exact current

/-! ## The shape of a flow operation -/

namespace Impl

/-- Update the record of a domain, if the map has it. -/
def onDomain (state : Impl R) (id : CongestionDomainId)
    (update : CongestionDomain R → CongestionDomain R) : Impl R :=
  match state.domains.find? id with
  | none => state
  | some domain => { state with domains := state.domains.modify id (update domain) }

/-- Look the flow up, run a body on its record, keep the record as the body
leaves it (also when the body fails late), and on success continue with the
rest of the state. -/
def onFlow (state : Impl R) (ref : EntityRef FlowTag) (body : Flow R → Bool × Flow R)
    (after : Flow R → Impl R → Impl R) : Bool × Impl R :=
  match findFlow state.flows ref with
  | none => (false, state)
  | some flow =>
      let written := { state with flows := state.flows.modify ref.id (body flow).2 }
      if (body flow).1 then (true, after (body flow).2 written) else (false, written)

variable {state : Impl R} {ref : EntityRef FlowTag} {body : Flow R → Bool × Flow R}
  {after : Flow R → Impl R → Impl R}

/-- Updating a domain touches nothing but the domain map. -/
theorem onDomain_eq (state : Impl R) (id : CongestionDomainId)
    (update : CongestionDomain R → CongestionDomain R) :
    state.onDomain id update =
      { state with domains := state.domains.mapValues fun key domain =>
          if key = id then update domain else domain } := by
  unfold onDomain
  cases found : state.domains.find? id with
  | none =>
      have unchanged : (state.domains.mapValues fun key domain =>
          if key = id then update domain else domain) = state.domains := by
        apply UnorderedMap.ext_entries
        conv_rhs => rw [← List.map_id state.domains.entries]
        apply List.map_congr_left
        rintro ⟨key, domain⟩ member
        have other : key ≠ id := by
          rintro rfl
          rw [UnorderedMap.mem_entries_iff.mp member] at found
          exact absurd found (by simp)
        simp [other]
      rw [unchanged]
  | some domain =>
      have same : state.domains.modify id (update domain) = state.domains.mapValues
          fun key domain => if key = id then update domain else domain := by
        apply UnorderedMap.ext_entries
        apply List.map_congr_left
        rintro ⟨key, stored⟩ member
        by_cases here : key = id
        · subst here
          rw [UnorderedMap.mem_entries_iff.mp member] at found
          simp [Option.some.inj found]
        · simp [here]
      simp only [same]

/-- A part of the state that does not look at the flow records is what the
continuation of a flow operation makes of it. -/
theorem onFlow_frame {P : Type} {part : Impl R → P}
    (apart : ∀ (state : Impl R) flows, part { state with flows := flows } = part state)
    (frame : ∀ flow state, part (after flow state) = part state) :
    part (state.onFlow ref body after).2 = part state := by
  unfold onFlow
  cases findFlow state.flows ref with
  | none => rfl
  | some flow =>
      dsimp only
      split
      · rw [frame, apart]
      · exact apart state _

/-- A flow operation is accepted exactly when its body accepts the flow that
the reference names. -/
theorem onFlow_accepted :
    (state.onFlow ref body after).1 = true ↔
      ∃ flow, findFlow state.flows ref = some flow ∧ (body flow).1 = true := by
  unfold onFlow
  cases findFlow state.flows ref with
  | none => simp
  | some flow =>
      cases verdict : (body flow).1 with
      | true => simp [verdict]
      | false => simp [verdict]

end Impl

end CongestionFabric
