import CongestionFabric.Engine.Slots
import CongestionFabric.Persistence.Loaded

/-!
Contract: the counter `active_flows_` as a count of the flow map.

Owns the statement that the counter is the number of flows that are not terminal,
with what it means for `declare_flow`, the steps that break it, and the theorem
that identifies the runs that keep it.

`load` replaces the flows and leaves the counter as it was in the loading engine.
`declare_flow` counts a flow also when its number is already in use.
-/

namespace CongestionFabric

open Foundation

/-- The checks of `declare_flow` other than the one on room. -/
structure Authorized (options : FlowOptions Binary64) (state : Impl Binary64) : Prop where
  ownerWorker : options.ownerWorker.value ≠ 0
  ownerBoot : options.ownerBoot.value ≠ 0
  source : options.source.value ≠ 0
  sourceBoot : options.sourceBoot.value ≠ 0
  workerRecorded : state.workerBoot.find? options.ownerWorker = some options.ownerBoot
  sourceRecorded : state.sourceBoot.find? options.source = some options.sourceBoot
  domainId : options.domain.id.value ≠ 0
  domainExists : state.domains.contains options.domain.id = true

/-- The counter is the number of flows that are not terminal, and an authorized
declaration is refused exactly when that many flows reach the limit. -/
def Impl.SlotsExact (limits : EngineLimits) (state : Impl Binary64) : Prop :=
  state.activeFlows.toNat = state.openFlows ∧
    ∀ now options, Authorized options state →
      (state.declareFlow limits now options = ({}, state) ↔
        limits.maxActiveFlows.toNat ≤ state.openFlows)

/-- A declaration finds its number unused, and a loaded file has as many flows
that are not terminal as the counter says. -/
def KeepsSlots (limits : EngineLimits) (state : Impl Binary64) : Event → Prop
  | .engine (.call _ (.declareFlow options)) =>
      Declarable limits options state → state.flows.find? ⟨state.nextFlow⟩ = none
  | .load file => ∀ persisted ∈ file.bind Impl.decode,
      persisted.flows.count (fun flow => !flow.isTerminal) = state.activeFlows.toNat
  | _ => True

instance (limits : EngineLimits) (state : Impl Binary64) (event : Event) :
    Decidable (KeepsSlots limits state event) := by
  unfold KeepsSlots
  split <;> infer_instance

variable {limits : EngineLimits} {state next : Impl Binary64} {options : FlowOptions Binary64}
  {event : Event} {now : UInt64}

/-! ## The counter and the verdict of a declaration -/

private theorem Authorized.declarable_iff (authorized : Authorized options state) :
    Declarable limits options state ↔ state.activeFlows < limits.maxActiveFlows := by
  constructor
  · exact fun declarable => declarable.room
  · intro room
    exact ⟨authorized.ownerWorker, authorized.ownerBoot, authorized.source,
      authorized.sourceBoot, authorized.workerRecorded, authorized.sourceRecorded,
      authorized.domainId, authorized.domainExists, room⟩

private theorem declareFlow_refused_iff :
    state.declareFlow limits now options = ({}, state) ↔ ¬Declarable limits options state := by
  constructor
  · intro refused declarable
    rw [declareFlow_of_declarable declarable] at refused
    have numbers : state.nextFlow + 1 = state.nextFlow :=
      congrArg (fun outcome => outcome.2.nextFlow) refused
    have moved := congrArg UInt64.toNat numbers
    have bound := state.nextFlow.toNat_lt
    rw [UInt64.toNat_add, UInt64.toNat_one] at moved
    omega
  · exact declareFlow_of_not_declarable

private theorem slotsExact_iff :
    state.SlotsExact limits ↔ state.activeFlows.toNat = state.openFlows := by
  refine and_iff_left_of_imp fun counted now options authorized => ?_
  rw [declareFlow_refused_iff, authorized.declarable_iff, UInt64.not_lt,
    UInt64.le_iff_toNat_le, counted]

/-! ## Steps and runs -/

private theorem isTerminal_requireRevalidation (flow : Flow Binary64) :
    flow.requireRevalidation.isTerminal = flow.isTerminal := by
  unfold Flow.requireRevalidation
  split
  · next running =>
      simp only [Bool.and_eq_true, Bool.not_eq_true'] at running
      rw [running.1]
      rfl
  · rfl

/-- Recovery finishes no flow, so a load brings the open flows of its file. -/
theorem openFlows_load {file : Option Bytes} {persisted : Persisted}
    (decoded : file.bind Impl.decode = some persisted) :
    (state.load file).2.openFlows = persisted.flows.count fun flow => !flow.isTerminal := by
  have loaded : (state.load file).2 = (state.commit persisted).revalidateAll := by
    simp only [Impl.load_eq, decoded]
  rw [loaded]
  apply UnorderedMap.count_eq_of_mem_iff
  intro key
  simp only [UnorderedMap.mem_keysWhere, Impl.revalidateAll, Impl.commit,
    UnorderedMap.find?_mapValues_eq_some]
  constructor
  · rintro ⟨_, ⟨flow, found, rfl⟩, running⟩
    rw [isTerminal_requireRevalidation] at running
    exact ⟨flow, found, running⟩
  · rintro ⟨flow, found, running⟩
    refine ⟨_, ⟨flow, found, rfl⟩, ?_⟩
    rw [isTerminal_requireRevalidation]
    exact running

theorem activeFlows_load (file : Option Bytes) :
    (state.load file).2.activeFlows = state.activeFlows := by
  rw [Impl.load_eq]
  split <;> rfl

/-- One call of the engine breaks the count only by reusing a number. -/
private theorem keepsSlots_exec_iff (sound : state.WellAccounted)
    (counted : state.activeFlows.toNat = state.openFlows) (now : UInt64) (op : Op Binary64) :
    KeepsSlots limits state (.engine (.call now op)) ↔
      (exec limits now op state).2.activeFlows.toNat = (exec limits now op state).2.openFlows := by
  cases exec_slots sound limits now op with
  | takes options declares declarable counter flows =>
      subst declares
      rw [counter, flows, declarable.toNat_add_one]
      unfold KeepsSlots
      by_cases unused : state.flows.find? ⟨state.nextFlow⟩ = none
      · rw [if_pos unused, counted]
        exact iff_of_true (fun _ => unused) rfl
      · rw [if_neg unused]
        refine iff_of_false (fun keeps => unused (keeps declarable)) ?_
        omega
  | gives id flow stored finishes counter flows =>
      have given := Impl.releaseSlot_toNat (by omega : 0 < state.activeFlows.toNat)
      rw [counter]
      refine iff_of_true ?_ (by omega)
      cases op with
      | declareFlow options => exact absurd finishes Bool.false_ne_true
      | _ => trivial
  | leaves undeclared unfinished counter flows =>
      rw [counter, flows]
      refine iff_of_true ?_ counted
      cases op with
      | declareFlow options =>
          exact fun declarable => absurd declarable (undeclared options rfl)
      | _ => trivial

private theorem keepsSlots_iff (sound : state.WellAccounted) (counts : state.SlotsExact limits)
    (taken : FileStep limits state event next) :
    KeepsSlots limits state event ↔ next.SlotsExact limits := by
  rw [slotsExact_iff] at counts ⊢
  cases taken with
  | engine step =>
      cases step with
      | call now op => exact keepsSlots_exec_iff sound counts now op
      | rehash same =>
          rw [same.activeFlows_eq, same.openFlows_eq]
          exact iff_of_true trivial counts
  | load file =>
      rw [activeFlows_load]
      cases decoded : file.bind Impl.decode with
      | none =>
          have refused : (state.load file).2 = state := by simp only [Impl.load_eq, decoded]
          rw [refused]
          refine iff_of_true (fun persisted found => ?_) counts
          rw [decoded] at found
          exact absurd found (by simp)
      | some persisted =>
          rw [openFlows_load decoded]
          constructor
          · exact fun keeps => (keeps persisted decoded).symm
          · intro same other found
            obtain rfl := Option.some.inj (decoded.symm.trans found)
            exact same.symm

/-- Along every run from a fresh engine, whatever files it loads, the counter is
the number of flows that are not terminal in every state exactly if every
declaration finds its number unused and every loaded file has as many such flows
as the engine that loads it. -/
theorem slotsExact_throughout_iff {history : List (Impl Binary64 × Event)}
    {final : Impl Binary64} (run : Run (FileStep limits) Impl.fresh history final) :
    (∀ taken ∈ history, KeepsSlots limits taken.1 taken.2) ↔
      Throughout history final fun _ reached => reached.SlotsExact limits := by
  apply run.forall_iff_throughout Impl.WellAccounted (KeepsSlots limits)
    Impl.wellAccounted_fresh
  · exact slotsExact_iff.mpr rfl
  · exact fun sound taken => sound.fileStep taken
  · exact keepsSlots_iff

private def occupyOne : List Event :=
  [.engine (.call 1 (.registerWorker ⟨1⟩ ⟨1⟩)), .engine (.call 1 (.registerSource ⟨1⟩ ⟨1⟩)),
    .engine (.call 1 (.createDomain DomainKind.nicTx {})),
    .engine (.call 2 (.declareFlow (.ofFirst 100)))]

private def occupiedFile : Bytes :=
  saveBytes (follow (fun state event => event.next {} state) occupyOne Impl.fresh)

/-- The engine that saved the file loads it again. -/
private def reloaded : List Event := occupyOne ++ [.load (some occupiedFile)]

theorem reloaded_slotsExact :
    (follow (fun state event => event.next {} state) reloaded Impl.fresh).openFlows = 1 ∧
      Throughout ([] ++ followed (fun state event => event.next {} state) reloaded Impl.fresh)
        (follow (fun state event => event.next {} state) reloaded Impl.fresh)
        fun _ reached => reached.SlotsExact {} := by
  have evaluated :
      (follow (fun state event => event.next {} state) reloaded Impl.fresh).openFlows = 1 ∧
        ∀ taken ∈ followed (fun state event => event.next {} state) reloaded Impl.fresh,
          KeepsSlots {} taken.1 taken.2 := by
    decide +kernel
  exact ⟨evaluated.1, (slotsExact_throughout_iff
    (run_follow (fileStep_next {}) reloaded Run.nil)).mp evaluated.2⟩

/-- A fresh engine that loads the file has a flow and no slot in use. -/
theorem loadedElsewhere_not_slotsExact :
    ¬∀ (limits : EngineLimits) (history : List (Impl Binary64 × Event)) (final : Impl Binary64),
      Run (FileStep limits) Impl.fresh history final →
        Throughout history final fun _ reached => reached.SlotsExact limits := by
  intro always
  have loadable : (follow (fun state event => event.next {} state) occupyOne
      (Impl.fresh : Impl Binary64)).Loadable := by decide +kernel
  have run : Run (FileStep {}) Impl.fresh _ (Impl.fresh.load (some occupiedFile)).2 :=
    Run.nil.snoc (.load Impl.fresh (some occupiedFile))
  rw [occupiedFile, load_of_decode (decode_saveBytes loadable) Impl.fresh] at run
  have counts := (always {} _ _ run).2
  exact absurd counts.1 (by decide +kernel)

end CongestionFabric
