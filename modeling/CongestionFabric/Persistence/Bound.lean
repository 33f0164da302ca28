import CongestionFabric.Engine.Bindings
import CongestionFabric.Foundation.Restart
import CongestionFabric.Persistence.SavedFile

/-!
Contract: a flow is bound to its domain exactly once.

Owns the engines that calls and loads of saved files reach, and the theorem that
their domains list every flow at most once, all domains together, and only flows of
their own that were admitted with all their bytes.
-/

namespace CongestionFabric

open Foundation

/-! ## Engines that load saved files -/

/-- The engines that calls and loads of saved files reach from a fresh one. -/
def Restartable : Impl Binary64 → Prop :=
  Restarted (fun state (taken : EngineLimits × Label Binary64) next =>
    Step taken.1 state taken.2 next) Restores Impl.fresh

variable {state saved target next : Impl Binary64} {holds : Flow Binary64 → Prop}

theorem Restartable.call (reached : Restartable state) (limits : EngineLimits) (now : UInt64)
    (op : Op Binary64) : Restartable (exec limits now op state).2 := by
  have taken : Step ((limits, .call now op) : EngineLimits × Label Binary64).1 state
      ((limits, .call now op) : EngineLimits × Label Binary64).2 (exec limits now op state).2 :=
    .call state now op
  exact Restarted.step reached taken

/-- The lists and the flows of a restored engine are those of the recovered one. -/
theorem Impl.Binds.restores
    (admitted : ∀ flow : Flow Binary64,
      holds { flow with admittedBytes := flow.submittedBytes, state := .admitted })
    (settled : ∀ {flow after : Flow Binary64}, flow.Settled after → holds flow → holds after)
    (binds : saved.Binds holds) (restored : Restores saved target next) : next.Binds holds := by
  have recovered := binds.exec admitted settled {} 0 .recoverDynamicEvidence
  obtain rfl := restored.eq
  refine ⟨recovered.sound, ?_, ?_⟩
  · intro id after stored
    obtain ⟨domain, found, rfl⟩ := Impl.restoredFrom_domain_iff.mp stored
    exact recovered.distinct id domain found
  · intro id after stored
    obtain ⟨domain, found, rfl⟩ := Impl.restoredFrom_domain_iff.mp stored
    exact recovered.listed id domain found

/-- In every engine that calls and loads of saved files reach, every flow identifier
is at most once in the lists of all domains together, and every entry of a list names
an existing flow of that domain, which was admitted with all its bytes. -/
theorem bound_once (reached : Restartable state) :
    (state.domains.entries.flatMap fun entry => entry.2.flows.map EntityRef.id).Nodup ∧
      ∀ id domain, state.domains.find? id = some domain → ∀ ref ∈ domain.flows,
        ∃ flow, state.flows.find? ref.id = some flow ∧ flow.domain.id = id ∧
          flow.admittedBytes = flow.submittedBytes := by
  have settled : ∀ {flow after : Flow Binary64}, flow.Settled after →
      flow.admittedBytes = flow.submittedBytes → after.admittedBytes = after.submittedBytes :=
    fun after whole => after.admitted.trans (whole.trans after.submitted.symm)
  have binds := reached.invariant
    (Impl.Binds fun flow : Flow Binary64 => flow.admittedBytes = flow.submittedBytes)
    Impl.binds_fresh (fun binds taken => binds.step (fun _ => rfl) settled taken)
    (fun binds _ restored => binds.restores (fun _ => rfl) settled restored)
  refine ⟨UnorderedMap.nodup_flatMap_entries binds.distinct ?_, ?_⟩
  · intro key id domain other otherDomain stored otherStored inside otherInside
    obtain ⟨ref, listed, rfl⟩ := List.mem_map.mp inside
    obtain ⟨otherRef, otherListed, same⟩ := List.mem_map.mp otherInside
    obtain ⟨flow, found, names, -⟩ := binds.listed id domain stored ref listed
    obtain ⟨otherFlow, otherFound, otherNames, -⟩ :=
      binds.listed other otherDomain otherStored otherRef otherListed
    rw [same, found] at otherFound
    obtain rfl := Option.some.inj otherFound
    exact names.symm.trans otherNames
  · intro id domain stored ref listed
    obtain ⟨flow, found, names, -, whole⟩ := binds.listed id domain stored ref listed
    exact ⟨flow, found, names, whole⟩

/-- A flow is admitted, its worker dies, and it is revalidated. -/
private def admitsOne : List (UInt64 × Op Binary64) :=
  [(1, .registerWorker ⟨1⟩ ⟨1⟩), (1, .registerSource ⟨1⟩ ⟨1⟩),
    (1, .createDomain DomainKind.nicTx {}), (2, .declareFlow (.ofFirst 100)),
    (3, .admitFlow { id := ⟨1⟩, generation := ⟨1⟩ }), (4, .fenceWorker ⟨1⟩ ⟨1⟩),
    (5, .revalidateFlow { id := ⟨1⟩, generation := ⟨1⟩ } ⟨1⟩)]

theorem restartable_execAll (calls : List (UInt64 × Op Binary64)) :
    ∀ {state : Impl Binary64}, Restartable state → Restartable (execAll {} calls state) := by
  induction calls with
  | nil => exact fun reached => reached
  | cons head tail inductionHypothesis =>
      exact fun reached => inductionHypothesis (reached.call {} head.1 head.2)

/-- The engine that loads the file of that one. -/
private def boundAfterRestart : Impl Binary64 :=
  Impl.fresh.commit (execAll {} admitsOne Impl.fresh).recoverDynamicEvidence.persisted

theorem boundAfterRestart_once :
    boundAfterRestart.domains.entries.flatMap (fun entry => entry.2.flows.map EntityRef.id) =
        [⟨1⟩] ∧
      ∀ id domain, boundAfterRestart.domains.find? id = some domain → ∀ ref ∈ domain.flows,
        ∃ flow, boundAfterRestart.flows.find? ref.id = some flow ∧ flow.domain.id = id ∧
          flow.admittedBytes = flow.submittedBytes := by
  have loadable : (execAll {} admitsOne (Impl.fresh : Impl Binary64)).Loadable := by decide +kernel
  have reached : Restartable boundAfterRestart :=
    .restore (restartable_execAll admitsOne .start) .start
      (load_of_decode (decode_saveBytes loadable) Impl.fresh)
  exact ⟨by decide +kernel, (bound_once reached).2⟩

end CongestionFabric
