import CongestionFabric.Engine.Control
import CongestionFabric.Persistence.FairShares

/-!
Contract: what a restart is for the callers of the engine.

Owns the relation between control states that agree up to the number of slots in use,
and the theorem that an engine which loads a saved file answers every later sequence of
calls as the saved one does that only runs its recovery.

Does not own: evidence, which the file does not keep, and the slots, which a load does
not count again.
-/

namespace CongestionFabric

open Foundation

variable {R : Type} [Arithmetic R]

/-! ## Control states up to the slots -/

/-- The states agree but for the number of slots in use. -/
def Control.ButSlots (left right : Control R) : Prop :=
  left = { right with activeFlows := left.activeFlows }

section Step

variable {limits : EngineLimits} {left right : Control R}

private theorem onFlow_butSlots (same : left.ButSlots right) (ref : EntityRef FlowTag)
    {body : Flow R → Bool × Flow R} {after : Flow R → Control R → Control R}
    (kept : ∀ flow {left right : Control R}, left.ButSlots right →
      (after flow left).ButSlots (after flow right)) :
    (left.onFlow ref body after).1 = (right.onFlow ref body after).1 ∧
      (left.onFlow ref body after).2.ButSlots (right.onFlow ref body after).2 := by
  have resolves : left.resolve ref = right.resolve ref := by
    rw [same]
    rfl
  unfold Control.onFlow
  rw [resolves]
  cases right.resolve ref with
  | none => exact ⟨rfl, same⟩
  | some flow =>
      have written : ({ left with
          flows := Function.update left.flows ref.id (some (body flow).2) } : Control R).ButSlots
            { right with flows := Function.update right.flows ref.id (some (body flow).2) } := by
        unfold Control.ButSlots
        rw [same]
      dsimp only
      split
      · exact ⟨rfl, kept _ written⟩
      · exact ⟨rfl, written⟩

private theorem verdict_butSlots {first second : Bool × Control R}
    (same : first.1 = second.1 ∧ first.2.ButSlots second.2) :
    (first.map (some ∘ (.verdict : Bool → Result R)) id).1 =
        (second.map (some ∘ (.verdict : Bool → Result R)) id).1 ∧
      (first.map (some ∘ (.verdict : Bool → Result R)) id).2.ButSlots
        (second.map (some ∘ (.verdict : Bool → Result R)) id).2 :=
  ⟨congrArg (some ∘ Result.verdict) same.1, same.2⟩

private theorem releaseSlot_butSlots (same : left.ButSlots right) :
    left.releaseSlot.ButSlots right.releaseSlot := by
  unfold Control.releaseSlot Control.ButSlots
  rw [same]

/-- A declaration with a slot to spare. -/
def Control.hasSlot (limits : EngineLimits) (op : Op R) (control : Control R) : Bool :=
  match op with
  | .declareFlow _ => control.activeFlows < limits.maxActiveFlows
  | _ => true

/-- As long as a declaration has a slot to spare, their number decides over nothing. -/
private theorem exec_butSlots (now : UInt64) (op : Op R) (same : left.ButSlots right)
    (room : left.hasSlot limits op = true) (otherRoom : right.hasSlot limits op = true) :
    (Control.exec limits now op left).1 = (Control.exec limits now op right).1 ∧
      (Control.exec limits now op left).2.ButSlots (Control.exec limits now op right).2 := by
  obtain ⟨slots, rfl⟩ : ∃ slots, left = { right with activeFlows := slots } := ⟨_, same⟩
  unfold Control.exec
  cases op with
  | declareFlow options =>
      have authority : ({ right with activeFlows := slots } : Control R).authorizes options =
        right.authorizes options := rfl
      dsimp only
      replace room : decide (slots < limits.maxActiveFlows) = true := room
      replace otherRoom : decide (right.activeFlows < limits.maxActiveFlows) = true := otherRoom
      rw [authority, room, otherRoom]
      split
      · exact ⟨rfl, rfl⟩
      · exact ⟨rfl, rfl⟩
  | admitFlow ref => exact verdict_butSlots (onFlow_butSlots same ref fun flow _ _ same => by
      unfold Control.enlist Control.ButSlots
      rw [same])
  | queueFlow ref => exact verdict_butSlots (onFlow_butSlots same ref fun _ _ _ same => same)
  | startFlow ref boot => exact verdict_butSlots (onFlow_butSlots same ref fun _ _ _ same => same)
  | flowProgress ref boot delta =>
      exact verdict_butSlots (onFlow_butSlots same ref fun _ _ _ same => same)
  | flowComplete ref boot =>
      exact verdict_butSlots (onFlow_butSlots same ref fun _ _ _ same => releaseSlot_butSlots same)
  | flowCancel ref boot soFar =>
      exact verdict_butSlots (onFlow_butSlots same ref fun _ _ _ same => releaseSlot_butSlots same)
  | flowFail ref boot =>
      exact verdict_butSlots (onFlow_butSlots same ref fun _ _ _ same => releaseSlot_butSlots same)
  | revalidateFlow ref boot =>
      exact verdict_butSlots (onFlow_butSlots same ref fun _ _ _ same => same)
  | advanceFlowGeneration ref next =>
      dsimp only
      split
      · exact ⟨rfl, rfl⟩
      · exact ⟨rfl, rfl⟩
  | fenceWorker worker deadBoot =>
      dsimp only
      split
      · exact ⟨rfl, rfl⟩
      · exact ⟨rfl, rfl⟩
  | fenceSource source deadBoot =>
      dsimp only
      split
      · exact ⟨rfl, rfl⟩
      · exact ⟨rfl, rfl⟩
  | createDomain kind capacity =>
      dsimp only
      split
      · exact ⟨rfl, rfl⟩
      · exact ⟨rfl, rfl⟩
  | removeDomain id =>
      dsimp only
      split
      · exact ⟨rfl, rfl⟩
      · exact ⟨rfl, rfl⟩
  | _ => exact ⟨rfl, rfl⟩

end Step

/-! ## Sequences of calls -/

/-- What a sequence of calls is answered, assessments apart. -/
def answers (limits : EngineLimits) (calls : List (UInt64 × Op R)) (state : Impl R) :
    List (Option (Result R)) :=
  (trace limits calls state).map fun taken => taken.2.answer limits taken.1

/-- Every declaration of the sequence finds a slot. -/
def slotsSpare (limits : EngineLimits) : List (UInt64 × Op R) → Impl R → Bool
  | [], _ => true
  | (now, op) :: rest, state =>
      state.control.hasSlot limits op && slotsSpare limits rest (exec limits now op state).2

section Calls

variable {limits : EngineLimits}

private theorem execAll_butSlots (calls : List (UInt64 × Op R)) :
    ∀ {left right : Impl R}, left.control.ButSlots right.control →
      slotsSpare limits calls left = true → slotsSpare limits calls right = true →
        answers limits calls left = answers limits calls right ∧
          (execAll limits calls left).control.ButSlots (execAll limits calls right).control := by
  induction calls with
  | nil => exact fun same _ _ => ⟨rfl, same⟩
  | cons head rest inductionHypothesis =>
      intro left right same spare otherSpare
      obtain ⟨room, later⟩ := Bool.and_eq_true_iff.mp spare
      obtain ⟨otherRoom, otherLater⟩ := Bool.and_eq_true_iff.mp otherSpare
      have step := exec_control limits head.1 head.2 left
      have otherStep := exec_control limits head.1 head.2 right
      obtain ⟨answer, kept⟩ := exec_butSlots head.1 head.2 same room otherRoom
      rw [← step, ← otherStep] at answer kept
      obtain ⟨rest, ends⟩ := inductionHypothesis kept later otherLater
      exact ⟨congrArg₂ List.cons answer rest, ends⟩

end Calls

/-! ## Restarts -/

/-- The control state of an engine that loads the file of another one. -/
theorem Impl.control_restoredFrom (state saved : Impl R) :
    (state.restoredFrom saved).control =
      { saved.recoverDynamicEvidence.control with activeFlows := state.activeFlows } := by
  have size : (saved.recoverDynamicEvidence.domains.mapValues fun _ domain => domain.persisted).size =
      saved.recoverDynamicEvidence.domains.size := List.length_map _
  have bindings : (fun id => ((saved.recoverDynamicEvidence.domains.mapValues
      fun _ domain => domain.persisted).find? id).map CongestionDomain.binding) =
        fun id => (saved.recoverDynamicEvidence.domains.find? id).map
          CongestionDomain.binding := by
    funext id
    rw [UnorderedMap.find?_mapValues, Option.map_map]
    rfl
  simp only [Impl.control, Impl.restoredFrom, size, bindings]

/-- A restart is transparent to the callers, evidence apart: as long as every declaration
finds a slot in both engines, an engine that loads a saved file answers every sequence of
calls as the saved engine does that only runs its recovery, and both end with the same
flows, boots and lists and the same next numbers of domains and flows. -/
theorem restart_transparent {limits : EngineLimits} {saved state next : Impl Binary64}
    (restored : Restores saved state next) (calls : List (UInt64 × Op Binary64))
    (spare : slotsSpare limits calls saved.recoverDynamicEvidence = true)
    (loaderSpare : slotsSpare limits calls next = true) :
    answers limits calls next = answers limits calls saved.recoverDynamicEvidence ∧
      (execAll limits calls next).control.ButSlots
        (execAll limits calls saved.recoverDynamicEvidence).control := by
  obtain rfl := restored.eq
  apply execAll_butSlots calls
  · rw [Impl.control_restoredFrom]
    rfl
  · exact loaderSpare
  · exact spare

/-- An engine whose flow is running when it is saved. -/
private def carries : Impl Binary64 :=
  execAll {} [(1, .registerWorker ⟨1⟩ ⟨1⟩), (1, .registerSource ⟨1⟩ ⟨1⟩),
    (1, .createDomain DomainKind.nicTx {}), (2, .declareFlow (.ofFirst 10)),
    (2, .admitFlow ⟨⟨1⟩, ⟨1⟩⟩), (2, .startFlow ⟨⟨1⟩, ⟨1⟩⟩ ⟨1⟩)] Impl.fresh

/-- The running flow is not resumed; a second one is declared and admitted. -/
private def resumes : List (UInt64 × Op Binary64) :=
  [(3, .flowProgress ⟨⟨1⟩, ⟨1⟩⟩ ⟨1⟩ 5), (4, .declareFlow (.ofFirst 20)),
    (4, .admitFlow ⟨⟨2⟩, ⟨1⟩⟩)]

theorem restart_transparent_carries :
    ((execAll {} resumes (Impl.fresh.restoredFrom carries)).flows.find? ⟨2⟩).map Flow.state =
        some .admitted ∧
      answers {} resumes (Impl.fresh.restoredFrom carries) =
        answers {} resumes carries.recoverDynamicEvidence ∧
      (execAll {} resumes (Impl.fresh.restoredFrom carries)).control.ButSlots
        (execAll {} resumes carries.recoverDynamicEvidence).control := by
  obtain ⟨admitted, loadable, spare, loaderSpare⟩ :
      ((execAll {} resumes (Impl.fresh.restoredFrom carries)).flows.find? ⟨2⟩).map Flow.state =
          some .admitted ∧
        carries.Loadable ∧
        slotsSpare {} resumes carries.recoverDynamicEvidence = true ∧
        slotsSpare {} resumes (Impl.fresh.restoredFrom carries) = true := by
    decide +kernel
  have restored : Restores carries Impl.fresh (Impl.fresh.restoredFrom carries) :=
    load_of_decode (decode_saveBytes loadable) Impl.fresh
  exact ⟨admitted, restart_transparent restored resumes spare loaderSpare⟩

end CongestionFabric
