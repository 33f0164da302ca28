import CongestionFabric.Coordinator.Session
import CongestionFabric.Persistence.Loaded

/-!
Contract: what one step of the coordinator does.

Owns the engine operation behind every input, the rule for a property of all
sessions, the fact that a session that has ended stays as it is, and the
accounting invariant of every engine a coordinator reaches.

Does not own: any property of registrations, flows or evidence.
-/

namespace CongestionFabric

open Foundation

/-! ## The engine -/

/-- The engine operation of the first call of `handle`, if it makes one that can
change the engine. -/
def Session.firstCall (session : Session) : Option Request → Option (Op Binary64)
  | some (.register worker boot _ _) => some (.registerWorker worker boot)
  | some (.createDomain kind capacity) => some (.createDomain kind capacity)
  | some (.declareFlow options) => some (.declareFlow options)
  | some (.operation op) => some op
  | some (.publishMeasurement domain measurement) =>
      if session.ctxWid.isValid then
        some (.publishMeasurement domain measurement session.ctxWid session.ctxBoot)
      else none
  | some (.queryCongestion domain) => some (.recomputeDomain domain)
  | _ => none

/-- The engine operation of the second call of `handle`. -/
def Session.secondCall (session : Session) : Option (Op Binary64) :=
  match session.phase with
  | .registering pending => some (.registerSource pending.source pending.sourceBoot)
  | _ => none

/-- The engine operation at the end of `session`. -/
def Session.lastCall (session : Session) : Option (Op Binary64) :=
  if session.ctxWid.isValid then some (.fenceWorker session.ctxWid session.ctxBoot) else none

/-- The engine after an operation that may be missing. -/
def Impl.after (limits : EngineLimits) (now : UInt64) (engine : Impl Binary64) :
    Option (Op Binary64) → Impl Binary64
  | none => engine
  | some op => (exec limits now op engine).2

theorem handle_engine (limits : EngineLimits) (now : UInt64) (saved stop : Bool)
    (request : Option Request) (engine : Impl Binary64) (session : Session) :
    (handle limits now saved stop request engine session).1 =
      engine.after limits now (session.firstCall request) := by
  cases request with
  | none => rfl
  | some request =>
      cases request with
      | publishMeasurement domain measurement =>
          unfold handle Session.firstCall
          cases session.ctxWid.isValid <;> rfl
      | _ => rfl

theorem finish_engine (limits : EngineLimits) (stop : Bool) (engine : Impl Binary64)
    (session : Session) :
    (finish stop engine session).1 = engine.after limits 0 session.secondCall := by
  unfold finish Session.secondCall
  cases session.phase <;> rfl

theorem leave_engine (limits : EngineLimits) (engine : Impl Binary64) (session : Session) :
    (leave engine session).1 = engine.after limits 0 session.lastCall := by
  unfold leave Session.lastCall
  cases session.ctxWid.isValid <;> rfl

namespace Coordinator

/-- The engine operation of an input, with its clock. -/
def call (coordinator : Coordinator) (input : Input) : Option (UInt64 × Op Binary64) :=
  match coordinator.taker input, input with
  | some session, .frame _ now _ frame =>
      (session.firstCall (Request.ofFrame frame)).map fun op => (now, op)
  | some session, .resume _ => session.secondCall.map fun op => (0, op)
  | some session, .disconnect _ => session.lastCall.map fun op => (0, op)
  | _, _ => none

/-- Every input makes at most one engine operation. -/
theorem next_engine (limits : EngineLimits) (coordinator : Coordinator) (input : Input) :
    (coordinator.next limits input).engine =
      match coordinator.call input with
      | none => coordinator.engine
      | some call => (exec limits call.1 call.2 coordinator.engine).2 := by
  unfold next call
  cases taken : coordinator.taker input with
  | none => cases input <;> rfl
  | some session =>
      cases input with
      | accept => exact absurd taken (by simp [taker])
      | rehash => exact absurd taken (by simp [taker])
      | frame index now saved frame =>
          simp only [handle_engine]
          cases session.firstCall (Request.ofFrame frame) <;> rfl
      | resume index =>
          simp only [finish_engine limits]
          cases session.secondCall <;> rfl
      | disconnect index =>
          simp only [leave_engine limits]
          cases session.lastCall <;> rfl

/-! ## Sessions -/

variable {limits : EngineLimits} {coordinator : Coordinator} {input : Input}

/-- Where a session comes from: it was there, it is new, or it took the input. -/
theorem session_next {index : Nat} {after : Session}
    (found : (coordinator.next limits input).sessions[index]? = some after) :
    coordinator.sessions[index]? = some after ∨
      after = { phase := if coordinator.stop then .leaving else .waiting } ∨
      ∃ session, coordinator.taker input = some session ∧
        ((∃ now saved body, input = .frame index now saved body ∧
            after = (handle limits now saved coordinator.stop (Request.ofFrame body)
              coordinator.engine session).2.1) ∨
          (input = .resume index ∧
            after = (finish coordinator.stop coordinator.engine session).2) ∨
          input = .disconnect index ∧ after = (leave coordinator.engine session).2) := by
  have updated : ∀ {place : Nat} {new : Session},
      (coordinator.sessions.set place new)[index]? = some after →
        coordinator.sessions[index]? = some after ∨ place = index ∧ after = new := by
    intro place new found
    rw [List.getElem?_set] at found
    split at found
    · next here =>
        split at found
        · exact Or.inr ⟨here, (Option.some.inj found).symm⟩
        · exact absurd found (by simp)
    · exact Or.inl found
  unfold next at found
  cases taken : coordinator.taker input with
  | none =>
      cases input with
      | accept =>
          change (coordinator.sessions ++ _)[index]? = some after at found
          rw [List.getElem?_append] at found
          split at found
          · exact Or.inl found
          · exact Or.inr (Or.inl (List.mem_singleton.mp (List.mem_of_getElem? found)))
      | _ => exact Or.inl (by simpa only [taken] using found)
  | some session =>
      simp only [taken] at found
      cases input with
      | accept => exact absurd taken (by simp [taker])
      | rehash => exact absurd taken (by simp [taker])
      | frame place now saved body =>
          rcases updated found with old | ⟨rfl, new⟩
          · exact Or.inl old
          · exact Or.inr (Or.inr ⟨session, rfl, Or.inl ⟨now, saved, body, rfl, new⟩⟩)
      | resume place =>
          rcases updated found with old | ⟨rfl, new⟩
          · exact Or.inl old
          · exact Or.inr (Or.inr ⟨session, rfl, Or.inr (Or.inl ⟨rfl, new⟩)⟩)
      | disconnect place =>
          rcases updated found with old | ⟨rfl, new⟩
          · exact Or.inl old
          · exact Or.inr (Or.inr ⟨session, rfl, Or.inr (Or.inr ⟨rfl, new⟩)⟩)

/-- A property of all sessions after an input: it holds of those there were, of
a new one, and of the one that took the input. -/
theorem forall_session_next {motive : Session → Prop}
    (same : ∀ session ∈ coordinator.sessions, motive session)
    (accept : motive { phase := if coordinator.stop then .leaving else .waiting })
    (frame : ∀ index now saved body session, input = .frame index now saved body →
      coordinator.taker input = some session →
      motive (handle limits now saved coordinator.stop (Request.ofFrame body)
        coordinator.engine session).2.1)
    (resume : ∀ index session, input = .resume index →
      coordinator.taker input = some session →
      motive (finish coordinator.stop coordinator.engine session).2)
    (disconnect : ∀ index session, input = .disconnect index →
      coordinator.taker input = some session →
      motive (leave coordinator.engine session).2) :
    ∀ session ∈ (coordinator.next limits input).sessions, motive session := by
  intro after member
  obtain ⟨index, found⟩ := List.mem_iff_getElem?.mp member
  rcases session_next found with old | rfl | ⟨session, taken, acted⟩
  · exact same after (List.mem_of_getElem? old)
  · exact accept
  · rcases acted with ⟨now, saved, body, here, rfl⟩ | ⟨here, rfl⟩ | ⟨here, rfl⟩
    · exact frame index now saved body session here taken
    · exact resume index session here taken
    · exact disconnect index session here taken

/-- The session that takes an input is at the index the input names, and has not
ended. -/
theorem taker_eq_some (limits : EngineLimits) {session : Session}
    (taken : coordinator.taker input = some session) :
    ∃ index, coordinator.sessions[index]? = some session ∧ session.phase.isEnded = false ∧
      ∃ after, (coordinator.next limits input).sessions =
        coordinator.sessions.set index after := by
  have addressed : ∀ {index : Nat} {able : Session → Bool},
      (coordinator.sessions[index]?).filter able = some session →
      coordinator.sessions[index]? = some session ∧ able session = true := by
    intro index able found
    exact Option.filter_eq_some_iff.mp found
  unfold next
  simp only [taken]
  cases input with
  | accept => exact absurd taken (by simp [taker])
  | rehash => exact absurd taken (by simp [taker])
  | frame index now saved body =>
      obtain ⟨found, able⟩ := addressed taken
      refine ⟨index, found, ?_, _, rfl⟩
      cases phase : session.phase <;> simp [phase, Phase.isWaiting, Phase.isEnded] at able ⊢
  | resume index =>
      obtain ⟨found, able⟩ := addressed taken
      refine ⟨index, found, ?_, _, rfl⟩
      cases phase : session.phase <;> simp [phase, Phase.isWithinFrame, Phase.isEnded] at able ⊢
  | disconnect index =>
      obtain ⟨found, able⟩ := addressed taken
      refine ⟨index, found, ?_, _, rfl⟩
      cases phase : session.phase <;> simp [phase, Phase.isBetweenFrames, Phase.isEnded] at able ⊢

/-- A session that has ended stays as it is. -/
theorem ended_mem_next {session : Session} (member : session ∈ coordinator.sessions)
    (ended : session.phase.isEnded = true) :
    session ∈ (coordinator.next limits input).sessions := by
  cases taken : coordinator.taker input with
  | none =>
      unfold next
      cases input <;> simp only [taken, List.mem_append, member, true_or]
  | some taker =>
      obtain ⟨index, found, running, after, changed⟩ := taker_eq_some limits taken
      obtain ⟨place, located⟩ := List.mem_iff_getElem?.mp member
      have elsewhere : index ≠ place := by
        rintro rfl
        rw [Option.some.inj (found.symm.trans located), ended] at running
        exact absurd running (by simp)
      rw [changed]
      apply List.mem_of_getElem? (i := place)
      rw [List.getElem?_set_ne elsewhere]
      exact located

end Coordinator

/-! ## Accounting -/

theorem Impl.WellAccounted.coordinatorStep {limits : EngineLimits}
    {coordinator next : Coordinator} {input : Input}
    (sound : coordinator.engine.WellAccounted)
    (taken : CoordinatorStep limits coordinator input next) : next.engine.WellAccounted := by
  cases taken with
  | input =>
      rw [Coordinator.next_engine]
      cases coordinator.call input with
      | none => exact sound
      | some call => exact sound.exec limits call.1 call.2
  | rehash same => exact sound.step (.rehash same : Step limits _ _ _)

theorem Coordinator.wellAccounted_start (file : Option Bytes) :
    (Coordinator.start file).engine.WellAccounted :=
  Impl.wellAccounted_fresh.load file

end CongestionFabric
