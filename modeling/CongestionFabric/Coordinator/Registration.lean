import CongestionFabric.Coordinator.Effect

/-!
Contract: what a registration that was not acknowledged leaves behind.

Owns the exact condition on REGISTER frames under which a refused one leaves no
trace: `handle` overwrites the session's context before it asks the engine, and
asks it twice, so the answer, the context and the two boot tables can disagree.

Does not own: what an acknowledged registration allows.
-/

namespace CongestionFabric

open Foundation

/-! ## Refused registrations -/

section BootTable

variable {Tag BootTag : Type} {table : UnorderedMap (Id Tag) (Generation BootTag)} {id : Id Tag}
  {boot : Generation BootTag}

/-- A valid boot of a valid identity, above the recorded one. -/
def supersedes (table : UnorderedMap (Id Tag) (Generation BootTag)) (id : Id Tag)
    (boot : Generation BootTag) : Bool :=
  id.isValid && boot.isValid &&
    (table.find? id).all fun current => decide (current.value < boot.value)

theorem registerBoot_fst : (registerBoot table id boot).1 = supersedes table id boot := by
  rw [Bool.eq_iff_iff, registerBoot_accepted]
  simp [supersedes, Id.isValid_eq_true, Generation.isValid_eq_true, Option.all_eq_true, and_assoc]

end BootTable

/-- A REGISTER frame whose worker and source both supersede what is recorded when
their turn comes; or neither does, and the frame names the identity that the
session's context already held. -/
def Session.registersWhole (session : Session) (engine : Impl Binary64) : Bool :=
  match session.phase with
  | .registering pending =>
      let worker := supersedes pending.workersBefore session.ctxWid session.ctxBoot
      let source := supersedes engine.sourceBoot pending.source pending.sourceBoot
      (worker && source) || (!worker && !source && session.ctxWid = pending.priorWid &&
        session.ctxBoot = pending.priorBoot)
  | _ => true

namespace Coordinator

/-- Every REGISTER frame is accepted as a whole, or refused as a whole without
moving the context. -/
def registersWhole (coordinator : Coordinator) (input : Input) : Bool :=
  match input, coordinator.taker input with
  | .resume _, some session => session.registersWhole coordinator.engine
  | _, _ => true

/-- A REGISTER frame that is answered with zero leaves both boot tables and the
context of its session as they were. A session without an acknowledged
registration has every publication answered with NACK and without effect, and
fences nobody when it ends. -/
def ConfersNothing (limits : EngineLimits) (coordinator : Coordinator) (input : Input) : Prop :=
  match input, coordinator.taker input with
  | .resume _, some session =>
      ∀ pending, session.phase = .registering pending →
        (finish coordinator.stop coordinator.engine session).2.sent =
          session.sent ++ [.ofType .registerAck (wrBool false)] →
        pending.workersAfter = pending.workersBefore ∧
          (coordinator.next limits input).engine.sourceBoot = coordinator.engine.sourceBoot ∧
          session.ctxWid = pending.priorWid ∧ session.ctxBoot = pending.priorBoot
  | .frame _ now saved frame, some session =>
      session.registered = [] →
        ∀ domain measurement,
          Request.ofFrame frame = some (.publishMeasurement domain measurement) →
          handle limits now saved coordinator.stop (Request.ofFrame frame) coordinator.engine
              session =
            (coordinator.engine, session.answer coordinator.stop (.verdict false),
              coordinator.stop)
  | .disconnect _, some session =>
      session.registered = [] → (coordinator.next limits input).engine = coordinator.engine
  | _, _ => True

end Coordinator

/-! ## Sessions without an acknowledged registration -/

/-- A pending registration is the one its session made, and a session without an
acknowledged registration has an empty context, or had one when its pending
registration began. -/
private structure Session.Unregistered (session : Session) : Prop where
  pending : ∀ pending, session.phase = .registering pending →
    registerBoot pending.workersBefore session.ctxWid session.ctxBoot =
        (pending.workerAccepted, pending.workersAfter) ∧
      (session.registered = [] → pending.priorWid = {} ∧ pending.priorBoot = {})
  empty : session.registered = [] → (∀ pending, session.phase ≠ .registering pending) →
    session.ctxWid = {} ∧ session.ctxBoot = {}

section Sessions

variable {limits : EngineLimits} {now : UInt64} {saved stop : Bool} {session : Session}
  {engine : Impl Binary64}

private theorem answer_phase (frame : Frame) (pending : Registering) :
    (session.answer stop frame).phase ≠ .registering pending := by
  unfold Session.answer
  cases stop <;> simp

private theorem Session.Unregistered.accepted (unregistered : session.Unregistered)
    {pending : Registering} (phase : session.phase = .registering pending) :
    pending.workerAccepted =
      supersedes pending.workersBefore session.ctxWid session.ctxBoot := by
  rw [← registerBoot_fst, (unregistered.pending pending phase).1]

/-- The answer of a frame keeps the context. -/
private theorem Session.Unregistered.answer (unregistered : session.Unregistered)
    (idle : ∀ pending, session.phase ≠ .registering pending) (stop : Bool) (frame : Frame) :
    (session.answer stop frame).Unregistered where
  pending pending registering := absurd registering (answer_phase frame pending)
  empty none _ := unregistered.empty none idle

private theorem Session.Unregistered.handle (unregistered : session.Unregistered)
    (idle : ∀ pending, session.phase ≠ .registering pending) (request : Option Request) :
    (handle limits now saved stop request engine session).2.1.Unregistered := by
  have answered := unregistered.answer idle
  cases request with
  | none => exact answered stop _
  | some request =>
      cases request with
      | register worker boot source sourceBoot =>
          refine ⟨fun pending registering => ?_, fun none absent => absurd rfl (absent _)⟩
          obtain rfl := Phase.registering.inj registering
          exact ⟨rfl, fun none => unregistered.empty none idle⟩
      | queryCongestion domain =>
          exact ⟨fun pending registering => Phase.noConfusion registering,
            fun none _ => unregistered.empty none idle⟩
      | publishMeasurement domain measurement =>
          unfold CongestionFabric.handle
          dsimp only
          split
          · exact answered stop _
          · exact answered stop _
      | shutdown => exact answered true _
      | _ => exact answered stop _

private theorem Session.Unregistered.finish (unregistered : session.Unregistered)
    (whole : session.registersWhole engine = true) :
    (finish stop engine session).2.Unregistered := by
  unfold CongestionFabric.finish
  unfold Session.registersWhole at whole
  cases phase : session.phase with
  | registering pending =>
      refine ⟨fun other registering => absurd registering (answer_phase _ other), ?_⟩
      intro none _
      simp only [phase, ← unregistered.accepted phase, ← registerBoot_fst] at whole
      rw [Bool.or_eq_true] at whole
      rcases whole with accepted | refused
      · -- The acknowledged identity is on the list.
        simp [Session.answer, Impl.registerSource, accepted] at none
      · simp only [Bool.and_eq_true, Bool.not_eq_true', decide_eq_true_eq] at refused
        obtain ⟨⟨⟨workerRefused, -⟩, sameWid⟩, sameBoot⟩ := refused
        have unlisted : session.registered = [] := by
          simpa [Session.answer, workerRefused] using none
        obtain ⟨priorWid, priorBoot⟩ := (unregistered.pending pending phase).2 unlisted
        exact ⟨sameWid.trans priorWid, sameBoot.trans priorBoot⟩
  | reporting domain assessment =>
      exact unregistered.answer (fun pending registering => by simp [phase] at registering) stop _
  | _ => exact unregistered

private theorem Session.Unregistered.leave (unregistered : session.Unregistered)
    (idle : ∀ pending, session.phase ≠ .registering pending) :
    (leave engine session).2.Unregistered where
  pending _ registering := Phase.noConfusion registering
  empty none _ := unregistered.empty none idle

end Sessions

/-! ## Steps and runs -/

section Steps

variable {limits : EngineLimits} {coordinator : Coordinator} {input : Input} {session : Session}

/-- A session that takes a frame, or ends, is not within a registration. -/
private theorem taker_idle (taken : coordinator.taker input = some session)
    (between : ∀ index, input ≠ .resume index) (pending : Registering) :
    session.phase ≠ .registering pending := by
  intro registering
  cases input with
  | frame index now saved frame =>
      have able := (Option.filter_eq_some_iff.mp taken).2
      simp [registering, Phase.isWaiting] at able
  | disconnect index =>
      have able := (Option.filter_eq_some_iff.mp taken).2
      simp [registering, Phase.isBetweenFrames] at able
  | resume index => exact between index rfl
  | accept => simp [Coordinator.taker] at taken
  | rehash => simp [Coordinator.taker] at taken

private theorem unregistered_next
    (unregistered : ∀ session ∈ coordinator.sessions, session.Unregistered)
    (whole : coordinator.registersWhole input = true) :
    ∀ session ∈ (coordinator.next limits input).sessions, session.Unregistered := by
  have before : ∀ {session}, coordinator.taker input = some session → session.Unregistered := by
    intro session taken
    obtain ⟨index, found, -⟩ := Coordinator.taker_eq_some limits taken
    exact unregistered session (List.mem_of_getElem? found)
  apply Coordinator.forall_session_next unregistered
  case accept =>
    refine ⟨fun pending registering => ?_, fun _ _ => ⟨rfl, rfl⟩⟩
    cases stopped : coordinator.stop <;> simp [stopped] at registering
  case frame =>
    rintro index now saved body session rfl taken
    exact (before taken).handle (taker_idle taken (by simp)) _
  case resume =>
    rintro index session rfl taken
    simp only [Coordinator.registersWhole, taken] at whole
    exact (before taken).finish whole
  case disconnect =>
    rintro index session rfl taken
    exact (before taken).leave (taker_idle taken (by simp))

/-- The answer to a REGISTER frame is zero exactly if one of the two calls
refused. -/
private theorem answered_zero_iff {stop : Bool} {engine : Impl Binary64} {pending : Registering}
    (phase : session.phase = .registering pending) :
    (finish stop engine session).2.sent =
        session.sent ++ [.ofType .registerAck (wrBool false)] ↔
      (pending.workerAccepted &&
        (registerBoot engine.sourceBoot pending.source pending.sourceBoot).1) = false := by
  unfold finish
  simp only [phase, Session.answer, Impl.registerSource, List.append_cancel_left_eq,
    List.cons.injEq, and_true]
  cases pending.workerAccepted &&
    (registerBoot engine.sourceBoot pending.source pending.sourceBoot).1 <;> decide

private theorem registersWhole_iff
    (unregistered : ∀ session ∈ coordinator.sessions, session.Unregistered) :
    coordinator.registersWhole input = true ↔ coordinator.ConfersNothing limits input := by
  unfold Coordinator.registersWhole Coordinator.ConfersNothing
  cases taken : coordinator.taker input with
  | none => cases input <;> exact iff_of_true rfl trivial
  | some session =>
      obtain ⟨place, found, -⟩ := Coordinator.taker_eq_some limits taken
      have before := unregistered session (List.mem_of_getElem? found)
      have engine := coordinator.next_engine limits input
      cases input with
      | accept => simp [Coordinator.taker] at taken
      | rehash => simp [Coordinator.taker] at taken
      | frame index now saved frame =>
          refine iff_of_true rfl fun none domain measurement publishes => ?_
          obtain ⟨empty, -⟩ := before.empty none (taker_idle taken (by simp))
          simp [publishes, handle, empty, Id.isValid]
      | disconnect index =>
          refine iff_of_true rfl fun none => ?_
          obtain ⟨empty, -⟩ := before.empty none (taker_idle taken (by simp))
          rw [engine]
          simp [Coordinator.call, taken, Session.lastCall, empty, Id.isValid]
      | resume index =>
          dsimp only
          unfold Session.registersWhole
          cases phase : session.phase with
          | registering pending =>
              have workers : pending.workersAfter = pending.workersBefore ↔
                  pending.workerAccepted = false := by
                have made := (before.pending pending phase).1
                have after : (registerBoot pending.workersBefore session.ctxWid
                    session.ctxBoot).2 = pending.workersAfter := by rw [made]
                rw [before.accepted phase, ← registerBoot_fst, ← after]
                exact registerBoot_eq_self_iff
              have sources : (coordinator.next limits (.resume index)).engine.sourceBoot =
                  coordinator.engine.sourceBoot ↔ (registerBoot coordinator.engine.sourceBoot
                    pending.source pending.sourceBoot).1 = false := by
                rw [engine, ← registerBoot_eq_self_iff]
                simp [Coordinator.call, taken, Session.secondCall, phase, exec,
                  Impl.registerSource]
              simp only [Phase.registering.injEq, forall_eq', answered_zero_iff phase, workers,
                sources, ← before.accepted phase, ← registerBoot_fst]
              generalize (registerBoot coordinator.engine.sourceBoot pending.source
                pending.sourceBoot).1 = sourceAccepted
              cases pending.workerAccepted <;> cases sourceAccepted <;> simp
          | _ => exact iff_of_true rfl fun pending registering => Phase.noConfusion registering

end Steps

/-- Along every run, from whatever engine, no refused registration confers
anything exactly if every REGISTER frame supersedes both recorded boots, or none
of them and names the identity its session already had. -/
theorem confersNothing_iff {limits : EngineLimits} {engine : Impl Binary64}
    {history : List (Coordinator × Input)} {final : Coordinator}
    (run : Run (CoordinatorStep limits) { engine } history final) :
    EveryStep history (fun _ coordinator input => coordinator.registersWhole input = true) ↔
      EveryStep history (fun _ coordinator input => coordinator.ConfersNothing limits input) := by
  apply run.everyStep_iff_everyStep
    fun coordinator => ∀ session ∈ coordinator.sessions, session.Unregistered
  · intro session member
    exact absurd member List.not_mem_nil
  · intro history coordinator input next unregistered whole taken
    cases taken with
    | input => exact unregistered_next unregistered whole
    | rehash same => exact unregistered
  · intro history coordinator input next unregistered taken
    exact registersWhole_iff unregistered

/-- A session registers, and repeats its registration. -/
private def repeatedRegistration : List Input :=
  [.accept, .frame 0 1 false (.register 1 1), .resume 0, .frame 0 2 false (.register 1 1),
    .resume 0, .disconnect 0]

/-- The repetition is refused and leaves nothing behind. -/
theorem repeatedRegistration_confersNothing :
    (follow (Coordinator.next {}) repeatedRegistration (.start none)).sessions.map Session.sent =
        [[.ofType .registerAck (wrBool true), .ofType .registerAck (wrBool false)]] ∧
      EveryStep ([] ++ followed (Coordinator.next {}) repeatedRegistration (.start none))
        (fun _ coordinator input => coordinator.ConfersNothing {} input) :=
  ⟨by decide +kernel, (confersNothing_iff
    (run_follow CoordinatorStep.input repeatedRegistration Run.nil)).mp (by decide +kernel)⟩

/-- The second session is refused the registration that the first one has. -/
private def refusedRegistration : List Input :=
  [.accept, .frame 0 1 false (.register 1 1), .resume 0, .accept,
    .frame 1 2 false (.register 1 1), .resume 1]

private def afterRefusal : Coordinator :=
  follow (Coordinator.next {}) refusedRegistration (.start none)

private theorem Coordinator.ConfersNothing.disconnect {limits : EngineLimits}
    {coordinator : Coordinator} {index : Nat} {session : Session}
    (nothing : coordinator.ConfersNothing limits (.disconnect index))
    (taken : coordinator.taker (.disconnect index) = some session)
    (none : session.registered = []) :
    (coordinator.next limits (.disconnect index)).engine = coordinator.engine := by
  simp only [Coordinator.ConfersNothing, taken] at nothing
  exact nothing none

private theorem refused_waits : (afterRefusal.taker (.disconnect 1)).isSome = true := by
  decide +kernel

/-- The end of a session that was refused fences the worker of another one. -/
theorem refusedRegistration_confers_fence :
    ¬∀ (limits : EngineLimits) (engine : Impl Binary64) (history : List (Coordinator × Input))
      (final : Coordinator), Run (CoordinatorStep limits) { engine } history final →
        EveryStep history (fun _ coordinator input => coordinator.ConfersNothing limits input) := by
  intro always
  have refused : Run (CoordinatorStep {}) (.start none)
      ([] ++ followed (Coordinator.next {}) refusedRegistration (.start none)) afterRefusal :=
    run_follow CoordinatorStep.input refusedRegistration Run.nil
  have nothing := (everyStep_snoc.mp
    (always {} _ _ _ (refused.snoc (.input afterRefusal (.disconnect 1))))).2
  have same := nothing.disconnect (Option.some_get refused_waits).symm (by decide +kernel)
  have recorded := congrArg (fun engine => engine.workerBoot.find? ⟨1⟩) same
  exact absurd recorded (by decide +kernel)

end CongestionFabric
