import CongestionFabric.Worker.Requests

/-!
Contract: a worker that comes back with a boot that is not the recorded one any more.

Owns the runs in which the frames of one session leave the engine alone, and the theorem
that `replay` is rejected in every part and talks to the coordinator in such a run,
whatever the other sessions do.

Does not own: how the boot was fenced, and what becomes of a worker whose source boot is
new: its REGISTER is answered with a refusal too, but records that boot. A lost reply is
no rejection, so here every frame and every reply arrives.
-/

namespace CongestionFabric

open Foundation
open Foundation.Client
open Foundation.Reader (Reads)

/-! ## Quiet runs -/

/-- The session calls the engine for a frame, first or second. -/
def Input.callsFor (index : Nat) : Input → Bool
  | .frame place _ _ _ | .resume place => place = index
  | _ => false

namespace Coordinator

/-- A step of the coordinator in which no frame of the session moves the engine. -/
def QuietStep (limits : EngineLimits) (index : Nat) (before : Coordinator) (input : Input)
    (after : Coordinator) : Prop :=
  CoordinatorStep limits before input after ∧
    (input.callsFor index = true → after.engine = before.engine)

/-- The frames that the session takes in a run, oldest first. -/
def framesTaken (index : Nat) (history : List (Coordinator × Input)) : List Frame :=
  history.filterMap fun step =>
    match step.2 with
    | .frame place _ _ frame =>
        if place = index ∧ (step.1.taker step.2).isSome = true then some frame else none
    | _ => none

end Coordinator

namespace Worker

open Coordinator (QuietStep framesTaken)

variable {limits : EngineLimits} {index : Nat} {args : Arguments}
  {start coordinator : Coordinator} {frames : List Frame}

/-- Neither identity would be accepted, the worker's since a newer boot is recorded, and
nobody can act on the flow that is named. -/
structure Stands (args : Arguments) (engine : Impl Binary64) : Prop where
  newer : recordsAbove engine.workerBoot args.worker args.boot = true
  source : engine.KnowsSource args.source args.sourceBoot
  inert : engine.Inert ⟨args.domain⟩

/-- The session registers nothing but the source of the worker. -/
def Asks (args : Arguments) (session : Session) : Prop :=
  ∀ pending, session.phase = .registering pending →
    pending.source = args.source ∧ pending.sourceBoot = args.sourceBoot

/-- The client has got as far as these frames, and no call for them has moved the engine. -/
structure Replaying (limits : EngineLimits) (index : Nat) (args : Arguments)
    (start : Coordinator) (frames : List Frame) (coordinator : Coordinator) : Prop where
  stands : Stands args coordinator.engine
  asks : ∃ session, coordinator.sessions[index]? = some session ∧ Asks args session
  quiet : ∃ history, Run (QuietStep limits index) start history coordinator ∧
    framesTaken index history = frames

/-- The session carries the identity of the worker. -/
def Presents (index : Nat) (args : Arguments) (coordinator : Coordinator) : Prop :=
  ∃ session, coordinator.sessions[index]? = some session ∧ session.ctxWid = args.worker ∧
    session.ctxBoot = args.boot

theorem stable_presents {lossy : Bool} :
    Stable (Coordinator.service limits index lossy) (Presents index args) := by
  rintro coordinator next moved ⟨session, found, worker, boot⟩
  obtain ⟨after, there, rfl | ⟨-, rfl⟩ | ⟨-, rfl⟩⟩ := Coordinator.session_others found moved
  · exact ⟨_, there, worker, boot⟩
  · refine ⟨_, there, ?_⟩
    unfold finish
    cases session.phase <;> exact ⟨worker, boot⟩
  · exact ⟨_, there, worker, boot⟩

private theorem registerWorker_refused {engine : Impl Binary64} (stands : Stands args engine) :
    engine.registerWorker args.worker args.boot = (false, engine) := by
  have refused := (recordsFrom_of_recordsAbove stands.newer).refuses
  unfold Impl.registerWorker
  rw [registerBoot_table, refused]
  rfl

private theorem registerSource_refused {engine : Impl Binary64} (stands : Stands args engine) :
    engine.registerSource args.source args.sourceBoot = (false, engine) := by
  have refused := stands.source.refuses
  unfold Impl.registerSource
  rw [registerBoot_table, refused]
  rfl

/-- The second call of REGISTER moves nothing either. -/
private theorem Replaying.resume (holds : Replaying limits index args start frames coordinator) :
    (coordinator.next limits (.resume index)).engine = coordinator.engine := by
  unfold Coordinator.next
  cases taken : coordinator.taker (.resume index) with
  | none => rfl
  | some session =>
      obtain ⟨other, found, asks⟩ := holds.asks
      obtain ⟨located, -⟩ := Option.filter_eq_some_iff.mp taken
      obtain rfl := Option.some.inj (located.symm.trans found)
      dsimp only
      unfold finish
      cases phase : session.phase with
      | registering pending =>
          obtain ⟨source, sourceBoot⟩ := asks pending phase
          dsimp only
          rw [source, sourceBoot, registerSource_refused holds.stands]
      | _ => rfl

theorem stable_replaying :
    Stable (Coordinator.service limits index false) (Replaying limits index args start frames) := by
  intro coordinator next moved holds
  obtain ⟨session, found, asks⟩ := holds.asks
  refine ⟨⟨(lasts_recordsAbove _ _).others moved holds.stands.newer,
    (lasts_knowsSource _ _).others moved holds.stands.source,
    (lasts_inert _).others moved holds.stands.inert⟩, ?_, ?_⟩
  · obtain ⟨after, there, rfl | ⟨-, rfl⟩ | ⟨-, rfl⟩⟩ := Coordinator.session_others found moved
    · exact ⟨_, there, asks⟩
    · refine ⟨_, there, fun pending registering => ?_⟩
      unfold finish at registering
      cases phase : session.phase <;> simp only [phase, Session.answer] at registering
      all_goals first
        | exact absurd registering (by simp)
        | (split at registering <;> exact absurd registering (by simp))
    · exact ⟨_, there, fun pending registering => absurd registering (by simp)⟩
  · obtain ⟨history, run, taken⟩ := holds.quiet
    obtain ⟨input, step, others⟩ := moved
    refine ⟨history ++ [(coordinator, input)], run.snoc ⟨step, fun calls => ?_⟩, ?_⟩
    · cases input with
      | frame place now saved frame =>
          obtain rfl : place = index := of_decide_eq_true calls
          exact absurd rfl (others now saved frame)
      | resume place =>
          obtain rfl : place = index := of_decide_eq_true calls
          cases step
          exact holds.resume
      | _ => exact absurd calls (by simp [Input.callsFor])
    · rw [framesTaken, List.filterMap_append, ← framesTaken, taken]
      cases input with
      | frame place now saved frame =>
          have other : place ≠ index := fun same => others now saved frame (by rw [same])
          simp [other]
      | _ => simp

/-- The same, behind REGISTER. -/
def Presented (limits : EngineLimits) (index : Nat) (args : Arguments) (start : Coordinator)
    (frames : List Frame) (coordinator : Coordinator) : Prop :=
  Replaying limits index args start frames coordinator ∧ Presents index args coordinator

theorem stable_presented :
    Stable (Coordinator.service limits index false) (Presented limits index args start frames) :=
  fun _ _ moved holds =>
    ⟨stable_replaying _ _ moved holds.1, stable_presents _ _ moved holds.2⟩

/-- A frame whose first call leaves the engine as it is. -/
private theorem Replaying.frame {now : UInt64} {saved : Bool} {frame : Frame} {request : Request}
    {session : Session} (holds : Replaying limits index args start frames coordinator)
    (read : Request.ofFrame frame = some request)
    (taken : coordinator.taker (.frame index now saved frame) = some session)
    (same : (handle limits now saved coordinator.stop (some request) coordinator.engine
      session).1 = coordinator.engine)
    (asks : Asks args (handle limits now saved coordinator.stop (some request)
      coordinator.engine session).2.1) :
    Replaying limits index args start (frames ++ [frame])
      (coordinator.next limits (.frame index now saved frame)) := by
  have within := (List.getElem?_eq_some_iff.mp (Option.filter_eq_some_iff.mp taken).1).1
  have idle : (coordinator.next limits (.frame index now saved frame)).engine =
      coordinator.engine := by
    rw [next_of_taker read taken]
    exact same
  refine ⟨idle ▸ holds.stands, ⟨_, ?_, asks⟩, ?_⟩
  · rw [next_of_taker read taken]
    exact List.getElem?_set_self within
  · obtain ⟨history, run, sent⟩ := holds.quiet
    refine ⟨history ++ [(coordinator, .frame index now saved frame)],
      run.snoc ⟨.input _ _, fun _ => idle⟩, ?_⟩
    rw [framesTaken, List.filterMap_append, ← framesTaken, sent]
    simp [taken]

theorem asks_answer {stop : Bool} {frame : Frame} {session : Session} :
    Asks args (session.answer stop frame) := by
  intro pending registering
  unfold Session.answer at registering
  dsimp only at registering
  split at registering <;> exact absurd registering (by simp)

/-! ## Requests -/

/-- A request where nothing is lost: what it leaves behind, and what is replied. -/
private theorem ensures_replied {type : MessageType} {body : Bytes} {request : Request}
    {pre : Coordinator → Prop} (after : Coordinator → Prop) (answers : Frame → Prop)
    (read : Request.ofFrame (.ofType type body) = some request)
    (waiting : Stable (Coordinator.service limits index false) pre)
    (settled : Stable (Coordinator.service limits index false) after)
    (served : ∀ coordinator now saved session, pre coordinator →
      coordinator.taker (.frame index now saved (.ofType type body)) = some session →
        after (coordinator.next limits (.frame index now saved (.ofType type body))) ∧
          ∀ reply, Coordinator.MayReply session.sent
              (handle limits now saved coordinator.stop (some request) coordinator.engine
                session).2.1 reply → answers reply) :
    Ensures (Coordinator.service limits index false) pre (exchange type body)
      fun reply coordinator => after coordinator ∧ ∃ frame, reply = some frame ∧ answers frame := by
  refine ensures_request waiting ?_ ?_
  · rintro coordinator reply final holds ⟨arrives, exchanged⟩
    cases exchanged with
    | unsent => exact absurd (arrives rfl) (by simp)
    | lost now saved => exact absurd (arrives rfl) (by simp)
    | answered now saved taken exchanged there sent =>
        have replied := Coordinator.mayReply_of_served taken exchanged there sent
        rw [read] at replied
        obtain ⟨first, answers⟩ := served _ now saved _ holds taken
        refine ⟨?_, _, rfl, answers _ replied⟩
        clear there sent replied
        induction exchanged with
        | refl => exact first
        | tail _ moved inductionHypothesis => exact settled _ _ moved inductionHypothesis
  · exact fun reply => settled.and_fact _

/-- The client says hello. -/
private theorem ensures_hello :
    Ensures (Coordinator.service limits index false) (Replaying limits index args start frames)
      hello fun greeted coordinator =>
        Replaying limits index args start (frames ++ [.ofType .hello (wrStr (ascii "cfworker"))])
          coordinator ∧ greeted = true := by
  have read : Request.ofFrame (.ofType .hello (wrStr (ascii "cfworker"))) =
      some (.hello (ascii "cfworker")) :=
    Request.ofFrame_of_reads (reads_rdStr (by decide)).map
  refine (ensures_replied (Replaying limits index args start
    (frames ++ [.ofType .hello (wrStr (ascii "cfworker"))])) (fun _ => True) read
    stable_replaying stable_replaying ?_).bind fun reply => ensures_pure ?_ ?_
  · exact fun coordinator now saved session holds taken =>
      ⟨holds.frame read taken rfl asks_answer, fun _ _ => trivial⟩
  · exact stable_replaying.and_fact _
  · rintro coordinator ⟨holds, frame, rfl, -⟩
    exact ⟨holds, rfl⟩

/-- The refusal of a registration is read as one. -/
private theorem ensures_readRefusal (args : Arguments) {holds : Coordinator → Prop}
    (stable : Stable (Coordinator.service limits index false) holds) (reply : Option Frame) :
    Ensures (Coordinator.service limits index false)
      (fun coordinator => holds coordinator ∧
        ∃ frame, reply = some frame ∧ frame = .ofType .registerAck (wrBool false))
      (readAs .registerAck rdBool (some (reply.getD ⟨args.unread, []⟩))) fun found coordinator =>
        (holds coordinator ∧
          ∃ frame, reply = some frame ∧ frame = .ofType .registerAck (wrBool false)) ∧
          ∀ value, found = some value → value = false := by
  apply ensures_readAs (stable.and_fact _)
  · exact fun _ _ _ _ same => same
  · rintro coordinator frame value rest ⟨-, sent, rfl, rfl⟩ same _ read
    obtain rfl := Option.some.inj same
    exact read_eq (reads_rdBool false) read

/-- REGISTER with the old boot: the session takes the identity on, and nothing else
happens. -/
private theorem ensures_registerRejected :
    Ensures (Coordinator.service limits index false) (Replaying limits index args start frames)
      (registerRejected args) fun rejected coordinator =>
        Presented limits index args start
            (frames ++ [.ofType .register (wrIdentity args).flatten]) coordinator ∧
          rejected = true := by
  refine (ensures_replied (Presented limits index args start
    (frames ++ [.ofType .register (wrIdentity args).flatten]))
    (fun frame => frame = .ofType .registerAck (wrBool false)) (ofFrame_register args)
    stable_replaying stable_presented ?_).bind fun reply => ?_
  · intro coordinator now saved session holds taken
    have refused := registerWorker_refused holds.stands
    constructor
    · refine ⟨holds.frame (ofFrame_register args) taken ?_ ?_, ?_⟩
      · exact congrArg Prod.snd refused
      · intro pending registering
        obtain rfl := Phase.registering.inj registering
        exact ⟨rfl, rfl⟩
      · rw [next_of_taker (ofFrame_register args) taken]
        have within := (List.getElem?_eq_some_iff.mp (Option.filter_eq_some_iff.mp taken).1).1
        exact ⟨_, List.getElem?_set_self within, rfl, rfl⟩
    · rintro reply ⟨accepted, rfl, both⟩
      cases accepted with
      | false => rfl
      | true =>
          have said : (coordinator.engine.registerWorker args.worker args.boot).1 = true := both rfl
          rw [refused] at said
          exact absurd said (by simp)
  · refine (ensures_readRefusal args stable_presented reply).bind fun found => ensures_pure ?_ ?_
    · exact stable_presented.and_fact _
    · rintro coordinator ⟨⟨holds, -⟩, told⟩
      refine ⟨holds, ?_⟩
      cases found with
      | none => rfl
      | some value => rw [told value rfl]; rfl

/-- A request that the coordinator refuses. -/
private theorem ensures_nack {type : MessageType} {body : Bytes} {request : Request}
    (read : Request.ofFrame (.ofType type body) = some request)
    (refused : ∀ {coordinator : Coordinator} {session : Session} now saved,
      Stands args coordinator.engine → session.ctxWid = args.worker →
        session.ctxBoot = args.boot →
        handle limits now saved coordinator.stop (some request) coordinator.engine session =
          (coordinator.engine, session.answer coordinator.stop (.verdict false),
            coordinator.stop)) :
    Ensures (Coordinator.service limits index false) (Presented limits index args start frames)
      (answered .nack type body) fun rejected coordinator =>
        Presented limits index args start (frames ++ [.ofType type body]) coordinator ∧
          rejected = true := by
  refine (ensures_replied (Presented limits index args start (frames ++ [.ofType type body]))
    (fun frame => frame = .verdict false) read stable_presented stable_presented ?_).bind
    fun reply => ensures_pure ?_ ?_
  · rintro coordinator now saved session ⟨holds, other, found, worker, boot⟩ taken
    obtain ⟨located, -⟩ := Option.filter_eq_some_iff.mp taken
    obtain rfl := Option.some.inj (located.symm.trans found)
    have same := refused now saved holds.stands worker boot
    have within := (List.getElem?_eq_some_iff.mp located).1
    refine ⟨⟨holds.frame read taken (by rw [same]) (by rw [same]; exact asks_answer),
      ?_⟩, fun reply replied => ?_⟩
    · rw [next_of_taker read taken, same]
      exact ⟨_, List.getElem?_set_self within, worker, boot⟩
    · rw [same] at replied
      exact Coordinator.mayReply_answer.mp replied
  · exact stable_presented.and_fact _
  · rintro coordinator ⟨holds, frame, rfl, rfl⟩
    exact ⟨holds, rfl⟩

/-! ## Refusals -/

/-- A body that refuses the flow leaves it as it is. -/
private theorem onFlow_refusing {engine : Impl Binary64} {ref : EntityRef FlowTag}
    {body : Flow Binary64 → Bool × Flow Binary64} {after : Flow Binary64 → Impl Binary64 →
      Impl Binary64} (inert : engine.Inert ref.id)
    (refuses : ∀ flow : Flow Binary64, flow.WellAccounted → flow.state.live = false →
      body flow = (false, flow)) : engine.onFlow ref body after = (false, engine) := by
  obtain ⟨sound, flow, stored, idle⟩ := inert
  unfold Impl.onFlow
  cases found : findFlow engine.flows ref with
  | none => rfl
  | some other =>
      obtain ⟨located, -⟩ := findFlow_eq_some.mp found
      obtain rfl := Option.some.inj (located.symm.trans stored)
      simp only [refuses other (sound _ _ stored) idle, Bool.false_eq_true, if_false,
        UnorderedMap.modify_self stored]

private theorem progress_refused {engine : Impl Binary64} (flow : EntityRef FlowTag)
    (inert : engine.Inert flow.id) (now : UInt64) (boot : WorkerBootId) (delta : UInt64) :
    engine.flowProgress now flow boot delta = (false, engine) := by
  refine onFlow_refusing inert fun record sound idle => ?_
  rcases sound.progress now boot delta with ⟨-, refused⟩ | ⟨-, queued | active, -⟩
  · exact refused
  · exact absurd idle (by simp [queued, FlowState.live])
  · exact absurd idle (by simp [active, FlowState.live])

private theorem complete_refused {engine : Impl Binary64} (flow : EntityRef FlowTag)
    (inert : engine.Inert flow.id) (now : UInt64) (boot : WorkerBootId) :
    engine.flowComplete now flow boot = (false, engine) := by
  refine onFlow_refusing inert fun record sound idle => ?_
  rcases sound.complete now boot with ⟨-, refused⟩ | ⟨-, active, -⟩
  · exact refused
  · exact absurd idle (by simp [active, FlowState.live])

/-! ## The scenario -/

/-- What succeeds for certain is followed by what follows a success. -/
private theorem ensures_true {V : Type} {next : Bool → Worker V} {pre : Coordinator → Prop}
    {post : V → Coordinator → Prop}
    (succeeded : Ensures (Coordinator.service limits index false) pre (next true) post)
    (ok : Bool) :
    Ensures (Coordinator.service limits index false)
      (fun coordinator => pre coordinator ∧ ok = true) (next ok) post := by
  cases ok with
  | false => exact fun _ _ _ holds _ => absurd holds.2 (by simp)
  | true => exact succeeded.mono (fun _ holds => holds.1) fun _ _ => id

/-- The frames of `replay`, in order. -/
def Arguments.replayFrames (args : Arguments) : List Frame :=
  [.ofType .hello (wrStr (ascii "cfworker")),
    .ofType .register (wrIdentity args).flatten,
    .ofType .publishMeasurement (wrMeasurement ⟨args.domain⟩ .offeredBytesPerSec args.offered),
    .ofType .progress (wrProgress args args.flow),
    .ofType .complete (wrFlowBy args args.flow)]

private theorem ensures_replay :
    Ensures (Coordinator.service limits index false) (Replaying limits index args start [])
      (main args (some .replay)) fun outcome coordinator => outcome.code = 0 ∧
        Replaying limits index args start args.replayFrames coordinator := by
  refine ensures_hello.bind (ensures_true ?_)
  refine ensures_registerRejected.bind (ensures_true ?_)
  refine (ensures_nack (ofFrame_publishMeasurement _ _ _) ?_).bind (ensures_true ?_)
  · intro coordinator session now saved stands worker boot
    unfold handle
    cases valid : session.ctxWid.isValid with
    | false => simp
    | true =>
        have nonzero : args.worker.value ≠ 0 := worker ▸ Id.isValid_eq_true.mp valid
        have refuses : coordinator.engine.Refuses limits args.worker args.boot :=
          Impl.refuses_of_recordsAbove nonzero stands.newer
        simp [worker, boot, refuses.publication]
  refine (ensures_nack (ofFrame_progress args args.flow) ?_).bind (ensures_true ?_)
  · intro coordinator session now saved stands _ _
    have refused := progress_refused args.flow stands.inert now args.boot args.delta
    simp [handle, exec, refused, Result.failed]
  refine (ensures_nack (ofFrame_complete args args.flow) ?_).bind (ensures_true ?_)
  · intro coordinator session now saved stands _ _
    have refused := complete_refused args.flow stands.inert now args.boot
    simp [handle, exec, refused, Result.failed]
  refine ensures_pure ?_ ?_
  · exact fun _ _ moved holds => ⟨holds.1, stable_replaying _ _ moved holds.2⟩
  · exact fun coordinator holds => ⟨rfl, holds.1⟩

/-- A worker with an old boot and a known source that names a flow nobody can act on is
rejected in every part of `replay`, whatever the other sessions do meanwhile; and its
frames touch nothing: the talk is a run of the coordinator in which the session takes the
frames of `replay`, and nothing else, and no call for them moves the engine. -/
theorem replay_rejected {file : Option Bytes} {history : List (Coordinator × Input)}
    {coordinator final : Coordinator} {session : Session} {outcome : Outcome}
    {flow : Flow Binary64}
    (run : Run (CoordinatorStep limits) (.start file) history coordinator)
    (located : coordinator.sessions[index]? = some session) (waiting : session.phase = .waiting)
    (newer : recordsAbove coordinator.engine.workerBoot args.worker args.boot = true)
    (known : coordinator.engine.KnowsSource args.source args.sourceBoot)
    (stored : coordinator.engine.flows.find? ⟨args.domain⟩ = some flow)
    (idle : flow.state.live = false)
    (talk : Talk (Coordinator.service limits index false) coordinator
      (main args (some .replay)) final outcome) :
    outcome.code = 0 ∧
      ∃ later, Run (QuietStep limits index) coordinator later final ∧
        framesTaken index later = args.replayFrames := by
  have sound := run.invariant (fun coordinator => coordinator.engine.WellAccounted)
    (Coordinator.wellAccounted_start file) fun sound step => sound.coordinatorStep step
  have first : Replaying limits index args coordinator [] coordinator := by
    refine ⟨⟨newer, known, sound, flow, stored, idle⟩, ⟨session, located, ?_⟩, [], .nil, rfl⟩
    intro pending registering
    exact absurd (waiting.symm.trans registering) (by simp)
  obtain ⟨code, replayed⟩ := ensures_replay _ _ _ first talk
  exact ⟨code, replayed.quiet⟩

private def firstWorker : Arguments :=
  { domain := 1, dgen := 1, bytes := 100, delta := 10, offered := 50.0, capacity := 1000.0 }

/-- Worker 1 declares a flow, which is admitted, and loses its connection; it comes back
in a second session. -/
private def losesConnection : List Input :=
  [.accept, .frame 0 1 false (.ofType .register (wrIdentity firstWorker).flatten), .resume 0,
    .frame 0 1 false (.ofType .createDomain (wrCreateDomain firstWorker)),
    .frame 0 1 false (.ofType .declareFlow (wrDeclareFlow firstWorker ⟨⟨1⟩, ⟨1⟩⟩)),
    .frame 0 2 false (.ofType .admission (wrRef firstWorker.flow)), .disconnect 0, .accept]

private def comesAgain : Coordinator :=
  follow (Coordinator.next {}) losesConnection (.start none)

private theorem run_comesAgain : Run (CoordinatorStep {}) (.start none)
    ([] ++ followed (Coordinator.next {}) losesConnection (.start none)) comesAgain :=
  run_follow (CoordinatorStep.input) losesConnection Run.nil

private def replayed : Option (Outcome × Coordinator) :=
  (main firstWorker (some .replay)).run (Coordinator.alone {} 1 5) comesAgain

private theorem replayed_returns : replayed.isSome = true := by decide +kernel

private theorem fenced_newer : recordsAbove comesAgain.engine.workerBoot firstWorker.worker
    firstWorker.boot = true := by
  decide +kernel

private theorem fenced_idle : ∃ flow,
    comesAgain.engine.flows.find? ⟨firstWorker.domain⟩ = some flow ∧ flow.state.live = false := by
  have parked : (comesAgain.engine.flows.find? ⟨firstWorker.domain⟩).any
      (fun flow => !flow.state.live) = true := by
    decide +kernel
  obtain ⟨flow, stored, idle⟩ := (Option.any_eq_true _ _).mp parked
  exact ⟨flow, stored, by simpa using idle⟩

private theorem replayed_talk : Talk (Coordinator.service {} 1 false) comesAgain
    (main firstWorker (some .replay)) (replayed.get replayed_returns).2
    (replayed.get replayed_returns).1 :=
  talk_of_run (Coordinator.alone {} 1 5) (fun _ _ _ _ => (Coordinator.exchange_alone · false))
    (Option.some_get replayed_returns).symm

private theorem source_known :
    comesAgain.engine.KnowsSource firstWorker.source firstWorker.sourceBoot := by
  have recorded : comesAgain.engine.sourceBoot.find? ⟨1⟩ = some ⟨1⟩ := by decide +kernel
  exact ⟨⟨1⟩, recorded, Nat.le_refl _⟩

private theorem session_waits : ∃ session,
    comesAgain.sessions[1]? = some session ∧ session.phase = .waiting := by
  have waits : (comesAgain.sessions[1]?).any (fun session => session.phase.isWaiting) = true := by
    decide +kernel
  obtain ⟨session, located, waiting⟩ := (Option.any_eq_true _ _).mp waits
  refine ⟨session, located, ?_⟩
  cases phase : session.phase <;> simp [phase, Phase.isWaiting] at waiting ⊢

theorem replay_rejected_comesAgain :
    (replayed.get replayed_returns).1.code = 0 ∧
      ∃ later, Run (QuietStep {} 1) comesAgain later (replayed.get replayed_returns).2 ∧
        framesTaken 1 later = firstWorker.replayFrames := by
  obtain ⟨flow, stored, idle⟩ := fenced_idle
  obtain ⟨session, located, waiting⟩ := session_waits
  exact replay_rejected run_comesAgain located waiting fenced_newer source_known stored idle
    replayed_talk

end Worker

end CongestionFabric
