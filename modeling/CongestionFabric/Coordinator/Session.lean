import CongestionFabric.Coordinator.Request
import CongestionFabric.Engine.Query
import CongestionFabric.Persistence.Snapshot

/-!
Contract: the reference coordinator (`handle`, `session` and `main` of
`coordinator.cpp`).

Owns the sessions with their context, what a frame makes a session do and send,
the end of a session, and the steps of the whole coordinator. Any number of
sessions run at once and every engine call is atomic; a frame whose branch makes
two calls is therefore taken in two steps, between which other sessions may act.

Does not own: sockets and the wire. A session that reads no further frame, for
whatever reason, is one that disconnects; whether a file could be written is part
of the input.
-/

namespace CongestionFabric

open Foundation

/-! ## Sessions -/

/-- A REGISTER frame between its two calls: what the branch holds in its local
variables and, for the record only, the context it overwrote and the worker table
before and after `register_worker`. -/
structure Registering where
  source : SourceId
  sourceBoot : SourceBootId
  workerAccepted : Bool
  priorWid : WorkerId
  priorBoot : WorkerBootId
  workersBefore : UnorderedMap WorkerId WorkerBootId
  workersAfter : UnorderedMap WorkerId WorkerBootId

/-- Where the thread of a session stands. -/
inductive Phase where
  | waiting
  | registering (pending : Registering)
  /-- QUERY_CONGESTION after `recompute_domain`. -/
  | reporting (domain : CongestionDomainId) (assessment : CongestionAssessment Binary64)
  /-- Out of the loop, before the fence. -/
  | leaving
  | ended

/-- In `recv_frame`. -/
def Phase.isWaiting : Phase → Bool
  | .waiting => true
  | _ => false

/-- Between the two calls of a frame. -/
def Phase.isWithinFrame : Phase → Bool
  | .registering _ | .reporting _ _ => true
  | _ => false

/-- In the loop of `session` or just behind it. -/
def Phase.isBetweenFrames : Phase → Bool
  | .waiting | .leaving => true
  | _ => false

/-- `session` has returned. -/
def Phase.isEnded : Phase → Bool
  | .ended => true
  | _ => false

/-- A session: its context `wid` and `boot`, and, for the record only, the frames
it sent and the identities whose registration was acknowledged. -/
structure Session where
  ctxWid : WorkerId := {}
  ctxBoot : WorkerBootId := {}
  phase : Phase := .waiting
  sent : List Frame := []
  registered : List (WorkerId × WorkerBootId) := []

/-- `ok` and `nack`. -/
def Frame.verdict (accepted : Bool) : Frame :=
  if accepted then .ofType .ok [] else .ofType .nack []

/-- The body of DOMAIN_CREATED and FLOW_DECLARED. -/
def wrCreated {Tag : Type} (ref : EntityRef Tag) : Bytes :=
  [wrBool ref.id.isValid, wrRef ref].flatten

/-- The body of CONGESTION_UPDATE. -/
def wrCongestionUpdate (assessment : CongestionAssessment Binary64)
    (snap : DomainSnapshot Binary64) : Bytes :=
  [wr8 (Enumeration.toU8 assessment.state), wrEnum assessment.provenance,
    wrF64 assessment.score, wrBool assessment.authoritative,
    wrBool (decide (snap.offeredBps > 0.0)), wrF64 snap.offeredBps, wrF64 snap.servicedBps,
    wrF64 snap.effectiveBps, wrF64 snap.residualBps].flatten

/-- Send the answer and go back to the loop condition of `session`. -/
def Session.answer (stop : Bool) (frame : Frame) (session : Session) : Session :=
  { session with
    phase := if stop then .leaving else .waiting
    sent := session.sent ++ [frame] }

/-- `handle`, up to and including its first engine call; the last component is
`g_stop`. A read that throws is answered with NACK. -/
def handle (limits : EngineLimits) (now : UInt64) (saved stop : Bool)
    (request : Option Request) (engine : Impl Binary64) (session : Session) :
    Impl Binary64 × Session × Bool :=
  match request with
  | none | some .unsupported => (engine, session.answer stop (.verdict false), stop)
  | some (.hello _) => (engine, session.answer stop (.verdict true), stop)
  | some (.register worker boot source sourceBoot) =>
      let registered := engine.registerWorker worker boot
      (registered.2, { session with
        ctxWid := worker
        ctxBoot := boot
        phase := .registering
          { source := source
            sourceBoot := sourceBoot
            workerAccepted := registered.1
            priorWid := session.ctxWid
            priorBoot := session.ctxBoot
            workersBefore := engine.workerBoot
            workersAfter := registered.2.workerBoot } }, stop)
  | some (.createDomain kind capacity) =>
      let created := engine.createDomain limits kind capacity
      (created.2, session.answer stop (.ofType .domainCreated (wrCreated created.1)), stop)
  | some (.declareFlow options) =>
      let declared := engine.declareFlow limits now options
      (declared.2, session.answer stop (.ofType .flowDeclared (wrCreated declared.1)), stop)
  | some (.operation op) =>
      let outcome := exec limits now op engine
      (outcome.2, session.answer stop (.verdict !outcome.1.failed), stop)
  | some (.publishMeasurement domain measurement) =>
      if !session.ctxWid.isValid then (engine, session.answer stop (.verdict false), stop)
      else
        let published := engine.publishMeasurement domain measurement session.ctxWid
          session.ctxBoot
        (published.2, session.answer stop (.verdict published.1), stop)
  | some (.queryCongestion domain) =>
      let recomputed := engine.recomputeDomain limits now domain
      (recomputed.2, { session with phase := .reporting domain recomputed.1 }, stop)
  | some (.queryBottleneck path) =>
      let result := engine.identifyBottleneck Binary64.toDecimal path
      (engine, session.answer stop (.ofType .bottleneck
        [wrBool result.domain.id.isValid, wrId result.domain.id, wrF64 result.deficitBps,
          wrStr result.explanation].flatten), stop)
  | some (.queryResidual domain offeredBps) =>
      let result := engine.queryResidualCapacity domain offeredBps
      (engine, session.answer stop (.ofType .residual
        [wrBool result.hasCapacity, wrF64 result.effectiveBps,
          wrF64 result.residualBps].flatten), stop)
  | some (.save _) => (engine, session.answer stop (.verdict saved), stop)
  | some .shutdown => (engine, session.answer true (.verdict true), true)

/-- The second engine call of `handle` and its answer. -/
def finish (stop : Bool) (engine : Impl Binary64) (session : Session) :
    Impl Binary64 × Session :=
  match session.phase with
  | .registering pending =>
      let registered := engine.registerSource pending.source pending.sourceBoot
      let accepted := pending.workerAccepted && registered.1
      let acknowledged := { session with
        registered := if accepted then session.registered ++ [(session.ctxWid, session.ctxBoot)]
          else session.registered }
      (registered.2, acknowledged.answer stop (.ofType .registerAck (wrBool accepted)))
  | .reporting domain assessment =>
      (engine, session.answer stop (.ofType .congestionUpdate
        (wrCongestionUpdate assessment (engine.snapshot domain))))
  | .waiting | .leaving | .ended => (engine, session)

/-- The end of `session`: a valid context is fenced. -/
def leave (engine : Impl Binary64) (session : Session) : Impl Binary64 × Session :=
  (if session.ctxWid.isValid then (engine.fenceWorker session.ctxWid session.ctxBoot).2
    else engine, { session with phase := .ended })

/-! ## The coordinator -/

/-- The engine, the sessions in the order of their connections, and `g_stop`. -/
structure Coordinator where
  engine : Impl Binary64
  sessions : List Session := []
  stop : Bool := false

/-- What can happen next. A frame carries the clock and, for SAVE, whether the
file could be written; `resume` makes the second call of a frame. -/
inductive Input where
  | accept
  | frame (index : Nat) (now : UInt64) (saved : Bool) (frame : Frame)
  | resume (index : Nat)
  | disconnect (index : Nat)
  | rehash

namespace Coordinator

/-- `main`: the state file, if there is one and it is accepted, is loaded. -/
def start (file : Option Bytes) : Coordinator where
  engine := (Impl.fresh.load file).2

/-- The session that an input addresses, if it can take that input now: a frame
is read in `recv_frame`, a second call belongs to a frame, and a session ends
between two frames. -/
def taker (coordinator : Coordinator) : Input → Option Session
  | .frame index _ _ _ =>
      (coordinator.sessions[index]?).filter fun session => session.phase.isWaiting
  | .resume index =>
      (coordinator.sessions[index]?).filter fun session => session.phase.isWithinFrame
  | .disconnect index =>
      (coordinator.sessions[index]?).filter fun session => session.phase.isBetweenFrames
  | .accept | .rehash => none

/-- The coordinator after an input; one that nobody can take changes nothing. -/
def next (limits : EngineLimits) (coordinator : Coordinator) (input : Input) : Coordinator :=
  match input, coordinator.taker input with
  | .accept, _ => { coordinator with
      sessions := coordinator.sessions ++
        [{ phase := if coordinator.stop then .leaving else .waiting }] }
  | .frame index now saved frame, some session =>
      let handled := handle limits now saved coordinator.stop (Request.ofFrame frame)
        coordinator.engine session
      { engine := handled.1
        sessions := coordinator.sessions.set index handled.2.1
        stop := handled.2.2 }
  | .resume index, some session =>
      let finished := finish coordinator.stop coordinator.engine session
      { coordinator with
        engine := finished.1
        sessions := coordinator.sessions.set index finished.2 }
  | .disconnect index, some session =>
      let left := leave coordinator.engine session
      { coordinator with
        engine := left.1
        sessions := coordinator.sessions.set index left.2 }
  | _, _ => coordinator

end Coordinator

/-- One step of the coordinator: an input, or a container that rehashes. -/
inductive CoordinatorStep (limits : EngineLimits) : Coordinator → Input → Coordinator → Prop
  | input (coordinator : Coordinator) (taken : Input) :
      CoordinatorStep limits coordinator taken (coordinator.next limits taken)
  | rehash {coordinator : Coordinator} {engine : Impl Binary64}
      (same : coordinator.engine.Reordered engine) :
      CoordinatorStep limits coordinator .rehash { coordinator with engine }

end CongestionFabric
