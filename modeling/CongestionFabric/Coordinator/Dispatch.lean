import CongestionFabric.Coordinator.Session
import CongestionFabric.Engine.DomainEffect
import CongestionFabric.Foundation.Handler

/-!
Contract: the dispatcher as one program (`handle` of `coordinator.cpp`), reads,
engine calls, context and replies in the order of the source.

Owns the branch of every message type, the dispatcher that answers whatever a
branch throws with NACK, the theorem that every branch is its reads followed by
its actions, and the reply discipline that follows from it, with the frames that
it does not cover: those that store outside the array of measurements.

Does not own: other sessions that act between the two calls of a frame. Left
alone, the dispatcher does what the steps of a session do.
-/

namespace CongestionFabric

open Foundation
open Foundation.Reader (u64 require many)

/-- What a session's thread acts on: the engine, its context, the frames it has
sent, and `g_stop`. -/
structure World where
  engine : Impl Binary64
  ctxWid : WorkerId
  ctxBoot : WorkerBootId
  sent : List Frame
  stop : Bool

/-- `send_frame`. -/
def World.sendFrame (world : World) (frame : Frame) : World :=
  { world with sent := world.sent ++ [frame] }

namespace Dispatch

open Handler (read act actIfDefined)

/-! ## Actions -/

def sendFrame (frame : Frame) : Handler World Unit := act fun world => ((), world.sendFrame frame)

/-- A call on the engine. -/
def call {A : Type} (operation : Impl Binary64 → A × Impl Binary64) : Handler World A :=
  act fun world => ((operation world.engine).1, { world with engine := (operation world.engine).2 })

/-- A call on the engine that the language may leave undefined. -/
def callIfDefined {A : Type} (operation : Impl Binary64 → Option (A × Impl Binary64)) :
    Handler World A :=
  actIfDefined fun world => (operation world.engine).map fun done =>
    (done.1, { world with engine := done.2 })

/-- A query of the engine. -/
def query {A : Type} (question : Impl Binary64 → A) : Handler World A :=
  act fun world => (question world.engine, world)

/-- `ok` or `nack`. -/
def verdict (accepted : Bool) : Handler World Unit := sendFrame (.verdict accepted)

/-- A call that is answered with OK or NACK. -/
def answered (operation : Impl Binary64 → Bool × Impl Binary64) : Handler World Unit := do
  let accepted ← call operation
  verdict accepted

/-! ## Branches -/

/-- REGISTER: the context is written before the engine is asked. -/
def register : Handler World Unit := do
  let worker ← read rdId
  let boot ← read rdGeneration
  let source ← read rdId
  let sourceBoot ← read rdGeneration
  act fun world => ((), { world with ctxWid := worker, ctxBoot := boot })
  let workerAccepted ← call (Impl.registerWorker worker boot)
  let sourceAccepted ← call (Impl.registerSource source sourceBoot)
  sendFrame (.ofType .registerAck (wrBool (workerAccepted && sourceAccepted)))

/-- CREATE_DOMAIN. -/
def createDomain (limits : EngineLimits) : Handler World Unit := do
  let kind ← read rdEnumUnchecked
  let theoreticalKind ← read rdEnumUnchecked
  let theoreticalBps ← read rdF64
  let configuredKind ← read rdEnumUnchecked
  let configuredBps ← read rdF64
  let created ← call (Impl.createDomain limits kind
    { theoretical :=
        { bytesPerSecond := theoreticalBps
          kind := theoreticalKind
          provenance := MeasurementProvenance.measured }
      configured :=
        { bytesPerSecond := configuredBps
          kind := configuredKind
          provenance := MeasurementProvenance.reported } })
  sendFrame (.ofType .domainCreated (wrCreated created))

/-- DECLARE_FLOW. -/
def declareFlow (limits : EngineLimits) (now : UInt64) : Handler World Unit := do
  let ownerWorker ← read rdId
  let ownerBoot ← read rdGeneration
  let source ← read rdId
  let sourceBoot ← read rdGeneration
  let trafficClass ← read rdEnumUnchecked
  let domainId ← read rdId
  let domainGeneration ← read rdGeneration
  let expectedBytes ← read u64
  let submittedBytes ← read u64
  let priority ← read rdF64
  let latencySensitivity ← read rdF64
  let throughputTargetBps ← read rdF64
  let burstAllowanceBytes ← read rdF64
  let deadlineMs ← read rdF64
  let provenance ← read rdEnumUnchecked
  let declared ← call (Impl.declareFlow limits now
    { ownerWorker, ownerBoot, source, sourceBoot, trafficClass,
      domain := ⟨domainId, domainGeneration⟩, expectedBytes, submittedBytes, priority,
      latencySensitivity, throughputTargetBps, burstAllowanceBytes, deadlineMs, provenance })
  sendFrame (.ofType .flowDeclared (wrCreated declared))

/-- ADMIT and QUEUE. -/
def onFlow (operation : EntityRef FlowTag → Impl Binary64 → Bool × Impl Binary64) :
    Handler World Unit := do
  let id ← read rdId
  let generation ← read rdGeneration
  answered (operation ⟨id, generation⟩)

/-- START, COMPLETE and REVALIDATE. -/
def onFlowBy
    (operation : EntityRef FlowTag → WorkerBootId → Impl Binary64 → Bool × Impl Binary64) :
    Handler World Unit := do
  let id ← read rdId
  let generation ← read rdGeneration
  let boot ← read rdGeneration
  answered (operation ⟨id, generation⟩ boot)

/-- PROGRESS and CANCEL. -/
def onFlowBytes
    (operation : EntityRef FlowTag → WorkerBootId → UInt64 → Impl Binary64 → Bool × Impl Binary64) :
    Handler World Unit := do
  let id ← read rdId
  let generation ← read rdGeneration
  let boot ← read rdGeneration
  let count ← read u64
  answered (operation ⟨id, generation⟩ boot count)

/-- PUBLISH_MEASUREMENT: only a session with a context may publish. -/
def publishMeasurement : Handler World Unit := do
  let domain ← read rdId
  let kind ← read rdEnumUnchecked
  let value ← read rdF64
  let provenance ← read rdEnumUnchecked
  let confidence ← read rdF64
  let context ← act fun world => ((world.ctxWid, world.ctxBoot), world)
  if !context.1.isValid then verdict false
  else do
    let accepted ← callIfDefined (Impl.publishMeasurement? domain
      { kind, value, provenance, confidence } context.1 context.2)
    verdict accepted

/-- QUERY_CONGESTION. -/
def queryCongestion (limits : EngineLimits) (now : UInt64) : Handler World Unit := do
  let domain ← read rdId
  let assessment ← call (Impl.recomputeDomain limits now domain)
  let snap ← query fun engine => engine.snapshot domain
  sendFrame (.ofType .congestionUpdate (wrCongestionUpdate assessment snap))

/-- QUERY_BOTTLENECK. -/
def queryBottleneck : Handler World Unit := do
  let count ← read u64
  read (require (count.toNat ≤ 1024) "count exceeds bound")
  let path ← read (many count.toNat rdId)
  let result ← query fun engine => engine.identifyBottleneck Binary64.toDecimal path
  sendFrame (.ofType .bottleneck
    [wrBool result.domain.id.isValid, wrId result.domain.id, wrF64 result.deficitBps,
      wrStr result.explanation].flatten)

/-- QUERY_RESIDUAL. -/
def queryResidual : Handler World Unit := do
  let domain ← read rdId
  let offeredBps ← read rdF64
  let result ← query fun engine => engine.queryResidualCapacity domain offeredBps
  sendFrame (.ofType .residual
    [wrBool result.hasCapacity, wrF64 result.effectiveBps, wrF64 result.residualBps].flatten)

/-- APPLY_SHAPING. -/
def applyShaping : Handler World Unit := do
  let domain ← read rdId
  let intent ← read rdEnumUnchecked
  let generation ← read rdGeneration
  let expectedBenefitBps ← read rdF64
  answered (Impl.applyLocalShaping domain { intent, generation, expectedBenefitBps })

/-- The switch of `handle`. -/
def branch (limits : EngineLimits) (now : UInt64) (saved : Bool) :
    Option MessageType → Handler World Unit
  | some .hello => do
      let _name ← read rdStr
      verdict true
  | some .register => register
  | some .createDomain => createDomain limits
  | some .declareFlow => declareFlow limits now
  | some .admission => onFlow Impl.admitFlow
  | some .queue => onFlow (Impl.queueFlow limits)
  | some .start => onFlowBy (Impl.startFlow now)
  | some .progress => onFlowBytes (Impl.flowProgress now)
  | some .complete => onFlowBy (Impl.flowComplete now)
  | some .cancel => onFlowBytes (Impl.flowCancel now)
  | some .publishMeasurement => publishMeasurement
  | some .queryCongestion => queryCongestion limits now
  | some .queryBottleneck => queryBottleneck
  | some .queryResidual => queryResidual
  | some .applyShaping => applyShaping
  | some .fenceWorker => do
      let worker ← read rdId
      let boot ← read rdGeneration
      answered (Impl.fenceWorker worker boot)
  | some .invalidateSource => do
      let source ← read rdId
      let boot ← read rdGeneration
      answered (Impl.fenceSource source boot)
  | some .advanceGeneration => do
      let id ← read rdId
      let generation ← read rdGeneration
      let next ← read rdGeneration
      answered (Impl.advanceFlowGeneration ⟨id, generation⟩ next)
  | some .revalidate => onFlowBy Impl.revalidateFlow
  | some .save => do
      let _path ← read rdStr
      verdict saved
  | some .shutdown => do
      verdict true
      act fun world => ((), { world with stop := true })
  | some _ | none => verdict false

end Dispatch

/-- `handle`: an exception that leaves a branch is answered with NACK. It has no
result where a branch does what the language leaves undefined. -/
def dispatch (limits : EngineLimits) (now : UInt64) (saved : Bool) (frame : Frame)
    (world : World) : Option World :=
  (Dispatch.branch limits now saved (MessageType.ofU8? frame.type)).attempt
    (fun after => after.sendFrame (.verdict false)) frame.body world

/-! ## Reads before actions -/

/-- The request publishes for a domain in the map, with a context whose boot is the
recorded one, and its kind byte is above the last enumerator. -/
def World.storesOutside (world : World) : Request → Bool
  | .publishMeasurement domain measurement =>
      world.ctxWid.isValid && world.engine.domains.contains domain &&
        world.engine.publishable measurement world.ctxWid world.ctxBoot &&
        !measurement.kind.valid
  | _ => false

/-- Both steps of a session on a frame, with nobody in between. -/
def World.serve (limits : EngineLimits) (now : UInt64) (saved : Bool) (request : Option Request)
    (world : World) : World :=
  let session : Session :=
    { ctxWid := world.ctxWid, ctxBoot := world.ctxBoot, sent := world.sent }
  let handled := handle limits now saved world.stop request world.engine session
  let finished := finish handled.2.2 handled.1 handled.2.1
  { engine := finished.1
    ctxWid := finished.2.ctxWid
    ctxBoot := finished.2.ctxBoot
    sent := finished.2.sent
    stop := handled.2.2 }

namespace Dispatch

open Handler (read act actIfDefined read_bind read_pure)

variable {limits : EngineLimits} {now : UInt64} {saved : Bool}

/-- Do what a session does for a request that has been read. -/
def respond (limits : EngineLimits) (now : UInt64) (saved : Bool) (request : Request) :
    Handler World Unit :=
  actIfDefined fun world =>
    if world.storesOutside request then none
    else some ((), world.serve limits now saved (some request))

/-- A request that `handle` answers after one call. -/
private theorem respond_eq_call {A : Type} {request : Request}
    (operation : Impl Binary64 → A × Impl Binary64) (reply : A → Frame)
    (inside : ∀ world : World, world.storesOutside request = false)
    (handles : ∀ stop engine session, handle limits now saved stop (some request) engine session =
      ((operation engine).2, session.answer stop (reply (operation engine).1), stop)) :
    respond limits now saved request = call operation >>= fun result =>
      sendFrame (reply result) := by
  funext input world
  have defined := inside world
  obtain ⟨engine, ctxWid, ctxBoot, sent, stop⟩ := world
  cases stop with
  | true =>
      simp only [respond, actIfDefined, defined, World.serve, handles]
      rfl
  | false =>
      simp only [respond, actIfDefined, defined, World.serve, handles]
      rfl

/-- A request that `handle` answers without asking the engine. -/
private theorem respond_eq_verdict {request : Request} {accepted : Bool}
    (inside : ∀ world : World, world.storesOutside request = false)
    (handles : ∀ stop engine session, handle limits now saved stop (some request) engine session =
      (engine, session.answer stop (.verdict accepted), stop)) :
    respond limits now saved request = verdict accepted :=
  (respond_eq_call (fun engine => ((), engine)) (fun _ => .verdict accepted) inside handles).trans
    rfl

/-- An operation that is answered with OK or NACK. -/
private theorem respond_operation {operation : Impl Binary64 → Bool × Impl Binary64}
    (op : Op Binary64)
    (executes : ∀ engine, exec limits now op engine = (operation engine).map .verdict id) :
    respond limits now saved (.operation op) = answered operation := by
  apply respond_eq_call _ _ fun _ => rfl
  intro stop engine session
  rw [handle, executes]
  dsimp only [Prod.map_fst, Prod.map_snd, Result.failed]
  rw [Bool.not_not]
  rfl

private theorem respond_register (worker : WorkerId) (boot : WorkerBootId) (source : SourceId)
    (sourceBoot : SourceBootId) :
    respond limits now saved (.register worker boot source sourceBoot) = (do
      act fun world => ((), { world with ctxWid := worker, ctxBoot := boot })
      let workerAccepted ← call (Impl.registerWorker worker boot)
      let sourceAccepted ← call (Impl.registerSource source sourceBoot)
      sendFrame (.ofType .registerAck (wrBool (workerAccepted && sourceAccepted)))) := by
  funext input world
  obtain ⟨engine, ctxWid, ctxBoot, sent, stop⟩ := world
  cases stop <;> rfl

/-- A call that is answered with its verdict, if it has one. -/
private theorem callIfDefined_verdict
    (operation : Impl Binary64 → Option (Bool × Impl Binary64)) (input : List UInt8)
    (world : World) :
    (callIfDefined operation >>= verdict) input world =
      (operation world.engine).map fun done =>
        (.ok ((), input), { world with engine := done.2 }.sendFrame (.verdict done.1)) := by
  have acted : callIfDefined operation input world = (operation world.engine).map fun done =>
      (.ok (done.1, input), { world with engine := done.2 }) := by
    unfold callIfDefined actIfDefined
    rw [Option.map_map]
    rfl
  cases result : operation world.engine with
  | none =>
      rw [result] at acted
      exact Handler.bind_undefined acted
  | some done =>
      rw [result] at acted
      exact Handler.bind_returns acted

private theorem respond_publishMeasurement (domain : CongestionDomainId)
    (measurement : Measurement Binary64) :
    respond limits now saved (.publishMeasurement domain measurement) = (do
      let context ← act fun world => ((world.ctxWid, world.ctxBoot), world)
      if !context.1.isValid then verdict false
      else do
        let accepted ← callIfDefined (Impl.publishMeasurement? domain measurement
          context.1 context.2)
        verdict accepted) := by
  funext input world
  obtain ⟨engine, ctxWid, ctxBoot, sent, stop⟩ := world
  have gate : ((do
      let context ← act fun world => ((world.ctxWid, world.ctxBoot), world)
      if !context.1.isValid then verdict false
      else do
        let accepted ← callIfDefined (Impl.publishMeasurement? domain measurement
          context.1 context.2)
        verdict accepted) :
        Handler World Unit) input ⟨engine, ctxWid, ctxBoot, sent, stop⟩ =
      (if !ctxWid.isValid then verdict false
        else callIfDefined (Impl.publishMeasurement? domain measurement ctxWid ctxBoot) >>=
          verdict) input ⟨engine, ctxWid, ctxBoot, sent, stop⟩ := rfl
  rw [gate]
  simp only [respond, actIfDefined, World.serve, World.storesOutside, handle]
  cases ctxWid.isValid with
  | false => cases stop <;> rfl
  | true =>
      simp only [Bool.not_true, Bool.false_eq_true, if_false, callIfDefined_verdict,
        publishMeasurement?_eq, Bool.true_and]
      split
      · rfl
      · cases stop <;> rfl

private theorem respond_queryCongestion (domain : CongestionDomainId) :
    respond limits now saved (.queryCongestion domain) = (do
      let assessment ← call (Impl.recomputeDomain limits now domain)
      let snap ← query fun engine => engine.snapshot domain
      sendFrame (.ofType .congestionUpdate (wrCongestionUpdate assessment snap))) := by
  funext input world
  obtain ⟨engine, ctxWid, ctxBoot, sent, stop⟩ := world
  cases stop <;> rfl

private theorem onFlow_eq {op : EntityRef FlowTag → Op Binary64}
    {operation : EntityRef FlowTag → Impl Binary64 → Bool × Impl Binary64}
    (executes : ∀ ref engine, exec limits now (op ref) engine =
      (operation ref engine).map .verdict id) :
    onFlow operation = read (Request.rdOnFlow op) >>= respond limits now saved := by
  have responds : ∀ ref, respond limits now saved (.operation (op ref)) =
      answered (operation ref) := fun ref => respond_operation (op ref) (executes ref)
  simp only [onFlow, Request.rdOnFlow, rdRef, read_bind, read_pure, bind_assoc, pure_bind,
    responds]

private theorem onFlowBy_eq {op : EntityRef FlowTag → WorkerBootId → Op Binary64}
    {operation : EntityRef FlowTag → WorkerBootId → Impl Binary64 → Bool × Impl Binary64}
    (executes : ∀ ref boot engine, exec limits now (op ref boot) engine =
      (operation ref boot engine).map .verdict id) :
    onFlowBy operation = read (Request.rdOnFlowBy op) >>= respond limits now saved := by
  have responds : ∀ ref boot, respond limits now saved (.operation (op ref boot)) =
      answered (operation ref boot) :=
    fun ref boot => respond_operation (op ref boot) (executes ref boot)
  simp only [onFlowBy, Request.rdOnFlowBy, rdRef, read_bind, read_pure, bind_assoc, pure_bind,
    responds]

private theorem onFlowBytes_eq {op : EntityRef FlowTag → WorkerBootId → UInt64 → Op Binary64}
    {operation : EntityRef FlowTag → WorkerBootId → UInt64 → Impl Binary64 →
      Bool × Impl Binary64}
    (executes : ∀ ref boot count engine, exec limits now (op ref boot count) engine =
      (operation ref boot count engine).map .verdict id) :
    onFlowBytes operation = read (Request.rdOnFlowBytes op) >>= respond limits now saved := by
  have responds : ∀ ref boot count, respond limits now saved (.operation (op ref boot count)) =
      answered (operation ref boot count) :=
    fun ref boot count => respond_operation (op ref boot count) (executes ref boot count)
  simp only [onFlowBytes, Request.rdOnFlowBytes, rdRef, read_bind, read_pure, bind_assoc,
    pure_bind, responds]

/-- Every branch reads its whole body before it touches the engine, the context
or the socket. -/
theorem branch_eq (type : Option MessageType) :
    branch limits now saved type =
      read (Request.rdBody type) >>= respond limits now saved := by
  have unsupported : respond limits now saved .unsupported = verdict false :=
    respond_eq_verdict (fun _ => rfl) fun _ _ _ => rfl
  cases type with
  | none => exact unsupported.symm
  | some type =>
      cases type with
      | hello =>
          have responds : ∀ name, respond limits now saved (.hello name) = verdict true :=
            fun _ => respond_eq_verdict (fun _ => rfl) fun _ _ _ => rfl
          simp only [branch, Request.rdBody, read_bind, read_pure, bind_assoc, pure_bind, responds]
      | register =>
          simp only [branch, register, Request.rdBody, Request.rdRegister, read_bind, read_pure,
            bind_assoc, pure_bind, respond_register]
      | createDomain =>
          have responds : ∀ kind capacity, respond limits now saved (.createDomain kind capacity) =
              call (Impl.createDomain limits kind capacity) >>= fun created =>
                sendFrame (.ofType .domainCreated (wrCreated created)) :=
            fun _ _ => respond_eq_call _ _ (fun _ => rfl) fun _ _ _ => rfl
          simp only [branch, createDomain, Request.rdBody, Request.rdCreateDomain, read_bind,
            read_pure, bind_assoc, pure_bind, responds]
      | declareFlow =>
          have responds : ∀ options, respond limits now saved (.declareFlow options) =
              call (Impl.declareFlow limits now options) >>= fun declared =>
                sendFrame (.ofType .flowDeclared (wrCreated declared)) :=
            fun _ => respond_eq_call _ _ (fun _ => rfl) fun _ _ _ => rfl
          simp only [branch, declareFlow, Request.rdBody, Request.rdDeclareFlow, rdRef, read_bind,
            read_pure, bind_assoc, pure_bind, responds]
      | admission => exact onFlow_eq fun _ _ => rfl
      | queue => exact onFlow_eq fun _ _ => rfl
      | start => exact onFlowBy_eq fun _ _ _ => rfl
      | progress => exact onFlowBytes_eq fun _ _ _ _ => rfl
      | complete => exact onFlowBy_eq fun _ _ _ => rfl
      | cancel => exact onFlowBytes_eq fun _ _ _ _ => rfl
      | publishMeasurement =>
          simp only [branch, publishMeasurement, Request.rdBody, Request.rdPublishMeasurement,
            read_bind, read_pure, bind_assoc, pure_bind, respond_publishMeasurement]
      | queryCongestion =>
          simp only [branch, queryCongestion, Request.rdBody, read_bind, read_pure, bind_assoc,
            pure_bind, respond_queryCongestion]
      | queryBottleneck =>
          have responds : ∀ path, respond limits now saved (.queryBottleneck path) =
              query (fun engine => engine.identifyBottleneck Binary64.toDecimal path) >>=
                fun result => sendFrame (.ofType .bottleneck
                  [wrBool result.domain.id.isValid, wrId result.domain.id, wrF64 result.deficitBps,
                    wrStr result.explanation].flatten) :=
            fun path => respond_eq_call
              (fun engine => (engine.identifyBottleneck Binary64.toDecimal path, engine)) _
              (fun _ => rfl) fun _ _ _ => rfl
          simp only [branch, queryBottleneck, Request.rdBody, Request.rdQueryBottleneck, read_bind,
            read_pure, bind_assoc, pure_bind, responds]
      | queryResidual =>
          have responds : ∀ domain offeredBps,
              respond limits now saved (.queryResidual domain offeredBps) =
              query (fun engine => engine.queryResidualCapacity domain offeredBps) >>=
                fun result => sendFrame (.ofType .residual [wrBool result.hasCapacity,
                  wrF64 result.effectiveBps, wrF64 result.residualBps].flatten) :=
            fun domain offeredBps => respond_eq_call
              (fun engine => (engine.queryResidualCapacity domain offeredBps, engine)) _
              (fun _ => rfl) fun _ _ _ => rfl
          simp only [branch, queryResidual, Request.rdBody, read_bind, read_pure, bind_assoc,
            pure_bind, responds]
      | applyShaping =>
          have responds : ∀ domain action,
              respond limits now saved (.operation (.applyLocalShaping domain action)) =
              answered (Impl.applyLocalShaping domain action) :=
            fun _ _ => respond_operation _ fun _ => rfl
          simp only [branch, applyShaping, Request.rdBody, Request.rdApplyShaping, read_bind,
            read_pure, bind_assoc, pure_bind, responds]
      | fenceWorker =>
          have responds : ∀ worker boot,
              respond limits now saved (.operation (.fenceWorker worker boot)) =
              answered (Impl.fenceWorker worker boot) :=
            fun _ _ => respond_operation _ fun _ => rfl
          simp only [branch, Request.rdBody, read_bind, read_pure, bind_assoc, pure_bind, responds]
      | invalidateSource =>
          have responds : ∀ source boot,
              respond limits now saved (.operation (.fenceSource source boot)) =
              answered (Impl.fenceSource source boot) :=
            fun _ _ => respond_operation _ fun _ => rfl
          simp only [branch, Request.rdBody, read_bind, read_pure, bind_assoc, pure_bind, responds]
      | advanceGeneration =>
          have responds : ∀ ref next,
              respond limits now saved (.operation (.advanceFlowGeneration ref next)) =
              answered (Impl.advanceFlowGeneration ref next) :=
            fun _ _ => respond_operation _ fun _ => rfl
          simp only [branch, Request.rdBody, rdRef, read_bind, read_pure, bind_assoc, pure_bind,
            responds]
      | revalidate => exact onFlowBy_eq fun _ _ _ => rfl
      | save =>
          have responds : ∀ path, respond limits now saved (.save path) = verdict saved :=
            fun _ => respond_eq_verdict (fun _ => rfl) fun _ _ _ => rfl
          simp only [branch, Request.rdBody, read_bind, read_pure, bind_assoc, pure_bind, responds]
      | shutdown => rfl
      | _ => exact unsupported.symm

end Dispatch

/-! ## One reply to every frame -/

variable {limits : EngineLimits} {now : UInt64} {saved : Bool}

/-- The body of the frame decodes to a publication that is accepted and whose kind
byte is above the last enumerator. -/
def World.publishesOutside (world : World) (frame : Frame) : Bool :=
  (Request.ofFrame frame).any world.storesOutside

private theorem World.serve_none (world : World) :
    world.serve limits now saved none = world.sendFrame (.verdict false) := by
  obtain ⟨engine, ctxWid, ctxBoot, sent, stop⟩ := world
  cases stop <;> rfl

/-- The dispatcher, left alone, does what the two steps of a session do, unless the
frame stores outside the array of measurements. -/
theorem dispatch_eq (frame : Frame) (world : World) :
    dispatch limits now saved frame world =
      if world.publishesOutside frame then none
      else some (world.serve limits now saved (Request.ofFrame frame)) := by
  unfold dispatch Handler.attempt World.publishesOutside Request.ofFrame
  rw [Dispatch.branch_eq]
  rcases body : Request.rdBody (MessageType.ofU8? frame.type) frame.body with text | ⟨request, rest⟩
  · rw [Handler.read_throws body]
    exact congrArg some world.serve_none.symm
  · rw [Handler.read_returns body]
    simp only [Dispatch.respond, Handler.actIfDefined]
    change _ = if world.storesOutside request then none else _
    split <;> rfl

/-- A branch throws exactly where the reads of its message type fail, and has
done nothing by then. -/
theorem branch_throws_iff (frame : Frame) (world : World) :
    (∃ text after,
      Dispatch.branch limits now saved (MessageType.ofU8? frame.type) frame.body world =
      some (.error text, after)) ↔ Request.ofFrame frame = none := by
  unfold Request.ofFrame
  rw [Dispatch.branch_eq]
  rcases body : Request.rdBody (MessageType.ofU8? frame.type) frame.body with text | ⟨request, rest⟩
  · exact iff_of_true ⟨text, world, Handler.read_throws body⟩ rfl
  · rw [Handler.read_returns body]
    refine iff_of_false ?_ (by simp)
    rintro ⟨text, after, never⟩
    simp only [Dispatch.respond, Handler.actIfDefined] at never
    split at never
    · exact absurd never (by simp)
    · exact absurd never (by simp)

private theorem World.serve_sent (world : World) (request : Request) :
    ∃ reply, (world.serve limits now saved (some request)).sent = world.sent ++ [reply] := by
  obtain ⟨engine, ctxWid, ctxBoot, sent, stop⟩ := world
  cases request with
  | publishMeasurement domain measurement =>
      cases valid : ctxWid.isValid <;> cases stop <;>
        simp only [World.serve, handle, valid] <;> exact ⟨_, rfl⟩
  | _ => cases stop <;> exact ⟨_, rfl⟩

/-- The dispatcher has a result, has sent exactly one frame and, where the body
cannot be read, has sent NACK and left everything else as it was. -/
def Disciplined (limits : EngineLimits) (now : UInt64) (saved : Bool) (frame : Frame)
    (world : World) : Prop :=
  ∃ after, dispatch limits now saved frame world = some after ∧
    (∃ reply, after.sent = world.sent ++ [reply]) ∧
    (Request.ofFrame frame = none → after = { world with sent := world.sent ++ [.ofType .nack []] })

/-- For every engine, context, message type and body the dispatcher keeps the reply
discipline exactly if the frame is no accepted publication with a kind byte above
the last enumerator. -/
theorem one_reply_each_iff (limits : EngineLimits) (now : UInt64) (saved : Bool) (frame : Frame)
    (world : World) :
    world.publishesOutside frame = false ↔ Disciplined limits now saved frame world := by
  unfold Disciplined
  rw [dispatch_eq]
  cases outside : world.publishesOutside frame with
  | true => simp
  | false =>
      refine iff_of_true rfl ⟨_, rfl, ?_, fun unread => ?_⟩
      · cases Request.ofFrame frame with
        | none =>
            rw [World.serve_none]
            exact ⟨_, rfl⟩
        | some request => exact world.serve_sent request
      · rw [unread, World.serve_none]
        rfl

/-- A session of worker 1 whose boot is recorded, and one domain. -/
private def publisherWorld : World where
  engine := execAll {} [(1, .registerWorker ⟨1⟩ ⟨1⟩),
    (1, .createDomain DomainKind.nicTx {})] Impl.fresh
  ctxWid := ⟨1⟩
  ctxBoot := ⟨1⟩
  sent := []
  stop := false

/-- A measurement of the kind 200 for domain 1. -/
private def outsidePublication : Frame := .publishMeasurement 200 3.0

/-- The publication of kind 200 is accepted and stores at index 200 of an array of
twenty: the dispatcher has no defined result. -/
theorem outsidePublication_undisciplined :
    ¬∀ (limits : EngineLimits) (now : UInt64) (saved : Bool) (frame : Frame) (world : World),
      Disciplined limits now saved frame world := by
  intro always
  obtain ⟨after, dispatched, -⟩ := always {} 1 true outsidePublication publisherWorld
  have outside : publisherWorld.publishesOutside outsidePublication = true := by decide +kernel
  rw [dispatch_eq, outside] at dispatched
  exact absurd dispatched (by simp)

end CongestionFabric
