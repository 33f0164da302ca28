import CongestionFabric.Coordinator.Request
import CongestionFabric.Foundation.Dialogue

/-!
Contract: the reference client (`cfworker.cpp`).

Owns the requests of the client, how it reads the replies, and every scenario as a
program that sends one frame after another to the coordinator and goes on from the
replies.

Does not own: the command line as text, the socket, the identifier file, and the loop
of `--stay`, which sends nothing. A reply is missing where `recv_frame` fails; where a
`Reader` throws, the process ends, since nothing catches the exception.
-/

namespace CongestionFabric

open Foundation

/-- A part of the client: it sends frames and may receive one for each. -/
abbrev Worker : Type → Type := Client Frame Frame

namespace Worker

/-- The options of the command line. -/
structure Arguments where
  worker : WorkerId := ⟨1⟩
  boot : WorkerBootId := ⟨1⟩
  source : SourceId := ⟨1⟩
  sourceBoot : SourceBootId := ⟨1⟩
  /-- `--domain` and `--dgen`; the scenarios on a flow take them for the flow. -/
  domain : UInt64 := 0
  dgen : UInt64 := 0
  bytes : UInt64 := 0
  trafficClass : UInt64 := 0
  delta : UInt64 := 0
  offered : Binary64 := 0.0
  serviced : Binary64 := 0.0
  capacity : Binary64 := 0.0
  path : Bytes := []
  /-- What `get_domain` reads; zero where there is nothing to read. -/
  remembered : UInt64 := 0
  /-- What the type of a `Frame` is before one is read into it. -/
  unread : UInt8 := 0

/-- The reference that the scenarios on a flow are given. -/
def Arguments.flow (args : Arguments) : EntityRef FlowTag := ⟨⟨args.domain⟩, ⟨args.dgen⟩⟩

/-! ## Frames -/

/-- `send_frame` and `recv_frame`. -/
def exchange (type : MessageType) (body : Bytes) : Worker (Option Frame) :=
  Client.request (.ofType type body)

def hasType (type : MessageType) (reply : Option Frame) : Bool :=
  reply.any fun frame => frame.type = type.toU8

/-- A reply of the expected type is read. -/
def readAs {A : Type} (type : MessageType) (reader : Reader A) (reply : Option Frame) :
    Worker (Option A) :=
  match reply with
  | none => pure none
  | some frame =>
      if frame.type = type.toU8 then
        match reader frame.body with
        | .ok (value, _) => pure (some value)
        | .error _ => .abort
      else pure none

/-- A request whose reply is read. -/
def ask {A : Type} (type : MessageType) (body : Bytes) (expected : MessageType)
    (reader : Reader A) : Worker (Option A) := do
  let reply ← exchange type body
  readAs expected reader reply

/-- A request of whose reply only the type counts. -/
def answered (expected type : MessageType) (body : Bytes) : Worker Bool := do
  let reply ← exchange type body
  pure (hasType expected reply)

/-- DOMAIN_CREATED and FLOW_DECLARED: a flag and the reference. -/
def rdCreated {Tag : Type} : Reader (Option (EntityRef Tag)) := do
  let accepted ← rdBool
  let ref ← rdRef
  pure (if accepted then some ref else none)

/-! ## Requests -/

/-- The four numbers of an identity. -/
def wrIdentity (args : Arguments) : List Bytes :=
  [wrId args.worker, wrGeneration args.boot, wrId args.source, wrGeneration args.sourceBoot]

/-- The body of PUBLISH_MEASUREMENT, with full confidence. -/
def wrMeasurement (domain : CongestionDomainId) (kind : MeasurementKind) (value : Binary64) :
    Bytes :=
  [wrId domain, wrEnum (kind : Enum8 MeasurementKind), wrF64 value,
    wrEnum (MeasurementProvenance.reported : Enum8 MeasurementProvenance), wrF64 1.0].flatten

/-- `hello`. -/
def hello : Worker Bool := do
  let reply ← exchange .hello (wrStr (ascii "cfworker"))
  pure reply.isSome

/-- `do_register`. -/
def doRegister (args : Arguments) : Worker Bool := do
  let acknowledged ← ask .register (wrIdentity args).flatten .registerAck rdBool
  pure (acknowledged.getD false)

/-- The body of CREATE_DOMAIN: a network path. -/
def wrCreateDomain (args : Arguments) : Bytes :=
  [wrEnum (DomainKind.networkPath : Enum8 DomainKind),
    wrEnum (BandwidthKind.theoretical : Enum8 BandwidthKind), wrF64 args.capacity,
    wrEnum (BandwidthKind.configured : Enum8 BandwidthKind), wrF64 args.capacity].flatten

/-- The body of DECLARE_FLOW. -/
def wrDeclareFlow (args : Arguments) (domain : EntityRef CongestionDomainTag) : Bytes :=
  (wrIdentity args ++
    [wr8 args.trafficClass.toUInt8, wrRef domain, wr64 args.bytes, wr64 args.bytes, wrF64 0.0,
      wrF64 0.0, wrF64 0.0, wrF64 0.0, wrF64 0.0,
      wrEnum (MeasurementProvenance.reported : Enum8 MeasurementProvenance)]).flatten

/-- The body of START and COMPLETE. -/
def wrFlowBy (args : Arguments) (flow : EntityRef FlowTag) : Bytes :=
  [wrRef flow, wrGeneration args.boot].flatten

/-- The body of PROGRESS. -/
def wrProgress (args : Arguments) (flow : EntityRef FlowTag) : Bytes :=
  [wrRef flow, wrGeneration args.boot, wr64 args.delta].flatten

/-- `do_create`; the reference is there if the coordinator says so. -/
def doCreate (args : Arguments) : Worker (Option (EntityRef CongestionDomainTag)) := do
  let created ← ask .createDomain (wrCreateDomain args) .domainCreated rdCreated
  pure created.join

/-- `do_declare`. -/
def doDeclare (args : Arguments) (domain : EntityRef CongestionDomainTag) :
    Worker (Option (EntityRef FlowTag)) := do
  let declared ← ask .declareFlow (wrDeclareFlow args domain) .flowDeclared rdCreated
  pure declared.join

/-- `send_flow_op`. -/
def sendFlowOp (type : MessageType) (flow : EntityRef FlowTag) : Worker Bool :=
  answered .ok type (wrRef flow)

/-- `do_start`. -/
def doStart (args : Arguments) (flow : EntityRef FlowTag) : Worker Bool :=
  answered .ok .start (wrFlowBy args flow)

/-- `do_measure`; nobody looks at the replies. -/
def doMeasure (args : Arguments) (domain : CongestionDomainId) : Worker Unit := do
  let _ ← exchange .publishMeasurement
    (wrMeasurement domain .offeredBytesPerSec args.offered)
  let _ ← exchange .publishMeasurement
    (wrMeasurement domain .completedBytesPerSec args.serviced)
  pure ()

/-- The line that `do_query` prints. -/
structure Report where
  state : UInt8
  provenance : UInt8
  score : Binary64
  authoritative : UInt8
  hasLoad : UInt8
  offeredBps : Binary64
  servicedBps : Binary64
  effectiveBps : Binary64
  residualBps : Binary64

def rdReport : Reader Report := do
  let state ← Reader.u8
  let provenance ← Reader.u8
  let score ← rdF64
  let authoritative ← Reader.u8
  let hasLoad ← Reader.u8
  let offeredBps ← rdF64
  let servicedBps ← rdF64
  let effectiveBps ← rdF64
  let residualBps ← rdF64
  pure ⟨state, provenance, score, authoritative, hasLoad, offeredBps, servicedBps, effectiveBps,
    residualBps⟩

/-- `do_query`; without a report the exit code is 1. -/
def doQuery (domain : CongestionDomainId) : Worker (Option Report) :=
  ask .queryCongestion (wrId domain) .congestionUpdate rdReport

/-! ## Scenarios -/

/-- The steps that a scenario names when it fails. -/
inductive Stage where
  | register | create | declare | admission | start
deriving DecidableEq

/-- What a process leaves: its exit code, the step that failed, and the numbers it
prints behind DRIVE_OK, COMPETE_OK or RESURRECT_OK. -/
structure Outcome where
  code : Nat
  failed : Option Stage := none
  launched : Option (CongestionDomainId × FlowId) := none
deriving DecidableEq

/-- Exit code 0 for success and 1 for failure. -/
def exit (succeeded : Bool) : Outcome := { code := if succeeded then 0 else 1 }

/-- A step that failed ends the scenario. -/
def orFail {A : Type} (stage : Stage) (next : A → Worker Outcome) : Option A → Worker Outcome
  | some value => next value
  | none => pure { code := 1, failed := some stage }

/-- A step that only succeeds or fails. -/
def check (stage : Stage) (next : Worker Outcome) (succeeded : Bool) : Worker Outcome :=
  orFail stage (fun _ => next) (if succeeded then some () else none)

/-- What `drive`, `compete` and `resurrect` have in common: a flow is declared, admitted,
started and measured. -/
def launch (args : Arguments) (domain : EntityRef CongestionDomainTag)
    (last : Outcome → Worker Outcome) : Worker Outcome :=
  doDeclare args domain >>= orFail .declare fun flow =>
    sendFlowOp .admission flow >>= check .admission (
      doStart args flow >>= check .start (do
        doMeasure args domain.id
        last { code := 0, launched := some (domain.id, flow.id) }))

/-- `drive`: a domain of its own. -/
def drive (args : Arguments) : Worker Outcome :=
  doRegister args >>= check .register (
    doCreate args >>= orFail .create fun domain => launch args domain pure)

/-- The domain of the identifier file, at its first generation. -/
def Arguments.remote (args : Arguments) : EntityRef CongestionDomainTag :=
  ⟨⟨args.remembered⟩, ⟨1⟩⟩

/-- `compete`: in the domain of another worker, with a look at its congestion. -/
def compete (args : Arguments) : Worker Outcome :=
  doRegister args >>= check .register (
    launch args args.remote fun outcome => do
      let report ← doQuery args.remote.id
      pure { outcome with code := if report.isSome then 0 else 1 })

/-- `resurrect`. -/
def resurrect (args : Arguments) : Worker Outcome :=
  doRegister args >>= check .register (launch args args.remote pure)

/-- `control`: a report, then perhaps a file, then the end of the coordinator. -/
def control (args : Arguments) : Worker Outcome :=
  let domain := if args.domain ≠ 0 then args.domain else args.remembered
  if domain = 0 then pure (exit false)
  else do
    let report ← doQuery ⟨domain⟩
    if !args.path.isEmpty then
      let _ ← exchange .save (wrStr args.path)
    let _ ← exchange .shutdown []
    pure (exit report.isSome)

/-- REGISTER in `replay`: a frame that was not received is looked at all the same. -/
def registerRejected (args : Arguments) : Worker Bool := do
  let reply ← exchange .register (wrIdentity args).flatten
  let acknowledged ← readAs .registerAck rdBool (some (reply.getD ⟨args.unread, []⟩))
  pure !acknowledged.getD false

/-- `replay`: a worker whose boot is fenced tries everything again; success is that
every request is rejected. -/
def replay (args : Arguments) : Worker Outcome := do
  let register ← registerRejected args
  let measure ← answered .nack .publishMeasurement
    (wrMeasurement ⟨args.domain⟩ .offeredBytesPerSec args.offered)
  let progress ← answered .nack .progress (wrProgress args args.flow)
  let complete ← answered .nack .complete (wrFlowBy args args.flow)
  pure (exit (register && measure && progress && complete))

inductive Scenario where
  | register | create | declare | admission | start | progress | complete | measure | query | drive
  | compete | resurrect | control | replay | shutdown | fence | save

def Scenario.run (args : Arguments) : Scenario → Worker Outcome
  | .register => do pure (exit (← doRegister args))
  | .create => do pure (exit (← doCreate args).isSome)
  | .declare => do pure (exit (← doDeclare args ⟨⟨args.domain⟩, ⟨args.dgen⟩⟩).isSome)
  | .admission => do pure (exit (← sendFlowOp .admission args.flow))
  | .start => do pure (exit (← doStart args args.flow))
  | .progress => do pure (exit (← answered .ok .progress (wrProgress args args.flow)))
  | .complete => do pure (exit (← answered .ok .complete (wrFlowBy args args.flow)))
  | .measure => do
      doMeasure args ⟨args.domain⟩
      pure (exit true)
  | .query => do pure (exit (← doQuery ⟨args.domain⟩).isSome)
  | .drive => Worker.drive args
  | .compete => Worker.compete args
  | .resurrect => Worker.resurrect args
  | .control => Worker.control args
  | .replay => Worker.replay args
  | .shutdown => do
      let _ ← exchange .shutdown []
      pure (exit true)
  | .fence => do
      let fenced ← answered .ok .fenceWorker [wrId args.worker, wrGeneration args.boot].flatten
      pure (exit fenced)
  | .save => do pure (exit (← answered .ok .save (wrStr args.path)))

/-- `main` on a connected socket; there is no scenario where the name is unknown. -/
def main (args : Arguments) (scenario : Option Scenario) : Worker Outcome := do
  if ← hello then
    match scenario with
    | some scenario => scenario.run args
    | none => pure { code := 2 }
  else pure { code := 2 }

end Worker

end CongestionFabric
