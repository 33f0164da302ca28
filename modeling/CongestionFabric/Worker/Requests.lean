import CongestionFabric.Persistence.RoundTrip
import CongestionFabric.Worker.Lasting

/-!
Contract: one request of the client and its reply.

Owns what the coordinator reads from the client's frames, the rule for a request, and
what a client knows after each request of a launch that succeeded.

Does not own: the order of the requests.
-/

namespace CongestionFabric

open Foundation
open Foundation.Reader
open Foundation.Client

/-! ## Frames of the client -/

theorem Request.ofFrame_of_reads {type : MessageType} {body : Bytes} {request : Request}
    (reads : Reads (Request.rdBody (some type)) body request) :
    Request.ofFrame (.ofType type body) = some request := by
  have whole := reads []
  rw [List.append_nil] at whole
  unfold Request.ofFrame Frame.ofType
  rw [MessageType.ofU8?_toU8, whole]

namespace Worker

/-- What the client declares. -/
def Arguments.options (args : Arguments) (domain : EntityRef CongestionDomainTag) :
    FlowOptions Binary64 where
  ownerWorker := args.worker
  ownerBoot := args.boot
  source := args.source
  sourceBoot := args.sourceBoot
  trafficClass := ⟨args.trafficClass.toUInt8⟩
  domain := domain
  expectedBytes := args.bytes
  submittedBytes := args.bytes
  provenance := MeasurementProvenance.reported

/-- The capacity of the domain that the client creates. -/
def Arguments.profile (args : Arguments) : CapacityProfile Binary64 where
  theoretical :=
    { bytesPerSecond := args.capacity
      kind := BandwidthKind.theoretical
      provenance := MeasurementProvenance.measured }
  configured :=
    { bytesPerSecond := args.capacity
      kind := BandwidthKind.configured
      provenance := MeasurementProvenance.reported }

/-- What `do_measure` publishes. -/
def reported (kind : MeasurementKind) (value : Binary64) : Measurement Binary64 where
  kind := kind
  value := value
  provenance := MeasurementProvenance.reported
  confidence := 1.0

section Frames

variable (args : Arguments)

theorem ofFrame_register : Request.ofFrame (.ofType .register (wrIdentity args).flatten) =
    some (.register args.worker args.boot args.source args.sourceBoot) :=
  Request.ofFrame_of_reads <| (reads_rdId _).step <| (reads_rdGeneration _).step <|
    (reads_rdId _).step <| (reads_rdGeneration _).step <| reads_pure _

theorem ofFrame_createDomain : Request.ofFrame (.ofType .createDomain (wrCreateDomain args)) =
    some (.createDomain DomainKind.networkPath args.profile) :=
  Request.ofFrame_of_reads <| (reads_rdEnumUnchecked _).step <|
    (reads_rdEnumUnchecked _).step <| (reads_rdF64 _).step <| (reads_rdEnumUnchecked _).step <|
    (reads_rdF64 _).step <| reads_pure _

theorem ofFrame_declareFlow (domain : EntityRef CongestionDomainTag) :
    Request.ofFrame (.ofType .declareFlow (wrDeclareFlow args domain)) =
      some (.declareFlow (args.options domain)) :=
  Request.ofFrame_of_reads <| (reads_rdId _).step <| (reads_rdGeneration _).step <|
    (reads_rdId _).step <| (reads_rdGeneration _).step <|
    (reads_rdEnumUnchecked ⟨args.trafficClass.toUInt8⟩).step <| (reads_rdRef _).step <|
    (reads_rd64 _).step <| (reads_rd64 _).step <| (reads_rdF64 _).step <|
    (reads_rdF64 _).step <| (reads_rdF64 _).step <| (reads_rdF64 _).step <|
    (reads_rdF64 _).step <| (reads_rdEnumUnchecked _).step <| reads_pure _

theorem ofFrame_admission (flow : EntityRef FlowTag) :
    Request.ofFrame (.ofType .admission (wrRef flow)) = some (.operation (.admitFlow flow)) :=
  Request.ofFrame_of_reads (reads_rdRef flow).map

theorem ofFrame_start (flow : EntityRef FlowTag) :
    Request.ofFrame (.ofType .start (wrFlowBy args flow)) =
      some (.operation (.startFlow flow args.boot)) :=
  Request.ofFrame_of_reads <| (reads_rdRef _).step <| (reads_rdGeneration _).step <|
    reads_pure _

theorem ofFrame_complete (flow : EntityRef FlowTag) :
    Request.ofFrame (.ofType .complete (wrFlowBy args flow)) =
      some (.operation (.flowComplete flow args.boot)) :=
  Request.ofFrame_of_reads <| (reads_rdRef _).step <| (reads_rdGeneration _).step <|
    reads_pure _

theorem ofFrame_progress (flow : EntityRef FlowTag) :
    Request.ofFrame (.ofType .progress (wrProgress args flow)) =
      some (.operation (.flowProgress flow args.boot args.delta)) :=
  Request.ofFrame_of_reads <| (reads_rdRef _).step <| (reads_rdGeneration _).step <|
    (reads_rd64 _).step <| reads_pure _

theorem ofFrame_publishMeasurement (domain : CongestionDomainId) (kind : MeasurementKind)
    (value : Binary64) :
    Request.ofFrame (.ofType .publishMeasurement (wrMeasurement domain kind value)) =
      some (.publishMeasurement domain (reported kind value)) :=
  Request.ofFrame_of_reads <| (reads_rdId _).step <| (reads_rdEnumUnchecked _).step <|
    (reads_rdF64 _).step <| (reads_rdEnumUnchecked _).step <| (reads_rdF64 _).step <|
    reads_pure _

end Frames

end Worker

/-! ## Rules -/

variable {limits : EngineLimits} {index : Nat} {lossy : Bool} {kept : Impl Binary64 → Prop}
  {condition : Coordinator → Frame → Prop}

/-- What no coordinator takes back, the others do not disturb. -/
theorem Lasts.others {coordinator next : Coordinator} (lasts : Lasts limits kept)
    (moved : Coordinator.Others limits index coordinator next) (holds : kept coordinator.engine) :
    kept next.engine := by
  obtain ⟨input, taken, -⟩ := moved
  exact lasts _ _ _ taken holds

theorem Lasts.stable (lasts : Lasts limits kept) :
    Stable ((Coordinator.service limits index lossy).under condition)
      fun coordinator => kept coordinator.engine :=
  fun _ _ moved holds => lasts.others moved holds

/-- Nor does any client. -/
theorem Lasts.ensures (lasts : Lasts limits kept) {V : Type} (client : Worker V) :
    Ensures ((Coordinator.service limits index lossy).under condition)
      (fun coordinator => kept coordinator.engine)
      client fun _ coordinator => kept coordinator.engine := by
  refine ensures_kept client lasts.stable ?_
  rintro coordinator frame reply final ⟨-, -, exchanged⟩ holds
  cases exchanged with
  | unsent => exact holds
  | lost now saved => exact lasts _ _ _ (.input _ _) holds
  | answered now saved taken served there sent =>
      have first := lasts _ _ _ (.input coordinator (.frame index now saved frame)) holds
      clear taken there sent
      induction served with
      | refl => exact first
      | tail _ moved inductionHypothesis => exact lasts.others moved inductionHypothesis

/-- A request: what holds before it survives its first call, and what every reply that
the session may make tells holds after it, whatever the others do in between. -/
theorem ensures_exchange {type : MessageType} {body : Bytes} {request : Request}
    {pre : Coordinator → Prop} {gained : Frame → Coordinator → Prop}
    (read : Request.ofFrame (.ofType type body) = some request)
    (waiting : Stable ((Coordinator.service limits index lossy).under condition) pre)
    (stable : ∀ reply,
      Stable ((Coordinator.service limits index lossy).under condition) (gained reply))
    (served : ∀ coordinator now saved session, pre coordinator →
      condition coordinator (.ofType type body) →
      coordinator.taker (.frame index now saved (.ofType type body)) = some session →
        pre (coordinator.next limits (.frame index now saved (.ofType type body))) ∧
          ∀ reply, Coordinator.MayReply session.sent
              (handle limits now saved coordinator.stop (some request) coordinator.engine
                session).2.1 reply →
            gained reply (coordinator.next limits (.frame index now saved (.ofType type body)))) :
    Ensures ((Coordinator.service limits index lossy).under condition) pre
      (Worker.exchange type body)
      fun reply coordinator => pre coordinator ∧ (reply = none → lossy = true) ∧
        ∀ frame, reply = some frame → gained frame coordinator := by
  refine ensures_request waiting ?_ ?_
  · rintro coordinator reply final holds ⟨meets, arrives, exchanged⟩
    refine ⟨?_, arrives, ?_⟩
    · cases exchanged with
      | unsent => exact holds
      | lost now saved =>
          cases taken : coordinator.taker (.frame index now saved (.ofType type body)) with
          | none =>
              unfold Coordinator.next
              simp only [taken]
              exact holds
          | some session => exact (served _ _ _ _ holds meets taken).1
      | answered now saved taken exchanged there sent =>
          have first := (served _ now saved _ holds meets taken).1
          clear there sent
          induction exchanged with
          | refl => exact first
          | tail _ moved inductionHypothesis => exact waiting _ _ moved inductionHypothesis
    · rintro frame rfl
      cases exchanged with
      | answered now saved taken exchanged there sent =>
          have replied := Coordinator.mayReply_of_served taken exchanged there sent
          rw [read] at replied
          have first := (served _ now saved _ holds meets taken).2 frame replied
          clear there sent replied
          induction exchanged with
          | refl => exact first
          | tail _ moved inductionHypothesis => exact stable frame _ _ moved inductionHypothesis
  · intro reply coordinator next moved holds
    exact ⟨waiting _ _ moved holds.1, holds.2.1,
      fun frame same => stable frame _ _ moved (holds.2.2 frame same)⟩

/-- The coordinator after a frame that is taken. -/
theorem next_of_taker {coordinator : Coordinator} {now : UInt64} {saved : Bool} {frame : Frame}
    {request : Request} {session : Session} (read : Request.ofFrame frame = some request)
    (taken : coordinator.taker (.frame index now saved frame) = some session) :
    coordinator.next limits (.frame index now saved frame) =
      let handled := handle limits now saved coordinator.stop (some request) coordinator.engine
        session
      { engine := handled.1
        sessions := coordinator.sessions.set index handled.2.1
        stop := handled.2.2 } := by
  unfold Coordinator.next
  simp only [taken, read]

/-- The same for facts about the engine that no coordinator takes back. -/
theorem Lasts.ensures_exchange {type : MessageType} {body : Bytes} {request : Request}
    {gained : Frame → Impl Binary64 → Prop} (lasts : Lasts limits kept)
    (read : Request.ofFrame (.ofType type body) = some request)
    (gains : ∀ reply, Lasts limits (gained reply))
    (served : ∀ coordinator now saved session, kept coordinator.engine →
      condition coordinator (.ofType type body) →
      ∀ reply, Coordinator.MayReply session.sent (handle limits now saved coordinator.stop
          (some request) coordinator.engine session).2.1 reply →
        gained reply (handle limits now saved coordinator.stop (some request) coordinator.engine
          session).1) :
    Ensures ((Coordinator.service limits index lossy).under condition)
      (fun coordinator => kept coordinator.engine)
      (Worker.exchange type body) fun reply coordinator =>
        kept coordinator.engine ∧ (reply = none → lossy = true) ∧
          ∀ frame, reply = some frame → gained frame coordinator.engine := by
  refine CongestionFabric.ensures_exchange read lasts.stable
    (fun reply => (gains reply).stable) ?_
  intro coordinator now saved session holds meets taken
  refine ⟨lasts _ _ _ (.input _ _) holds, fun reply replied => ?_⟩
  rw [next_of_taker read taken]
  exact served coordinator now saved session holds meets reply replied

/-- A reply that is read. -/
theorem ensures_readAs {A : Type} {type : MessageType} {reader : Reader A}
    {service : Service Coordinator Frame Frame} {reply : Option Frame}
    {pre : Coordinator → Prop} {gained : A → Coordinator → Prop} (waiting : Stable service pre)
    (stable : ∀ value, Stable service (gained value))
    (reads : ∀ coordinator frame value rest, pre coordinator → reply = some frame →
      frame.type = type.toU8 → reader frame.body = .ok (value, rest) →
        gained value coordinator) :
    Ensures service pre (Worker.readAs type reader reply)
      fun found coordinator => pre coordinator ∧
        ∀ value, found = some value → gained value coordinator := by
  have settled : ∀ {found : Option A}, (∀ coordinator, pre coordinator →
      ∀ value, found = some value → gained value coordinator) →
      Ensures service pre (pure found : Worker (Option A))
        fun found coordinator => pre coordinator ∧
          ∀ value, found = some value → gained value coordinator := by
    intro found tells
    refine ensures_pure ?_ fun coordinator holds => ⟨holds, tells coordinator holds⟩
    intro coordinator next moved holds
    exact ⟨waiting _ _ moved holds.1,
      fun value same => stable value _ _ moved (holds.2 value same)⟩
  unfold Worker.readAs
  split
  · exact settled (by simp)
  · next frame =>
      split
      · next typed =>
          cases read : reader frame.body with
          | error text => exact ensures_abort
          | ok result =>
              refine settled fun coordinator holds value same => ?_
              obtain rfl := Option.some.inj same
              exact reads coordinator frame _ _ holds rfl typed read
      · exact settled (by simp)

/-- What is read from what was written. -/
theorem read_eq {A : Type} {reader : Reader A} {written rest : Bytes} {value other : A}
    (reads : Reads reader written value) (read : reader written = .ok (other, rest)) :
    other = value := by
  have whole := reads []
  rw [List.append_nil, read] at whole
  exact (Prod.mk.inj (Except.ok.inj whole)).1

end CongestionFabric
