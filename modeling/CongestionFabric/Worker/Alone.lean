import CongestionFabric.Persistence.Installed
import CongestionFabric.Worker.Launch

/-!
Contract: what becomes of `drive` on a coordinator that nobody else uses.

Owns the outcome that the state of the engine foresees, and the theorem that it comes
about, with whatever readings of the clock.

Does not own: what other sessions can bring about meanwhile.
-/

namespace CongestionFabric

open Foundation
open Foundation.Client
open Foundation.Reader (Reads)

/-! ## Keys -/

/-- Every domain names itself by the key it is stored under. -/
def Impl.DomainsKeyed (engine : Impl Binary64) : Prop :=
  ∀ id domain, engine.domains.find? id = some domain → domain.ref.id = id

/-- The records name themselves by their keys. -/
structure Impl.Keyed (engine : Impl Binary64) : Prop where
  flows : engine.FlowsKeyed
  domains : engine.DomainsKeyed

theorem Impl.Keyed.exec {engine : Impl Binary64} (keyed : engine.Keyed) (limits : EngineLimits)
    (now : UInt64) (op : Op Binary64) : (CongestionFabric.exec limits now op engine).2.Keyed where
  flows := keyed.flows.exec limits now op
  domains id after stored := by
    rcases exec_domain_origin stored with ⟨domain, invalidated, found, -, rfl⟩ |
      ⟨kind, capacity, -, -, -, rfl, rfl⟩
    · rw [(domainAfter_sameOrigin ..).ref]
      exact keyed.domains id domain found
    · rfl

theorem Impl.Keyed.coordinatorStep {limits : EngineLimits} {coordinator next : Coordinator}
    {input : Input} (keyed : coordinator.engine.Keyed)
    (taken : CoordinatorStep limits coordinator input next) : next.engine.Keyed := by
  cases taken with
  | input =>
      rw [Coordinator.next_engine]
      cases coordinator.call input with
      | none => exact keyed
      | some call => exact keyed.exec limits call.1 call.2
  | rehash same =>
      refine ⟨keyed.flows.step (.rehash same : Step limits _ _ _), fun id domain stored => ?_⟩
      rw [← same.domains.find?_eq] at stored
      exact keyed.domains id domain stored

/-- A load checks the keys of the file. -/
theorem Coordinator.keyed_start (file : Option Bytes) : (Coordinator.start file).engine.Keyed := by
  unfold Coordinator.start
  rcases Impl.load_cases file Impl.fresh with refused | ⟨bytes, persisted, -, decoded, accepted⟩
  · rw [refused]
    exact ⟨Impl.flowsKeyed_fresh, fun id domain stored => absurd stored (by simp [Impl.fresh])⟩
  · rw [accepted]
    have installed := (checked_of_decode decoded).installed {} Impl.fresh
    exact ⟨fun id flow stored => (installed.flows id flow stored).2.1,
      fun id domain stored => (installed.domains id domain stored).2.1⟩

/-! ## One request -/

namespace Coordinator

/-- Nobody else acts, every frame and every reply arrives, and the clock reads as it
does. -/
def serve (limits : EngineLimits) (index : Nat) (clock : Nat → UInt64) (frame : Frame)
    (state : Coordinator × Nat) : Option (Frame × (Coordinator × Nat)) :=
  (alone limits index (clock state.2) frame state.1).map fun answered =>
    (answered.1, answered.2, state.2 + 1)

/-- The session waits for its next frame. -/
structure Attends (index : Nat) (engine : Impl Binary64) (coordinator : Coordinator) : Prop where
  engine : coordinator.engine = engine
  running : coordinator.stop = false
  session : ∃ session, coordinator.sessions[index]? = some session ∧ session.phase = .waiting

variable {limits : EngineLimits} {index : Nat} {engine after : Impl Binary64}
  {coordinator : Coordinator} {frame reply : Frame} {request : Request}

/-- What a session serves with both calls. -/
theorem alone_of {served : Coordinator} {session final : Session} {now : UInt64}
    (taken : coordinator.taker (.frame index now false frame) = some session)
    (both : (coordinator.next limits (.frame index now false frame)).next limits (.resume index) =
      served)
    (there : served.sessions[index]? = some final)
    (sent : final.sent = session.sent ++ [reply]) :
    alone limits index now frame coordinator = some (reply, served) := by
  unfold alone
  simp only [taken, both, there, Option.map_some, sent, List.getLast?_append,
    List.getLast?_singleton, Option.some_or, if_true]

theorem Attends.taken (attends : coordinator.Attends index engine) (now : UInt64)
    (frame : Frame) : ∃ session, coordinator.sessions[index]? = some session ∧
      coordinator.taker (.frame index now false frame) = some session := by
  obtain ⟨-, -, session, located, waiting⟩ := attends
  exact ⟨session, located, by simp [taker, located, waiting, Phase.isWaiting]⟩

/-- A frame that is answered at once. -/
theorem Attends.answer {post : Frame → Impl Binary64 → Prop}
    (attends : coordinator.Attends index engine) (now : UInt64)
    (read : Request.ofFrame frame = some request)
    (handled : ∀ session : Session, ∃ reply after,
      handle limits now false false (some request) engine session =
          (after, session.answer false reply, false) ∧ post reply after) :
    ∃ reply next after, alone limits index now frame coordinator = some (reply, next) ∧
      post reply after ∧ next.Attends index after := by
  obtain ⟨session, located, taken⟩ := attends.taken now frame
  obtain ⟨rfl, running, -⟩ := attends
  obtain ⟨reply, after, answered, holds⟩ := handled session
  have there : (coordinator.sessions.set index (session.answer false reply))[index]? =
      some (session.answer false reply) :=
    List.getElem?_set_self (List.getElem?_eq_some_iff.mp located).1
  have first : coordinator.next limits (.frame index now false frame) =
      ⟨after, coordinator.sessions.set index (session.answer false reply), false⟩ := by
    rw [next_of_taker read taken, running, answered]
  have nobody : (⟨after, coordinator.sessions.set index (session.answer false reply), false⟩ :
      Coordinator).taker (.resume index) = none := by
    unfold taker
    dsimp only
    rw [there]
    rfl
  have both : (coordinator.next limits (.frame index now false frame)).next limits
      (.resume index) =
        ⟨after, coordinator.sessions.set index (session.answer false reply), false⟩ := by
    rw [first]
    unfold Coordinator.next
    rw [nobody]
  exact ⟨reply, _, after, alone_of taken both there rfl, holds, rfl, rfl, _, there, rfl⟩

variable (limits) in
/-- REGISTER, with both of its calls. -/
theorem Attends.register (attends : coordinator.Attends index engine) (now : UInt64)
    {worker : WorkerId} {boot : WorkerBootId} {source : SourceId} {sourceBoot : SourceBootId}
    (read : Request.ofFrame frame = some (.register worker boot source sourceBoot)) :
    ∃ next, alone limits index now frame coordinator =
        some (.ofType .registerAck (wrBool
          ((engine.registerWorker worker boot).1 &&
            (engine.registerSource source sourceBoot).1)), next) ∧
      next.Attends index
        ((engine.registerWorker worker boot).2.registerSource source sourceBoot).2 := by
  obtain ⟨session, located, taken⟩ := attends.taken now frame
  obtain ⟨rfl, running, -⟩ := attends
  have within : index < coordinator.sessions.length := (List.getElem?_eq_some_iff.mp located).1
  generalize pending : (handle limits now false false (some (.register worker boot source
    sourceBoot)) coordinator.engine session).2.1 = registering
  have first : coordinator.next limits (.frame index now false frame) =
      ⟨(coordinator.engine.registerWorker worker boot).2,
        coordinator.sessions.set index registering, false⟩ := by
    rw [next_of_taker read taken, running, ← pending]
    rfl
  have there : (coordinator.sessions.set index registering)[index]? = some registering :=
    List.getElem?_set_self within
  have resumed : (⟨(coordinator.engine.registerWorker worker boot).2,
      coordinator.sessions.set index registering, false⟩ : Coordinator).taker (.resume index) =
        some registering := by
    unfold taker
    dsimp only
    rw [there, ← pending]
    rfl
  have both : (coordinator.next limits (.frame index now false frame)).next limits
      (.resume index) =
        ⟨(finish false (coordinator.engine.registerWorker worker boot).2 registering).1,
          (coordinator.sessions.set index registering).set index
            (finish false (coordinator.engine.registerWorker worker boot).2 registering).2,
          false⟩ := by
    rw [first]
    unfold Coordinator.next
    rw [resumed]
  have last : ((coordinator.sessions.set index registering).set index
      (finish false (coordinator.engine.registerWorker worker boot).2 registering).2)[index]? =
        some (finish false (coordinator.engine.registerWorker worker boot).2 registering).2 :=
    List.getElem?_set_self (by rw [List.length_set]; exact within)
  refine ⟨_, alone_of taken both last ?_, ?_, rfl, _, last, ?_⟩
  · rw [← pending]
    rfl
  · rw [← pending]
    rfl
  · rw [← pending]
    rfl

end Coordinator

/-! ## The parts of the client -/

namespace Worker

open Coordinator (serve)

variable {limits : EngineLimits} {index : Nat} {clock : Nat → UInt64} {V W : Type}
  {engine : Impl Binary64}

/-- Alone, the part of the client returns, from an engine, a value and an engine of which
`post` holds. -/
def Brings (limits : EngineLimits) (index : Nat) (clock : Nat → UInt64) (engine : Impl Binary64)
    (client : Worker V) (post : V → Impl Binary64 → Prop) : Prop :=
  ∀ (coordinator : Coordinator) (reading : Nat), coordinator.Attends index engine →
    ∃ value next after, client.run (serve limits index clock) (coordinator, reading) =
        some (value, next) ∧ post value after ∧ next.1.Attends index after

theorem brings_pure {value : V} {post : V → Impl Binary64 → Prop} (holds : post value engine) :
    Brings limits index clock engine (pure value) post :=
  fun coordinator reading attends => ⟨value, (coordinator, reading), engine, rfl, holds, attends⟩

theorem Brings.bind {client : Worker V} {next : V → Worker W} {post : V → Impl Binary64 → Prop}
    {last : W → Impl Binary64 → Prop} (first : Brings limits index clock engine client post)
    (second : ∀ value after, post value after →
      Brings limits index clock after (next value) last) :
    Brings limits index clock engine (client >>= next) last := by
  intro coordinator reading attends
  obtain ⟨value, middle, after, ran, holds, waits⟩ := first coordinator reading attends
  obtain ⟨result, final, later, ended⟩ := second value after holds middle.1 middle.2 waits
  refine ⟨result, final, later, ?_, ended.2⟩
  rw [run_bind, ran]
  exact ended.1

theorem Brings.mono {client : Worker V} {post weaker : V → Impl Binary64 → Prop}
    (brings : Brings limits index clock engine client post)
    (follows : ∀ value after, post value after → weaker value after) :
    Brings limits index clock engine client weaker := by
  intro coordinator reading attends
  obtain ⟨value, next, after, ran, holds, waits⟩ := brings coordinator reading attends
  exact ⟨value, next, after, ran, follows value after holds, waits⟩

theorem brings_exchange {type : MessageType} {body : Bytes} {request : Request}
    {post : Option Frame → Impl Binary64 → Prop}
    (read : Request.ofFrame (.ofType type body) = some request)
    (handled : ∀ now (session : Session), ∃ reply after,
      handle limits now false false (some request) engine session =
          (after, session.answer false reply, false) ∧ post (some reply) after) :
    Brings limits index clock engine (exchange type body) post := by
  intro coordinator reading attends
  obtain ⟨reply, next, after, served, holds⟩ :=
    attends.answer (clock reading) read (handled (clock reading))
  refine ⟨some reply, (next, reading + 1), after, ?_, holds⟩
  simp only [exchange, Client.request, Client.run, serve, served, Option.map_some]

theorem readAs_of_reads {A : Type} {type : MessageType} {reader : Reader A} {body : Bytes}
    {value : A} (reads : Reads reader body value) :
    readAs type reader (some (.ofType type body)) = pure (some value) := by
  have whole := reads []
  rw [List.append_nil] at whole
  unfold readAs
  simp only [Frame.ofType, if_true, whole]

/-- `hello`. -/
theorem brings_hello :
    Brings limits index clock engine hello fun greeted after =>
      greeted = true ∧ after = engine := by
  have read : Request.ofFrame (.ofType .hello (wrStr (ascii "cfworker"))) =
      some (.hello (ascii "cfworker")) :=
    Request.ofFrame_of_reads (reads_rdStr (by decide)).map
  have sent : Brings limits index clock engine (exchange .hello (wrStr (ascii "cfworker")))
      fun reply after => reply.isSome = true ∧ after = engine :=
    brings_exchange read fun now session => ⟨_, _, rfl, rfl, rfl⟩
  exact sent.bind fun reply after told => brings_pure told

/-- A request whose reply is read. -/
theorem Brings.ask {A : Type} {type replyType : MessageType} {body : Bytes} {reader : Reader A}
    {post : A → Impl Binary64 → Prop}
    (sent : Brings limits index clock engine (exchange type body) fun reply after =>
      ∃ value written, reply = some (.ofType replyType written) ∧ Reads reader written value ∧
        post value after) :
    Brings limits index clock engine (ask type body replyType reader) fun found after =>
      ∃ value, found = some value ∧ post value after := by
  refine sent.bind fun reply after told => ?_
  obtain ⟨value, written, rfl, reads, holds⟩ := told
  rw [readAs_of_reads reads]
  exact brings_pure ⟨value, rfl, holds⟩

/-- The engine accepts both identities. -/
def Arguments.mayRegister (args : Arguments) (engine : Impl Binary64) : Bool :=
  (engine.registerWorker args.worker args.boot).1 &&
    (engine.registerSource args.source args.sourceBoot).1

/-- The engine with both identities. -/
def Arguments.registered (args : Arguments) (engine : Impl Binary64) : Impl Binary64 :=
  ((engine.registerWorker args.worker args.boot).2.registerSource args.source args.sourceBoot).2

/-- `do_register`. -/
theorem brings_doRegister (args : Arguments) :
    Brings limits index clock engine (doRegister args) fun acknowledged after =>
      acknowledged = args.mayRegister engine ∧ after = args.registered engine := by
  have sent : Brings limits index clock engine (exchange .register (wrIdentity args).flatten)
      fun reply after => ∃ accepted written, reply = some (.ofType .registerAck written) ∧
        Reads rdBool written accepted ∧
          (accepted = args.mayRegister engine ∧ after = args.registered engine) := by
    intro coordinator reading attends
    obtain ⟨next, served, waits⟩ :=
      attends.register limits (clock reading) (ofFrame_register args)
    refine ⟨_, (next, reading + 1), _, ?_, ⟨_, _, rfl, reads_rdBool _, rfl, rfl⟩, waits⟩
    simp only [exchange, Client.request, Client.run, serve, served, Option.map_some]
    rfl
  refine sent.ask.bind fun found after told => ?_
  obtain ⟨accepted, rfl, holds⟩ := told
  exact brings_pure holds

/-- What CREATE_DOMAIN and DECLARE_FLOW leave of a reference. -/
def ifValid {Tag : Type} (ref : EntityRef Tag) : Option (EntityRef Tag) :=
  if ref.id.isValid then some ref else none

/-- `do_create`. -/
theorem brings_doCreate (args : Arguments) :
    Brings limits index clock engine (doCreate args) fun created after =>
      created = ifValid (engine.createDomain limits DomainKind.networkPath args.profile).1 ∧
        after = (engine.createDomain limits DomainKind.networkPath args.profile).2 := by
  have sent : Brings limits index clock engine (exchange .createDomain (wrCreateDomain args))
      fun reply after => ∃ created written, reply = some (.ofType .domainCreated written) ∧
        Reads rdCreated written created ∧
          (created = ifValid (engine.createDomain limits DomainKind.networkPath args.profile).1 ∧
            after = (engine.createDomain limits DomainKind.networkPath args.profile).2) :=
    brings_exchange (ofFrame_createDomain args) fun now session =>
      ⟨_, _, rfl, _, _, rfl, reads_rdCreated _, rfl, rfl⟩
  refine sent.ask.bind fun found after told => ?_
  obtain ⟨created, rfl, holds⟩ := told
  exact brings_pure holds

/-- `do_declare`. -/
theorem brings_doDeclare (args : Arguments) (domain : EntityRef CongestionDomainTag) :
    Brings limits index clock engine (doDeclare args domain) fun declared after =>
      ∃ now, declared = ifValid (engine.declareFlow limits now (args.options domain)).1 ∧
        after = (engine.declareFlow limits now (args.options domain)).2 := by
  have sent : Brings limits index clock engine
      (exchange .declareFlow (wrDeclareFlow args domain)) fun reply after =>
        ∃ declared written, reply = some (.ofType .flowDeclared written) ∧
          Reads rdCreated written declared ∧ ∃ now,
            declared = ifValid (engine.declareFlow limits now (args.options domain)).1 ∧
              after = (engine.declareFlow limits now (args.options domain)).2 :=
    brings_exchange (ofFrame_declareFlow args domain) fun now session =>
      ⟨_, _, rfl, _, _, rfl, reads_rdCreated _, now, rfl, rfl⟩
  refine sent.ask.bind fun found after told => ?_
  obtain ⟨declared, rfl, holds⟩ := told
  exact brings_pure holds

/-- A request that is answered with OK or NACK. -/
theorem brings_answered {type : MessageType} {body : Bytes} {op : Op Binary64}
    (read : Request.ofFrame (.ofType type body) = some (.operation op)) :
    Brings limits index clock engine (answered .ok type body) fun ok after =>
      ∃ now, ok = !(exec limits now op engine).1.failed ∧
        after = (exec limits now op engine).2 := by
  have sent : Brings limits index clock engine (exchange type body) fun reply after =>
      ∃ now, reply = some (.verdict !(exec limits now op engine).1.failed) ∧
        after = (exec limits now op engine).2 :=
    brings_exchange read fun now session => ⟨_, _, rfl, now, rfl, rfl⟩
  refine sent.bind fun reply after told => ?_
  obtain ⟨now, rfl, rfl⟩ := told
  refine brings_pure ⟨now, ?_, rfl⟩
  cases (exec limits now op engine).1.failed <;> rfl

/-- `do_measure`. -/
theorem brings_doMeasure (args : Arguments) (domain : CongestionDomainId) :
    Brings limits index clock engine (doMeasure args domain) fun _ _ => True := by
  have sent : ∀ (engine : Impl Binary64) kind value, Brings limits index clock engine
      (exchange .publishMeasurement (wrMeasurement domain kind value)) fun _ _ => True := by
    intro engine kind value
    refine brings_exchange (ofFrame_publishMeasurement domain kind value) fun now session => ?_
    unfold handle
    dsimp only
    cases session.ctxWid.isValid with
    | false => exact ⟨_, _, rfl, trivial⟩
    | true => exact ⟨_, _, rfl, trivial⟩
  refine (sent engine _ _).bind fun _ after _ => (sent after _ _).bind fun _ _ _ => ?_
  exact brings_pure trivial

/-! ## The scenario -/

theorem ifValid_zero {Tag : Type} {ref : EntityRef Tag} (zero : ref.id.value = 0) :
    ifValid ref = none := by
  simp [ifValid, Id.isValid, zero]

theorem ifValid_nonzero {Tag : Type} {ref : EntityRef Tag} (nonzero : ref.id.value ≠ 0) :
    ifValid ref = some ref := by
  simp [ifValid, Id.isValid, nonzero]

variable (limits) in
/-- ADMIT is answered with OK exactly for a declared flow whose domain is there. -/
theorem admitFlow_verdict {flow : EntityRef FlowTag} {record : Flow Binary64}
    (sound : engine.WellAccounted) (stored : engine.flows.find? flow.id = some record)
    (current : record.ref.generation = flow.generation) (now : UInt64) :
    (¬(record.state = .declared ∧ engine.domains.contains record.domain.id = true) ∧
        (exec limits now (.admitFlow flow) engine).1.failed = true) ∨
      (record.state = .declared ∧ engine.domains.contains record.domain.id = true) ∧
        (exec limits now (.admitFlow flow) engine).1.failed = false ∧
        (exec limits now (.admitFlow flow) engine).2.flows.find? flow.id =
          some { record with admittedBytes := record.submittedBytes, state := .admitted } := by
  have found : findFlow engine.flows flow = some record := findFlow_eq_some.mpr ⟨stored, current⟩
  have written : flowAfter limits now (.admitFlow flow) engine flow.id record =
      (record.admission (engine.domains.contains record.domain.id)).2 :=
    if_pos ⟨rfl, current⟩
  rcases (sound _ _ stored).admission (engine.domains.contains record.domain.id) with
    ⟨refused, same⟩ | ⟨declared, there, admitted⟩
  · have answer : (engine.admitFlow flow).1 = false := by
      rw [← Bool.not_eq_true]
      intro accepted
      obtain ⟨other, isFound, admits⟩ := Impl.onFlow_accepted.mp accepted
      obtain rfl := Option.some.inj (found.symm.trans isFound)
      rw [same] at admits
      exact absurd admits (by simp)
    exact Or.inl ⟨refused, by simp [exec, Result.failed, answer]⟩
  · have answer : (engine.admitFlow flow).1 = true :=
      Impl.onFlow_accepted.mpr ⟨record, found, by rw [admitted]⟩
    refine Or.inr ⟨⟨declared, there⟩, by simp [exec, Result.failed, answer], ?_⟩
    rw [exec_flow stored, written, admitted]

variable (limits) in
/-- START of an admitted flow is answered with OK exactly for its owner. -/
theorem startFlow_verdict {flow : EntityRef FlowTag} {record : Flow Binary64}
    {boot : WorkerBootId} (sound : engine.WellAccounted)
    (stored : engine.flows.find? flow.id = some record)
    (current : record.ref.generation = flow.generation) (admitted : record.state = .admitted)
    (now : UInt64) :
    (exec limits now (.startFlow flow boot) engine).1.failed =
      decide (record.ownerBoot ≠ boot) := by
  have found : findFlow engine.flows flow = some record := findFlow_eq_some.mpr ⟨stored, current⟩
  rcases (sound _ _ stored).start now boot with ⟨refused, same⟩ | ⟨owned, -, started⟩
  · have other : record.ownerBoot ≠ boot := fun owned => refused ⟨owned, Or.inr admitted⟩
    have answer : (engine.startFlow now flow boot).1 = false := by
      rw [← Bool.not_eq_true]
      intro accepted
      obtain ⟨again, isFound, starts⟩ := Impl.onFlow_accepted.mp accepted
      obtain rfl := Option.some.inj (found.symm.trans isFound)
      rw [same] at starts
      exact absurd starts (by simp)
    simp [exec, Result.failed, answer, other]
  · have answer : (engine.startFlow now flow boot).1 = true :=
      Impl.onFlow_accepted.mpr ⟨record, found, by rw [started]⟩
    simp [exec, Result.failed, answer, owned]

theorem orFail_some {A : Type} (stage : Stage) (next : A → Worker Outcome) (value : A) :
    orFail stage next (some value) = next value := rfl

theorem check_true (stage : Stage) (next : Worker Outcome) : check stage next true = next := rfl

theorem check_false (stage : Stage) (next : Worker Outcome) :
    check stage next false = pure { code := 1, failed := some stage } := rfl

/-- What a launch comes to with the flow that the declaration is answered with. -/
def Arguments.launchesAs (args : Arguments) (flow : Flow Binary64) (there : Bool)
    (launched : Outcome) : Outcome :=
  if ¬(flow.state = .declared ∧ there = true) then { code := 1, failed := some .admission }
  else if flow.ownerBoot ≠ args.boot then { code := 1, failed := some .start }
  else launched

/-- Behind a declaration. -/
theorem brings_declared (args : Arguments) (domain : CongestionDomainId)
    (flow : EntityRef FlowTag) {record : Flow Binary64} (sound : engine.WellAccounted)
    (stored : engine.flows.find? flow.id = some record)
    (current : record.ref.generation = flow.generation) (outcome : Outcome) :
    Brings limits index clock engine
      (sendFlowOp .admission flow >>= check .admission (
        doStart args flow >>= check .start (do
          doMeasure args domain
          pure outcome)))
      fun result _ =>
        result = args.launchesAs record (engine.domains.contains record.domain.id) outcome := by
  refine (brings_answered (ofFrame_admission flow)).bind fun ok after told => ?_
  obtain ⟨now, rfl, rfl⟩ := told
  rcases admitFlow_verdict limits sound stored current now with
    ⟨refused, failed⟩ | ⟨accepted, succeeded, admitted⟩
  · rw [failed, Bool.not_true, check_false]
    exact brings_pure (if_pos refused).symm
  · rw [succeeded, Bool.not_false, check_true]
    refine (brings_answered (ofFrame_start args flow)).bind fun ok after told => ?_
    obtain ⟨later, rfl, rfl⟩ := told
    rw [startFlow_verdict limits (sound.exec limits now (.admitFlow flow)) admitted current rfl
      later]
    unfold Arguments.launchesAs
    rw [if_neg (not_not.mpr accepted)]
    by_cases owned : record.ownerBoot = args.boot
    · rw [decide_eq_false (not_not.mpr owned), Bool.not_false, check_true,
        if_neg (not_not.mpr owned)]
      exact (brings_doMeasure args domain).bind fun _ _ _ => brings_pure rfl
    · rw [decide_eq_true owned, Bool.not_true, check_false, if_pos owned]
      exact brings_pure rfl

/-- What a launch in a new domain comes to. A declaration fails without a slot or a number;
where the number is in use, it is answered with the flow that has it. -/
def Arguments.launchForeseen (args : Arguments) (limits : EngineLimits)
    (domain : CongestionDomainId) (engine : Impl Binary64) : Outcome :=
  if limits.maxActiveFlows ≤ engine.activeFlows ∨ engine.nextFlow = 0 then
    { code := 1, failed := some .declare }
  else
    let launched : Outcome := { code := 0, launched := some (domain, ⟨engine.nextFlow⟩) }
    match engine.flows.find? ⟨engine.nextFlow⟩ with
    | none => launched
    | some flow =>
        args.launchesAs flow
          (flow.domain.id = domain || engine.domains.contains flow.domain.id) launched

/-- The answer to a declaration is the flow that has the number, or a new one. -/
theorem declareFlow_answer (now : UInt64) {options : FlowOptions Binary64}
    (keyed : engine.FlowsKeyed) (allowed : Declarable limits options engine) :
    ∃ record, (record = .declare ⟨engine.nextFlow⟩ now options ∧
          engine.flows.find? ⟨engine.nextFlow⟩ = none ∨
        engine.flows.find? ⟨engine.nextFlow⟩ = some record) ∧
      (engine.declareFlow limits now options).1 = record.ref ∧
      record.ref.id = ⟨engine.nextFlow⟩ ∧
      (engine.declareFlow limits now options).2.flows.find? ⟨engine.nextFlow⟩ = some record := by
  cases found : engine.flows.find? ⟨engine.nextFlow⟩ with
  | none =>
      obtain ⟨named, stored⟩ := declareFlow_new now allowed found
      exact ⟨_, Or.inl ⟨rfl, rfl⟩, named, rfl, stored⟩
  | some record =>
      have stored : (engine.declareFlow limits now options).2.flows.find? ⟨engine.nextFlow⟩ =
          some record := by
        rw [declareFlow_find? allowed, if_neg (by simp [found]), found]
      refine ⟨record, Or.inr rfl, ?_, keyed _ _ found, stored⟩
      rw [declareFlow_of_declarable allowed]
      simp [Impl.storeFlow, UnorderedMap.find?_emplace, found]

/-- The answer to a creation has the number, and the domain is there. -/
theorem createDomain_answer (kind : Enum8 DomainKind) {capacity : CapacityProfile Binary64}
    (keyed : engine.DomainsKeyed) (allowed : engine.creatable limits capacity = true) :
    (engine.createDomain limits kind capacity).1.id = ⟨engine.nextDomain⟩ ∧
      ∀ id, (engine.createDomain limits kind capacity).2.domains.contains id =
        (decide (id = ⟨engine.nextDomain⟩) || engine.domains.contains id) := by
  have same : ∀ id, (engine.createDomain limits kind capacity).2.domains.contains id = true ↔
      (decide (id = ⟨engine.nextDomain⟩) || engine.domains.contains id) = true := by
    intro id
    rw [UnorderedMap.contains_eq_true, createDomain_find? allowed, Bool.or_eq_true,
      decide_eq_true_iff, UnorderedMap.contains_eq_true]
    split_ifs with new
    · simp [new.2]
    · refine ⟨Or.inr, ?_⟩
      rintro (rfl | present)
      · exact Option.ne_none_iff_exists'.mp fun absent => new ⟨absent, rfl⟩
      · exact present
  refine ⟨?_, fun id => Bool.eq_iff_iff.mpr (same id)⟩
  cases stored : engine.domains.find? ⟨engine.nextDomain⟩ with
  | none => rw [(createDomain_new allowed stored).1]
  | some domain =>
      rw [createDomain_of_creatable allowed]
      simpa [Impl.storeDomain, UnorderedMap.find?_emplace, stored] using keyed _ _ stored

theorem brings_launch (args : Arguments) {domain : EntityRef CongestionDomainTag}
    (sound : engine.WellAccounted) (keyed : engine.FlowsKeyed)
    (there : engine.domains.contains domain.id = true)
    (declarable : Declarable limits (args.options domain) engine ↔
      engine.activeFlows < limits.maxActiveFlows) :
    Brings limits index clock engine (launch args domain pure) fun outcome _ =>
      outcome = args.launchForeseen limits domain.id engine := by
  refine (brings_doDeclare args domain).bind fun declared after told => ?_
  obtain ⟨now, rfl, rfl⟩ := told
  by_cases room : engine.activeFlows < limits.maxActiveFlows
  · have allowed := declarable.mpr room
    have spare : ¬limits.maxActiveFlows ≤ engine.activeFlows := UInt64.not_le.mpr room
    obtain ⟨record, origin, named, key, stored⟩ := declareFlow_answer now keyed allowed
    rw [named]
    by_cases numbered : engine.nextFlow = 0
    · rw [ifValid_zero (by rw [key]; exact numbered)]
      exact brings_pure (by simp [Arguments.launchForeseen, numbered])
    · rw [ifValid_nonzero (by rw [key]; exact numbered), orFail_some]
      have declares : (engine.declareFlow limits now (args.options domain)).2.WellAccounted :=
        sound.exec limits now (.declareFlow (args.options domain))
      have same : (engine.declareFlow limits now (args.options domain)).2.domains =
          engine.domains := by
        rw [declareFlow_of_declarable allowed]
        rfl
      have behind : Brings limits index clock _ _ _ :=
        brings_declared args domain.id record.ref declares (key ▸ stored) rfl
          { code := 0, launched := some (domain.id, record.ref.id) }
      refine behind.mono fun outcome _ told => ?_
      rw [told, same, key]
      unfold Arguments.launchForeseen
      rw [if_neg (not_or.mpr ⟨spare, numbered⟩)]
      rcases origin with ⟨rfl, absent⟩ | found
      · have owned : (args.options domain).ownerBoot = args.boot := rfl
        have within : engine.domains.contains (args.options domain).domain.id = true := there
        simp [absent, Arguments.launchesAs, Flow.declare, owned, within]
      · have either : (decide (record.domain.id = domain.id) ||
            engine.domains.contains record.domain.id) =
              engine.domains.contains record.domain.id := by
          by_cases here : record.domain.id = domain.id <;> simp [here, there]
        simp only [found, either]
  · have full : limits.maxActiveFlows ≤ engine.activeFlows := UInt64.not_lt.mp room
    rw [declareFlow_of_not_declarable fun allowed => room (declarable.mp allowed),
      ifValid_zero rfl]
    exact brings_pure (by simp [Arguments.launchForeseen, full])

/-- What `drive` comes to. -/
def Arguments.foresees (args : Arguments) (limits : EngineLimits) (engine : Impl Binary64) :
    Outcome :=
  if args.mayRegister engine = false then { code := 1, failed := some .register }
  else if engine.creatable limits args.profile = false ∨ engine.nextDomain = 0 then
    { code := 1, failed := some .create }
  else args.launchForeseen limits ⟨engine.nextDomain⟩ engine

/-- A domain that is created touches nothing else. -/
theorem createDomain_keeps (kind : Enum8 DomainKind) {capacity : CapacityProfile Binary64}
    (allowed : engine.creatable limits capacity = true) :
    (engine.createDomain limits kind capacity).2.flows = engine.flows ∧
      (engine.createDomain limits kind capacity).2.nextFlow = engine.nextFlow ∧
      (engine.createDomain limits kind capacity).2.activeFlows = engine.activeFlows ∧
      (engine.createDomain limits kind capacity).2.workerBoot = engine.workerBoot ∧
      (engine.createDomain limits kind capacity).2.sourceBoot = engine.sourceBoot := by
  rw [createDomain_of_creatable allowed]
  exact ⟨rfl, rfl, rfl, rfl, rfl⟩

/-- Registered and with a domain of its own, only the slots decide over a declaration. -/
theorem declarable_of_registered (args : Arguments) {after : Impl Binary64}
    {domain : EntityRef CongestionDomainTag} (accepted : args.mayRegister engine = true)
    (worker : after.workerBoot = (registerBoot engine.workerBoot args.worker args.boot).2)
    (source : after.sourceBoot = (registerBoot engine.sourceBoot args.source args.sourceBoot).2)
    (numbered : domain.id.value ≠ 0) (there : after.domains.contains domain.id = true) :
    Declarable limits (args.options domain) after ↔ after.activeFlows < limits.maxActiveFlows := by
  obtain ⟨workerAccepted, sourceAccepted⟩ := Bool.and_eq_true_iff.mp accepted
  change (registerBoot engine.workerBoot args.worker args.boot).1 = true at workerAccepted
  change (registerBoot engine.sourceBoot args.source args.sourceBoot).1 = true at sourceAccepted
  obtain ⟨workerId, boot, -⟩ := registerBoot_accepted.mp workerAccepted
  obtain ⟨sourceId, sourceBoot, -⟩ := registerBoot_accepted.mp sourceAccepted
  refine ⟨fun allowed => allowed.room, fun room => ?_⟩
  refine ⟨workerId, boot, sourceId, sourceBoot, ?_, ?_, numbered, there, room⟩
  · change after.workerBoot.find? args.worker = some args.boot
    rw [worker, registerBoot_find?, if_pos ⟨workerAccepted, rfl⟩]
  · change after.sourceBoot.find? args.source = some args.sourceBoot
    rw [source, registerBoot_find?, if_pos ⟨sourceAccepted, rfl⟩]

theorem brings_drive (args : Arguments) (sound : engine.WellAccounted) (keyed : engine.Keyed) :
    Brings limits index clock engine (drive args) fun outcome _ =>
      outcome = args.foresees limits engine := by
  refine (brings_doRegister args).bind fun acknowledged after told => ?_
  obtain ⟨rfl, rfl⟩ := told
  cases accepted : args.mayRegister engine with
  | false => exact brings_pure (by simp [Arguments.foresees, accepted])
  | true =>
      have creates : Brings limits index clock (args.registered engine) (doCreate args) _ :=
        brings_doCreate args
      refine creates.bind fun created after told => ?_
      obtain ⟨rfl, rfl⟩ := told
      cases allowed : engine.creatable limits args.profile with
      | false =>
          have refused : (args.registered engine).creatable limits args.profile = false := allowed
          rw [createDomain_of_not_creatable refused, ifValid_zero rfl]
          exact brings_pure (by simp [Arguments.foresees, accepted, allowed])
      | true =>
          have creatable : (args.registered engine).creatable limits args.profile = true := allowed
          have registers : (args.registered engine).Keyed :=
            (keyed.exec limits 0 (.registerWorker args.worker args.boot)).exec limits 0
              (.registerSource args.source args.sourceBoot)
          obtain ⟨named, domains⟩ :=
            createDomain_answer DomainKind.networkPath registers.domains creatable
          change _ = (⟨engine.nextDomain⟩ : CongestionDomainId) at named
          by_cases numbered : engine.nextDomain = 0
          · rw [ifValid_zero (by rw [named]; exact numbered)]
            exact brings_pure (by simp [Arguments.foresees, accepted, numbered])
          · rw [ifValid_nonzero (by rw [named]; exact numbered), orFail_some]
            have sound : ((args.registered engine).createDomain limits DomainKind.networkPath
                args.profile).2.WellAccounted :=
              ((sound.exec limits 0 (.registerWorker args.worker args.boot)).exec limits 0
                (.registerSource args.source args.sourceBoot)).exec limits 0
                  (.createDomain DomainKind.networkPath args.profile)
            have keyed : ((args.registered engine).createDomain limits DomainKind.networkPath
                args.profile).2.Keyed :=
              registers.exec limits 0 (.createDomain DomainKind.networkPath args.profile)
            obtain ⟨flows, nextFlow, activeFlows, worker, source⟩ :=
              createDomain_keeps DomainKind.networkPath creatable
            generalize ((args.registered engine).createDomain limits DomainKind.networkPath
              args.profile).2 = after at *
            generalize ((args.registered engine).createDomain limits DomainKind.networkPath
              args.profile).1 = ref at *
            replace domains : ∀ id, after.domains.contains id =
                (decide (id = ⟨engine.nextDomain⟩) || engine.domains.contains id) := domains
            have there : after.domains.contains ref.id = true := by
              rw [domains, named]
              simp
            have foreseen : args.foresees limits engine =
                args.launchForeseen limits ref.id after := by
              replace flows : after.flows = engine.flows := flows
              replace nextFlow : after.nextFlow = engine.nextFlow := nextFlow
              replace activeFlows : after.activeFlows = engine.activeFlows := activeFlows
              simp [Arguments.foresees, Arguments.launchForeseen, accepted, allowed, numbered,
                named, domains, flows, nextFlow, activeFlows]
            rw [foreseen]
            exact brings_launch args sound keyed.flows there
              (declarable_of_registered args accepted worker source (by rw [named]; exact numbered)
                there)

/-- A worker that has the coordinator to itself: `drive` returns, whatever the clock reads,
and its outcome is the one that the engine foresees. It fails exactly at a registration
that is not new, a domain that may not be created or a declaration for which there is no
slot; and behind a declaration only where that is answered with an old flow, whose number
the counter has come to again. -/
theorem drive_alone {file : Option Bytes} {history : List (Coordinator × Input)}
    {coordinator : Coordinator} {session : Session}
    (run : Run (CoordinatorStep limits) (.start file) history coordinator)
    (located : coordinator.sessions[index]? = some session) (waiting : session.phase = .waiting)
    (running : coordinator.stop = false) (args : Arguments) (clock : Nat → UInt64)
    (reading : Nat) :
    ∃ final, (main args (some .drive)).run (serve limits index clock) (coordinator, reading) =
      some (args.foresees limits coordinator.engine, final) := by
  have sound := run.invariant (fun coordinator => coordinator.engine.WellAccounted)
    (Coordinator.wellAccounted_start file) fun sound step => sound.coordinatorStep step
  have keyed := run.invariant (fun coordinator => coordinator.engine.Keyed)
    (Coordinator.keyed_start file) fun keyed step => keyed.coordinatorStep step
  have brings : Brings limits index clock coordinator.engine (main args (some .drive))
      fun outcome _ => outcome = args.foresees limits coordinator.engine := by
    refine brings_hello.bind fun greeted after told => ?_
    obtain ⟨rfl, rfl⟩ := told
    exact brings_drive args sound keyed
  obtain ⟨outcome, final, after, ran, rfl, -⟩ :=
    brings coordinator reading ⟨rfl, running, session, located, waiting⟩
  exact ⟨final, ran⟩

/-- A worker whose capacity is 1000 bytes per second. -/
private def driver : Arguments := { bytes := 100, capacity := 1000.0 }

/-- A coordinator with one connection. -/
private def connected : Coordinator := Coordinator.next {} (.start none) .accept

private theorem connected_foresees :
    driver.foresees {} connected.engine = { code := 0, launched := some (⟨1⟩, ⟨1⟩) } := by
  decide +kernel

theorem drive_alone_connected :
    ∃ final, (main driver (some .drive)).run (serve {} 0 fun reading => reading.toUInt64)
      (connected, 0) = some ({ code := 0, launched := some (⟨1⟩, ⟨1⟩) }, final) := by
  have located : connected.sessions[0]? = some { phase := .waiting } := rfl
  rw [← connected_foresees]
  exact drive_alone (Run.nil.snoc (.input _ .accept)) located rfl rfl driver _ 0

end Worker

end CongestionFabric
