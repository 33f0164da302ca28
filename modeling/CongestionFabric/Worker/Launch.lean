import CongestionFabric.Worker.Requests

/-!
Contract: what a launch that succeeded has brought about.

Owns what the client knows after each step of `drive`, `compete` and `resurrect`, and the
theorem that a launch tells the truth, whatever the other sessions do meanwhile.

Does not own: that a launch succeeds; other sessions may fence the worker at any time. A
coordinator that is started on a file takes the counters of that file over as they are; a
number that it would hand out a second time is a condition of the theorem.
-/

namespace CongestionFabric

open Foundation
open Foundation.Client
open Foundation.Reader (Reads reads_pure)

/-- The service as long as the client is not answered with a number that is in use. -/
abbrev Coordinator.numbering (limits : EngineLimits) (index : Nat) (lossy : Bool) :
    Service Coordinator Frame Frame :=
  (Coordinator.service limits index lossy).under fun coordinator frame =>
    coordinator.numberFree frame = true

namespace Worker

variable {limits : EngineLimits} {index : Nat} {lossy : Bool} {kept : Impl Binary64 → Prop}

/-! ## Replies -/

/-- A frame of the type carries only values of which the fact holds. -/
def Tells {A : Type} (type : MessageType) (reader : Reader A) (fact : A → Impl Binary64 → Prop)
    (frame : Frame) (engine : Impl Binary64) : Prop :=
  ∀ value rest, frame.type = type.toU8 → reader frame.body = .ok (value, rest) →
    fact value engine

theorem reads_rdCreated {Tag : Type} (ref : EntityRef Tag) :
    Reads rdCreated (wrCreated ref) (if ref.id.isValid then some ref else none) :=
  (reads_rdBool _).step <| (reads_rdRef _).step <| reads_pure _

/-- A request whose reply is read. -/
theorem ensures_ask {A B : Type} {type replyType : MessageType} {body : Bytes}
    {request : Request} {reader : Reader A} (finish : Option A → B)
    {fact : B → Impl Binary64 → Prop}
    (read : Request.ofFrame (.ofType type body) = some request) (lasts : Lasts limits kept)
    (facts : ∀ value, Lasts limits (fact value)) (missing : ∀ engine, fact (finish none) engine)
    (served : ∀ (coordinator : Coordinator) now saved session, kept coordinator.engine →
      coordinator.numberFree (.ofType type body) = true →
      ∀ reply, Coordinator.MayReply session.sent (handle limits now saved coordinator.stop
          (some request) coordinator.engine session).2.1 reply →
        Tells replyType reader (fun value => fact (finish (some value))) reply
          (handle limits now saved coordinator.stop (some request) coordinator.engine
            session).1) :
    Ensures (Coordinator.numbering limits index lossy) (fun coordinator => kept coordinator.engine)
      (ask type body replyType reader >>= fun found => pure (finish found))
      fun value coordinator => kept coordinator.engine ∧ fact value coordinator.engine := by
  have tells : ∀ frame, Lasts limits
      (Tells replyType reader (fun value => fact (finish (some value))) frame) :=
    fun frame _ _ _ taken holds value rest typed read =>
      facts _ _ _ _ taken (holds value rest typed read)
  have asked : Ensures (Coordinator.numbering limits index lossy)
      (fun coordinator => kept coordinator.engine) (ask type body replyType reader)
      fun found coordinator => kept coordinator.engine ∧
        ∀ value, found = some value → fact (finish (some value)) coordinator.engine := by
    refine (lasts.ensures_exchange read tells served).bind fun reply => ?_
    refine (ensures_readAs ?_ (fun value => (facts (finish (some value))).stable) ?_).mono
      (fun _ => id) ?_
    · intro coordinator next moved holds
      exact ⟨lasts.stable _ _ moved holds.1, holds.2.1,
        fun frame same => (tells frame).stable _ _ moved (holds.2.2 frame same)⟩
    · intro coordinator frame value rest holds same typed read
      exact holds.2.2 frame same value rest typed read
    · intro found coordinator holds
      exact ⟨holds.1.1, holds.2⟩
  refine asked.bind fun found => ensures_pure ?_ ?_
  · intro coordinator next moved holds
    exact ⟨lasts.stable _ _ moved holds.1, (facts _).stable _ _ moved holds.2⟩
  · rintro coordinator ⟨holds, told⟩
    refine ⟨holds, ?_⟩
    cases found with
    | none => exact missing _
    | some value => exact told value rfl

/-- OK tells the fact. -/
def Confirms (fact : Impl Binary64 → Prop) (frame : Frame) (engine : Impl Binary64) : Prop :=
  frame.type = MessageType.ok.toU8 → fact engine

/-- A request that is answered with OK or NACK. -/
theorem ensures_accepted {type : MessageType} {body : Bytes} {op : Op Binary64}
    {fact : Impl Binary64 → Prop}
    (read : Request.ofFrame (.ofType type body) = some (.operation op))
    (lasts : Lasts limits kept) (facts : Lasts limits fact)
    (accepted : ∀ engine now, kept engine → (exec limits now op engine).1.failed = false →
      fact (exec limits now op engine).2) :
    Ensures (Coordinator.numbering limits index lossy) (fun coordinator => kept coordinator.engine)
      (answered .ok type body) fun ok coordinator =>
        kept coordinator.engine ∧ (ok = true → fact coordinator.engine) := by
  have confirms : ∀ frame, Lasts limits (Confirms fact frame) :=
    fun frame _ _ _ taken holds typed => facts _ _ _ taken (holds typed)
  refine (lasts.ensures_exchange read confirms ?_).bind fun reply => ensures_pure ?_ ?_
  · intro coordinator now saved session holds _ reply replied typed
    have sent : reply = .verdict !(exec limits now op coordinator.engine).1.failed :=
      Coordinator.mayReply_answer.mp replied
    apply accepted coordinator.engine now holds
    cases failed : (exec limits now op coordinator.engine).1.failed with
    | false => rfl
    | true =>
        rw [sent, failed] at typed
        exact absurd typed (by decide)
  · intro coordinator next moved holds
    exact ⟨lasts.stable _ _ moved holds.1, fun ok => facts.stable _ _ moved (holds.2 ok)⟩
  · rintro coordinator ⟨holds, -, told⟩
    refine ⟨holds, fun ok => ?_⟩
    obtain ⟨frame, rfl, typed⟩ := (Option.any_eq_true _ _).mp ok
    exact told frame rfl (of_decide_eq_true typed)

/-! ## Steps of a launch -/

/-- `do_register` succeeded: the worker is recorded. -/
theorem ensures_doRegister (args : Arguments) (lasts : Lasts limits kept) :
    Ensures (Coordinator.numbering limits index lossy) (fun coordinator => kept coordinator.engine)
      (doRegister args) fun acknowledged coordinator => kept coordinator.engine ∧
        (acknowledged = true → coordinator.engine.Knows args.worker args.boot) := by
  have known : ∀ acknowledged : Bool, Lasts limits fun engine =>
      acknowledged = true → engine.Knows args.worker args.boot :=
    fun acknowledged _ _ _ taken holds said => lasts_knows _ _ _ _ _ taken (holds said)
  apply ensures_ask (fun found : Option Bool => found.getD false) (ofFrame_register args) lasts
    known
  · simp
  · rintro coordinator now saved session - - reply ⟨accepted, rfl, both⟩ value rest - read said
    obtain rfl : value = accepted := read_eq (reads_rdBool accepted) read
    obtain ⟨-, -, newer⟩ := registerBoot_accepted.mp (both said)
    refine ⟨args.boot, ?_, Nat.le_refl _⟩
    change (registerBoot coordinator.engine.workerBoot args.worker args.boot).2.find?
      args.worker = _
    rw [registerBoot_find?, if_pos ⟨both said, rfl⟩]

/-- `create_domain` under a number that is free. -/
theorem createDomain_new {kind : Enum8 DomainKind} {capacity : CapacityProfile Binary64}
    {engine : Impl Binary64} (allowed : engine.creatable limits capacity = true)
    (free : engine.domains.find? ⟨engine.nextDomain⟩ = none) :
    (engine.createDomain limits kind capacity).1 = ⟨⟨engine.nextDomain⟩, ⟨1⟩⟩ ∧
      (engine.createDomain limits kind capacity).2.domains.find? ⟨engine.nextDomain⟩ =
        some (Impl.newDomain ⟨engine.nextDomain⟩ kind capacity) := by
  refine ⟨?_, ?_⟩
  · rw [createDomain_of_creatable allowed]
    simp [Impl.storeDomain, UnorderedMap.find?_emplace, free, Impl.newDomain]
  · rw [createDomain_find? allowed, if_pos ⟨free, rfl⟩]

/-- `declare_flow` under a number that is free. -/
theorem declareFlow_new (now : UInt64) {options : FlowOptions Binary64}
    {engine : Impl Binary64} (allowed : Declarable limits options engine)
    (free : engine.flows.find? ⟨engine.nextFlow⟩ = none) :
    (engine.declareFlow limits now options).1 = ⟨⟨engine.nextFlow⟩, ⟨1⟩⟩ ∧
      (engine.declareFlow limits now options).2.flows.find? ⟨engine.nextFlow⟩ =
        some (.declare ⟨engine.nextFlow⟩ now options) := by
  refine ⟨?_, ?_⟩
  · rw [declareFlow_of_declarable allowed]
    simp [Impl.storeFlow, UnorderedMap.find?_emplace, free, Flow.declare]
  · rw [declareFlow_find? allowed, if_pos ⟨free, rfl⟩]

/-- The domain that the client asked for. -/
def Arguments.created (args : Arguments) (id : CongestionDomainId) : CongestionDomain Binary64 :=
  Impl.newDomain id DomainKind.networkPath args.profile

/-- The domain is there, at its first generation. -/
def Created (args : Arguments) (ref : EntityRef CongestionDomainTag) (engine : Impl Binary64) :
    Prop :=
  ref.generation = ⟨1⟩ ∧ engine.Offers ref.id (args.created ref.id)

theorem lasts_created (args : Arguments) (ref : EntityRef CongestionDomainTag) :
    Lasts limits (Created args ref) :=
  fun _ _ _ taken holds => ⟨holds.1, lasts_offers _ _ _ _ _ taken holds.2⟩

/-- The flow is there, in a domain that exists. -/
def Declared (args : Arguments) (domain : EntityRef CongestionDomainTag)
    (ref : EntityRef FlowTag) (engine : Impl Binary64) : Prop :=
  (∃ origin, engine.Offers domain.id origin) ∧
    engine.Carries ref.id (.declare ref.id 0 (args.options domain)) fun _ => True

theorem lasts_declared (args : Arguments) (domain : EntityRef CongestionDomainTag)
    (ref : EntityRef FlowTag) : Lasts limits (Declared args domain ref) := by
  rintro coordinator input next taken ⟨⟨origin, offered⟩, carries⟩
  exact ⟨⟨origin, lasts_offers _ _ _ _ _ taken offered⟩,
    lasts_carries _ _ (fun _ _ _ _ _ => trivial) _ _ _ taken carries⟩

/-- `do_create`. -/
theorem ensures_doCreate (args : Arguments) (lasts : Lasts limits kept) :
    Ensures (Coordinator.numbering limits index lossy) (fun coordinator => kept coordinator.engine)
      (doCreate args) fun created coordinator => kept coordinator.engine ∧
        ∀ ref, created = some ref → Created args ref coordinator.engine := by
  have offered : ∀ created : Option (EntityRef CongestionDomainTag), Lasts limits fun engine =>
      ∀ ref, created = some ref → Created args ref engine :=
    fun created _ _ _ taken holds ref same => lasts_created args ref _ _ _ taken (holds ref same)
  apply ensures_ask Option.join (ofFrame_createDomain args) lasts offered
  · simp
  · intro coordinator now saved session _ free reply replied value rest _ read ref same
    obtain rfl := Coordinator.mayReply_answer.mp replied
    obtain rfl := read_eq (reads_rdCreated _) read
    split at same
    · next valid =>
        cases allowed : coordinator.engine.creatable limits args.profile with
        | false =>
            rw [createDomain_of_not_creatable allowed] at valid
            exact absurd valid Bool.false_ne_true
        | true =>
            obtain ⟨answered, stored⟩ := createDomain_new allowed
              (Coordinator.domainFree (ofFrame_createDomain args) free)
            rw [Option.join_some, answered] at same
            obtain rfl := Option.some.inj same
            exact ⟨rfl, _, stored, .refl _⟩
    · exact absurd same (by simp)

/-- `do_declare`. -/
theorem ensures_doDeclare (args : Arguments) (domain : EntityRef CongestionDomainTag)
    (lasts : Lasts limits kept) (sound : ∀ engine, kept engine → engine.WellAccounted) :
    Ensures (Coordinator.numbering limits index lossy) (fun coordinator => kept coordinator.engine)
      (doDeclare args domain) fun declared coordinator => kept coordinator.engine ∧
        ∀ ref, declared = some ref → Declared args domain ref coordinator.engine := by
  have carried : ∀ declared : Option (EntityRef FlowTag), Lasts limits fun engine =>
      ∀ ref, declared = some ref → Declared args domain ref engine :=
    fun declared _ _ _ taken holds ref same =>
      lasts_declared args domain ref _ _ _ taken (holds ref same)
  apply ensures_ask Option.join (ofFrame_declareFlow args domain) lasts carried
  · simp
  · intro coordinator now saved session holds free reply replied value rest _ read ref same
    obtain rfl := Coordinator.mayReply_answer.mp replied
    obtain rfl := read_eq (reads_rdCreated _) read
    split at same
    · next valid =>
        by_cases allowed : Declarable limits (args.options domain) coordinator.engine
        · obtain ⟨answered, stored⟩ := declareFlow_new now allowed
            (Coordinator.flowFree (ofFrame_declareFlow args domain) free)
          rw [Option.join_some, answered] at same
          obtain rfl := Option.some.inj same
          obtain ⟨record, present⟩ := UnorderedMap.contains_eq_true.mp allowed.domainExists
          obtain ⟨invalidated, kept⟩ := exec_domain limits now
            (.declareFlow (args.options domain)) present (by simp)
          refine ⟨⟨_, _, kept, .refl _⟩, (sound _ holds).exec limits now
            (.declareFlow (args.options domain)), _, stored, ?_, rfl, trivial⟩
          exact ⟨rfl, rfl, rfl, rfl, rfl, rfl, rfl, rfl, rfl, rfl⟩
        · rw [declareFlow_of_not_declarable allowed] at valid
          exact absurd valid Bool.false_ne_true
    · exact absurd same (by simp)

/-- ADMIT succeeded: the flow is admitted with all its bytes. -/
theorem ensures_admission {flow : EntityRef FlowTag} {origin : Flow Binary64}
    (lasts : Lasts limits kept)
    (carries : ∀ engine, kept engine → engine.Carries flow.id origin fun _ => True) :
    Ensures (Coordinator.numbering limits index lossy) (fun coordinator => kept coordinator.engine)
      (sendFlowOp .admission flow) fun ok coordinator => kept coordinator.engine ∧
        (ok = true → coordinator.engine.Carries flow.id origin Flow.Admitted) := by
  refine ensures_accepted (ofFrame_admission flow) lasts
    (lasts_carries _ _ fun sound admitted now op state => admitted.after sound ..) ?_
  intro engine now holds succeeded
  refine (carries engine holds).exec limits now (.admitFlow flow) ?_
  intro record stored sound _
  have accepted : (engine.admitFlow flow).1 = true := by
    simpa [exec, Result.failed] using succeeded
  obtain ⟨found, isFound, admits⟩ := Impl.onFlow_accepted.mp accepted
  obtain ⟨located, current⟩ := findFlow_eq_some.mp isFound
  obtain rfl := Option.some.inj (located.symm.trans stored)
  have written : flowAfter limits now (.admitFlow flow) engine flow.id found =
      (found.admission (engine.domains.contains found.domain.id)).2 :=
    if_pos ⟨rfl, current⟩
  rcases sound.admission (engine.domains.contains found.domain.id) with
    ⟨-, refused⟩ | ⟨-, -, admitted⟩
  · rw [refused] at admits
    exact absurd admits (by simp)
  · rw [written, admitted]
    exact ⟨by simp, rfl⟩

/-- `do_start` succeeded: the flow has been started. -/
theorem ensures_doStart (args : Arguments) {flow : EntityRef FlowTag} {origin : Flow Binary64}
    (lasts : Lasts limits kept)
    (carries : ∀ engine, kept engine → engine.Carries flow.id origin Flow.Admitted) :
    Ensures (Coordinator.numbering limits index lossy) (fun coordinator => kept coordinator.engine)
      (doStart args flow) fun ok coordinator => kept coordinator.engine ∧
        (ok = true → coordinator.engine.Carries flow.id origin Flow.Launched) := by
  refine ensures_accepted (ofFrame_start args flow) lasts
    (lasts_carries _ _ fun sound launched now op state => launched.after sound ..) ?_
  intro engine now holds succeeded
  refine (carries engine holds).exec limits now (.startFlow flow args.boot) ?_
  intro record stored sound admitted
  have accepted : (engine.startFlow now flow args.boot).1 = true := by
    simpa [exec, Result.failed] using succeeded
  obtain ⟨found, isFound, starts⟩ := Impl.onFlow_accepted.mp accepted
  obtain ⟨located, current⟩ := findFlow_eq_some.mp isFound
  obtain rfl := Option.some.inj (located.symm.trans stored)
  have written : flowAfter limits now (.startFlow flow args.boot) engine flow.id found =
      (found.start now args.boot).2 :=
    if_pos ⟨rfl, current⟩
  rcases sound.start now args.boot with ⟨-, refused⟩ | ⟨-, -, started⟩
  · rw [refused] at starts
    exact absurd starts (by simp)
  · rw [written, started]
    exact ⟨⟨by simp [Flow.started], admitted.2⟩, by simp [Flow.started], by simp [Flow.started]⟩

/-! ## Scenarios -/

/-- What the outcome of a launch says holds, and exit code 0 stands for a launch. -/
def Truthful (fact : CongestionDomainId → FlowId → Impl Binary64 → Prop) (outcome : Outcome)
    (coordinator : Coordinator) : Prop :=
  (outcome.code = 0 → outcome.launched.isSome = true) ∧
    ∀ domain flow, outcome.launched = some (domain, flow) → fact domain flow coordinator.engine

variable {fact : CongestionDomainId → FlowId → Impl Binary64 → Prop}

theorem stable_truthful (facts : ∀ domain flow, Lasts limits (fact domain flow))
    (outcome : Outcome) :
    Stable (Coordinator.numbering limits index lossy) (Truthful fact outcome) := by
  intro coordinator next moved truthful
  exact ⟨truthful.1, fun domain flow launched =>
    (facts domain flow).stable _ _ moved (truthful.2 domain flow launched)⟩

/-- A step that fails ends with an outcome that says nothing. -/
theorem ensures_orFail {A : Type} {stage : Stage} {next : A → Worker Outcome} {found : Option A}
    {pre : Coordinator → Prop} {gained : A → Coordinator → Prop}
    (facts : ∀ domain flow, Lasts limits (fact domain flow))
    (succeeded : ∀ value, Ensures (Coordinator.numbering limits index lossy)
      (fun coordinator => pre coordinator ∧ gained value coordinator) (next value)
      (Truthful fact)) :
    Ensures (Coordinator.numbering limits index lossy)
      (fun coordinator => pre coordinator ∧ ∀ value, found = some value → gained value coordinator)
      (orFail stage next found) (Truthful fact) := by
  cases found with
  | none =>
      exact ensures_pure (stable_truthful facts _) fun coordinator _ => ⟨by simp, by simp⟩
  | some value =>
      exact (succeeded value).mono (fun coordinator holds => ⟨holds.1, holds.2 value rfl⟩)
        fun _ _ => id

theorem ensures_check {stage : Stage} {next : Worker Outcome} {ok : Bool}
    {pre gained : Coordinator → Prop} (facts : ∀ domain flow, Lasts limits (fact domain flow))
    (succeeded : Ensures (Coordinator.numbering limits index lossy)
      (fun coordinator => pre coordinator ∧ gained coordinator) next (Truthful fact)) :
    Ensures (Coordinator.numbering limits index lossy)
      (fun coordinator => pre coordinator ∧ (ok = true → gained coordinator))
      (check stage next ok) (Truthful fact) := by
  cases ok with
  | false =>
      exact ensures_pure (stable_truthful facts _) fun coordinator _ => ⟨by simp, by simp⟩
  | true =>
      exact succeeded.mono (fun coordinator holds => ⟨holds.1, holds.2 rfl⟩) fun _ _ => id

/-- A launch in a domain, up to what follows it. -/
theorem ensures_launch (args : Arguments) (domain : EntityRef CongestionDomainTag)
    {last : Outcome → Worker Outcome} (lasts : Lasts limits kept)
    (sound : ∀ engine, kept engine → engine.WellAccounted)
    (facts : ∀ domain flow, Lasts limits (fact domain flow))
    (told : ∀ flow, Ensures (Coordinator.numbering limits index lossy)
      (fun coordinator => kept coordinator.engine ∧
        (∃ origin, coordinator.engine.Offers domain.id origin) ∧
        coordinator.engine.Carries flow (.declare flow 0 (args.options domain)) Flow.Launched)
      (last { code := 0, launched := some (domain.id, flow) }) (Truthful fact)) :
    Ensures (Coordinator.numbering limits index lossy) (fun coordinator => kept coordinator.engine)
      (launch args domain last) (Truthful fact) := by
  refine (ensures_doDeclare args domain lasts sound).bind fun declared =>
    ensures_orFail facts fun flow => ?_
  have declares : Lasts limits _ := lasts.and (lasts_declared args domain flow)
  refine (ensures_admission declares fun engine holds => holds.2.2).bind fun ok =>
    ensures_check facts ?_
  have admits := declares.and <| lasts_carries flow.id
    (.declare flow.id 0 (args.options domain)) fun sound admitted now op state =>
      Flow.Admitted.after admitted sound limits now op state flow.id
  refine (ensures_doStart args admits fun engine holds => holds.2).bind fun ok =>
    ensures_check facts ?_
  have starts := admits.and <| lasts_carries flow.id
    (.declare flow.id 0 (args.options domain)) fun sound launched now op state =>
      Flow.Launched.after launched sound limits now op state flow.id
  refine (starts.ensures (doMeasure args domain.id)).bind fun _ => ?_
  exact (told flow.id).mono
    (fun coordinator holds => ⟨holds.1.1.1, holds.1.1.2.1, holds.2⟩) fun _ _ => id

/-- The scenarios that launch a flow. -/
def Scenario.launches : Scenario → Bool
  | .drive | .compete | .resurrect => true
  | _ => false

/-- The domain of a launch: `drive` has created it, the others have found its number. -/
def Scenario.Uses (args : Arguments) (scenario : Scenario) (domain : CongestionDomainId)
    (engine : Impl Binary64) : Prop :=
  match scenario with
  | .drive => engine.Offers domain (args.created domain)
  | _ => domain = args.remote.id ∧ ∃ origin, engine.Offers domain origin

/-- What a launch has brought about. -/
structure HasLaunched (args : Arguments) (scenario : Scenario) (domain : CongestionDomainId)
    (flow : FlowId) (engine : Impl Binary64) : Prop where
  worker : engine.Knows args.worker args.boot
  uses : scenario.Uses args domain engine
  carries : engine.Carries flow (.declare flow 0 (args.options ⟨domain, ⟨1⟩⟩)) Flow.Launched

theorem lasts_hasLaunched (args : Arguments) (scenario : Scenario) (domain : CongestionDomainId)
    (flow : FlowId) : Lasts limits (HasLaunched args scenario domain flow) := by
  intro coordinator input next taken holds
  refine ⟨lasts_knows _ _ _ _ _ taken holds.worker, ?_, ?_⟩
  · have uses := holds.uses
    unfold Scenario.Uses at uses ⊢
    split at uses
    · exact lasts_offers _ _ _ _ _ taken uses
    · obtain ⟨same, origin, offered⟩ := uses
      exact ⟨same, origin, lasts_offers _ _ _ _ _ taken offered⟩
  · exact lasts_carries _ _ (fun sound launched now op state => launched.after sound ..)
      _ _ _ taken holds.carries

/-- What is left to do when a launch has succeeded. -/
private theorem ensures_told (args : Arguments) (scenario : Scenario)
    (domain : CongestionDomainId) (flow : FlowId) {pre : Coordinator → Prop} {code : Nat}
    (known : ∀ coordinator, pre coordinator →
      HasLaunched args scenario domain flow coordinator.engine) :
    Ensures (Coordinator.numbering limits index lossy) pre
      (pure { code := code, launched := some (domain, flow) })
      (Truthful (HasLaunched args scenario)) := by
  refine ensures_pure (stable_truthful (lasts_hasLaunched args scenario) _) ?_
  intro coordinator holds
  refine ⟨fun _ => rfl, ?_⟩
  rintro _ _ same
  obtain ⟨rfl, rfl⟩ := Prod.mk.inj (Option.some.inj same)
  exact known coordinator holds

/-- `drive`. -/
theorem ensures_drive (args : Arguments) :
    Ensures (Coordinator.numbering limits index lossy)
      (fun coordinator => coordinator.engine.WellAccounted) (drive args)
      (Truthful (HasLaunched args .drive)) := by
  have facts : ∀ domain flow, Lasts limits (HasLaunched args .drive domain flow) :=
    lasts_hasLaunched args .drive
  refine (ensures_doRegister args lasts_wellAccounted).bind fun ok => ensures_check facts ?_
  have knows : Lasts limits _ := lasts_wellAccounted.and (lasts_knows args.worker args.boot)
  refine (ensures_doCreate args knows).bind fun created =>
    ensures_orFail facts fun domain => ?_
  have creates : Lasts limits _ := knows.and (lasts_created args domain)
  refine ensures_launch args domain creates (fun engine holds => holds.1.1) facts fun flow => ?_
  refine ensures_told args .drive domain.id flow fun coordinator holds =>
    ⟨holds.1.1.2, holds.1.2.2, ?_⟩
  have same : domain = ⟨domain.id, ⟨1⟩⟩ := by rw [← holds.1.2.1]
  rw [← same]
  exact holds.2.2

/-- `compete` and `resurrect`. -/
theorem ensures_remote (args : Arguments) {scenario : Scenario} (found : scenario ≠ .drive)
    {last : Outcome → Worker Outcome}
    (told : ∀ flow, Ensures (Coordinator.numbering limits index lossy)
      (fun coordinator => HasLaunched args scenario args.remote.id flow coordinator.engine)
      (last { code := 0, launched := some (args.remote.id, flow) })
      (Truthful (HasLaunched args scenario))) :
    Ensures (Coordinator.numbering limits index lossy)
      (fun coordinator => coordinator.engine.WellAccounted)
      (doRegister args >>= check .register (launch args args.remote last))
      (Truthful (HasLaunched args scenario)) := by
  have facts : ∀ domain flow, Lasts limits (HasLaunched args scenario domain flow) :=
    lasts_hasLaunched args scenario
  refine (ensures_doRegister args lasts_wellAccounted).bind fun ok => ensures_check facts ?_
  have knows : Lasts limits _ := lasts_wellAccounted.and (lasts_knows args.worker args.boot)
  refine ensures_launch args args.remote knows (fun engine holds => holds.1) facts fun flow => ?_
  refine (told flow).mono (fun coordinator holds => ⟨holds.1.2, ?_, holds.2.2⟩) fun _ _ => id
  unfold Scenario.Uses
  split
  · exact absurd rfl found
  · exact ⟨rfl, holds.2.1⟩

/-- A launch tells the truth: with any other sessions beside it, whenever they act and
whatever is lost, exit code 0 stands for a launch, and the numbers that are printed name
a domain and a flow of the coordinator, the flow as the client declared it, admitted with
all its bytes and started, and the worker recorded; as long as no CREATE_DOMAIN and no
DECLARE_FLOW of the client is taken while the number it would be given is in use. -/
theorem launch_truthful {file : Option Bytes} {history : List (Coordinator × Input)}
    {coordinator final : Coordinator} {args : Arguments} {scenario : Scenario}
    {outcome : Outcome} (run : Run (CoordinatorStep limits) (.start file) history coordinator)
    (launches : scenario.launches = true)
    (talk : Talk ((Coordinator.service limits index lossy).under fun coordinator frame =>
        coordinator.numberFree frame = true)
      coordinator (main args (some scenario)) final outcome) :
    (outcome.code = 0 → outcome.launched.isSome = true) ∧
      ∀ domain flow, outcome.launched = some (domain, flow) →
        HasLaunched args scenario domain flow final.engine := by
  have sound := run.invariant (fun coordinator => coordinator.engine.WellAccounted)
    (Coordinator.wellAccounted_start file) fun sound step => sound.coordinatorStep step
  have ensures : Ensures (Coordinator.numbering limits index lossy)
      (fun coordinator => coordinator.engine.WellAccounted) (main args (some scenario))
      (Truthful (HasLaunched args scenario)) := by
    refine (lasts_wellAccounted.ensures hello).bind fun greeted => ?_
    cases greeted with
    | false =>
        exact ensures_pure (stable_truthful (lasts_hasLaunched args scenario) _)
          fun coordinator _ => ⟨by simp, by simp⟩
    | true =>
        cases scenario with
        | drive => exact ensures_drive args
        | compete =>
            refine ensures_remote args (by simp) fun flow => ?_
            refine ((lasts_hasLaunched args .compete _ flow).ensures _).bind fun report => ?_
            exact ensures_told args .compete _ flow fun _ => id
        | resurrect =>
            exact ensures_remote args (by simp) fun flow =>
              ensures_told args .resurrect _ flow fun _ => id
        | _ => exact absurd launches (by simp [Scenario.launches])
  exact ensures _ _ _ sound talk

private def hundredBytes : Arguments := { bytes := 100, capacity := 1000.0 }

/-- The session serves at time 5 what needs no number that is in use. -/
private def servesNew (frame : Frame) (coordinator : Coordinator) : Option (Frame × Coordinator) :=
  if coordinator.numberFree frame then Coordinator.alone {} 0 5 frame coordinator else none

/-- A worker drives a flow in the first session of a fresh coordinator. -/
private def driven : Option (Outcome × Coordinator) :=
  (main hundredBytes (some .drive)).run servesNew (Coordinator.next {} (.start none) .accept)

private theorem driven_returns : driven.isSome = true := by decide +kernel

private theorem driven_launched : (driven.get driven_returns).1.launched = some (⟨1⟩, ⟨1⟩) := by
  decide +kernel

private theorem driven_talk : Talk (Coordinator.numbering {} 0 true)
    (Coordinator.next {} (.start none) .accept) (main hundredBytes (some .drive))
    (driven.get driven_returns).2 (driven.get driven_returns).1 := by
  refine talk_of_run servesNew (fun frame coordinator reply after served => ?_)
    (Option.some_get driven_returns).symm
  unfold servesNew at served
  split at served
  · next free => exact ⟨free, Coordinator.exchange_alone served true⟩
  · exact absurd served (by simp)

theorem launch_truthful_driven :
    (driven.get driven_returns).1.launched = some (⟨1⟩, ⟨1⟩) ∧
      HasLaunched hundredBytes .drive ⟨1⟩ ⟨1⟩ (driven.get driven_returns).2.engine :=
  ⟨driven_launched, (launch_truthful (Run.nil.snoc (.input _ .accept)) rfl driven_talk).2 _ _
    driven_launched⟩

end Worker

end CongestionFabric
