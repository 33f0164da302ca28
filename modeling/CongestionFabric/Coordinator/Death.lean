import CongestionFabric.Coordinator.Effect
import CongestionFabric.Engine.DomainEffect

/-!
Contract: what is left of a worker whose session has ended.

Owns the live flows and rates of an identity, the operations that give it new
ones, the effect of a fence on them, and the exact condition on the steps of a
coordinator under which no identity of an ended session has any.

A session fences at its end the one identity in its context, and only while that
boot is the recorded one; identities it registered earlier, and boots that a
newer registration has replaced, keep their flows and rates.
-/

namespace CongestionFabric

open Foundation

/-! ## What an identity has in the engine -/

variable {R : Type} [Arithmetic R]

/-- The identity owns the flow, and the flow is still live. -/
def Flow.liveOf (flow : Flow R) (identity : WorkerId × WorkerBootId) : Bool :=
  flow.ownerWorker = identity.1 && flow.ownerBoot = identity.2 && flow.state.live

namespace Impl

/-- The identity has a live flow or the rate of a domain. -/
def retains (engine : Impl R) (identity : WorkerId × WorkerBootId) : Bool :=
  engine.flows.entries.any (fun entry => entry.2.liveOf identity) ||
    engine.domains.entries.any fun entry => entry.2.ratedBy identity

/-- The identity to which an operation gives a new flow or the rate of a domain. -/
def engages (limits : EngineLimits) (engine : Impl R) : Op R → Option (WorkerId × WorkerBootId)
  | .declareFlow options =>
      if Declarable limits options engine ∧ engine.flows.find? ⟨engine.nextFlow⟩ = none then
        some (options.ownerWorker, options.ownerBoot)
      else none
  | .publishMeasurement target measurement owner ownerBoot =>
      if engine.domains.contains target && owner.isValid &&
          engine.publishable measurement owner ownerBoot &&
          (measurement.kind = (MeasurementKind.offeredBytesPerSec : Enum8 _) ||
            measurement.kind = (MeasurementKind.completedBytesPerSec : Enum8 _)) then
        some (owner, ownerBoot)
      else none
  | _ => none

end Impl

variable {limits : EngineLimits} {now : UInt64} {op : Op R} {engine : Impl R}
  {identity : WorkerId × WorkerBootId} {flow : Flow R} {domain : CongestionDomain R}

theorem Impl.retains_iff :
    engine.retains identity = true ↔
      (∃ id flow, engine.flows.find? id = some flow ∧ flow.liveOf identity = true) ∨
        ∃ id domain, engine.domains.find? id = some domain ∧ domain.ratedBy identity = true := by
  simp only [Impl.retains, Bool.or_eq_true, List.any_eq_true, Prod.exists,
    UnorderedMap.mem_entries_iff]

/-- Only the data counts, not the order of the maps. -/
theorem Impl.Reordered.retains_eq {other : Impl R} (same : engine.Reordered other)
    (identity : WorkerId × WorkerBootId) : other.retains identity = engine.retains identity := by
  rw [Bool.eq_iff_iff, Impl.retains_iff, Impl.retains_iff]
  simp only [same.flows.find?_eq, same.domains.find?_eq]

/-! ## One operation -/

private theorem liveOf_flowAfter (sound : flow.WellAccounted) {id : FlowId}
    (live : (flowAfter limits now op engine id flow).liveOf identity = true) :
    flow.liveOf identity = true := by
  have origin := flowAfter_sameOrigin limits now op engine id flow
  simp only [Flow.liveOf, origin.ownerWorker, origin.ownerBoot, Bool.and_eq_true] at live ⊢
  refine ⟨live.1, ?_⟩
  cases before : flow.state.live with
  | true => rfl
  | false =>
      rcases sound.after_inert before limits now op engine id with same | awaits | ⟨-, stale⟩
      · rw [same, before] at live
        exact live.2
      · simp [awaits, FlowState.live] at live
      · simp [stale, FlowState.live] at live

/-- A publication that changes an owner makes the publisher one. -/
private theorem ratedBy_record {measurement : Measurement R} {owner : WorkerId}
    {ownerBoot : WorkerBootId}
    (rated : (domain.record measurement owner ownerBoot).ratedBy identity = true) :
    domain.ratedBy identity = true ∨
      owner.isValid = true ∧ identity = (owner, ownerBoot) ∧
        (measurement.kind = (MeasurementKind.offeredBytesPerSec : Enum8 _) ∨
          measurement.kind = (MeasurementKind.completedBytesPerSec : Enum8 _)) := by
  have cleared : domain.clearRevalidation.ratedBy identity = domain.ratedBy identity := by
    rw [domain.clearRevalidation_eq]
    rfl
  rw [← cleared]
  unfold CongestionDomain.record at rated
  simp only [CongestionDomain.ratedBy, CongestionDomain.ownsOffered,
    CongestionDomain.ownsServiced, Bool.or_eq_true, Bool.and_eq_true, decide_eq_true_eq] at rated ⊢
  split_ifs at rated with offered admitted completed
  · rcases rated with ⟨⟨valid, worker⟩, boot⟩ | serviced
    · exact Or.inr ⟨valid, Prod.ext worker.symm boot.symm, Or.inl offered⟩
    · exact Or.inl (Or.inr serviced)
  · exact Or.inl rated
  · rcases rated with offered | ⟨⟨valid, worker⟩, boot⟩
    · exact Or.inl (Or.inl offered)
    · exact Or.inr ⟨valid, Prod.ext worker.symm boot.symm, Or.inr completed⟩
  all_goals exact Or.inl rated

private theorem record_ratedBy {measurement : Measurement R} {owner : WorkerId}
    {ownerBoot : WorkerBootId} (valid : owner.isValid = true)
    (kind : measurement.kind = (MeasurementKind.offeredBytesPerSec : Enum8 _) ∨
      measurement.kind = (MeasurementKind.completedBytesPerSec : Enum8 _)) :
    (domain.record measurement owner ownerBoot).ratedBy (owner, ownerBoot) = true := by
  have notOffered : (MeasurementKind.completedBytesPerSec : Enum8 MeasurementKind) ≠
      MeasurementKind.offeredBytesPerSec := by decide
  have notAdmitted : (MeasurementKind.completedBytesPerSec : Enum8 MeasurementKind) ≠
      MeasurementKind.admittedBytesPerSec := by decide
  rcases kind with kind | kind
  · simp [CongestionDomain.record, kind, CongestionDomain.ratedBy, CongestionDomain.ownsOffered,
      valid]
  · simp [CongestionDomain.record, kind, notOffered, notAdmitted, CongestionDomain.ratedBy,
      CongestionDomain.ownsServiced, valid]

/-- The owner of one rate after a fence. -/
private theorem owned_after_fence {owner worker : WorkerId} {ownerBoot deadBoot : WorkerBootId} :
    (((if owner.isValid && owner = worker && ownerBoot = deadBoot then ⟨0⟩ else owner).isValid &&
        (if owner.isValid && owner = worker && ownerBoot = deadBoot then ⟨0⟩ else owner) =
          identity.1) && ownerBoot = identity.2) = true ↔
      (owner.isValid && owner = identity.1 && ownerBoot = identity.2) = true ∧
        identity ≠ (worker, deadBoot) := by
  obtain ⟨name, boot⟩ := identity
  cases owns : (owner.isValid && owner = worker && ownerBoot = deadBoot) with
  | true =>
      simp only [Bool.and_eq_true, decide_eq_true_eq] at owns
      obtain ⟨⟨-, rfl⟩, rfl⟩ := owns
      refine iff_of_false (by simp [Id.isValid]) fun ⟨same, other⟩ => other ?_
      simp only [Bool.and_eq_true, decide_eq_true_eq] at same
      rw [← same.1.2, ← same.2]
  | false =>
      rw [if_neg Bool.false_ne_true]
      refine (and_iff_left_of_imp fun same fenced => ?_).symm
      obtain ⟨rfl, rfl⟩ := Prod.mk.inj fenced
      rw [owns] at same
      exact absurd same Bool.false_ne_true

/-- A fence takes exactly the rates of the fenced identity. -/
private theorem ratedBy_dropEvidence (domain : CongestionDomain R) (worker : WorkerId)
    (deadBoot : WorkerBootId) (invalidated : Bool) (identity : WorkerId × WorkerBootId) :
    (domain.dropEvidence worker deadBoot invalidated).2.ratedBy identity = true ↔
      domain.ratedBy identity = true ∧ identity ≠ (worker, deadBoot) := by
  obtain ⟨any, -, dropped⟩ := domain.dropEvidence_eq worker deadBoot invalidated
  rw [dropped]
  unfold CongestionDomain.ratedBy
  rw [Bool.or_eq_true, Bool.or_eq_true, or_and_right]
  exact or_congr owned_after_fence owned_after_fence

private theorem ratedBy_domainAfter {id : CongestionDomainId} {invalidated : Bool}
    (stored : engine.domains.find? id = some domain)
    (rated : (domainAfter limits now op engine invalidated id domain).ratedBy identity = true) :
    domain.ratedBy identity = true ∨ engine.engages limits op = some identity := by
  revert rated
  apply domainAfter_elim (motive := fun after => after.ratedBy identity = true →
    domain.ratedBy identity = true ∨ engine.engages limits op = some identity)
  case same => exact Or.inl
  case fenceWorker =>
    intro worker deadBoot _ _ rated
    exact Or.inl ((ratedBy_dropEvidence ..).mp rated).1
  case admission => exact fun _ _ _ => Or.inl
  case start =>
    intro ref boot _ _ rated
    rw [domain.clearRevalidation_eq] at rated
    exact Or.inl rated
  case publish =>
    rintro measurement owner ownerBoot rfl publishable rated
    rcases ratedBy_record rated with before | ⟨valid, rfl, kind⟩
    · exact Or.inl before
    · right
      have present : engine.domains.contains id = true := by simp [stored]
      simp [Impl.engages, present, valid, publishable, kind]
  case recompute =>
    intro _ rated
    obtain ⟨_, _, _, written⟩ := engine.recomputed_eq limits now domain
    rw [written] at rated
    exact Or.inl rated
  case shape => exact fun _ _ _ => Or.inl
  case recover =>
    intro _ rated
    obtain ⟨_, _, required⟩ := domain.requireRevalidation_eq
    rw [required] at rated
    exact Or.inl rated

/-- An operation adds nothing to what an identity has, unless it engages it. -/
private theorem retains_of_exec (sound : engine.WellAccounted)
    (retains : (exec limits now op engine).2.retains identity = true) :
    engine.retains identity = true ∨ engine.engages limits op = some identity := by
  rw [Impl.retains_iff] at retains ⊢
  rcases retains with ⟨id, after, stored, live⟩ | ⟨id, after, stored, rated⟩
  · rcases exec_flow_origin stored with
      ⟨flow, found, rfl⟩ | ⟨options, rfl, declarable, absent, rfl, rfl⟩
    · exact Or.inl (Or.inl ⟨id, flow, found, liveOf_flowAfter (sound id flow found) live⟩)
    · right
      simp only [Flow.liveOf, Flow.declare, Bool.and_eq_true] at live
      have owner : (options.ownerWorker, options.ownerBoot) = identity :=
        Prod.ext (of_decide_eq_true live.1.1) (of_decide_eq_true live.1.2)
      simp [Impl.engages, declarable, absent, owner]
  · rcases exec_domain_origin stored with
      ⟨domain, invalidated, found, -, rfl⟩ | ⟨kind, capacity, -, -, -, -, rfl⟩
    · rcases ratedBy_domainAfter found rated with before | engaged
      · exact Or.inl (Or.inr ⟨id, domain, found, before⟩)
      · exact Or.inr engaged
    · simp [CongestionDomain.ratedBy, CongestionDomain.ownsOffered, Impl.newDomain,
        CongestionDomain.ownsServiced, Id.isValid] at rated

/-- An engaged identity has something. -/
private theorem retains_of_engages (engaged : engine.engages limits op = some identity) :
    (exec limits now op engine).2.retains identity = true := by
  rw [Impl.retains_iff]
  cases op with
  | declareFlow options =>
      simp only [Impl.engages, Option.ite_none_right_eq_some, Option.some.injEq] at engaged
      obtain ⟨⟨declarable, absent⟩, rfl⟩ := engaged
      refine Or.inl ⟨⟨engine.nextFlow⟩, .declare ⟨engine.nextFlow⟩ now options, ?_, ?_⟩
      · change (engine.declareFlow limits now options).2.flows.find? _ = _
        rw [declareFlow_find? declarable, if_pos ⟨absent, rfl⟩]
      · simp [Flow.liveOf, Flow.declare, FlowState.live]
  | publishMeasurement target measurement owner ownerBoot =>
      simp only [Impl.engages, Option.ite_none_right_eq_some, Option.some.injEq] at engaged
      obtain ⟨guards, rfl⟩ := engaged
      simp only [Bool.and_eq_true, Bool.or_eq_true, decide_eq_true_eq] at guards
      obtain ⟨⟨⟨present, valid⟩, publishable⟩, kind⟩ := guards
      obtain ⟨domain, stored⟩ := UnorderedMap.contains_eq_true.mp present
      obtain ⟨invalidated, found⟩ := exec_domain limits now
        (.publishMeasurement target measurement owner ownerBoot) stored (by simp)
      refine Or.inr ⟨target, _, found, ?_⟩
      simp only [domainAfter, decide_true, publishable, Bool.true_and, if_true]
      exact record_ratedBy valid kind
  | _ => exact absurd engaged (by simp [Impl.engages])

private theorem liveOf_fence (flow : Flow R) (worker : WorkerId) (deadBoot : WorkerBootId)
    (identity : WorkerId × WorkerBootId) :
    (flow.fence (flow.ownerWorker = worker && flow.ownerBoot = deadBoot)).liveOf identity = true ↔
      flow.liveOf identity = true ∧ identity ≠ (worker, deadBoot) := by
  have running : flow.state.live = true →
      flow.isTerminal = false ∧ flow.state.isStaleOrSuperseded = false := by
    intro live
    unfold Flow.isTerminal
    cases state : flow.state <;> simp_all [FlowState.live, FlowState.isTerminal,
      FlowState.isStaleOrSuperseded]
  obtain ⟨name, boot⟩ := identity
  cases owned : (flow.ownerWorker = worker && flow.ownerBoot = deadBoot : Bool) with
  | false =>
      have same : flow.fence false = flow := rfl
      rw [same]
      refine (and_iff_left_of_imp fun live fenced => ?_).symm
      obtain ⟨rfl, rfl⟩ := Prod.mk.inj fenced
      rw [Flow.liveOf, Bool.and_eq_true, owned] at live
      exact absurd live.1 Bool.false_ne_true
  | true =>
      simp only [Bool.and_eq_true, decide_eq_true_eq] at owned
      obtain ⟨rfl, rfl⟩ := owned
      refine iff_of_false (fun live => ?_) (fun both => ?_)
      · unfold Flow.fence at live
        split at live
        · simp [Flow.liveOf, FlowState.live] at live
        · next kept =>
            simp only [Flow.liveOf, Bool.and_eq_true] at live
            obtain ⟨notTerminal, notStale⟩ := running live.2
            simp [notTerminal, notStale] at kept
      · obtain ⟨live, other⟩ := both
        simp only [Flow.liveOf, Bool.and_eq_true, decide_eq_true_eq] at live
        apply other
        rw [live.1.1, live.1.2]

/-- A fence of the recorded boot takes everything that the identity has, and
nothing else; every other fence takes nothing. -/
private theorem retains_fenceWorker (worker : WorkerId) (deadBoot : WorkerBootId) :
    (engine.fenceWorker worker deadBoot).2.retains identity = true ↔
      engine.retains identity = true ∧
        ¬(worker.value ≠ 0 ∧ engine.workerBoot.find? worker = some deadBoot ∧
          identity = (worker, deadBoot)) := by
  unfold Impl.fenceWorker
  cases fenced : fenceBoot engine.workerBoot worker deadBoot with
  | none =>
      refine (and_iff_left fun ⟨nonzero, recorded, _⟩ => ?_).symm
      rw [fenceBoot_eq_some.mpr ⟨nonzero, recorded, rfl⟩] at fenced
      exact absurd fenced (by simp)
  | some bumped =>
      obtain ⟨nonzero, recorded, -⟩ := fenceBoot_eq_some.mp fenced
      simp only [nonzero, recorded, ne_eq, not_false_eq_true, true_and]
      rw [Impl.retains_iff, Impl.retains_iff, or_and_right]
      refine or_congr ?_ ?_
      · constructor
        · rintro ⟨id, after, stored, live⟩
          rw [UnorderedMap.find?_mapValues] at stored
          obtain ⟨flow, found, rfl⟩ := Option.map_eq_some_iff.mp stored
          obtain ⟨before, other⟩ := (liveOf_fence ..).mp live
          exact ⟨⟨id, flow, found, before⟩, other⟩
        · rintro ⟨⟨id, flow, found, live⟩, other⟩
          refine ⟨id, _, ?_, (liveOf_fence ..).mpr ⟨live, other⟩⟩
          rw [UnorderedMap.find?_mapValues, found, Option.map_some]
      · constructor
        · rintro ⟨id, after, stored, rated⟩
          obtain ⟨reached, looked⟩ := engine.domains.find?_mapAccumulate
            (fun anyInvalidated _ domain => domain.dropEvidence worker deadBoot anyInvalidated)
            false id
          rw [looked] at stored
          obtain ⟨domain, found, rfl⟩ := Option.map_eq_some_iff.mp stored
          obtain ⟨before, other⟩ := (ratedBy_dropEvidence ..).mp rated
          exact ⟨⟨id, domain, found, before⟩, other⟩
        · rintro ⟨⟨id, domain, found, rated⟩, other⟩
          obtain ⟨reached, looked⟩ := engine.domains.find?_mapAccumulate
            (fun anyInvalidated _ domain => domain.dropEvidence worker deadBoot anyInvalidated)
            false id
          refine ⟨id, _, ?_, (ratedBy_dropEvidence _ _ _ reached _).mpr ⟨rated, other⟩⟩
          rw [looked, found, Option.map_some]

/-! ## Ended sessions -/

namespace Coordinator

/-- The identity was registered by a session that has ended. -/
def retired (coordinator : Coordinator) (identity : WorkerId × WorkerBootId) : Bool :=
  coordinator.sessions.any fun session =>
    session.phase.isEnded && session.registered.contains identity

/-- No identity that a session registered before it ended has a live flow or the
rate of a domain. -/
def Fenced (coordinator : Coordinator) : Prop :=
  ∀ session ∈ coordinator.sessions, session.phase.isEnded = true →
    ∀ identity ∈ session.registered, coordinator.engine.retains identity = false

/-- A session ends with nothing left of the identities it registered, except for
the one in its context while that is still the recorded boot; and no frame
declares a flow or publishes a rate for an identity of an ended session. -/
def keepsFenced (limits : EngineLimits) (coordinator : Coordinator) (input : Input) : Bool :=
  match input, coordinator.taker input with
  | .disconnect _, some session => session.registered.all fun identity =>
      !coordinator.engine.retains identity ||
        (session.ctxWid.isValid && identity = (session.ctxWid, session.ctxBoot) &&
          coordinator.engine.workerBoot.find? session.ctxWid = some session.ctxBoot)
  | _, _ => (coordinator.call input).all fun call =>
      (coordinator.engine.engages limits call.2).all fun identity => !coordinator.retired identity

end Coordinator

section Steps

variable {coordinator : Coordinator} {input : Input} {session : Session}

private theorem Coordinator.retired_eq_false {identity : WorkerId × WorkerBootId} :
    coordinator.retired identity = false ↔ ∀ session ∈ coordinator.sessions,
      session.phase.isEnded = true → identity ∉ session.registered := by
  simp [Coordinator.retired]

private theorem answer_not_ended (stop : Bool) (frame : Frame) :
    (session.answer stop frame).phase.isEnded = false := by
  unfold Session.answer
  cases stop <;> rfl

private theorem handle_not_ended {now : UInt64} {saved stop : Bool} {request : Option Request}
    {engine : Impl Binary64} :
    (handle limits now saved stop request engine session).2.1.phase.isEnded = false := by
  cases request with
  | none => exact answer_not_ended ..
  | some request =>
      cases request with
      | publishMeasurement domain measurement =>
          unfold handle
          dsimp only
          split <;> exact answer_not_ended ..
      | register worker boot source sourceBoot => rfl
      | queryCongestion domain => rfl
      | _ => exact answer_not_ended ..

private theorem finish_not_ended {stop : Bool} {engine : Impl Binary64}
    (running : session.phase.isEnded = false) :
    (finish stop engine session).2.phase.isEnded = false := by
  unfold finish
  cases phase : session.phase with
  | registering pending => exact answer_not_ended ..
  | reporting domain assessment => exact answer_not_ended ..
  | _ => exact running

/-- The sessions that have ended after an input: those that had, and the one that
took its end. -/
private theorem ended_next_iff (ended : session.phase.isEnded = true) :
    session ∈ (coordinator.next limits input).sessions ↔
      session ∈ coordinator.sessions ∨
        ∃ index left, input = .disconnect index ∧ coordinator.taker input = some left ∧
          session = { left with phase := .ended } := by
  constructor
  · have origin : ∀ session ∈ (coordinator.next limits input).sessions,
        session.phase.isEnded = true → session ∈ coordinator.sessions ∨
          ∃ index left, input = .disconnect index ∧ coordinator.taker input = some left ∧
            session = { left with phase := .ended } := by
      apply Coordinator.forall_session_next
      case same => exact fun session member _ => Or.inl member
      case accept =>
        intro ended
        cases stopped : coordinator.stop <;> simp [stopped, Phase.isEnded] at ended
      case frame =>
        intro index now saved body session _ _ ended
        rw [handle_not_ended] at ended
        exact absurd ended Bool.false_ne_true
      case resume =>
        intro index session _ taken ended
        obtain ⟨-, -, running, -⟩ := Coordinator.taker_eq_some limits taken
        rw [finish_not_ended running] at ended
        exact absurd ended Bool.false_ne_true
      case disconnect =>
        intro index session disconnects taken _
        exact Or.inr ⟨index, session, disconnects, taken, rfl⟩
    exact fun member => origin session member ended
  · rintro (member | ⟨index, left, rfl, taken, rfl⟩)
    · exact Coordinator.ended_mem_next member ended
    · have found := (Option.filter_eq_some_iff.mp taken).1
      obtain ⟨bound, -⟩ := List.getElem?_eq_some_iff.mp found
      simp only [Coordinator.next, taken, leave]
      exact List.mem_set bound _

private theorem fenced_next_iff :
    (coordinator.next limits input).Fenced ↔
      (∀ session ∈ coordinator.sessions, session.phase.isEnded = true →
          ∀ identity ∈ session.registered,
            (coordinator.next limits input).engine.retains identity = false) ∧
        ∀ index left, input = .disconnect index → coordinator.taker input = some left →
          ∀ identity ∈ left.registered,
            (coordinator.next limits input).engine.retains identity = false := by
  constructor
  · intro fenced
    refine ⟨fun session member ended => ?_, fun index left disconnects taken => ?_⟩
    · exact fenced session ((ended_next_iff ended).mpr (Or.inl member)) ended
    · exact fenced { left with phase := .ended }
        ((ended_next_iff rfl).mpr (Or.inr ⟨index, left, disconnects, taken, rfl⟩)) rfl
  · rintro ⟨before, last⟩ session member ended
    rcases (ended_next_iff ended).mp member with old | ⟨index, left, disconnects, taken, rfl⟩
    · exact before session old ended
    · exact last index left disconnects taken

private theorem retains_leave {engine : Impl Binary64} {identity : WorkerId × WorkerBootId} :
    (leave engine session).1.retains identity = true ↔
      engine.retains identity = true ∧
        ¬(session.ctxWid.isValid = true ∧ identity = (session.ctxWid, session.ctxBoot) ∧
          engine.workerBoot.find? session.ctxWid = some session.ctxBoot) := by
  unfold leave
  cases valid : session.ctxWid.isValid with
  | false => simp
  | true =>
      rw [if_pos rfl, retains_fenceWorker]
      simp only [Id.isValid_eq_true.mp valid, ne_eq, not_false_eq_true, true_and,
        and_comm (a := identity = _)]

private theorem keepsFenced_iff (sound : coordinator.engine.WellAccounted)
    (fenced : coordinator.Fenced) :
    coordinator.keepsFenced limits input = true ↔ (coordinator.next limits input).Fenced := by
  rw [fenced_next_iff]
  unfold Coordinator.keepsFenced
  split
  · next index session taken =>
      have engine : (coordinator.next limits (.disconnect index)).engine =
          (leave coordinator.engine session).1 := by simp only [Coordinator.next, taken]
      rw [engine, List.all_eq_true]
      constructor
      · intro met
        refine ⟨fun other member ended identity registered => ?_, ?_⟩
        · rw [Bool.eq_false_iff, ne_eq, retains_leave]
          rintro ⟨retains, -⟩
          rw [fenced other member ended identity registered] at retains
          exact absurd retains Bool.false_ne_true
        · rintro _ left - again identity registered
          obtain rfl := Option.some.inj (taken.symm.trans again)
          rw [Bool.eq_false_iff, ne_eq, retains_leave]
          rintro ⟨retains, kept⟩
          have here := met identity registered
          simp only [retains, Bool.not_true, Bool.false_or, Bool.and_eq_true,
            decide_eq_true_eq] at here
          exact kept ⟨here.1.1, here.1.2, here.2⟩
      · rintro ⟨-, last⟩ identity registered
        have gone := last index session rfl taken identity registered
        rw [Bool.eq_false_iff, ne_eq, retains_leave, not_and_not_right] at gone
        cases retains : coordinator.engine.retains identity with
        | false => rfl
        | true => simp [gone retains]
  · next input _ _ other =>
      rw [Coordinator.next_engine, and_iff_left fun index left disconnects taken =>
        (other index left disconnects taken).elim]
      cases coordinator.call input with
      | none => exact iff_of_true rfl fenced
      | some call =>
          dsimp only
          rw [Option.all_some, Option.all_eq_true]
          constructor
          · intro met session member ended identity registered
            rw [Bool.eq_false_iff]
            intro retains
            rcases retains_of_exec sound retains with before | engaged
            · rw [fenced session member ended identity registered] at before
              exact absurd before Bool.false_ne_true
            · have current := met identity engaged
              rw [Bool.not_eq_true', Coordinator.retired_eq_false] at current
              exact current session member ended registered
          · intro gone identity engaged
            rw [Bool.not_eq_true', Coordinator.retired_eq_false]
            intro session member ended registered
            have retains :
                (exec limits call.1 call.2 coordinator.engine).2.retains identity = true :=
              retains_of_engages engaged
            rw [gone session member ended identity registered] at retains
            exact absurd retains Bool.false_ne_true

end Steps

/-- From every state file and for every interleaving, nothing of an ended
session's identities is live in any state of a run exactly if every session ends
with at most its recorded context left to fence, and no frame engages an
identity of an ended session. -/
theorem fenced_throughout_iff {limits : EngineLimits} {file : Option Bytes}
    {history : List (Coordinator × Input)} {final : Coordinator}
    (run : Run (CoordinatorStep limits) (.start file) history final) :
    (∀ taken ∈ history, taken.1.keepsFenced limits taken.2 = true) ↔
      Throughout history final fun _ coordinator => coordinator.Fenced := by
  apply run.forall_iff_throughout (fun coordinator => coordinator.engine.WellAccounted)
    fun coordinator input => coordinator.keepsFenced limits input = true
  · exact Coordinator.wellAccounted_start file
  · intro session member
    exact absurd member List.not_mem_nil
  · exact fun sound taken => sound.coordinatorStep taken
  · intro coordinator input next sound fenced taken
    cases taken with
    | input => exact keepsFenced_iff sound fenced
    | rehash same =>
        refine iff_of_true rfl fun session member ended identity registered => ?_
        rw [same.retains_eq]
        exact fenced session member ended identity registered

/-- A worker registers and declares a flow. -/
private def firstBoot : List Input :=
  [.accept, .frame 0 1 false (.register 1 1), .resume 0,
    .frame 0 1 false (.createDomain (Enumeration.toU8 DomainKind.nicTx)),
    .frame 0 2 false .declareFlow]

/-- The worker restarts after the end of its session was noticed. -/
private def restartAfterEnd : List Input :=
  firstBoot ++ [.disconnect 0, .accept, .frame 1 3 false (.register 1 3), .resume 1]

/-- The worker restarts before the end of its session is noticed. -/
private def restartBeforeEnd : List Input :=
  firstBoot ++ [.accept, .frame 1 3 false (.register 1 2), .resume 1, .disconnect 0]

theorem restartAfterEnd_fenced :
    (follow (Coordinator.next {}) restartAfterEnd (.start none)).sessions.map
        Session.registered = [[(⟨1⟩, ⟨1⟩)], [(⟨1⟩, ⟨3⟩)]] ∧
      Throughout ([] ++ followed (Coordinator.next {}) restartAfterEnd (.start none))
        (follow (Coordinator.next {}) restartAfterEnd (.start none))
        fun _ coordinator => coordinator.Fenced :=
  ⟨by decide +kernel, (fenced_throughout_iff
    (run_follow CoordinatorStep.input restartAfterEnd Run.nil)).mp (by decide +kernel)⟩

private theorem first_ended :
    ((follow (Coordinator.next {}) restartBeforeEnd (.start none)).sessions[0]?).isSome = true := by
  decide +kernel

/-- A newer boot was registered before the end of the old session, whose fence is
then refused: the flow of the dead boot stays DECLARED. -/
theorem restartBeforeEnd_not_fenced :
    ¬∀ (limits : EngineLimits) (file : Option Bytes) (history : List (Coordinator × Input))
      (final : Coordinator), Run (CoordinatorStep limits) (.start file) history final →
        Throughout history final fun _ coordinator => coordinator.Fenced := by
  intro always
  have fenced := (always {} none _ _
    (run_follow CoordinatorStep.input restartBeforeEnd Run.nil)).2
  have gone := fenced _ (List.mem_of_getElem? (Option.some_get first_ended).symm)
    (by decide +kernel) (⟨1⟩, ⟨1⟩) (by decide +kernel)
  exact absurd gone (by decide +kernel)

end CongestionFabric
