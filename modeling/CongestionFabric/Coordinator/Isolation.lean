import CongestionFabric.Coordinator.Effect

/-!
Contract: which session may act on a flow over the protocol.

Owns the frames that act on a flow, when such a frame changes the flow it names,
and the exact condition under which it is the owner's session that does so: the
dispatcher compares the boot in the frame with the flow, never the session.

Does not own: frames that fence, queue or revalidate.
-/

namespace CongestionFabric

open Foundation
open Foundation.Reader

/-! ## Frames that act on a flow -/

/-- START, PROGRESS, COMPLETE and CANCEL. -/
def MessageType.actsOnFlow (type : MessageType) : Bool :=
  type = .start || type = .progress || type = .complete || type = .cancel

/-- The flow that the operation of such a frame names. -/
def Op.actsOn : Op Binary64 → Option (EntityRef FlowTag)
  | .startFlow ref _ | .flowProgress ref _ _ | .flowComplete ref _ | .flowCancel ref _ _ => some ref
  | _ => none

/-- The operation changes a flow that it names: the boot is the owner's and the
state is one the operation starts from. A report of no bytes at the time of the
last one leaves the record as it is. -/
def Op.moves (now : UInt64) (flow : Flow Binary64) : Op Binary64 → Bool
  | .startFlow _ boot =>
      flow.ownerBoot = boot && (flow.state = .queued || flow.state = .admitted)
  | .flowProgress _ boot delta =>
      flow.ownerBoot = boot && (flow.state = .queued || flow.state = .active) &&
        decide (flow.completedBytes.value.toNat + delta.toNat ≤ flow.admittedBytes.value.toNat) &&
        !(delta = 0 && flow.lastProgressMs = now)
  | .flowComplete _ boot => flow.ownerBoot = boot && flow.state = .active
  | .flowCancel _ boot _ => flow.ownerBoot = boot && flow.state.live
  | _ => false

section Record

variable {now : UInt64} {flow : Flow Binary64} {op : Op Binary64} {boot : WorkerBootId}

private theorem start_ne_iff (sound : flow.WellAccounted) (ref : EntityRef FlowTag) :
    (flow.start now boot).2 ≠ flow ↔ Op.moves now flow (.startFlow ref boot) = true := by
  rcases sound.start now boot with ⟨refused, same⟩ | ⟨owned, ready, accepted⟩
  · simpa [Op.moves, same] using refused
  · have changed : flow.started now ≠ flow := by
      intro same
      have state : FlowState.active = flow.state := congrArg Flow.state same
      rcases ready with ready | ready <;> simp [ready] at state
    rw [accepted]
    simp [Op.moves, owned, ready, changed]

private theorem complete_ne_iff (sound : flow.WellAccounted) (ref : EntityRef FlowTag) :
    (flow.complete now boot).2 ≠ flow ↔ Op.moves now flow (.flowComplete ref boot) = true := by
  rcases sound.complete now boot with ⟨refused, same⟩ | ⟨owned, active, accepted⟩
  · simpa [Op.moves, same] using refused
  · rw [accepted]
    refine iff_of_true (fun same => ?_) (by simp [Op.moves, owned, active])
    have state : FlowState.completed = flow.state := congrArg Flow.state same
    simp [active] at state

private theorem cancel_ne_iff (sound : flow.WellAccounted) (ref : EntityRef FlowTag)
    (soFar : UInt64) :
    (flow.cancel now boot soFar).2 ≠ flow ↔
      Op.moves now flow (.flowCancel ref boot soFar) = true := by
  rcases sound.cancel now boot soFar with ⟨refused, same⟩ | ⟨owned, live, cancelled, -, accepted⟩
  · simpa [Op.moves, same] using refused
  · rw [accepted]
    refine iff_of_true (fun same => ?_) (by simp [Op.moves, owned, live])
    have state : FlowState.cancelled = flow.state := congrArg Flow.state same
    simp [← state, FlowState.live] at live

private theorem progress_ne_iff (sound : flow.WellAccounted) (ref : EntityRef FlowTag)
    (delta : UInt64) :
    (flow.progress now boot delta).2 ≠ flow ↔
      Op.moves now flow (.flowProgress ref boot delta) = true := by
  rcases sound.progress now boot delta with
    ⟨refused, same⟩ | ⟨rfl, running, completed, inFlight, sum, within, rest, accepted⟩
  · rw [same]
    refine iff_of_false (fun changed => changed rfl) fun moves => refused ?_
    simp only [Op.moves, Bool.and_eq_true, Bool.or_eq_true, decide_eq_true_eq] at moves
    exact ⟨moves.1.1.1, moves.1.1.2, moves.1.2⟩
  · have bound : flow.completedBytes.value.toNat + delta.toNat ≤
        flow.admittedBytes.value.toNat := by omega
    rw [accepted]
    simp only [Op.moves, bound, decide_true, Bool.true_and, Bool.and_true,
      Bool.and_eq_true, Bool.or_eq_true, decide_eq_true_eq, running, true_and, Bool.not_eq_true',
      Bool.and_eq_false_iff, decide_eq_false_iff_not]
    rw [← not_and_or, not_iff_not]
    constructor
    · intro same
      have counted : completed = flow.completedBytes.value :=
        congrArg (fun flow => flow.completedBytes.value) same
      refine ⟨UInt64.toNat_inj.mp ?_, (congrArg Flow.lastProgressMs same).symm⟩
      rw [counted] at sum
      change delta.toNat = 0
      omega
    · rintro ⟨rfl, rfl⟩
      have counted : completed = flow.completedBytes.value := UInt64.toNat_inj.mp sum
      have flying : inFlight = flow.inFlightBytes.value := UInt64.toNat_inj.mp rest
      rw [counted, flying]

/-- Such an operation changes exactly the flow that it names, and only if it
moves it. -/
theorem flowAfter_ne_iff {limits : EngineLimits} {state : Impl Binary64} {id : FlowId}
    {ref : EntityRef FlowTag} (sound : flow.WellAccounted) (acts : op.actsOn = some ref) :
    flowAfter limits now op state id flow ≠ flow ↔
      ref.names id flow ∧ op.moves now flow = true := by
  have branch : ∀ {changed : Flow Binary64} {moves : Prop}, (changed ≠ flow ↔ moves) →
      ((if ref.names id flow then changed else flow) ≠ flow ↔ ref.names id flow ∧ moves) := by
    intro changed moves exactly
    split
    · next named => rw [exactly, and_iff_right named]
    · next unnamed => exact iff_of_false (fun changed => changed rfl) fun both => unnamed both.1
  cases op with
  | startFlow named boot =>
      obtain rfl := Option.some.inj acts
      exact branch (start_ne_iff sound named)
  | flowProgress named boot delta =>
      obtain rfl := Option.some.inj acts
      exact branch (progress_ne_iff sound named delta)
  | flowComplete named boot =>
      obtain rfl := Option.some.inj acts
      exact branch (complete_ne_iff sound named)
  | flowCancel named boot soFar =>
      obtain rfl := Option.some.inj acts
      exact branch (cancel_ne_iff sound named soFar)
  | _ => exact absurd acts (by simp [Op.actsOn])

end Record

/-! ## Requests -/

private theorem ofFrame_of_yields {frame : Frame} {type : MessageType} {post : Request → Prop}
    (typed : frame.type = type.toU8) (reads : Yields (Request.rdBody (some type)) post) :
    Request.ofFrame frame = none ∨ ∃ request, Request.ofFrame frame = some request ∧
      post request := by
  unfold Request.ofFrame
  rw [typed, MessageType.ofU8?_toU8]
  split
  · exact Or.inl rfl
  · next request rest read => exact Or.inr ⟨request, rfl, reads _ _ _ read⟩

/-- A frame that acts on a flow is malformed or asks for one such operation. -/
private theorem ofFrame_actsOnFlow {frame : Frame} {type : MessageType}
    (acts : type.actsOnFlow = true) (typed : frame.type = type.toU8) :
    Request.ofFrame frame = none ∨ ∃ op ref, Request.ofFrame frame = some (.operation op) ∧
      op.actsOn = some ref := by
  have onFlow : Request.ofFrame frame = none ∨ ∃ request, Request.ofFrame frame = some request ∧
      ∃ op ref, request = .operation op ∧ op.actsOn = some ref := by
    apply ofFrame_of_yields typed
    cases type with
    | start => exact .after fun ref => .after fun boot => yields_pure ⟨_, ref, rfl, rfl⟩
    | progress =>
        exact .after fun ref => .after fun boot => .after fun delta =>
          yields_pure ⟨_, ref, rfl, rfl⟩
    | complete => exact .after fun ref => .after fun boot => yields_pure ⟨_, ref, rfl, rfl⟩
    | cancel =>
        exact .after fun ref => .after fun boot => .after fun soFar =>
          yields_pure ⟨_, ref, rfl, rfl⟩
    | _ => exact absurd acts (by decide)
  rcases onFlow with malformed | ⟨_, read, op, ref, rfl, target⟩
  · exact Or.inl malformed
  · exact Or.inr ⟨op, ref, read, target⟩

/-! ## Isolation -/

/-- The identity of the session's last acknowledged registration owns the flow. -/
def Session.owns (session : Session) (flow : Flow Binary64) : Prop :=
  session.registered.getLast? = some (flow.ownerWorker, flow.ownerBoot)

instance (session : Session) (flow : Flow Binary64) : Decidable (session.owns flow) :=
  inferInstanceAs (Decidable (_ = _))

/-- If the frame names a flow and moves it, the session owns the flow. -/
def Session.actsOnOwnFlow (session : Session) (engine : Impl Binary64) (now : UInt64)
    (frame : Frame) : Bool :=
  match Request.ofFrame frame with
  | some (.operation op) =>
      (op.actsOn.bind (findFlow engine.flows)).all fun flow =>
        !op.moves now flow || decide (session.owns flow)
  | _ => true

variable {limits : EngineLimits} {file : Option Bytes} {history : List (Coordinator × Input)}
  {final : Coordinator}

/-- In every state a coordinator reaches, and for every frame that acts on a
flow, only flows of the sending session's identity change exactly if the flow
that the frame names and moves is one of them. -/
theorem isolated_iff (run : Run (CoordinatorStep limits) (.start file) history final)
    {index : Nat} {now : UInt64} {saved : Bool} {frame : Frame} {session : Session}
    {type : MessageType} (acts : type.actsOnFlow = true) (typed : frame.type = type.toU8)
    (taken : final.taker (.frame index now saved frame) = some session) :
    (∀ id flow, final.engine.flows.find? id = some flow →
        (final.next limits (.frame index now saved frame)).engine.flows.find? id ≠ some flow →
        session.owns flow) ↔
      session.actsOnOwnFlow final.engine now frame = true := by
  have sound := run.invariant (fun coordinator => coordinator.engine.WellAccounted)
    (Coordinator.wellAccounted_start file) fun sound step => sound.coordinatorStep step
  rw [Coordinator.next_engine]
  unfold Session.actsOnOwnFlow
  rcases ofFrame_actsOnFlow acts typed with malformed | ⟨op, ref, read, target⟩
  · simp only [Coordinator.call, taken, malformed, Session.firstCall, Option.map_none]
    exact iff_of_true (fun id flow stored changed => absurd stored changed) trivial
  · simp only [Coordinator.call, taken, read, Session.firstCall, Option.map_some, target,
      Option.bind_some]
    constructor
    · intro isolated
      cases named : findFlow final.engine.flows ref with
      | none => rfl
      | some flow =>
          obtain ⟨stored, current⟩ := findFlow_eq_some.mp named
          rw [Option.all_some, Bool.or_eq_true, Bool.not_eq_true', decide_eq_true_eq]
          cases moves : op.moves now flow with
          | false => exact Or.inl rfl
          | true =>
              right
              apply isolated ref.id flow stored
              rw [exec_flow stored]
              intro same
              exact (flowAfter_ne_iff (sound _ flow stored) target).mpr
                ⟨⟨rfl, current⟩, moves⟩ (Option.some.inj same)
    · intro owned id flow stored changed
      rw [exec_flow stored] at changed
      obtain ⟨⟨rfl, current⟩, moves⟩ := (flowAfter_ne_iff (sound _ flow stored) target).mp
        fun same => changed (congrArg some same)
      rw [findFlow_eq_some.mpr ⟨stored, current⟩, Option.all_some, moves] at owned
      simpa using owned

private def startFirst : Frame := .ofType .start [wr64 1, wr64 1, wr64 1].flatten

/-- Worker 1 registers and declares a flow, which is admitted; worker 2 registers
in a second session, with the same boot number. -/
private def twoWorkers : List Input :=
  [.accept, .frame 0 1 false (.register 1 1), .resume 0,
    .frame 0 1 false (.createDomain (Enumeration.toU8 DomainKind.nicTx)),
    .frame 0 1 false .declareFlow, .frame 0 2 false (.ofType .admission [wr64 1, wr64 1].flatten),
    .accept, .frame 1 3 false (.register 2 1), .resume 1]

private def bothRegistered : Coordinator := follow (Coordinator.next {}) twoWorkers (.start none)

private theorem run_bothRegistered : Run (CoordinatorStep {}) (.start none)
    ([] ++ followed (Coordinator.next {}) twoWorkers (.start none)) bothRegistered :=
  run_follow (CoordinatorStep.input) twoWorkers Run.nil

theorem startFirst_isolated :
    ((bothRegistered.next {} (.frame 0 4 false startFirst)).engine.flows.find? ⟨1⟩).map Flow.state =
        some .active ∧
      ∀ id flow, bothRegistered.engine.flows.find? id = some flow →
        (bothRegistered.next {} (.frame 0 4 false startFirst)).engine.flows.find? id ≠ some flow →
        ((bothRegistered.taker (.frame 0 4 false startFirst)).get (by decide +kernel)).owns flow :=
  ⟨by decide +kernel, (isolated_iff run_bothRegistered rfl rfl (Option.some_get _).symm).mpr
    (by decide +kernel)⟩

private theorem first_stored : (bothRegistered.engine.flows.find? ⟨1⟩).isSome = true := by
  decide +kernel

private theorem second_waits :
    (bothRegistered.taker (.frame 1 4 false startFirst)).isSome = true := by
  decide +kernel

/-- Worker 2 starts the flow of worker 1: the boot numbers agree. -/
theorem startFirst_by_second_not_isolated :
    ¬∀ (limits : EngineLimits) (file : Option Bytes) (history : List (Coordinator × Input))
      (final : Coordinator) (index : Nat) (now : UInt64) (saved : Bool) (frame : Frame)
      (session : Session) (type : MessageType),
      Run (CoordinatorStep limits) (.start file) history final → type.actsOnFlow = true →
        frame.type = type.toU8 → final.taker (.frame index now saved frame) = some session →
        ∀ id flow, final.engine.flows.find? id = some flow →
          (final.next limits (.frame index now saved frame)).engine.flows.find? id ≠ some flow →
          session.owns flow := by
  intro always
  have owned := always {} none _ bothRegistered 1 4 false startFirst _ .start run_bothRegistered rfl
    rfl (Option.some_get second_waits).symm ⟨1⟩ _ (Option.some_get first_stored).symm ?_
  · exact absurd owned (by decide +kernel)
  · intro same
    have unchanged := congrArg (Option.map Flow.state) same
    rw [Option.some_get] at unchanged
    exact absurd unchanged (by decide +kernel)

end CongestionFabric
