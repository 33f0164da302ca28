import CongestionFabric.Engine.Operation
import CongestionFabric.Foundation.Interleave

/-!
Contract: workers that drive different flows do not disturb each other.

Owns the calls a worker drives its flow with, one description of what any of
them does to the engine, and the theorem that two workers on disjoint flows get
the same answers and leave the same engine in every interleaving, whatever the
clock reads.

The domains and the number of slots in use are shared. A start clears a pending
revalidation and a finish gives one slot back; both can be done in any order.
-/

namespace CongestionFabric

open Foundation

variable {R : Type} [Arithmetic R]

/-- The flow that one of a worker's calls on its flow addresses. -/
def Op.drives : Op R → Option FlowId
  | .startFlow ref _ | .flowProgress ref _ _ | .flowComplete ref _ | .flowCancel ref _ _
  | .flowFail ref _ | .revalidateFlow ref _ | .advanceFlowGeneration ref _ => some ref.id
  | _ => none

/-! ## What a call does -/

/-- The effect of a call on the flow it addresses: the verdict, the record it
leaves, whether the flow's domain drops a pending revalidation, and whether a
slot is given back. -/
structure Touch (R : Type) [Arithmetic R] where
  accepted : Bool
  flow : Flow R
  clears : Bool
  releases : Bool

/-- The effect of a body behind the check of the generation. -/
def Touch.guarded (clears releases : Bool) (ref : EntityRef FlowTag)
    (body : Flow R → Bool × Flow R) (flow : Flow R) : Touch R :=
  if flow.ref.generation ≠ ref.generation then ⟨false, flow, false, false⟩
  else ⟨(body flow).1, (body flow).2, (body flow).1 && clears, (body flow).1 && releases⟩

/-- The effect of a worker's call on the record of its flow. -/
def Op.touch (now : UInt64) (op : Op R) (flow : Flow R) : Touch R :=
  match op with
  | .startFlow ref boot => .guarded true false ref (Flow.start now boot) flow
  | .flowProgress ref boot delta => .guarded false false ref (Flow.progress now boot delta) flow
  | .flowComplete ref boot => .guarded false true ref (Flow.complete now boot) flow
  | .flowCancel ref boot soFar => .guarded false true ref (Flow.cancel now boot soFar) flow
  | .flowFail ref boot => .guarded false true ref (Flow.fail now boot) flow
  | .revalidateFlow ref boot => .guarded false false ref (Flow.revalidate boot) flow
  | .advanceFlowGeneration _ next =>
      ⟨(flow.advanceGeneration next).1, (flow.advanceGeneration next).2, false, false⟩
  | _ => ⟨false, flow, false, false⟩

/-- The engine after a call with this effect on the flow. -/
def Impl.touch (state : Impl R) (id : FlowId) (touch : Touch R) : Impl R :=
  { state with
    flows := state.flows.modify id touch.flow
    domains := state.domains.mapValues fun key domain =>
      if touch.clears ∧ key = touch.flow.domain.id then domain.clearRevalidation else domain
    activeFlows := if touch.releases then Impl.freed state.activeFlows else state.activeFlows }

variable {limits : EngineLimits} {now : UInt64} {op : Op R} {state : Impl R} {id : FlowId}

/-- An effect that changes nothing leaves the engine as it is. -/
theorem Impl.touch_self {flow : Flow R} (stored : state.flows.find? id = some flow)
    (accepted : Bool) : state.touch id ⟨accepted, flow, false, false⟩ = state := by
  have flows := UnorderedMap.modify_self stored
  simp [Impl.touch, flows, UnorderedMap.mapValues_same]

/-- A continuation does to the rest of the state what an effect says. -/
private def Settles (id : FlowId) (after : Flow R → Impl R → Impl R) (clears releases : Bool) :
    Prop :=
  ∀ (written : Flow R) (state : Impl R),
    after written { state with flows := state.flows.modify id written } =
      state.touch id ⟨true, written, clears, releases⟩

private theorem settles_nothing (id : FlowId) :
    Settles (R := R) id (fun _ after => after) false false := by
  intro written state
  simp [Impl.touch, UnorderedMap.mapValues_same]

private theorem settles_clearing (id : FlowId) :
    Settles (R := R) id (fun flow after => after.onDomain flow.domain.id
      CongestionDomain.clearRevalidation) true false := by
  intro written state
  dsimp only
  rw [Impl.onDomain_eq]
  simp [Impl.touch]

private theorem settles_releasing (id : FlowId) :
    Settles (R := R) id (fun _ after => after.releaseSlot) false true := by
  intro written state
  simp [Impl.releaseSlot_eq, Impl.touch, UnorderedMap.mapValues_same]

/-- The outcome of a flow operation in terms of its effect. -/
private theorem onFlow_touch {ref : EntityRef FlowTag} {body : Flow R → Bool × Flow R}
    {after : Flow R → Impl R → Impl R} {clears releases : Bool}
    (settles : Settles ref.id after clears releases) :
    (state.onFlow ref body after).map Result.verdict (fun state => state) =
      match state.flows.find? ref.id with
      | none => ((.verdict false, state) : Result R × Impl R)
      | some flow => (.verdict (Touch.guarded clears releases ref body flow).accepted,
          state.touch ref.id (.guarded clears releases ref body flow)) := by
  unfold Impl.onFlow findFlow Touch.guarded
  cases stored : state.flows.find? ref.id with
  | none => rfl
  | some flow =>
      by_cases stale : flow.ref.generation ≠ ref.generation
      · simp only [if_pos stale, Prod.map_apply]
        rw [Impl.touch_self stored]
      · simp only [if_neg stale]
        cases verdict : (body flow).1 with
        | true =>
            rw [if_pos rfl, settles]
            simp [Impl.touch]
        | false => simp [Impl.touch, UnorderedMap.mapValues_same]

/-- Every call of a worker has the effect it describes on the flow it addresses,
and does nothing where there is no such flow. -/
theorem exec_touch (drives : op.drives = some id) :
    exec limits now op state = match state.flows.find? id with
      | none => (.verdict false, state)
      | some flow =>
          (.verdict (op.touch now flow).accepted, state.touch id (op.touch now flow)) := by
  cases op with
  | startFlow ref boot =>
      obtain rfl := Option.some.inj drives
      exact onFlow_touch (settles_clearing ref.id)
  | flowProgress ref boot delta =>
      obtain rfl := Option.some.inj drives
      exact onFlow_touch (settles_nothing ref.id)
  | flowComplete ref boot =>
      obtain rfl := Option.some.inj drives
      exact onFlow_touch (settles_releasing ref.id)
  | flowCancel ref boot soFar =>
      obtain rfl := Option.some.inj drives
      exact onFlow_touch (settles_releasing ref.id)
  | flowFail ref boot =>
      obtain rfl := Option.some.inj drives
      exact onFlow_touch (settles_releasing ref.id)
  | revalidateFlow ref boot =>
      obtain rfl := Option.some.inj drives
      exact onFlow_touch (settles_nothing ref.id)
  | advanceFlowGeneration ref next =>
      obtain rfl := Option.some.inj drives
      simp only [exec, Impl.advanceFlowGeneration]
      cases state.flows.find? ref.id with
      | none => rfl
      | some flow =>
          have unshared := settles_nothing ref.id (flow.advanceGeneration next).2 state
          exact congrArg (Prod.mk _) unshared
  | _ => exact absurd drives (by simp [Op.drives])

/-! ## Independence -/

theorem Impl.find?_touch {other : FlowId} (apart : id ≠ other) {touch : Touch R} :
    (state.touch other touch).flows.find? id = state.flows.find? id := by
  simp [Impl.touch, apart]

/-- Effects on different flows can be applied in either order. -/
theorem Impl.touch_comm {one other : FlowId} (apart : one ≠ other) (first second : Touch R) :
    (state.touch one first).touch other second = (state.touch other second).touch one first := by
  have flows : (state.flows.modify one first.flow).modify other second.flow =
      (state.flows.modify other second.flow).modify one first.flow := by
    apply UnorderedMap.mapValues_comm
    intro key flow
    by_cases here : key = one
    · subst here
      simp [apart]
    · simp [here]
  have domains : ∀ clear erase : CongestionDomainId → Prop,
      ∀ [DecidablePred clear] [DecidablePred erase],
      ((state.domains.mapValues fun key domain =>
        if clear key then domain.clearRevalidation else domain).mapValues fun key domain =>
          if erase key then domain.clearRevalidation else domain) =
      ((state.domains.mapValues fun key domain =>
        if erase key then domain.clearRevalidation else domain).mapValues fun key domain =>
          if clear key then domain.clearRevalidation else domain) := by
    intro clear erase _ _
    apply UnorderedMap.mapValues_comm
    intro key domain
    split_ifs <;> rfl
  have slots : ∀ (free release : Bool) (slots : UInt64),
      (if release then Impl.freed (if free then Impl.freed slots else slots)
        else if free then Impl.freed slots else slots) =
      if free then Impl.freed (if release then Impl.freed slots else slots)
        else if release then Impl.freed slots else slots := by
    intro free release slots
    cases free <;> cases release <;> rfl
  unfold Impl.touch
  dsimp only
  rw [flows, domains, slots]

/-- A call does not see what calls on other flows did. -/
private theorem exec_unseen {one other : Op R} {first second : FlowId}
    (drivesOne : one.drives = some first) (drivesOther : other.drives = some second)
    (apart : first ≠ second) (state : Impl R) :
    (exec limits now other (exec limits now one state).2).1 = (exec limits now other state).1 := by
  rw [exec_touch drivesOther, exec_touch drivesOther, exec_touch drivesOne]
  cases state.flows.find? first with
  | none => rfl
  | some flow =>
      dsimp only
      rw [Impl.find?_touch apart.symm]
      cases state.flows.find? second <;> rfl

/-- Calls on different flows are independent. -/
theorem independent_of_drives {one other : Op R} {first second : FlowId}
    (drivesOne : one.drives = some first) (drivesOther : other.drives = some second)
    (apart : first ≠ second) : Independent (exec limits now) one other where
  answer := exec_unseen drivesOne drivesOther apart
  answered := exec_unseen drivesOther drivesOne apart.symm
  final := by
    intro state
    rw [exec_touch drivesOther, exec_touch drivesOne, exec_touch drivesOne, exec_touch drivesOther]
    cases here : state.flows.find? first with
    | none =>
        cases state.flows.find? second with
        | none => simp [here]
        | some later => simp [here, Impl.find?_touch apart]
    | some flow =>
        cases there : state.flows.find? second with
        | none => simp [here, there, Impl.find?_touch apart.symm]
        | some later =>
            simp only [Impl.find?_touch apart, Impl.find?_touch apart.symm, here, there]
            exact state.touch_comm apart _ _

/-! ## The clock -/

/-- The record with the two times that calls write set to zero. -/
def Flow.timeless (flow : Flow R) : Flow R := { flow with startedMs := 0, lastProgressMs := 0 }

/-- The engine, timestamps of starts and of progress aside. -/
def Impl.timeless (state : Impl R) : Impl R :=
  { state with flows := state.flows.mapValues fun _ flow => flow.timeless }

/-- The outcome of a body, with the times of the record it leaves forgotten. -/
private def forgetTimes (outcome : Bool × Flow R) : Bool × Flow R := (outcome.1, outcome.2.timeless)

/-- At clock zero a body does to the timeless record what it does at any time. -/
private def IgnoresClock (body : UInt64 → Flow R → Bool × Flow R) : Prop :=
  ∀ now flow, body 0 flow.timeless = forgetTimes (body now flow)

/-- A test of a body that comes out alike on both records. -/
private theorem forgetTimes_ite {test other : Prop} [Decidable test] [Decidable other]
    {passed failed timelessPassed timelessFailed : Bool × Flow R} (same : other = test)
    (onPassed : timelessPassed = forgetTimes passed)
    (onFailed : timelessFailed = forgetTimes failed) :
    (if other then timelessPassed else timelessFailed) =
      forgetTimes (if test then passed else failed) := by
  subst same
  split
  · exact onPassed
  · exact onFailed

private theorem start_ignoresClock (boot : WorkerBootId) :
    IgnoresClock (R := R) fun now => Flow.start now boot := by
  intro now flow
  refine forgetTimes_ite rfl rfl (forgetTimes_ite rfl rfl (forgetTimes_ite rfl rfl ?_))
  have added : flow.timeless.inFlightBytes.add flow.timeless.admittedBytes.value =
      flow.inFlightBytes.add flow.admittedBytes.value := rfl
  rw [added]
  cases flow.inFlightBytes.add flow.admittedBytes.value with
  | none => rfl
  | some inFlight => exact forgetTimes_ite rfl rfl rfl

private theorem progress_ignoresClock (boot : WorkerBootId) (delta : UInt64) :
    IgnoresClock (R := R) fun now => Flow.progress now boot delta := by
  intro now flow
  refine forgetTimes_ite rfl rfl (forgetTimes_ite rfl rfl (forgetTimes_ite rfl rfl ?_))
  have added : Checked.add flow.timeless.completedBytes.value delta =
      Checked.add flow.completedBytes.value delta := rfl
  rw [added]
  cases Checked.add flow.completedBytes.value delta with
  | none => rfl
  | some completed =>
      refine forgetTimes_ite rfl rfl ?_
      have left : Checked.sub flow.timeless.inFlightBytes.value
          (min delta flow.timeless.inFlightBytes.value) =
          Checked.sub flow.inFlightBytes.value (min delta flow.inFlightBytes.value) := rfl
      rw [left]
      cases Checked.sub flow.inFlightBytes.value (min delta flow.inFlightBytes.value) <;> rfl

private theorem complete_ignoresClock (boot : WorkerBootId) :
    IgnoresClock (R := R) fun now => Flow.complete now boot := by
  intro now flow
  refine forgetTimes_ite rfl rfl (forgetTimes_ite rfl rfl (forgetTimes_ite rfl rfl ?_))
  have added : flow.timeless.completedBytes.add
        (flow.timeless.admittedBytes.value - flow.timeless.completedBytes.value) =
      flow.completedBytes.add (flow.admittedBytes.value - flow.completedBytes.value) := rfl
  rw [added]
  cases flow.completedBytes.add (flow.admittedBytes.value - flow.completedBytes.value) with
  | none => rfl
  | some completed => exact forgetTimes_ite rfl rfl rfl

private theorem cancel_ignoresClock (boot : WorkerBootId) (soFar : UInt64) :
    IgnoresClock (R := R) fun now => Flow.cancel now boot soFar := by
  intro now flow
  refine forgetTimes_ite rfl rfl (forgetTimes_ite rfl rfl (forgetTimes_ite rfl rfl ?_))
  have added : flow.timeless.cancelledBytes.add
        (min soFar (flow.timeless.admittedBytes.value - flow.timeless.completedBytes.value)) =
      flow.cancelledBytes.add
        (min soFar (flow.admittedBytes.value - flow.completedBytes.value)) := rfl
  dsimp only
  rw [added]
  cases flow.cancelledBytes.add
      (min soFar (flow.admittedBytes.value - flow.completedBytes.value)) with
  | none => rfl
  | some cancelled => exact forgetTimes_ite rfl rfl rfl

private theorem fail_ignoresClock (boot : WorkerBootId) :
    IgnoresClock (R := R) fun now => Flow.fail now boot := by
  intro now flow
  refine forgetTimes_ite rfl rfl (forgetTimes_ite rfl rfl ?_)
  have added : flow.timeless.failedBytes.add
        (flow.timeless.admittedBytes.value - flow.timeless.completedBytes.value) =
      flow.failedBytes.add (flow.admittedBytes.value - flow.completedBytes.value) := rfl
  rw [added]
  cases flow.failedBytes.add (flow.admittedBytes.value - flow.completedBytes.value) <;> rfl

private theorem revalidate_ignoresClock (boot : WorkerBootId) :
    IgnoresClock (R := R) fun _ => Flow.revalidate boot := by
  intro now flow
  exact forgetTimes_ite rfl rfl (forgetTimes_ite rfl rfl rfl)

private theorem advanceGeneration_ignoresClock (next : FlowGeneration) :
    IgnoresClock (R := R) fun _ => Flow.advanceGeneration next := by
  intro now flow
  exact forgetTimes_ite rfl rfl rfl

/-- The effect on the timeless record at clock zero is the timeless effect. -/
theorem Op.touch_timeless (now : UInt64) (op : Op R) (flow : Flow R) :
    op.touch 0 flow.timeless =
      { op.touch now flow with flow := (op.touch now flow).flow.timeless } := by
  have guarded : ∀ {clears releases : Bool} {ref : EntityRef FlowTag}
      {body : UInt64 → Flow R → Bool × Flow R}, IgnoresClock body →
      Touch.guarded clears releases ref (body 0) flow.timeless =
        { Touch.guarded clears releases ref (body now) flow with
          flow := (Touch.guarded clears releases ref (body now) flow).flow.timeless } := by
    intro clears releases ref body ignores
    unfold Touch.guarded
    rw [ignores now flow]
    by_cases stale : flow.ref.generation ≠ ref.generation
    · have outdated : flow.timeless.ref.generation ≠ ref.generation := stale
      rw [if_pos stale, if_pos outdated]
    · have current : ¬flow.timeless.ref.generation ≠ ref.generation := stale
      rw [if_neg stale, if_neg current]
      rfl
  cases op with
  | startFlow ref boot => exact guarded (start_ignoresClock boot)
  | flowProgress ref boot delta => exact guarded (progress_ignoresClock boot delta)
  | flowComplete ref boot => exact guarded (complete_ignoresClock boot)
  | flowCancel ref boot soFar => exact guarded (cancel_ignoresClock boot soFar)
  | flowFail ref boot => exact guarded (fail_ignoresClock boot)
  | revalidateFlow ref boot => exact guarded (revalidate_ignoresClock boot)
  | advanceFlowGeneration ref next =>
      have same : Flow.advanceGeneration next flow.timeless =
          forgetTimes (flow.advanceGeneration next) := advanceGeneration_ignoresClock next now flow
      simp only [Op.touch, same]
      rfl
  | _ => rfl

private theorem timeless_touch (touch : Touch R) :
    (state.touch id touch).timeless =
      state.timeless.touch id { touch with flow := touch.flow.timeless } := by
  have flows : ((state.flows.modify id touch.flow).mapValues fun _ flow => flow.timeless) =
      (state.flows.mapValues fun _ flow => flow.timeless).modify id touch.flow.timeless := by
    unfold UnorderedMap.modify
    rw [UnorderedMap.mapValues_mapValues, UnorderedMap.mapValues_mapValues]
    congr 1
    funext key flow
    split_ifs <;> rfl
  unfold Impl.timeless Impl.touch
  dsimp only
  rw [flows]
  rfl

/-- Neither the answers nor the timeless engine depend on the clock. -/
theorem exec_timeless (drives : op.drives = some id) (now : UInt64) (state : Impl R) :
    (exec limits now op state).1 = (exec limits 0 op state.timeless).1 ∧
      (exec limits now op state).2.timeless = (exec limits 0 op state.timeless).2 := by
  have found : state.timeless.flows.find? id = (state.flows.find? id).map Flow.timeless :=
    UnorderedMap.find?_mapValues ..
  rw [exec_touch drives, exec_touch drives, found]
  cases state.flows.find? id with
  | none => exact ⟨rfl, rfl⟩
  | some flow =>
      dsimp only [Option.map_some]
      rw [op.touch_timeless now flow, timeless_touch]
      exact ⟨rfl, rfl⟩

/-! ## Two workers -/

/-- Both sequences in one order, each call at some reading of the clock. -/
def Interleaves (left right : List (Op R)) (merged : List ((UInt64 × Op R) ⊕ (UInt64 × Op R))) :
    Prop :=
  (lefts merged).map Prod.snd = left ∧ (rights merged).map Prod.snd = right

/-- The engine that answers the calls of two workers in one order. -/
def execBoth (limits : EngineLimits) :
    List ((UInt64 × Op R) ⊕ (UInt64 × Op R)) → Impl R → List (Result R ⊕ Result R) × Impl R :=
  callAll (sided fun call => exec limits call.1 call.2)

/-- An interleaving answers each worker as if it were alone at clock zero, and
leaves the timeless engine that the two of them leave one after the other. -/
private theorem execBoth_eq {left right : List (Op R)}
    {merged : List ((UInt64 × Op R) ⊕ (UInt64 × Op R))}
    (driving : ∀ op ∈ left ++ right, op.drives.isSome = true)
    (disjoint : ∀ one ∈ left, ∀ other ∈ right, one.drives ≠ other.drives)
    (interleaves : Interleaves left right merged) (state : Impl R) :
    lefts (execBoth limits merged state).1 = (callAll (exec limits 0) left state.timeless).1 ∧
      rights (execBoth limits merged state).1 = (callAll (exec limits 0) right state.timeless).1 ∧
      (execBoth limits merged state).2.timeless = (callAll (exec limits 0) right
        (callAll (exec limits 0) left state.timeless).2).2 := by
  obtain ⟨rfl, rfl⟩ := interleaves
  have clocked : ∀ call, call ∈ lefts merged ∨ call ∈ rights merged → ∀ state,
      (exec limits call.1 call.2 state).1 = (exec limits 0 call.2 state.timeless).1 ∧
        (exec limits call.1 call.2 state).2.timeless = (exec limits 0 call.2 state.timeless).2 := by
    intro call member state
    have driven : call.2.drives.isSome = true := by
      apply driving
      rw [List.mem_append]
      exact member.imp (List.mem_map_of_mem) (List.mem_map_of_mem)
    obtain ⟨id, drives⟩ := Option.isSome_iff_exists.mp driven
    exact exec_timeless drives call.1 state
  obtain ⟨answers, final⟩ := callAll_sided_view
    (fun call member state => (clocked call member state).1)
    (fun call member state => (clocked call member state).2) state
  have apart : ∀ one ∈ (lefts merged).map Prod.snd, ∀ other ∈ (rights merged).map Prod.snd,
      Independent (exec limits 0) one other := by
    intro one memberOne other memberOther
    obtain ⟨first, drivesOne⟩ := Option.isSome_iff_exists.mp
      (driving one (List.mem_append_left _ memberOne))
    obtain ⟨second, drivesOther⟩ := Option.isSome_iff_exists.mp
      (driving other (List.mem_append_right _ memberOther))
    have differ := disjoint one memberOne other memberOther
    rw [drivesOne, drivesOther] at differ
    exact independent_of_drives drivesOne drivesOther fun same => differ (congrArg some same)
  rw [← lefts_map, ← rights_map] at apart ⊢
  unfold execBoth
  rw [answers, final]
  exact callAll_interleaved _ apart state.timeless

/-- Two workers that drive disjoint flows get, from any engine, the same answers
in every interleaving of their calls, and the engine ends in the same state,
timestamps aside. -/
theorem interleavings_agree {left right : List (Op R)}
    {first second : List ((UInt64 × Op R) ⊕ (UInt64 × Op R))}
    (driving : ∀ op ∈ left ++ right, op.drives.isSome = true)
    (disjoint : ∀ one ∈ left, ∀ other ∈ right, one.drives ≠ other.drives)
    (one : Interleaves left right first) (other : Interleaves left right second)
    (state : Impl R) :
    lefts (execBoth limits first state).1 = lefts (execBoth limits second state).1 ∧
      rights (execBoth limits first state).1 = rights (execBoth limits second state).1 ∧
      (execBoth limits first state).2.timeless = (execBoth limits second state).2.timeless := by
  obtain ⟨firstLeft, firstRight, firstFinal⟩ := execBoth_eq driving disjoint one state
  obtain ⟨secondLeft, secondRight, secondFinal⟩ := execBoth_eq driving disjoint other state
  exact ⟨firstLeft.trans secondLeft.symm, firstRight.trans secondRight.symm,
    firstFinal.trans secondFinal.symm⟩

private def pairOptions (worker : UInt64) : FlowOptions Binary64 :=
  { FlowOptions.ofFirst 100 with ownerWorker := ⟨worker⟩ }

/-- Two workers have one admitted flow each, in one domain. -/
private def pairedEngine : Impl Binary64 :=
  execAll {} [(1, .registerWorker ⟨1⟩ ⟨1⟩), (1, .registerWorker ⟨2⟩ ⟨1⟩),
    (1, .registerSource ⟨1⟩ ⟨1⟩), (1, .createDomain DomainKind.nicTx {}),
    (1, .declareFlow (pairOptions 1)), (1, .declareFlow (pairOptions 2)),
    (2, .admitFlow ⟨⟨1⟩, ⟨1⟩⟩), (2, .admitFlow ⟨⟨2⟩, ⟨1⟩⟩)] Impl.fresh

private def completesFirst : List (Op Binary64) :=
  [.startFlow ⟨⟨1⟩, ⟨1⟩⟩ ⟨1⟩, .flowComplete ⟨⟨1⟩, ⟨1⟩⟩ ⟨1⟩]

private def cancelsSecond : List (Op Binary64) :=
  [.startFlow ⟨⟨2⟩, ⟨1⟩⟩ ⟨1⟩, .flowCancel ⟨⟨2⟩, ⟨1⟩⟩ ⟨1⟩ 40]

private def oneAfterOther : List ((UInt64 × Op Binary64) ⊕ (UInt64 × Op Binary64)) :=
  [.inl (3, .startFlow ⟨⟨1⟩, ⟨1⟩⟩ ⟨1⟩), .inl (4, .flowComplete ⟨⟨1⟩, ⟨1⟩⟩ ⟨1⟩),
    .inr (5, .startFlow ⟨⟨2⟩, ⟨1⟩⟩ ⟨1⟩), .inr (6, .flowCancel ⟨⟨2⟩, ⟨1⟩⟩ ⟨1⟩ 40)]

private def inTurn : List ((UInt64 × Op Binary64) ⊕ (UInt64 × Op Binary64)) :=
  [.inr (3, .startFlow ⟨⟨2⟩, ⟨1⟩⟩ ⟨1⟩), .inl (4, .startFlow ⟨⟨1⟩, ⟨1⟩⟩ ⟨1⟩),
    .inr (5, .flowCancel ⟨⟨2⟩, ⟨1⟩⟩ ⟨1⟩ 40), .inl (6, .flowComplete ⟨⟨1⟩, ⟨1⟩⟩ ⟨1⟩)]

theorem pairedEngine_interleavings_agree :
    (execBoth {} inTurn pairedEngine).2.activeFlows = 0 ∧
      lefts (execBoth {} oneAfterOther pairedEngine).1 =
        lefts (execBoth {} inTurn pairedEngine).1 ∧
      rights (execBoth {} oneAfterOther pairedEngine).1 =
        rights (execBoth {} inTurn pairedEngine).1 ∧
      (execBoth {} oneAfterOther pairedEngine).2.timeless =
        (execBoth {} inTurn pairedEngine).2.timeless := by
  have driving : ∀ op ∈ completesFirst ++ cancelsSecond, op.drives.isSome = true := by
    simp [completesFirst, cancelsSecond, Op.drives]
  have disjoint : ∀ one ∈ completesFirst, ∀ other ∈ cancelsSecond, one.drives ≠ other.drives := by
    simp [completesFirst, cancelsSecond, Op.drives]
  exact ⟨by decide +kernel, interleavings_agree driving disjoint ⟨rfl, rfl⟩ ⟨rfl, rfl⟩ pairedEngine⟩

end CongestionFabric
