import CongestionFabric.Engine.Twins
import CongestionFabric.Persistence.Snapshot

/-!
Contract: the influence of a fenced worker on later assessments.

Owns pairs of runs that are identical except for the values that one boot of a
worker publishes, and the exact condition under which, after a fence of that boot
and with the rates of a domain in other hands, both runs assess the domain alike.

The fence drops the rates that the boot owns. A measurement of any other kind has
no recorded owner and stays; one of these kinds, SERVICE_LATENCY, decides between
the congested states.
-/

namespace CongestionFabric

open Foundation

/-- Two events that are the same, or publish for the boot with different values. A
refused measurement publishes nothing, so both values are valid or neither is. -/
inductive Event.Differs (worker : WorkerId) (boot : WorkerBootId) : Event → Event → Prop
  | same (event : Event) : Differs worker boot event event
  | publish (now : UInt64) (id : CongestionDomainId) (measurement : Measurement Binary64)
      (value : Binary64)
      (published : ({ measurement with value := value } : Measurement Binary64).valid =
        measurement.valid) :
      Differs worker boot
        (.engine (.call now (.publishMeasurement id measurement worker boot)))
        (.engine (.call now (.publishMeasurement id { measurement with value := value }
          worker boot)))

/-- The successors in which a rehash keeps the order. -/
def nextBoth (limits : EngineLimits) (pair : Impl Binary64 × Impl Binary64)
    (events : Event × Event) : Impl Binary64 × Impl Binary64 :=
  (events.1.next limits pair.1, events.2.next limits pair.2)

/-- A step of both runs. Their containers rehash at the same steps and alike. -/
inductive TwinStep (limits : EngineLimits) (worker : WorkerId) (boot : WorkerBootId) :
    Impl Binary64 × Impl Binary64 → Event × Event → Impl Binary64 × Impl Binary64 → Prop
  | both {left right leftNext rightNext : Impl Binary64} {event eventToo : Event}
      (differs : event.Differs worker boot eventToo)
      (leftStep : FileStep limits left event leftNext)
      (rightStep : FileStep limits right eventToo rightNext)
      (order : leftNext.SameOrder rightNext) :
      TwinStep limits worker boot (left, right) (event, eventToo) (leftNext, rightNext)

section Runs

variable {limits : EngineLimits} {worker : WorkerId} {boot : WorkerBootId}
  {left right : Impl Binary64}

/-- The file decides everything that a load changes. -/
private theorem Impl.Twins.load (twins : left.Twins worker boot right) (file : Option Bytes) :
    (left.load file).2.Twins worker boot (right.load file).2 := by
  rw [Impl.load_eq, Impl.load_eq]
  cases file.bind Impl.decode with
  | none => exact twins
  | some persisted =>
      have same : left.commit persisted = right.commit persisted := by
        unfold Impl.commit
        rw [twins.rest]
      dsimp only
      rw [same]
      exact .refl _

/-- Events that differ in such a value keep the relation, where a rehash keeps the
order. -/
private theorem Impl.Twins.next {event eventToo : Event} (valid : worker.isValid = true)
    (twins : left.Twins worker boot right) (differs : event.Differs worker boot eventToo) :
    (event.next limits left).Twins worker boot (eventToo.next limits right) := by
  cases differs with
  | same event =>
      cases event with
      | load file => exact twins.load file
      | engine label =>
          cases label with
          | call now op => exact twins.exec limits now op
          | rehash => exact twins
  | publish now id measurement value published =>
      exact twins.publishMeasurement id measurement value published (Or.inr ⟨valid, rfl, rfl⟩)

/-- Only a rehash leaves a choice. -/
private theorem next_of_fileStep {event : Event} {state next : Impl Binary64}
    (taken : FileStep limits state event next) (called : event ≠ .engine .rehash) :
    next = event.next limits state := by
  cases taken with
  | load file => rfl
  | engine step =>
      cases step with
      | call now op => rfl
      | rehash same => exact absurd rfl called

private theorem Impl.Twins.step {pair next : Impl Binary64 × Impl Binary64}
    {events : Event × Event} (valid : worker.isValid = true)
    (twins : pair.1.Twins worker boot pair.2)
    (taken : TwinStep limits worker boot pair events next) : next.1.Twins worker boot next.2 := by
  cases taken with
  | @both left right leftNext rightNext event eventToo differs leftStep rightStep order =>
      by_cases rehashes : event = .engine .rehash
      · subst rehashes
        cases differs
        cases leftStep with
        | engine leftStep =>
            cases leftStep with
            | rehash leftSame =>
                cases rightStep with
                | engine rightStep =>
                    cases rightStep with
                    | rehash rightSame => exact twins.reorder leftSame rightSame order
      · have called : eventToo ≠ .engine .rehash := by
          cases differs with
          | same => exact rehashes
          | publish => simp
        rw [next_of_fileStep leftStep rehashes, next_of_fileStep rightStep called]
        exact twins.next valid differs

private theorem Impl.Twins.run {pair final : Impl Binary64 × Impl Binary64}
    {history : List ((Impl Binary64 × Impl Binary64) × (Event × Event))}
    (valid : worker.isValid = true) (twins : pair.1.Twins worker boot pair.2)
    (run : Run (TwinStep limits worker boot) pair history final) :
    final.1.Twins worker boot final.2 :=
  run.invariant (fun pair => pair.1.Twins worker boot pair.2) twins
    fun twins taken => twins.step valid taken

/-- Two runs that are identical except for the values published by one boot of a
worker, a fence of that boot that succeeds in both, and any continuation after
which the boot owns no rate of a domain: the two runs assess the domain alike
exactly if the latest SERVICE_LATENCY passes the inflation test in both or in
neither, or the test does not decide. -/
theorem fenced_noninterference_iff
    {start leftFenced rightFenced leftFinal rightFinal : Impl Binary64} {id : CongestionDomainId}
    {prior history : List ((Impl Binary64 × Impl Binary64) × (Event × Event))}
    (before : Run (TwinStep limits worker boot) (start, start) prior (left, right))
    (leftFence : left.fenceWorker worker boot = (true, leftFenced))
    (rightFence : right.fenceWorker worker boot = (true, rightFenced))
    (after : Run (TwinStep limits worker boot) (leftFenced, rightFenced) history
      (leftFinal, rightFinal))
    (others : ∀ domain, leftFinal.domains.find? id = some domain →
      domain.ratedBy (worker, boot) = false) :
    leftFinal.assessCongestion id = rightFinal.assessCongestion id ↔
      leftFinal.slow id = rightFinal.slow id ∨ leftFinal.hangsOnLatency id = false := by
  have valid : worker.isValid = true := by
    unfold Impl.fenceWorker at leftFence
    cases bumped : fenceBoot left.workerBoot worker boot with
    | none => simp [bumped] at leftFence
    | some workerBoot => exact Id.isValid_eq_true.mpr (fenceBoot_eq_some.mp bumped).1
  have reached := Impl.Twins.run valid (.refl start) before
  have fenced : leftFenced.Twins worker boot rightFenced := by
    have kept := reached.exec limits 0 (.fenceWorker worker boot)
    change (left.fenceWorker worker boot).2.Twins worker boot
      (right.fenceWorker worker boot).2 at kept
    rw [leftFence, rightFence] at kept
    exact kept
  exact (Impl.Twins.run valid fenced after).assessCongestion_eq_iff others

/-- Lists of events that differ pairwise are twin runs. -/
private theorem run_both {start pair : Impl Binary64 × Impl Binary64}
    (events : List (Event × Event)) (valid : worker.isValid = true)
    (differ : ∀ both ∈ events, both.1.Differs worker boot both.2)
    (twins : pair.1.Twins worker boot pair.2)
    {history : List ((Impl Binary64 × Impl Binary64) × (Event × Event))}
    (run : Run (TwinStep limits worker boot) start history pair) :
    Run (TwinStep limits worker boot) start
      (history ++ followed (nextBoth limits) events pair)
      (follow (nextBoth limits) events pair) := by
  induction events generalizing pair history with
  | nil =>
      rw [followed, List.append_nil]
      exact run
  | cons both rest inductionHypothesis =>
      obtain ⟨here, later⟩ := List.forall_mem_cons.mp differ
      have kept : (nextBoth limits pair both).1.Twins worker boot (nextBoth limits pair both).2 :=
        twins.next valid here
      have longer := inductionHypothesis later kept (run.snoc
        (.both here (fileStep_next limits _ _) (fileStep_next limits _ _) kept.sameOrder))
      rw [List.append_assoc] at longer
      exact longer

end Runs

private def backlogOptions : FlowOptions Binary64 :=
  { FlowOptions.ofFirst 100 with ownerWorker := ⟨2⟩ }

/-- Two workers, and a queued flow of the second. -/
private def backlog : List Event :=
  [.engine (.call 1 (.registerWorker ⟨1⟩ ⟨1⟩)), .engine (.call 1 (.registerWorker ⟨2⟩ ⟨1⟩)),
    .engine (.call 1 (.registerSource ⟨1⟩ ⟨1⟩)),
    .engine (.call 1 (.createDomain DomainKind.nicTx (.ofTheoretical 1000.0))),
    .engine (.call 2 (.declareFlow backlogOptions)), .engine (.call 3 (.admitFlow ⟨⟨1⟩, ⟨1⟩⟩)),
    .engine (.call 4 (.queueFlow ⟨⟨1⟩, ⟨1⟩⟩))]

/-- The first worker publishes for the domain of the flow. -/
private def publishByFirst (kind : MeasurementKind) (value : Binary64) : Event :=
  .engine (.call 5 (.publishMeasurement ⟨1⟩ { kind := kind, value := value } ⟨1⟩ ⟨1⟩))

private def throughLatency (latency latencyToo : Binary64) : List (Event × Event) :=
  backlog.map (fun event => (event, event)) ++
    [(publishByFirst .offeredBytesPerSec 900.0, publishByFirst .offeredBytesPerSec 100.0),
      (publishByFirst .serviceLatency latency, publishByFirst .serviceLatency latencyToo)]

private def publishBySecond (kind : MeasurementKind) (value : Binary64) : Event :=
  .engine (.call 7 (.publishMeasurement ⟨1⟩ { kind := kind, value := value } ⟨2⟩ ⟨1⟩))

/-- After the fence the second worker publishes both rates. -/
private def republishBySecond : List (Event × Event) :=
  [publishBySecond .offeredBytesPerSec 500.0, publishBySecond .completedBytesPerSec 100.0].map
    fun event => (event, event)

private def beforeFence (latency latencyToo : Binary64) : Impl Binary64 × Impl Binary64 :=
  follow (nextBoth {}) (throughLatency latency latencyToo) (.fresh, .fresh)

private def afterFence (latency latencyToo : Binary64) : Impl Binary64 × Impl Binary64 :=
  (((beforeFence latency latencyToo).1.fenceWorker ⟨1⟩ ⟨1⟩).2,
    ((beforeFence latency latencyToo).2.fenceWorker ⟨1⟩ ⟨1⟩).2)

private def inOtherHands (latency latencyToo : Binary64) : Impl Binary64 × Impl Binary64 :=
  follow (nextBoth {}) republishBySecond (afterFence latency latencyToo)

/-- Both parts are twin runs, whatever the two latencies are. -/
private theorem runs_inOtherHands {latency latencyToo : Binary64}
    (published : ({ kind := MeasurementKind.serviceLatency, value := latencyToo } :
      Measurement Binary64).valid = ({ kind := MeasurementKind.serviceLatency, value := latency } :
        Measurement Binary64).valid) :
    ∃ prior history, Run (TwinStep {} ⟨1⟩ ⟨1⟩) (.fresh, .fresh) prior
        (beforeFence latency latencyToo) ∧
      Run (TwinStep {} ⟨1⟩ ⟨1⟩) (afterFence latency latencyToo) history
        (inOtherHands latency latencyToo) := by
  have before : Run (TwinStep {} ⟨1⟩ ⟨1⟩) (.fresh, .fresh)
      ([] ++ followed (nextBoth {}) (throughLatency latency latencyToo) (.fresh, .fresh))
      (beforeFence latency latencyToo) := by
    refine run_both (throughLatency latency latencyToo) rfl (fun both member => ?_) (.refl _)
      Run.nil
    rcases List.mem_append.mp member with same | differs
    · obtain ⟨event, -, rfl⟩ := List.mem_map.mp same
      exact .same event
    · rcases List.mem_cons.mp differs with rfl | latencies
      · exact .publish 5 ⟨1⟩ { kind := MeasurementKind.offeredBytesPerSec, value := 900.0 } 100.0
          (by decide +kernel)
      · obtain rfl := List.mem_singleton.mp latencies
        exact .publish 5 ⟨1⟩ { kind := MeasurementKind.serviceLatency, value := latency }
          latencyToo published
  have fenced : (afterFence latency latencyToo).1.Twins ⟨1⟩ ⟨1⟩ (afterFence latency latencyToo).2 :=
    (Impl.Twins.run rfl (.refl _) before).exec {} 6 (.fenceWorker ⟨1⟩ ⟨1⟩)
  refine ⟨_, _, before, run_both republishBySecond rfl (fun both member => ?_) fenced Run.nil⟩
  obtain ⟨event, -, rfl⟩ := List.mem_map.mp member
  exact .same event

/-- Both latencies are far beyond the threshold of two inverse capacities. -/
theorem inflatedLatencies_assessed_alike :
    ((inOtherHands 1.0 2.0).1.assessCongestion ⟨1⟩).state = .severelyCongested ∧
      (inOtherHands 1.0 2.0).1.assessCongestion ⟨1⟩ =
        (inOtherHands 1.0 2.0).2.assessCongestion ⟨1⟩ := by
  obtain ⟨_, _, before, after⟩ := runs_inOtherHands (by decide +kernel :
    ({ kind := MeasurementKind.serviceLatency, value := 2.0 } : Measurement Binary64).valid =
      ({ kind := MeasurementKind.serviceLatency, value := 1.0 } : Measurement Binary64).valid)
  have others : ∀ domain, (inOtherHands 1.0 2.0).1.domains.find? ⟨1⟩ = some domain →
      domain.ratedBy (⟨1⟩, ⟨1⟩) = false := by
    have unrated : ((inOtherHands 1.0 2.0).1.domains.find? ⟨1⟩).all (fun domain =>
        !domain.ratedBy (⟨1⟩, ⟨1⟩)) = true := by
      decide +kernel
    intro domain stored
    rw [stored, Option.all_some, Bool.not_eq_true'] at unrated
    exact unrated
  exact ⟨by decide +kernel, (fenced_noninterference_iff before (Prod.ext (by decide +kernel) rfl)
    (Prod.ext (by decide +kernel) rfl) after others).mpr (Or.inl (by decide +kernel))⟩

/-- The runs differ in a latency of the dead worker: after its fence, and with both
rates published by the other worker, one is SEVERELY_CONGESTED and the other
CONGESTED. -/
theorem fencedLatency_interferes :
    ¬∀ (limits : EngineLimits) (worker : WorkerId) (boot : WorkerBootId)
      (prior history : List ((Impl Binary64 × Impl Binary64) × (Event × Event)))
      (left right leftFenced rightFenced leftFinal rightFinal : Impl Binary64)
      (id : CongestionDomainId),
      Run (TwinStep limits worker boot) (.fresh, .fresh) prior (left, right) →
        left.fenceWorker worker boot = (true, leftFenced) →
        right.fenceWorker worker boot = (true, rightFenced) →
        Run (TwinStep limits worker boot) (leftFenced, rightFenced) history
          (leftFinal, rightFinal) →
        (∀ domain, leftFinal.domains.find? id = some domain →
          domain.offeredOwner.isValid = true ∧ domain.servicedOwner.isValid = true ∧
            domain.ratedBy (worker, boot) = false) →
        leftFinal.assessCongestion id = rightFinal.assessCongestion id := by
  intro always
  obtain ⟨_, _, before, after⟩ := runs_inOtherHands (by decide +kernel :
    ({ kind := MeasurementKind.serviceLatency, value := 0.001 } : Measurement Binary64).valid =
      ({ kind := MeasurementKind.serviceLatency, value := 1.0 } : Measurement Binary64).valid)
  have others : ∀ domain, (inOtherHands 1.0 0.001).1.domains.find? ⟨1⟩ = some domain →
      domain.offeredOwner.isValid = true ∧ domain.servicedOwner.isValid = true ∧
        domain.ratedBy (⟨1⟩, ⟨1⟩) = false := by
    have rated : ((inOtherHands 1.0 0.001).1.domains.find? ⟨1⟩).all (fun domain =>
        domain.offeredOwner.isValid && domain.servicedOwner.isValid &&
          !domain.ratedBy (⟨1⟩, ⟨1⟩)) = true := by
      decide +kernel
    intro domain stored
    rw [stored, Option.all_some, Bool.and_eq_true, Bool.and_eq_true, Bool.not_eq_true'] at rated
    exact ⟨rated.1.1, rated.1.2, rated.2⟩
  have same := always {} ⟨1⟩ ⟨1⟩ _ _ _ _ _ _ _ _ ⟨1⟩ before (Prod.ext (by decide +kernel) rfl)
    (Prod.ext (by decide +kernel) rfl) after others
  exact absurd (congrArg CongestionAssessment.state same) (by decide +kernel)

end CongestionFabric
