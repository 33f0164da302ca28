import CongestionFabric.Engine.Shares
import CongestionFabric.Persistence.Bound

/-!
Contract: fairness reports of the engines that calls and loads reach.

Owns the engines that calls and loads reach in any arithmetic, and the theorem that the
reports of every reached engine give out exactly what there is, to distinct flows.

Does not own: the files between a save and a load. They hold binary64 words, for
which a load is proved to leave what is said here.
-/

namespace CongestionFabric

open Foundation

/-! ## Restarts in any arithmetic -/

section Restarts

variable {R : Type} [Arithmetic R]

/-- The engines that calls and such loads reach from a fresh one. -/
def RestartableIn : Impl R → Prop :=
  Restarted (fun state (taken : EngineLimits × Label R) next =>
    Step taken.1 state taken.2 next) (fun saved state next => next = state.restoredFrom saved)
    Impl.fresh

theorem Restartable.restartableIn {state : Impl Binary64} (reached : Restartable state) :
    RestartableIn state := by
  unfold Restartable at reached
  induction reached with
  | start => exact .start
  | step _ taken inductionHypothesis => exact .step inductionHypothesis taken
  | restore _ _ restored savedHypothesis stateHypothesis =>
      exact .restore savedHypothesis stateHypothesis restored.eq

end Restarts

/-! ## Reached engines -/

/-- What the report of a domain rests on. -/
structure Impl.Reportable (state : Impl Exact) : Prop where
  keyed : state.FlowsKeyed
  binds : state.Binds fun _ => True
  finite : state.RatesFinite

section Reached

variable {limits : EngineLimits} {label : Label Exact} {state saved next : Impl Exact}

theorem Impl.reportable_fresh : (Impl.fresh : Impl Exact).Reportable where
  keyed := Impl.flowsKeyed_fresh
  binds := Impl.binds_fresh
  finite := Impl.ratesFinite_fresh

theorem Impl.Reportable.step (reportable : state.Reportable)
    (taken : Step limits state label next) : next.Reportable where
  keyed := reportable.keyed.step taken
  binds := reportable.binds.step (fun _ => trivial) (fun _ _ => trivial) taken
  finite := reportable.finite.step (.engine taken)

/-- A file keeps the keys, the lists and the rates. -/
theorem Impl.Reportable.restoredFrom (reportable : saved.Reportable) (state : Impl Exact) :
    (state.restoredFrom saved).Reportable := by
  have recovered : saved.recoverDynamicEvidence.Reportable :=
    reportable.step (.call saved 0 .recoverDynamicEvidence : Step {} _ _ _)
  constructor
  case keyed => exact recovered.keyed
  case binds =>
    refine ⟨recovered.binds.sound, ?_, ?_⟩
    · intro id after stored
      obtain ⟨domain, found, rfl⟩ := Impl.restoredFrom_domain_iff.mp stored
      exact recovered.binds.distinct id domain found
    · intro id after stored
      obtain ⟨domain, found, rfl⟩ := Impl.restoredFrom_domain_iff.mp stored
      exact recovered.binds.listed id domain found
  case finite =>
    intro id after stored
    obtain ⟨domain, found, rfl⟩ := Impl.restoredFrom_domain_iff.mp stored
    exact recovered.finite id domain found

theorem RestartableIn.reportable (reached : RestartableIn state) : state.Reportable :=
  reached.invariant Impl.Reportable Impl.reportable_fresh
    (fun reportable taken => reportable.step taken)
    (fun {_ state _} reportable _ restored => restored ▸ reportable.restoredFrom state)

/-- In every engine that calls and loads of saved files reach, the report of a domain
with participants, as many as a `std::size_t` counts and with completed bytes that
fit into 64 bits, gives out exactly what the domain services and, evenly or by weight,
its effective capacity, to distinct flows that can still go on. No operation sets the
fairness of a domain, so the same is said for every one it could have. -/
theorem fairness_conserves (reached : RestartableIn state) {id : CongestionDomainId}
    {domain : CongestionDomain Exact} (stored : state.domains.find? id = some domain)
    (participates : liveFlows domain state.flows ≠ [])
    (sized : (liveFlows domain state.flows).length < 2 ^ 64)
    (fit : totalBytes Flow.completedBytes (liveFlows domain state.flows) < 2 ^ 64) :
    (state.evaluateFairness id).Conserves domain state.flows ∧
      ∀ fairness, ((state.withFairness id fairness).evaluateFairness id).Conserves domain
        state.flows :=
  have reportable := reached.reportable
  Impl.evaluateFairness_conserves reportable.keyed reportable.binds stored
    (reportable.finite id domain stored) participates sized fit

end Reached

/-- Two flows, of weights 3 and 1, complete 30 and 10 bytes; the domain services 80. -/
private def serves : List (UInt64 × Op Exact) :=
  [(1, .registerWorker ⟨1⟩ ⟨1⟩), (1, .registerSource ⟨1⟩ ⟨1⟩),
    (1, .createDomain DomainKind.nicTx (.ofTheoretical 100.0)),
    (2, .declareFlow { FlowOptions.ofFirst 100 with fairness := { weight := 3.0 } }),
    (2, .declareFlow (.ofFirst 100)),
    (3, .admitFlow ⟨⟨1⟩, ⟨1⟩⟩), (3, .admitFlow ⟨⟨2⟩, ⟨1⟩⟩),
    (4, .startFlow ⟨⟨1⟩, ⟨1⟩⟩ ⟨1⟩), (4, .startFlow ⟨⟨2⟩, ⟨1⟩⟩ ⟨1⟩),
    (5, .flowProgress ⟨⟨1⟩, ⟨1⟩⟩ ⟨1⟩ 30), (5, .flowProgress ⟨⟨2⟩, ⟨1⟩⟩ ⟨1⟩ 10),
    (6, .publishMeasurement ⟨1⟩
      { kind := MeasurementKind.completedBytesPerSec, value := 80.0 } {} {})]

private theorem restartableIn_execAll (calls : List (UInt64 × Op Exact)) :
    ∀ {state : Impl Exact}, RestartableIn state → RestartableIn (execAll {} calls state) := by
  induction calls with
  | nil => exact fun reached => reached
  | cons head tail inductionHypothesis =>
      intro state reached
      have taken : Step ((({} : EngineLimits), .call head.1 head.2) :
          EngineLimits × Label Exact).1 state
          ((({} : EngineLimits), .call head.1 head.2) : EngineLimits × Label Exact).2
          (exec {} head.1 head.2 state).2 :=
        .call state head.1 head.2
      exact inductionHypothesis (.step reached taken)

/-- The engine that loads the file of that one and revalidates both flows. -/
private def servesAfterRestart : Impl Exact :=
  execAll {} [(7, .revalidateFlow ⟨⟨1⟩, ⟨1⟩⟩ ⟨1⟩), (7, .revalidateFlow ⟨⟨2⟩, ⟨1⟩⟩ ⟨1⟩)]
    (Impl.fresh.restoredFrom (execAll {} serves Impl.fresh))

private theorem restartableIn_servesAfterRestart : RestartableIn servesAfterRestart :=
  restartableIn_execAll _ (.restore (restartableIn_execAll serves .start) .start rfl)

private theorem servesAfterRestart_stored :
    (servesAfterRestart.domains.find? ⟨1⟩).isSome = true := by
  decide +kernel

/-- The observed shares are 60 and 20 of 80, and by weight the targets are 75 and 25 of
the capacity of 100. -/
theorem servesAfterRestart_conserves :
    ((servesAfterRestart.withFairness ⟨1⟩
        { model := FairnessModel.weightedShare }).evaluateFairness ⟨1⟩).shares.map
        (fun share => (share.flow, share.targetShareBps, share.observedShareBps)) =
        [(⟨1⟩, .number 75, .number 60), (⟨2⟩, .number 25, .number 20)] ∧
      ∃ domain, servesAfterRestart.domains.find? ⟨1⟩ = some domain ∧
        (servesAfterRestart.evaluateFairness ⟨1⟩).Conserves domain servesAfterRestart.flows ∧
        ∀ fairness, ((servesAfterRestart.withFairness ⟨1⟩ fairness).evaluateFairness
          ⟨1⟩).Conserves domain servesAfterRestart.flows := by
  let domain := (servesAfterRestart.domains.find? ⟨1⟩).get servesAfterRestart_stored
  have stored : servesAfterRestart.domains.find? ⟨1⟩ = some domain :=
    (Option.some_get servesAfterRestart_stored).symm
  obtain ⟨shares, participates, sized, fit⟩ :
      ((servesAfterRestart.withFairness ⟨1⟩
        { model := FairnessModel.weightedShare }).evaluateFairness ⟨1⟩).shares.map
        (fun share => (share.flow, share.targetShareBps, share.observedShareBps)) =
        [(⟨1⟩, .number 75, .number 60), (⟨2⟩, .number 25, .number 20)] ∧
      0 < (liveFlows domain servesAfterRestart.flows).length ∧
      (liveFlows domain servesAfterRestart.flows).length < 2 ^ 64 ∧
      totalBytes Flow.completedBytes (liveFlows domain servesAfterRestart.flows) < 2 ^ 64 := by
    decide +kernel
  exact ⟨shares, domain, stored, fairness_conserves restartableIn_servesAfterRestart stored
    (List.length_pos_iff.mp participates) sized fit⟩

end CongestionFabric
