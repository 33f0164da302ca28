import CongestionFabric.Engine.Neighbours
import CongestionFabric.Persistence.Bound

/-!
Contract: domains do not see each other.

Owns the theorem that two runs of engines which share a domain, with the same
operations on that domain and its flows, answer these operations and every later query
about the domain alike, whatever else is done to either engine.

Does not own: the identifiers and slots that all domains draw from one supply, and a
fence whose flag another domain has set.
-/

namespace CongestionFabric

open Foundation

variable {limits : EngineLimits} {state start final other otherFinal : Impl Binary64}
  {history otherHistory : List (Impl Binary64 × Label Binary64)} {id : CongestionDomainId}
  {mine : FlowId → Bool}

/-- The lists of a reached engine name flows of their domains. -/
private theorem Restartable.houses (reached : Restartable state)
    (tells : ∀ key flow, state.flows.find? key = some flow →
      (mine key = true ↔ flow.domain.id = id)) : state.Houses id mine := by
  have binds := reached.invariant (Impl.Binds fun _ => True) Impl.binds_fresh
    (fun binds taken => binds.step (fun _ => trivial) (fun _ _ => trivial) taken)
    (fun binds _ restored => binds.restores (fun _ => trivial) (fun _ _ => trivial) restored)
  refine ⟨tells, fun domain stored ref inside => ?_⟩
  obtain ⟨flow, found, names, -⟩ := binds.listed id domain stored ref inside
  exact ⟨flow, found, names⟩

/-- What concerns other domains is hidden from the domain, and what concerns it is
answered from what is shared. -/
private theorem unwinds_beside :
    Unwinds (Step (R := Binary64) limits)
      (fun state label => label.apart limits id mine state = true) (Impl.Beside id mine)
      (Label.concerns id mine) (fun state label => (label, label.issued limits state))
      (Label.returned limits) where
  symm := Impl.Beside.symm
  hidden := Impl.Beside.hidden
  together beside apart apartToo visible _ seen taken takenToo :=
    beside.together apart apartToo visible seen taken takenToo

/-- Domains do not see each other. Two engines that calls and loads of saved files reach
share a domain: its record but for the numbers of episodes, its flows, the boots and the
epoch. If the operations that concern the domain are the same in two runs from there, and
are issued the same flow numbers, they are answered alike, and every query about the
domain is answered alike in the end, whatever else happens in either run, as long as no
number of the domain or its flows is issued to another and no fence of a boot reaches the
domain through another domain only. -/
theorem domains_apart (reached : Restartable start) (otherReached : Restartable other)
    (tells : ∀ key flow, start.flows.find? key = some flow →
      (mine key = true ↔ flow.domain.id = id))
    (otherTells : ∀ key flow, other.flows.find? key = some flow →
      (mine key = true ↔ flow.domain.id = id))
    (shared : start.SameOn id mine other) (run : Run (Step limits) start history final)
    (otherRun : Run (Step limits) other otherHistory otherFinal)
    (apart : ∀ taken ∈ history, taken.2.apart limits id mine taken.1 = true)
    (otherApart : ∀ taken ∈ otherHistory, taken.2.apart limits id mine taken.1 = true)
    (same : outputs (fun state label => (label, label.issued limits state))
        (Label.concerns id mine) history =
      outputs (fun state label => (label, label.issued limits state))
        (Label.concerns id mine) otherHistory) :
    outputs (Label.returned limits) (Label.concerns id mine) history =
        outputs (Label.returned limits) (Label.concerns id mine) otherHistory ∧
      ∀ text, final.AnswersAlike text id otherFinal := by
  have beside : start.Beside id mine other :=
    ⟨shared, reached.houses tells, otherReached.houses otherTells⟩
  obtain ⟨still, answers⟩ :=
    unwinds_beside.noninterference run beside otherRun apart otherApart same
  exact ⟨answers, fun text => still.answersAlike text⟩

/-! ## Two tenants -/

/-- Two domains, and a flow in the first. -/
private def twoTenants : Impl Binary64 :=
  execAll {} [(1, .registerWorker ⟨1⟩ ⟨1⟩), (1, .registerSource ⟨1⟩ ⟨1⟩),
    (1, .createDomain DomainKind.nicTx (.ofTheoretical 100.0)),
    (1, .createDomain DomainKind.nicTx (.ofTheoretical 100.0)), (1, .declareFlow (.ofFirst 10))]
    Impl.fresh

/-- The first is found saturated, and gets another flow. -/
private def firstTenant : List (UInt64 × Op Binary64) :=
  [(2, .publishMeasurement ⟨1⟩
      { kind := MeasurementKind.offeredBytesPerSec, value := 130.0 } {} {}),
    (3, .recomputeDomain ⟨1⟩), (4, .admitFlow ⟨⟨1⟩, ⟨1⟩⟩), (4, .declareFlow (.ofFirst 20))]

/-- The same, and the second is found saturated before, gets a flow later, and is removed. -/
private def bothTenants : List (UInt64 × Op Binary64) :=
  [(2, .publishMeasurement ⟨2⟩
      { kind := MeasurementKind.offeredBytesPerSec, value := 500.0 } {} {}),
    (2, .recomputeDomain ⟨2⟩)] ++ firstTenant ++
    [(5, .declareFlow { (FlowOptions.ofFirst 70 : FlowOptions Binary64) with
        domain := ⟨⟨2⟩, ⟨1⟩⟩ }),
      (5, .admitFlow ⟨⟨3⟩, ⟨1⟩⟩), (6, .removeDomain ⟨2⟩)]

private def firstFlows (key : FlowId) : Bool := key.value = 1 || key.value = 2

/-- The first domain's flows are told in the state from which both runs start. -/
private theorem twoTenants_tells (key : FlowId) (flow : Flow Binary64)
    (found : twoTenants.flows.find? key = some flow) :
    firstFlows key = true ↔ flow.domain.id = ⟨1⟩ := by
  have all : ∀ entry ∈ twoTenants.flows.entries,
      firstFlows entry.1 = true ↔ entry.2.domain.id = ⟨1⟩ := by
    decide +kernel
  exact all (key, flow) (UnorderedMap.mem_entries_iff.mpr found)

/-- Both times the new flow of the first domain gets number 2. -/
private theorem tenants_seen :
    outputs (fun state label => (label, label.issued {} state)) (Label.concerns ⟨1⟩ firstFlows)
        (trace {} firstTenant twoTenants) =
      outputs (fun state label => (label, label.issued {} state)) (Label.concerns ⟨1⟩ firstFlows)
        (trace {} bothTenants twoTenants) := by
  have issued : (Label.call 4 (.declareFlow (.ofFirst 20))).issued {}
        (execAll {} (firstTenant.take 3) twoTenants) =
      (Label.call 4 (.declareFlow (.ofFirst 20))).issued {}
        (execAll {} (bothTenants.take 5) twoTenants) := by
    decide +kernel
  exact congrArg (fun last =>
    (firstTenant.take 3).map (fun call => (Label.call call.1 call.2, none)) ++
    [(Label.call 4 (.declareFlow (.ofFirst 20)), last)]) issued

/-- The episodes get other numbers, and nothing else shows. -/
theorem domains_apart_tenants :
    ((execAll {} firstTenant twoTenants).domains.find? ⟨1⟩).map
        (fun domain => domain.currentEpisode.eventId) = some ⟨1⟩ ∧
      ((execAll {} bothTenants twoTenants).domains.find? ⟨1⟩).map
        (fun domain => domain.currentEpisode.eventId) = some ⟨2⟩ ∧
      outputs (Label.returned {}) (Label.concerns ⟨1⟩ firstFlows)
          (trace {} firstTenant twoTenants) =
        outputs (Label.returned {}) (Label.concerns ⟨1⟩ firstFlows)
          (trace {} bothTenants twoTenants) ∧
      ∀ text, (execAll {} firstTenant twoTenants).AnswersAlike text ⟨1⟩
        (execAll {} bothTenants twoTenants) := by
  have reached : Restartable twoTenants := restartable_execAll _ .start
  obtain ⟨first, second, apart, bothApart⟩ :
      ((execAll {} firstTenant twoTenants).domains.find? ⟨1⟩).map
          (fun domain => domain.currentEpisode.eventId) = some ⟨1⟩ ∧
        ((execAll {} bothTenants twoTenants).domains.find? ⟨1⟩).map
          (fun domain => domain.currentEpisode.eventId) = some ⟨2⟩ ∧
        (∀ taken ∈ trace {} firstTenant twoTenants,
          taken.2.apart {} ⟨1⟩ firstFlows taken.1 = true) ∧
        ∀ taken ∈ trace {} bothTenants twoTenants,
          taken.2.apart {} ⟨1⟩ firstFlows taken.1 = true := by
    decide +kernel
  exact ⟨first, second, domains_apart reached reached twoTenants_tells twoTenants_tells (.refl _)
    (run_execAll firstTenant .nil) (run_execAll bothTenants .nil) apart bothApart tenants_seen⟩

end CongestionFabric
