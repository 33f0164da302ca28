import CongestionFabric.Foundation.Restart
import CongestionFabric.Persistence.Atomicity

/-!
Contract: the episode history of engines that restart.

Owns the engines that calls in the order of the clock and loads of saved files reach,
with the numbers of events and domains issued on the way; the invariant of the logs
(numbers in order, issued, and in one log only; entries closed and in order of time);
and the theorem that the history is well formed.

Does not own: what an episode records of the congestion.
-/

namespace CongestionFabric

open Foundation

/-! ## One log -/

section Log

variable {R : Type} [Arithmetic R]

/-- A log at a time, when so many event numbers are issued: its numbers increase and
were issued, its history holds closed episodes of the domain, and its open episode has
begun. -/
structure EpisodeLog.Ordered (clock : UInt64) (events : Nat) (log : EpisodeLog R) : Prop where
  increasing : log.eventIds.Pairwise fun earlier later => earlier.value < later.value
  issued : ∀ event ∈ log.eventIds, event.value ≠ 0 ∧ event.value.toNat ≤ events
  history : ∀ episode ∈ log.history, episode.isOpen = false ∧ episode.domain = log.domain ∧
    episode.generation.isValid = true ∧ episode.startMs ≤ episode.endMs
  current : log.current.isOpen = true → log.current.domain = log.domain ∧
    log.current.generation.isValid = true ∧ log.current.startMs ≤ clock

variable {limits : EngineLimits} {now clock : UInt64} {events : Nat} {state : Impl R}
  {domain : CongestionDomain R} {log : EpisodeLog R}

theorem EpisodeLog.Ordered.mono (ordered : log.Ordered clock events) (forward : clock ≤ now)
    {more : Nat} (grown : events ≤ more) : log.Ordered now more where
  increasing := ordered.increasing
  issued event member :=
    ⟨(ordered.issued event member).1, Nat.le_trans (ordered.issued event member).2 grown⟩
  history := ordered.history
  current isOpen := by
    obtain ⟨own, valid, begun⟩ := ordered.current isOpen
    exact ⟨own, valid, UInt64.le_trans begun forward⟩

theorem EpisodeLog.ordered_empty (clock : UInt64) (events : Nat)
    (ref : EntityRef CongestionDomainTag) :
    (⟨ref, [], {}⟩ : EpisodeLog R).Ordered clock events where
  increasing := List.Pairwise.nil
  issued event member := absurd member (by simp [EpisodeLog.eventIds])
  history episode member := absurd member List.not_mem_nil
  current isOpen := absurd isOpen (by simp)

/-- The numbers of a log without an open episode. -/
private theorem EpisodeLog.eventIds_of_closed (closed : log.current.isOpen = false) :
    log.eventIds = log.history.map CongestionEpisode.eventId := by
  rw [EpisodeLog.eventIds, closed]
  exact List.append_nil _

private theorem EpisodeLog.eventIds_of_open (isOpen : log.current.isOpen = true) :
    log.eventIds = log.history.map CongestionEpisode.eventId ++ [log.current.eventId] := by
  rw [EpisodeLog.eventIds, isOpen]
  rfl

/-- An episode opens under the next number. -/
private theorem EpisodeLog.Ordered.opens (ordered : log.Ordered clock events)
    (closed : log.current.isOpen = false) (now : UInt64) {next : UInt64}
    (counter : next.toNat = events + 1) (peak : CongestionState) :
    ({ log with current := .opened next log.domain now peak } : EpisodeLog R).Ordered now
      (events + 1) := by
  have ids := EpisodeLog.eventIds_of_closed closed
  have below : ∀ event ∈ log.eventIds, event.value < next := by
    intro event member
    rw [UInt64.lt_iff_toNat_lt, counter]
    exact Nat.lt_succ_of_le (ordered.issued event member).2
  have longer : ({ log with current := .opened next log.domain now peak } :
      EpisodeLog R).eventIds = log.eventIds ++ [⟨next⟩] := by
    rw [ids]
    rfl
  refine ⟨?_, ?_, ordered.history, fun _ => ⟨rfl, rfl, UInt64.le_refl now⟩⟩
  · rw [longer, List.pairwise_append]
    refine ⟨ordered.increasing, List.pairwise_singleton _ _, ?_⟩
    intro earlier member later last
    rw [List.mem_singleton.mp last]
    exact below earlier member
  · intro event member
    rw [longer, List.mem_append, List.mem_singleton] at member
    rcases member with earlier | rfl
    · obtain ⟨nonzero, within⟩ := ordered.issued event earlier
      exact ⟨nonzero, Nat.le_succ_of_le within⟩
    · refine ⟨?_, Nat.le_of_eq counter⟩
      intro zero
      change next = 0 at zero
      rw [zero] at counter
      exact absurd counter (by simp)

/-- The open episode moves to the history. -/
private theorem EpisodeLog.Ordered.closes (ordered : log.Ordered clock events)
    (isOpen : log.current.isOpen = true) (forward : clock ≤ now) (limit : Nat)
    (outcome : CongestionState) :
    ({ log with
      history := pushBounded limit log.history (log.current.closed now outcome)
      current := {} } : EpisodeLog R).Ordered now events := by
  have ids := EpisodeLog.eventIds_of_open isOpen
  have fewer : ({ log with
      history := pushBounded limit log.history (log.current.closed now outcome)
      current := {} } : EpisodeLog R).eventIds.Sublist log.eventIds := by
    rw [ids, EpisodeLog.eventIds_of_closed rfl]
    have kept : (pushBounded limit log.history (log.current.closed now outcome)).Sublist
        (log.history ++ [log.current.closed now outcome]) := pushBounded_sublist
    have ids := kept.map CongestionEpisode.eventId
    rw [List.map_append] at ids
    exact ids
  refine ⟨ordered.increasing.sublist fewer, ?_, ?_, fun absent => absurd absent (by simp)⟩
  · exact fun event member => ordered.issued event (fewer.subset member)
  · intro episode member
    rcases mem_of_mem_pushBounded member with earlier | rfl
    · exact ordered.history episode earlier
    · obtain ⟨own, valid, begun⟩ := ordered.current isOpen
      exact ⟨rfl, own, valid, UInt64.le_trans begun forward⟩

/-- A recomputation keeps the log in order. -/
private theorem EpisodeLog.Ordered.recomputed (ordered : domain.log.Ordered clock events)
    (forward : clock ≤ now) (counter : state.nextEvent.toNat = events + 1) (limits : EngineLimits) :
    (state.recomputed limits now domain).2.log.Ordered now
      (events + if (state.assess domain).state.congestedNow && !domain.currentEpisode.isOpen
        then 1 else 0) := by
  rcases state.recomputed_log limits now domain with
    ⟨congested, isOpen, -, log⟩ | ⟨congested, isOpen, -, log⟩ |
    ⟨congested, isOpen, -, log⟩ | ⟨congested, isOpen, -, log⟩
  · rw [log, congested, isOpen]
    exact ordered.opens isOpen now counter _
  · rw [log, congested, isOpen]
    -- The number, the domain and the start of an extended episode stay.
    have same := ordered.mono forward (Nat.le_refl events)
    exact ⟨same.increasing, same.issued, same.history, same.current⟩
  · rw [log, congested]
    exact ordered.closes isOpen forward _ _
  · rw [log, congested]
    exact ordered.mono forward (Nat.le_refl events)

end Log

/-! ## All logs of an engine -/

section Engine

variable {R : Type} [Arithmetic R] {limits : EngineLimits} {now clock : UInt64} {events : Nat}
  {op : Op R} {state next : Impl R}

/-- The logs of an engine are in order, and no number is in two of them. -/
structure Impl.Chronicled (clock : UInt64) (events : Nat) (state : Impl R) : Prop where
  counter : state.nextEvent.toNat = events + 1
  ordered : ∀ id domain, state.domains.find? id = some domain → domain.log.Ordered clock events
  apart : ∀ {event id domain other otherDomain}, state.domains.find? id = some domain →
    state.domains.find? other = some otherDomain → event ∈ domain.log.eventIds →
    event ∈ otherDomain.log.eventIds → id = other

theorem Impl.chronicled_fresh : (Impl.fresh : Impl R).Chronicled 0 0 where
  counter := rfl
  ordered id domain stored := absurd stored (by simp [Impl.fresh])
  apart stored := absurd stored (by simp [Impl.fresh])

/-- An engine with the same logs and a later clock. -/
theorem Impl.Chronicled.transfer (chronicled : state.Chronicled clock events)
    (forward : clock ≤ now) (counter : next.nextEvent = state.nextEvent)
    (origin : ∀ id after, next.domains.find? id = some after →
      ∃ domain, state.domains.find? id = some domain ∧ after.log = domain.log) :
    next.Chronicled now events where
  counter := counter ▸ chronicled.counter
  ordered id after stored := by
    obtain ⟨domain, found, same⟩ := origin id after stored
    rw [same]
    exact (chronicled.ordered id domain found).mono forward (Nat.le_refl events)
  apart := by
    intro event id after other otherAfter stored otherStored member otherMember
    obtain ⟨domain, found, same⟩ := origin id after stored
    obtain ⟨otherDomain, otherFound, otherSame⟩ := origin other otherAfter otherStored
    exact chronicled.apart found otherFound (same ▸ member) (otherSame ▸ otherMember)

private theorem Impl.Chronicled.exec (chronicled : state.Chronicled clock events)
    (forward : clock ≤ now) (limits : EngineLimits) (op : Op R)
    (room : events + op.eventsIssued state < 2 ^ 64 - 1) :
    (exec limits now op state).2.Chronicled now (events + op.eventsIssued state) := by
  have counter := chronicled.counter
  refine ⟨?_, ?_, ?_⟩
  · rw [exec_nextEvent]
    exact toNat_advance counter room
  · intro id after stored
    rcases exec_log_origin stored with ⟨domain, found, -, same⟩ | ⟨domain, found, rfl, log⟩ |
      ⟨-, -, -, -, created⟩
    · rw [same]
      exact (chronicled.ordered id domain found).mono forward (Nat.le_add_right _ _)
    · rw [log]
      have recomputed := (chronicled.ordered id domain found).recomputed forward counter limits
      simpa only [Op.eventsIssued, found, Option.any_some] using recomputed
    · rw [created]
      exact EpisodeLog.ordered_empty _ _ _
  · intro event id after other otherAfter stored otherStored member otherMember
    have old : ∀ {key domain}, state.domains.find? key = some domain →
        event ∈ domain.log.eventIds → event ≠ ⟨state.nextEvent⟩ := by
      rintro key domain found inside rfl
      have issued := ((chronicled.ordered key domain found).issued _ inside).2
      change state.nextEvent.toNat ≤ events at issued
      omega
    rcases exec_eventIds stored member with ⟨domain, found, earlier⟩ | ⟨here, -, new⟩
    · rcases exec_eventIds otherStored otherMember with
        ⟨otherDomain, otherFound, otherEarlier⟩ | ⟨-, -, new⟩
      · exact chronicled.apart found otherFound earlier otherEarlier
      · exact absurd new (old found earlier)
    · rcases exec_eventIds otherStored otherMember with
        ⟨otherDomain, otherFound, otherEarlier⟩ | ⟨there, -, -⟩
      · exact absurd new (old otherFound otherEarlier)
      · exact Op.recomputeDomain.inj (here.symm.trans there)

/-- Every domain has the reference of its key, which is no zero, and the counter
stands at the next number. -/
structure Impl.DomainsNamed (domains : Nat) (state : Impl R) : Prop where
  counter : state.nextDomain.toNat = domains + 1
  named : ∀ id domain, state.domains.find? id = some domain →
    domain.ref.id = id ∧ id.isValid = true

theorem Impl.domainsNamed_fresh : (Impl.fresh : Impl R).DomainsNamed 0 where
  counter := rfl
  named id domain stored := absurd stored (by simp [Impl.fresh])

theorem Impl.DomainsNamed.transfer {domains : Nat} (named : state.DomainsNamed domains)
    (counter : next.nextDomain = state.nextDomain)
    (origin : ∀ id after, next.domains.find? id = some after →
      ∃ domain, state.domains.find? id = some domain ∧ after.log = domain.log) :
    next.DomainsNamed domains where
  counter := counter ▸ named.counter
  named id after stored := by
    obtain ⟨domain, found, same⟩ := origin id after stored
    have ref : after.ref = domain.ref := congrArg EpisodeLog.domain same
    rw [ref]
    exact named.named id domain found

private theorem Impl.DomainsNamed.exec {domains : Nat} (named : state.DomainsNamed domains)
    (limits : EngineLimits) (now : UInt64) (op : Op R)
    (room : domains + op.domainsIssued limits state < 2 ^ 64 - 1) :
    (exec limits now op state).2.DomainsNamed (domains + op.domainsIssued limits state) := by
  refine ⟨?_, ?_⟩
  · rw [(exec_counters limits now op state).1]
    exact toNat_advance named.counter room
  · intro id after stored
    rcases exec_domain_origin stored with ⟨domain, invalidated, found, -, rfl⟩ |
      ⟨kind, capacity, -, -, -, rfl, rfl⟩
    · rw [(domainAfter_sameOrigin ..).ref]
      exact named.named id domain found
    · refine ⟨rfl, Id.isValid_eq_true.mpr fun zero => ?_⟩
      have counter := named.counter
      change state.nextDomain = 0 at zero
      rw [zero] at counter
      exact absurd counter (by simp)

end Engine

/-! ## Engines that restart -/

/-- An engine with the last reading of its clock and the numbers of events and domains
issued to it. -/
structure Chronicle where
  engine : Impl Binary64 := Impl.fresh
  clock : UInt64 := 0
  events : Nat := 0
  domains : Nat := 0

/-- What a call makes of it. -/
def Chronicle.called (limits : EngineLimits) (now : UInt64) (op : Op Binary64)
    (chronicle : Chronicle) : Chronicle where
  engine := (exec limits now op chronicle.engine).2
  clock := now
  events := chronicle.events + op.eventsIssued chronicle.engine
  domains := chronicle.domains + op.domainsIssued limits chronicle.engine

/-- One step of an engine whose clock does not go back. -/
inductive ChronicleStep : Chronicle → Label Binary64 → Chronicle → Prop
  | call (chronicle : Chronicle) (limits : EngineLimits) (now : UInt64) (op : Op Binary64)
      (forward : chronicle.clock ≤ now) :
      ChronicleStep chronicle (.call now op) (chronicle.called limits now op)
  | rehash {chronicle : Chronicle} {engine : Impl Binary64}
      (same : chronicle.engine.Reordered engine) :
      ChronicleStep chronicle .rehash { chronicle with engine := engine }

/-- A load of a saved file, after it was saved. The counters and what they have issued
come with the file. -/
inductive ChronicleRestores (saved target : Chronicle) : Chronicle → Prop
  | load {engine : Impl Binary64} (now : UInt64) (afterSave : saved.clock ≤ now)
      (forward : target.clock ≤ now) (restored : Restores saved.engine target.engine engine) :
      ChronicleRestores saved target { saved with engine := engine, clock := now }

/-- The engines that are reached from fresh ones. -/
def Chronicle.Reached : Chronicle → Prop := Restarted ChronicleStep ChronicleRestores {}

/-- A restored engine has the logs of the saved one. -/
theorem Restores.log_origin {saved target next : Impl Binary64}
    (restored : Restores saved target next) {id : CongestionDomainId}
    {after : CongestionDomain Binary64} (stored : next.domains.find? id = some after) :
    ∃ domain, saved.domains.find? id = some domain ∧ after.log = domain.log := by
  obtain rfl := restored.eq
  obtain ⟨recovered, recoveredStored, rfl⟩ := Impl.restoredFrom_domain_iff.mp stored
  obtain ⟨domain, found, rfl⟩ := UnorderedMap.find?_mapValues_eq_some.mp recoveredStored
  exact ⟨domain, found, domain.requireRevalidation_log⟩

theorem Impl.Reordered.log_origin {state next : Impl Binary64} (same : state.Reordered next)
    {id : CongestionDomainId} {after : CongestionDomain Binary64}
    (stored : next.domains.find? id = some after) :
    ∃ domain, state.domains.find? id = some domain ∧ after.log = domain.log := by
  rw [← same.domains.find?_eq] at stored
  exact ⟨after, stored, rfl⟩

/-- While event numbers last, the logs are in order. -/
theorem Chronicle.Reached.chronicled {chronicle : Chronicle} (reached : chronicle.Reached)
    (fewEvents : chronicle.events < 2 ^ 64 - 1) :
    chronicle.engine.Chronicled chronicle.clock chronicle.events := by
  revert fewEvents
  refine reached.invariant (fun chronicle => chronicle.events < 2 ^ 64 - 1 →
    chronicle.engine.Chronicled chronicle.clock chronicle.events) ?_ ?_ ?_
  · exact fun _ => Impl.chronicled_fresh
  · intro chronicle label next inductionHypothesis taken fewEvents
    cases taken with
    | call limits now op forward =>
        have fewer : chronicle.events < 2 ^ 64 - 1 := Nat.lt_of_le_of_lt (Nat.le_add_right _ _)
          fewEvents
        exact (inductionHypothesis fewer).exec forward limits op fewEvents
    | rehash same =>
        have rest := same.rest
        refine (inductionHypothesis fewEvents).transfer (UInt64.le_refl _) ?_
          fun id after stored => same.log_origin stored
        exact (congrArg Impl.nextEvent rest).symm
  · intro saved target next savedHypothesis _ restored fewEvents
    cases restored with
    | load now afterSave forward restored =>
        refine (savedHypothesis fewEvents).transfer afterSave ?_
          fun id after stored => restored.log_origin stored
        rw [restored.eq]
        rfl

/-- While domain numbers last, every domain has a valid reference. -/
theorem Chronicle.Reached.domainsNamed {chronicle : Chronicle} (reached : chronicle.Reached)
    (fewDomains : chronicle.domains < 2 ^ 64 - 1) :
    chronicle.engine.DomainsNamed chronicle.domains := by
  revert fewDomains
  refine reached.invariant (fun chronicle => chronicle.domains < 2 ^ 64 - 1 →
    chronicle.engine.DomainsNamed chronicle.domains) ?_ ?_ ?_
  · exact fun _ => Impl.domainsNamed_fresh
  · intro chronicle label next inductionHypothesis taken fewDomains
    cases taken with
    | call limits now op forward =>
        have fewer : chronicle.domains < 2 ^ 64 - 1 := Nat.lt_of_le_of_lt (Nat.le_add_right _ _)
          fewDomains
        exact (inductionHypothesis fewer).exec limits now op fewDomains
    | rehash same =>
        have rest := same.rest
        refine (inductionHypothesis fewDomains).transfer ?_
          fun id after stored => same.log_origin stored
        exact (congrArg Impl.nextDomain rest).symm
  · intro saved target next savedHypothesis _ restored fewDomains
    cases restored with
    | load now afterSave forward restored =>
        refine (savedHypothesis fewDomains).transfer ?_
          fun id after stored => restored.log_origin stored
        rw [restored.eq]
        rfl

/-! ## The episode history -/

/-- The episodes of an engine are unambiguous and in order: no number is used twice by
the open episodes and the history entries of all domains, every number is below the
counter, and within a domain the history entries, which are closed and carry the
reference of the domain, come in the order of their numbers and before the open
episode. -/
structure Impl.EpisodesOrdered (state : Impl Binary64) : Prop where
  distinct : (state.domains.entries.flatMap fun entry => entry.2.log.eventIds).Nodup
  issued : ∀ id domain, state.domains.find? id = some domain → ∀ event ∈ domain.log.eventIds,
    event.value ≠ 0 ∧ event.value < state.nextEvent
  increasing : ∀ id domain, state.domains.find? id = some domain →
    domain.episodes.Pairwise (fun earlier later => earlier.eventId.value < later.eventId.value) ∧
      (domain.currentEpisode.isOpen = true → ∀ episode ∈ domain.episodes,
        episode.eventId.value < domain.currentEpisode.eventId.value)
  history : ∀ id domain, state.domains.find? id = some domain → ∀ episode ∈ domain.episodes,
    episode.isOpen = false ∧ episode.domain = domain.ref

/-- Every history entry is valid. -/
def Impl.EpisodesValid (state : Impl Binary64) : Prop :=
  ∀ id domain, state.domains.find? id = some domain → ∀ episode ∈ domain.episodes,
    episode.valid = true

private theorem Impl.Chronicled.episodesOrdered {state : Impl Binary64} {clock : UInt64}
    {events : Nat} (chronicled : state.Chronicled clock events) : state.EpisodesOrdered where
  distinct := by
    refine UnorderedMap.nodup_flatMap_entries (fun id domain stored => ?_) chronicled.apart
    refine (chronicled.ordered id domain stored).increasing.imp fun below same => ?_
    rw [same] at below
    exact UInt64.lt_irrefl _ below
  issued id domain stored event member := by
    obtain ⟨nonzero, within⟩ := (chronicled.ordered id domain stored).issued event member
    refine ⟨nonzero, ?_⟩
    rw [UInt64.lt_iff_toNat_lt, chronicled.counter]
    exact Nat.lt_succ_of_le within
  increasing id domain stored := by
    have increasing := (chronicled.ordered id domain stored).increasing
    unfold EpisodeLog.eventIds at increasing
    obtain ⟨history, -, before⟩ := List.pairwise_append.mp increasing
    have entries := List.pairwise_map.mp history
    refine ⟨entries, fun isOpen episode member => ?_⟩
    refine before episode.eventId (List.mem_map_of_mem member) _ ?_
    have opened : domain.log.current.isOpen = true := isOpen
    rw [opened]
    exact List.mem_singleton_self _
  history id domain stored episode member := by
    obtain ⟨closed, own, -, -⟩ := (chronicled.ordered id domain stored).history episode member
    exact ⟨closed, own⟩

private theorem Impl.Chronicled.episodesValid {state : Impl Binary64} {clock : UInt64}
    {events domains : Nat} (chronicled : state.Chronicled clock events)
    (named : state.DomainsNamed domains) : state.EpisodesValid := by
  intro id domain stored episode member
  have ordered := chronicled.ordered id domain stored
  obtain ⟨closed, own, generation, forward⟩ := ordered.history episode member
  have numbered : episode.eventId.isValid = true := Id.isValid_eq_true.mpr
    (ordered.issued episode.eventId (List.mem_append_left _ (List.mem_map_of_mem member))).1
  have valid : episode.domain.id.isValid = true := by
    obtain ⟨keyed, nonzero⟩ := named.named id domain stored
    rw [own]
    change domain.ref.id.isValid = true
    rw [keyed]
    exact nonzero
  simp [CongestionEpisode.valid, numbered, generation, valid, closed, UInt64.not_lt.mpr forward]

/-- In every engine that calls with a clock that does not go back and loads of saved
files reach while event numbers last: the episodes are unambiguous and in order, and
as long as domain numbers last too, every history entry is valid. -/
theorem episodes_wellFormed {chronicle : Chronicle} (reached : chronicle.Reached)
    (fewEvents : chronicle.events < 2 ^ 64 - 1) :
    chronicle.engine.EpisodesOrdered ∧
      (chronicle.domains < 2 ^ 64 - 1 → chronicle.engine.EpisodesValid) := by
  have chronicled := reached.chronicled fewEvents
  exact ⟨chronicled.episodesOrdered, fun fewDomains =>
    chronicled.episodesValid (reached.domainsNamed fewDomains)⟩

/-! ## An engine that restarts, and one that runs out of domain numbers -/

private def callAll (calls : List (UInt64 × Op Binary64)) (chronicle : Chronicle) : Chronicle :=
  calls.foldl (fun chronicle call => chronicle.called {} call.1 call.2) chronicle

private theorem reached_callAll (calls : List (UInt64 × Op Binary64)) :
    ∀ {chronicle : Chronicle}, chronicle.Reached →
      (chronicle.clock :: calls.map Prod.fst).Pairwise (· ≤ ·) →
        (callAll calls chronicle).Reached := by
  induction calls with
  | nil => exact fun reached _ => reached
  | cons head tail inductionHypothesis =>
      intro chronicle reached forward
      obtain ⟨first, later⟩ := List.pairwise_cons.mp forward
      have called := ChronicleStep.call chronicle {} head.1 head.2 (first head.1 List.mem_cons_self)
      exact inductionHypothesis (Restarted.step reached called) later

/-- A new domain is congested once, and then not. -/
private def congestedOnce (id : CongestionDomainId) : List (UInt64 × Op Binary64) :=
  [(1, .createDomain DomainKind.nicTx (.ofTheoretical 1000.0)),
    (2, .publishMeasurement id
      { kind := MeasurementKind.offeredBytesPerSec, value := 2000.0 } ⟨0⟩ ⟨0⟩),
    (3, .recomputeDomain id),
    (4, .publishMeasurement id
      { kind := MeasurementKind.offeredBytesPerSec, value := 10.0 } ⟨0⟩ ⟨0⟩),
    (5, .recomputeDomain id)]

private def restartedOnce : Chronicle where
  engine := Impl.fresh.commit
    (callAll (congestedOnce ⟨1⟩) {}).engine.recoverDynamicEvidence.persisted
  clock := 6
  events := 1
  domains := 1

theorem restartedOnce_wellFormed :
    (restartedOnce.engine.domains.find? ⟨1⟩).any (fun domain => domain.episodes.length = 1) =
        true ∧ restartedOnce.engine.EpisodesOrdered ∧ restartedOnce.engine.EpisodesValid := by
  have loadable : (callAll (congestedOnce ⟨1⟩) {}).engine.Loadable := by decide +kernel
  have written : (callAll (congestedOnce ⟨1⟩) {}).Reached :=
    reached_callAll _ .start (by decide +kernel)
  have reached : restartedOnce.Reached := .restore written .start
    (.load 6 (by decide +kernel) (by decide +kernel)
      (load_of_decode (decode_saveBytes loadable) Impl.fresh))
  obtain ⟨ordered, valid⟩ := episodes_wellFormed reached (by decide)
  exact ⟨by decide +kernel, ordered, valid (by decide)⟩

/-- A fresh engine whose domain counter stands elsewhere. -/
private def countingFrom (next : UInt64) : Impl Binary64 := { nextDomain := next, epoch := ⟨1⟩ }

/-- The same engine after it created a domain. -/
private def holdingOne (next : UInt64) : Impl Binary64 :=
  { countingFrom (next + 1) with
    domains := UnorderedMap.empty.emplace ⟨next⟩ (Impl.newDomain ⟨next⟩ DomainKind.nicTx {}) }

private theorem exec_create (next : UInt64) :
    (exec {} 0 (.createDomain DomainKind.nicTx {}) (countingFrom next)).2 = holdingOne next := by
  have valid : CapacityProfile.valid ({} : CapacityProfile Binary64) = true := by decide +kernel
  have allowed : (countingFrom next).creatable {} {} = true := by
    simp only [Impl.creatable, valid, Bool.and_true]
    rfl
  simp only [exec, Prod.map_snd, id_eq, createDomain_of_creatable allowed]
  rfl

/-- A domain that is created and removed leaves nothing but the counter. -/
private theorem exec_remove (next : UInt64) :
    (exec {} 0 (.removeDomain ⟨next⟩) (holdingOne next)).2 = countingFrom (next + 1) := by
  have present : (holdingOne next).domains.contains ⟨next⟩ = true := by
    simp [UnorderedMap.contains, holdingOne, UnorderedMap.find?_emplace]
  have emptied : (holdingOne next).domains.erase ⟨next⟩ = UnorderedMap.empty := by
    apply UnorderedMap.ext_entries
    simp [holdingOne, UnorderedMap.erase, UnorderedMap.emplace, UnorderedMap.empty,
      UnorderedMap.contains, UnorderedMap.find?]
  simp only [exec, Prod.map_snd, id_eq, Impl.removeDomain, present, if_true, emptied]
  rfl

private theorem reached_countingFrom (count : Nat) :
    ∃ domains, Chronicle.Reached
      { engine := countingFrom (1 + .ofNat count), domains := domains } := by
  induction count with
  | zero => exact ⟨0, .start⟩
  | succ count inductionHypothesis =>
      obtain ⟨domains, reached⟩ := inductionHypothesis
      have created := Restarted.step reached
        (.call _ {} 0 (.createDomain DomainKind.nicTx {}) (UInt64.le_refl 0))
      have removed := Restarted.step created
        (.call _ {} 0 (.removeDomain ⟨1 + .ofNat count⟩) (UInt64.le_refl 0))
      have further : (1 : UInt64) + .ofNat (count + 1) = 1 + .ofNat count + 1 := by
        rw [UInt64.ofNat_add, UInt64.add_assoc]
        rfl
      simp only [Chronicle.called, exec_create, exec_remove] at removed
      rw [← further] at removed
      exact ⟨_, removed⟩

/-- After as many domains as there are numbers, the next one gets the number 0; the
episode it closes carries that number and is not valid. -/
theorem countingFrom_zero_invalid :
    ¬∀ chronicle : Chronicle, chronicle.Reached → chronicle.events < 2 ^ 64 - 1 →
      chronicle.engine.EpisodesOrdered ∧ chronicle.engine.EpisodesValid := by
  intro always
  obtain ⟨domains, reached⟩ := reached_countingFrom (2 ^ 64 - 1)
  have zero : (1 : UInt64) + .ofNat (2 ^ 64 - 1) = 0 := by decide
  rw [zero] at reached
  have forward : ([0, 1, 2, 3, 4, 5] : List UInt64).Pairwise (· ≤ ·) := by decide
  have congested := reached_callAll (congestedOnce ⟨0⟩) reached forward
  -- What the calls do does not depend on the number of domains issued before.
  have few : (callAll (congestedOnce ⟨0⟩) { engine := countingFrom 0 }).events < 2 ^ 64 - 1 := by
    decide +kernel
  have valid : (callAll (congestedOnce ⟨0⟩) { engine := countingFrom 0 }).engine.EpisodesValid :=
    (always _ congested few).2
  have entries := valid ⟨0⟩ _ (Option.some_get (by decide +kernel)).symm _
    (List.getElem_mem (show 0 < _ by decide +kernel))
  exact absurd entries (by decide +kernel)

end CongestionFabric
