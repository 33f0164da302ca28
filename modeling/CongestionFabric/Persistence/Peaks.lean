import CongestionFabric.Foundation.Order
import CongestionFabric.Persistence.Chronicle

/-!
Contract: what the peaks of an episode record.

Owns the findings of `recompute_domain` since an episode opened, kept beside the engine
through every call and every restart; the statement that the peaks of an episode are
the maxima of its findings; the recomputations that break it; and the theorem that it
holds in every engine that is reached without them.

`recompute_domain` leaves the backlog of the opening call out, overwrites the peak
state on every further call, and leaves the backlog of the closing call out.
-/

namespace CongestionFabric

open Foundation

/-! ## Findings -/

/-- What a call of `recompute_domain` returned and saw. -/
structure Finding where
  state : CongestionState
  queuedBytes : UInt64
deriving DecidableEq

/-- The findings for the episodes of a domain, each list in the order of the calls: for
the current episode since it opened, and for every history entry up to the call that
closed it. -/
structure Findings where
  current : List Finding := []
  history : List (List Finding) := []

/-- One more finding, for a domain whose current episode is open or not. -/
def Findings.note (limit : Nat) (isOpen : Bool) (finding : Finding) (findings : Findings) :
    Findings :=
  if finding.state.congestedNow then
    { findings with current := (if isOpen then findings.current else []) ++ [finding] }
  else if isOpen then
    { current := []
      history := pushBounded limit findings.history (findings.current ++ [finding]) }
  else
    findings

/-- The peaks of an episode are the maxima of its findings: the most severe of the
states that keep an episode open, and the largest backlog. -/
structure CongestionEpisode.PeakOf (episode : CongestionEpisode Binary64)
    (findings : List Finding) : Prop where
  stateFound : ∃ finding ∈ findings, finding.state.congestedNow = true ∧
    finding.state = episode.peakState
  stateMost : ∀ finding ∈ findings, finding.state.congestedNow = true →
    Enumeration.toU8 finding.state ≤ Enumeration.toU8 episode.peakState
  backlogFound : ∃ finding ∈ findings,
    Arithmetic.ofUInt64 finding.queuedBytes = episode.peakBacklogBytes
  backlogMost : ∀ finding ∈ findings,
    Arithmetic.ofUInt64 finding.queuedBytes ≤ episode.peakBacklogBytes

/-- All episodes of a log have the peaks of their findings. -/
structure EpisodeLog.PeaksOf (log : EpisodeLog Binary64) (findings : Findings) : Prop where
  current : log.current.isOpen = true → log.current.PeakOf findings.current
  history : List.Forall₂ CongestionEpisode.PeakOf log.history findings.history

/-! ## One recomputation -/

section Recomputation

variable {episode : CongestionEpisode Binary64} {findings : List Finding} {finding : Finding}

/-- The opening call, when there is no backlog. -/
private theorem peakOf_opened (event : UInt64) (domain : EntityRef CongestionDomainTag)
    (now : UInt64) (congested : finding.state.congestedNow = true)
    (empty : finding.queuedBytes = 0) :
    (CongestionEpisode.opened event domain now finding.state).PeakOf [finding] := by
  have zero : (Arithmetic.ofUInt64 0 : Binary64) = 0.0 := by decide
  refine ⟨⟨finding, List.mem_singleton_self _, congested, rfl⟩, ?_,
    ⟨finding, List.mem_singleton_self _, ?_⟩, ?_⟩
  · intro other member _
    rw [List.mem_singleton.mp member]
    exact UInt8.le_refl _
  · rw [empty]
    exact zero
  · intro other member
    rw [List.mem_singleton.mp member, empty, zero]
    change (0.0 : Binary64) ≤ 0.0
    decide

/-- The peak backlog is a number. -/
private theorem CongestionEpisode.PeakOf.isNumber (peak : episode.PeakOf findings) :
    episode.peakBacklogBytes.IsNumber := by
  obtain ⟨finding, -, same⟩ := peak.backlogFound
  rw [← same]
  exact Binary64.ofUInt64_isNumber _

/-- A further call that finds a state at least as severe. -/
private theorem CongestionEpisode.PeakOf.extended (peak : episode.PeakOf findings)
    (congested : finding.state.congestedNow = true)
    (rising : Enumeration.toU8 episode.peakState ≤ Enumeration.toU8 finding.state) :
    (episode.extended finding.state finding.queuedBytes).PeakOf (findings ++ [finding]) := by
  have number := Binary64.ofUInt64_isNumber finding.queuedBytes
  have last : finding ∈ findings ++ [finding] := List.mem_append_right _ (List.mem_singleton_self _)
  refine ⟨⟨finding, last, congested, rfl⟩, ?_, ?_, ?_⟩
  · intro other member otherCongested
    rcases List.mem_append.mp member with earlier | new
    · exact UInt8.le_trans (peak.stateMost other earlier otherCongested) rising
    · rw [List.mem_singleton.mp new]
      exact UInt8.le_refl _
  · change ∃ other ∈ findings ++ [finding], _ =
      Arithmetic.stdMax episode.peakBacklogBytes (Arithmetic.ofUInt64 finding.queuedBytes)
    unfold Arithmetic.stdMax
    split
    · exact ⟨finding, last, rfl⟩
    · obtain ⟨other, member, same⟩ := peak.backlogFound
      exact ⟨other, List.mem_append_left _ member, same⟩
  · intro other member
    rcases List.mem_append.mp member with earlier | new
    · exact Binary64.le_stdMax_of_le (Binary64.ofUInt64_isNumber _) peak.isNumber number
        (peak.backlogMost other earlier)
    · rw [List.mem_singleton.mp new]
      exact Binary64.le_stdMax_right peak.isNumber number

/-- The closing call, when it sees no larger backlog. -/
private theorem CongestionEpisode.PeakOf.closed (peak : episode.PeakOf findings) (now : UInt64)
    (clear : finding.state.congestedNow = false)
    (below : Arithmetic.ofUInt64 finding.queuedBytes ≤ episode.peakBacklogBytes) :
    (episode.closed now finding.state).PeakOf (findings ++ [finding]) := by
  obtain ⟨most, member, congested, same⟩ := peak.stateFound
  obtain ⟨largest, inside, equal⟩ := peak.backlogFound
  refine ⟨⟨most, List.mem_append_left _ member, congested, same⟩, ?_,
    ⟨largest, List.mem_append_left _ inside, equal⟩, ?_⟩
  · intro other member otherCongested
    rcases List.mem_append.mp member with earlier | new
    · exact peak.stateMost other earlier otherCongested
    · rw [List.mem_singleton.mp new, clear] at otherCongested
      exact absurd otherCongested (by simp)
  · intro other member
    rcases List.mem_append.mp member with earlier | new
    · exact peak.backlogMost other earlier
    · rw [List.mem_singleton.mp new]
      exact below

/-- Two bounded histories that correspond drop the same entries. -/
private theorem forall₂_pushBounded {A B : Type} {related : A → B → Prop} {limit : Nat}
    {history : List A} {other : List B} {entry : A} {otherEntry : B}
    (corresponds : List.Forall₂ related history other) (last : related entry otherEntry) :
    List.Forall₂ related (pushBounded limit history entry)
      (pushBounded limit other otherEntry) := by
  have longer : List.Forall₂ related (history ++ [entry]) (other ++ [otherEntry]) :=
    List.rel_append corresponds (.cons last .nil)
  unfold pushBounded
  rw [longer.length_eq]
  split
  · rw [← List.drop_one, ← List.drop_one]
    exact List.forall₂_drop 1 longer
  · exact longer

variable {state : Impl Binary64} {domain : CongestionDomain Binary64} {seen : Findings}

/-- What `recompute_domain` finds for a domain. -/
def Impl.finds (state : Impl Binary64) (domain : CongestionDomain Binary64) : Finding where
  state := (state.assess domain).state
  queuedBytes := (aggregateDomain domain state.flows).queuedBytes

/-- A recomputation of the domain would record the maxima: an opening call sees no
backlog, a further call finds a state at least as severe as the recorded one, and a
closing call sees no larger backlog than the recorded one. -/
def Impl.recordsPeaks (state : Impl Binary64) (domain : CongestionDomain Binary64) : Bool :=
  let finding := state.finds domain
  if finding.state.congestedNow then
    if domain.currentEpisode.isOpen then
      Enumeration.toU8 domain.currentEpisode.peakState ≤ Enumeration.toU8 finding.state
    else finding.queuedBytes = 0
  else if domain.currentEpisode.isOpen then
    decide (Arithmetic.ofUInt64 finding.queuedBytes ≤ domain.currentEpisode.peakBacklogBytes)
  else true

private theorem EpisodeLog.PeaksOf.recomputed (peaks : domain.log.PeaksOf seen)
    (records : state.recordsPeaks domain = true) (limits : EngineLimits) (now : UInt64) :
    (state.recomputed limits now domain).2.log.PeaksOf
      (seen.note limits.maxEpisodeHistoryPerDomain.toNat domain.currentEpisode.isOpen
        (state.finds domain)) := by
  unfold Impl.recordsPeaks at records
  unfold Findings.note
  rcases state.recomputed_log limits now domain with
    ⟨congested, isOpen, -, log⟩ | ⟨congested, isOpen, -, log⟩ |
    ⟨clear, isOpen, -, log⟩ | ⟨clear, isOpen, -, log⟩
  · have found : (state.finds domain).state.congestedNow = true := congested
    simp only [found, isOpen, if_true, Bool.false_eq_true, if_false, decide_eq_true_eq] at records ⊢
    rw [log]
    exact ⟨fun _ => peakOf_opened _ _ _ found records, peaks.history⟩
  · have found : (state.finds domain).state.congestedNow = true := congested
    simp only [found, isOpen, if_true, decide_eq_true_eq] at records ⊢
    rw [log]
    exact ⟨fun _ => (peaks.current isOpen).extended found records, peaks.history⟩
  · have found : (state.finds domain).state.congestedNow = false := clear
    simp only [found, isOpen, Bool.false_eq_true, if_true, if_false, decide_eq_true_eq]
      at records ⊢
    rw [log]
    refine ⟨fun absent => absurd absent (by simp), ?_⟩
    exact forall₂_pushBounded peaks.history ((peaks.current isOpen).closed now found records)
  · have found : (state.finds domain).state.congestedNow = false := clear
    simp only [found, isOpen, Bool.false_eq_true, if_false]
    rw [log]
    exact peaks

end Recomputation

/-! ## Engines with the findings of their calls -/

/-- An engine with the findings for its domains. -/
structure Watched where
  engine : Impl Binary64 := Impl.fresh
  findings : CongestionDomainId → Findings := fun _ => {}

/-- The findings after a call: a recomputation notes what it found, and a domain that
did not exist begins without. -/
def Watched.noted (limits : EngineLimits) (op : Op Binary64) (watched : Watched)
    (id : CongestionDomainId) : Findings :=
  match watched.engine.domains.find? id with
  | none => {}
  | some domain =>
      match op with
      | .recomputeDomain recomputed =>
          if recomputed = id then
            (watched.findings id).note limits.maxEpisodeHistoryPerDomain.toNat
              domain.currentEpisode.isOpen (watched.engine.finds domain)
          else watched.findings id
      | _ => watched.findings id

def Watched.called (limits : EngineLimits) (now : UInt64) (op : Op Binary64) (watched : Watched) :
    Watched where
  engine := (exec limits now op watched.engine).2
  findings := watched.noted limits op

/-- One step of an engine; a rehash makes no finding. -/
inductive WatchedStep : Watched → Label Binary64 → Watched → Prop
  | call (watched : Watched) (limits : EngineLimits) (now : UInt64) (op : Op Binary64) :
      WatchedStep watched (.call now op) (watched.called limits now op)
  | rehash {watched : Watched} {engine : Impl Binary64}
      (same : watched.engine.Reordered engine) :
      WatchedStep watched .rehash { watched with engine := engine }

/-- A load of a saved file; the episodes that come with the file keep their findings. -/
inductive WatchedRestores (saved target : Watched) : Watched → Prop
  | load {engine : Impl Binary64} (restored : Restores saved.engine target.engine engine) :
      WatchedRestores saved target { saved with engine := engine }

/-- The engines that are reached from fresh ones by steps that meet a condition and by
loads of saved files. -/
def Watched.Reached (condition : Impl Binary64 → Label Binary64 → Prop) : Watched → Prop :=
  Restarted (fun watched label next =>
    condition watched.engine label ∧ WatchedStep watched label next) WatchedRestores {}

/-- Every episode of the engine has the peaks of its findings. -/
def Watched.PeaksRecorded (watched : Watched) : Prop :=
  ∀ id domain, watched.engine.domains.find? id = some domain →
    domain.log.PeaksOf (watched.findings id)

/-- The step does not recompute a domain, or it would record the maxima. -/
def Label.recordsPeaks (state : Impl Binary64) : Label Binary64 → Bool
  | .call _ (.recomputeDomain id) =>
      (state.domains.find? id).all fun domain => state.recordsPeaks domain
  | _ => true

private theorem Watched.PeaksRecorded.called {watched : Watched} (peaks : watched.PeaksRecorded)
    {now : UInt64} {op : Op Binary64}
    (records : (Label.call now op).recordsPeaks watched.engine = true) (limits : EngineLimits) :
    (watched.called limits now op).PeaksRecorded := by
  intro id after stored
  rcases exec_log_origin stored with ⟨domain, found, other, same⟩ | ⟨domain, found, rfl, log⟩ |
    ⟨-, absent, -, -, created⟩
  · have kept : watched.noted limits op id = watched.findings id := by
      unfold Watched.noted
      rw [found]
      cases op with
      | recomputeDomain recomputed =>
          have elsewhere : recomputed ≠ id := fun here => other (congrArg _ here)
          simp only [elsewhere, if_false]
      | _ => rfl
    change after.log.PeaksOf (watched.noted limits op id)
    rw [same, kept]
    exact peaks id domain found
  · have noted : watched.noted limits (.recomputeDomain id) id =
        (watched.findings id).note limits.maxEpisodeHistoryPerDomain.toNat
          domain.currentEpisode.isOpen (watched.engine.finds domain) := by
      simp only [Watched.noted, found, if_true]
    change after.log.PeaksOf (watched.noted limits (.recomputeDomain id) id)
    rw [log, noted]
    have maxima : watched.engine.recordsPeaks domain = true := by
      simpa only [Label.recordsPeaks, found, Option.all_some] using records
    exact (peaks id domain found).recomputed maxima limits now
  · have blank : watched.noted limits op id = {} := by
      unfold Watched.noted
      rw [absent]
    change after.log.PeaksOf (watched.noted limits op id)
    rw [created, blank]
    exact ⟨fun absent => absurd absent (by simp), .nil⟩

/-- In every engine that calls, rehashes and loads of saved files reach, where every
recomputation meets the condition, the peaks of every open episode and of every history
entry are the maxima of what was found since it opened. -/
theorem peaksRecorded_of_reached {watched : Watched}
    (reached : watched.Reached fun state label => label.recordsPeaks state = true) :
    watched.PeaksRecorded := by
  refine reached.invariant Watched.PeaksRecorded ?_ ?_ ?_
  · intro id domain stored
    exact absurd stored (by simp [Impl.fresh])
  · intro watched label next peaks taken
    obtain ⟨records, step⟩ := taken
    cases step with
    | call limits now op => exact peaks.called records limits
    | rehash same =>
        intro id after stored
        obtain ⟨domain, found, log⟩ := same.log_origin stored
        rw [log]
        exact peaks id domain found
  · intro saved target next peaks _ restored
    cases restored with
    | load restored =>
        intro id after stored
        obtain ⟨domain, found, log⟩ := restored.log_origin stored
        rw [log]
        exact peaks id domain found

/-! ## An episode that grows, and one that falls back -/

private def watchAll (calls : List (UInt64 × Op Binary64)) (watched : Watched) : Watched :=
  calls.foldl (fun watched call => watched.called {} call.1 call.2) watched

private theorem reached_watchAll {condition : Impl Binary64 → Label Binary64 → Prop}
    (calls : List (UInt64 × Op Binary64)) :
    ∀ {watched : Watched}, watched.Reached condition →
      (∀ taken ∈ trace {} calls watched.engine, condition taken.1 taken.2) →
        (watchAll calls watched).Reached condition := by
  induction calls with
  | nil => exact fun reached _ => reached
  | cons head tail inductionHypothesis =>
      intro watched reached meets
      obtain ⟨first, later⟩ := List.forall_mem_cons.mp meets
      have called := Restarted.step reached ⟨first, WatchedStep.call watched {} head.1 head.2⟩
      exact inductionHypothesis called later

/-- An episode opens as SATURATED without a backlog, and is then CONGESTED with one. -/
private def grows : List (UInt64 × Op Binary64) :=
  [(1, .registerWorker ⟨1⟩ ⟨1⟩), (1, .registerSource ⟨1⟩ ⟨1⟩),
    (1, .createDomain DomainKind.nicTx (.ofTheoretical 1000.0)),
    (2, .publishMeasurement ⟨1⟩
      { kind := MeasurementKind.offeredBytesPerSec, value := 2000.0 } ⟨0⟩ ⟨0⟩),
    (3, .recomputeDomain ⟨1⟩), (4, .declareFlow (.ofFirst 100)),
    (4, .admitFlow { id := ⟨1⟩, generation := ⟨1⟩ }),
    (4, .queueFlow { id := ⟨1⟩, generation := ⟨1⟩ }), (5, .recomputeDomain ⟨1⟩)]

/-- After a restart it closes. -/
private def subsides : List (UInt64 × Op Binary64) :=
  [(7, .publishMeasurement ⟨1⟩
      { kind := MeasurementKind.offeredBytesPerSec, value := 10.0 } ⟨0⟩ ⟨0⟩),
    (8, .recomputeDomain ⟨1⟩)]

private def grown : Watched := watchAll grows {}

private def reopened : Watched where
  engine := Impl.fresh.commit grown.engine.recoverDynamicEvidence.persisted
  findings := grown.findings

theorem subsided_peaks :
    ((watchAll subsides reopened).engine.domains.find? ⟨1⟩).map (fun domain =>
        domain.episodes.map fun episode => (episode.peakState, episode.peakBacklogBytes)) =
        some [(.congested, 100.0)] ∧
      (watchAll subsides reopened).PeaksRecorded := by
  have loadable : grown.engine.Loadable := by decide +kernel
  have written : grown.Reached fun state label => label.recordsPeaks state = true :=
    reached_watchAll _ .start (by decide +kernel)
  have reached : reopened.Reached fun state label => label.recordsPeaks state = true :=
    .restore written .start
      (.load (load_of_decode (decode_saveBytes loadable) Impl.fresh))
  exact ⟨by decide +kernel,
    peaksRecorded_of_reached (reached_watchAll subsides reached (by decide +kernel))⟩

/-- The flow starts, the backlog is gone, and the peak state falls back to SATURATED. -/
theorem grown_peak_lost :
    ¬∀ watched : Watched, (watched.Reached fun _ _ => True) → watched.PeaksRecorded := by
  intro always
  have reached : (watchAll [(6, .startFlow { id := ⟨1⟩, generation := ⟨1⟩ } ⟨1⟩),
      (7, .recomputeDomain ⟨1⟩)] grown).Reached fun _ _ => True :=
    reached_watchAll _ (reached_watchAll grows .start fun _ _ => trivial) fun _ _ => trivial
  have peaks := always _ reached ⟨1⟩ _ (Option.some_get (by decide +kernel)).symm
  have most := (peaks.current (by decide +kernel)).stateMost ⟨.congested, 100⟩
    (by decide +kernel) rfl
  exact absurd most (by decide +kernel)

end CongestionFabric
