import CongestionFabric.Engine.DomainEffect

/-!
Contract: what operations do to the episodes of a domain and to the counters
that number domains, flows and episodes.

Owns the log of a domain (its reference, its history and its current episode),
the four outcomes of `recompute_domain` for it, the fact that nothing else writes
it, and the operations that move a counter.

Does not own: what holds of a log over whole runs.
-/

namespace CongestionFabric

open Foundation

variable {R : Type} [Arithmetic R] {limits : EngineLimits} {now : UInt64} {op : Op R}
  {state : Impl R} {id : CongestionDomainId} {domain : CongestionDomain R} {invalidated : Bool}

/-! ## The log of a domain -/

/-- What a domain keeps of its congestion: the reference that episodes carry, the
bounded history, and the current episode. -/
structure EpisodeLog (R : Type) [Arithmetic R] where
  domain : EntityRef CongestionDomainTag
  history : List (CongestionEpisode R)
  current : CongestionEpisode R

def CongestionDomain.log (domain : CongestionDomain R) : EpisodeLog R :=
  ⟨domain.ref, domain.episodes, domain.currentEpisode⟩

/-- The numbers of the episodes of a log; a current episode that is not open
is none. -/
def EpisodeLog.eventIds (log : EpisodeLog R) : List CongestionEventId :=
  log.history.map CongestionEpisode.eventId ++
    if log.current.isOpen then [log.current.eventId] else []

/-- An open episode that is found congested again. -/
def CongestionEpisode.extended (episode : CongestionEpisode R) (assessed : CongestionState)
    (queuedBytes : UInt64) : CongestionEpisode R :=
  { episode with
    peakState := assessed
    peakBacklogBytes :=
      Arithmetic.stdMax episode.peakBacklogBytes (Arithmetic.ofUInt64 queuedBytes) }

/-- An open episode that is found over. -/
def CongestionEpisode.closed (episode : CongestionEpisode R) (now : UInt64)
    (outcome : CongestionState) : CongestionEpisode R :=
  { episode with endMs := now, outcome := outcome, isOpen := false }

section PushBounded

variable {A : Type} {limit : Nat} {history : List A} {entry other : A}

/-- A history that takes one more entry and drops its oldest when it is full. -/
def pushBounded (limit : Nat) (history : List A) (entry : A) : List A :=
  if (history ++ [entry]).length > limit then (history ++ [entry]).tail else history ++ [entry]

theorem pushBounded_sublist : (pushBounded limit history entry).Sublist (history ++ [entry]) := by
  unfold pushBounded
  split
  · exact List.tail_sublist _
  · exact List.Sublist.refl _

theorem mem_of_mem_pushBounded (member : other ∈ pushBounded limit history entry) :
    other ∈ history ∨ other = entry :=
  (List.mem_append.mp (pushBounded_sublist.subset member)).imp_right List.mem_singleton.mp

theorem length_pushBounded_le (within : history.length ≤ limit) :
    (pushBounded limit history entry).length ≤ limit := by
  unfold pushBounded
  split
  · rw [List.length_tail, List.length_append, List.length_singleton]
    exact within
  · next fits => exact Nat.not_lt.mp fits

end PushBounded

/-- The four outcomes of a recomputation for the log of a domain, with the next
event number. -/
theorem Impl.recomputed_log (limits : EngineLimits) (now : UInt64) (state : Impl R)
    (domain : CongestionDomain R) :
    let assessed := (state.assess domain).state
    let after := state.recomputed limits now domain
    (assessed.congestedNow = true ∧ domain.currentEpisode.isOpen = false ∧
        after.1 = state.nextEvent + 1 ∧ after.2.log = { domain.log with
          current := .opened state.nextEvent domain.ref now assessed }) ∨
      (assessed.congestedNow = true ∧ domain.currentEpisode.isOpen = true ∧
        after.1 = state.nextEvent ∧ after.2.log = { domain.log with
          current := domain.currentEpisode.extended assessed
            (aggregateDomain domain state.flows).queuedBytes }) ∨
      (assessed.congestedNow = false ∧ domain.currentEpisode.isOpen = true ∧
        after.1 = state.nextEvent ∧ after.2.log = { domain.log with
          history := pushBounded limits.maxEpisodeHistoryPerDomain.toNat domain.episodes
            (domain.currentEpisode.closed now assessed)
          current := {} }) ∨
      (assessed.congestedNow = false ∧ domain.currentEpisode.isOpen = false ∧
        after.1 = state.nextEvent ∧ after.2.log = domain.log) := by
  dsimp only
  unfold Impl.recomputed CongestionDomain.trackEpisode
  dsimp only
  by_cases congested : (state.assess domain).state.congestedNow = true
  · by_cases isOpen : domain.currentEpisode.isOpen = true
    · rw [if_pos congested, if_neg (by simp [isOpen])]
      exact Or.inr (Or.inl ⟨congested, isOpen, rfl, rfl⟩)
    · rw [if_pos congested, if_pos (by simp [isOpen])]
      exact Or.inl ⟨congested, Bool.eq_false_iff.mpr isOpen, rfl, rfl⟩
  · have clear := Bool.eq_false_iff.mpr congested
    by_cases isOpen : domain.currentEpisode.isOpen = true
    · rw [if_neg congested, if_pos isOpen]
      exact Or.inr (Or.inr (Or.inl ⟨clear, isOpen, rfl, rfl⟩))
    · rw [if_neg congested, if_neg isOpen]
      exact Or.inr (Or.inr (Or.inr ⟨clear, Bool.eq_false_iff.mpr isOpen, rfl, rfl⟩))

/-- The recovery pass writes no log. -/
theorem CongestionDomain.requireRevalidation_log (domain : CongestionDomain R) :
    domain.requireRevalidation.log = domain.log := by
  obtain ⟨_, _, required⟩ := domain.requireRevalidation_eq
  rw [required]
  rfl

/-- No other operation writes the log of a domain. -/
theorem domainAfter_log (other : op ≠ .recomputeDomain id) :
    (domainAfter limits now op state invalidated id domain).log = domain.log := by
  refine domainAfter_elim (motive := fun after => after.log = domain.log) rfl ?_ ?_ ?_ ?_ ?_ ?_ ?_
  · intro worker deadBoot _ _
    obtain ⟨_, -, dropped⟩ := domain.dropEvidence_eq worker deadBoot invalidated
    rw [dropped]
    rfl
  · intro ref _ _
    rfl
  · intro ref boot _ _
    rw [domain.clearRevalidation_eq]
    rfl
  · intro measurement owner ownerBoot _ _
    unfold CongestionDomain.record
    rw [domain.clearRevalidation_eq]
    dsimp only
    split_ifs <;> rfl
  · intro recomputes
    exact absurd recomputes other
  · intro action _ _
    rfl
  · exact fun _ => domain.requireRevalidation_log

/-! ## Counters -/

/-- The counters from which domains, flows and episodes are numbered. -/
def Impl.counters (state : Impl R) : UInt64 × UInt64 × UInt64 :=
  (state.nextDomain, state.nextFlow, state.nextEvent)

/-- Three operations move a counter. -/
def Op.issues : Op R → Bool
  | .createDomain _ _ | .declareFlow _ | .recomputeDomain _ => true
  | _ => false

/-- No other operation moves a counter or writes the flow history. -/
private theorem exec_ledger_of_issuesNone (none : op.issues = false) :
    ((exec limits now op state).2.counters, (exec limits now op state).2.flowHistory) =
      (state.counters, state.flowHistory) := by
  by_cases oneFlow : op.onOneFlow = true
  · have same : (exec limits now op state).2.outer = state.outer := exec_outer oneFlow
    have ledger := congrArg (fun outer => (Impl.counters outer, outer.flowHistory)) same
    exact ledger
  · cases op with
    | registerWorker worker boot => rfl
    | registerSource source boot => rfl
    | recoverDynamicEvidence => rfl
    | fenceWorker worker deadBoot =>
        simp only [exec, Prod.map_snd, id_eq, Impl.fenceWorker]
        split <;> rfl
    | fenceSource source deadBoot =>
        simp only [exec, Prod.map_snd, id_eq, Impl.fenceSource]
        split <;> rfl
    | advanceEpoch next =>
        simp only [exec, Prod.map_snd, id_eq, Impl.advanceEpoch]
        split <;> rfl
    | removeDomain domain =>
        simp only [exec, Prod.map_snd, id_eq, Impl.removeDomain]
        split <;> rfl
    | publishMeasurement domain measurement owner ownerBoot =>
        simp only [exec, Prod.map_snd, id_eq, Impl.publishMeasurement]
        cases state.domains.find? domain <;> split_ifs <;> rfl
    | applyLocalShaping domain action =>
        simp only [exec, Prod.map_snd, id_eq, Impl.applyLocalShaping]
        cases state.domains.find? domain <;> split_ifs <;> rfl
    | createDomain kind capacity => exact absurd none (by simp [Op.issues])
    | declareFlow options => exact absurd none (by simp [Op.issues])
    | recomputeDomain domain => exact absurd none (by simp [Op.issues])
    | _ => exact absurd rfl oneFlow

theorem exec_counters_of_issuesNone (none : op.issues = false) :
    (exec limits now op state).2.counters = state.counters :=
  congrArg Prod.fst (exec_ledger_of_issuesNone none)

/-- A declaration pushes its number on the bounded flow history; nothing else
writes it. -/
theorem exec_flowHistory (limits : EngineLimits) (now : UInt64) (op : Op R) (state : Impl R) :
    (exec limits now op state).2.flowHistory = state.flowHistory ∨
      (exec limits now op state).2.flowHistory =
        pushBounded limits.maxFlowHistory.toNat state.flowHistory ⟨state.nextFlow⟩ := by
  cases issues : op.issues with
  | false => exact Or.inl (congrArg Prod.snd (exec_ledger_of_issuesNone issues))
  | true =>
      cases op with
      | createDomain kind capacity =>
          left
          simp only [exec, Prod.map_snd, id_eq, Impl.createDomain]
          split_ifs <;> rfl
      | declareFlow options =>
          by_cases allowed : Declarable limits options state
          · right
            simp only [exec, Prod.map_snd, id_eq, declareFlow_of_declarable allowed]
            rfl
          · left
            simp only [exec, Prod.map_snd, id_eq, declareFlow_of_not_declarable allowed]
      | recomputeDomain target =>
          left
          simp only [exec, Prod.map_snd, id_eq, Impl.recomputeDomain]
          split <;> rfl
      | _ => exact absurd issues (by simp [Op.issues])

/-- The event numbers an operation issues: one if it opens an episode. -/
def Op.eventsIssued (state : Impl R) : Op R → Nat
  | .recomputeDomain id =>
      if (state.domains.find? id).any fun domain =>
          (state.assess domain).state.congestedNow && !domain.currentEpisode.isOpen then 1
      else 0
  | _ => 0

/-- The event counter moves by what an operation issues. -/
theorem exec_nextEvent (limits : EngineLimits) (now : UInt64) (op : Op R) (state : Impl R) :
    (exec limits now op state).2.nextEvent = state.nextEvent + .ofNat (op.eventsIssued state) := by
  have unchanged : state.nextEvent = state.nextEvent + .ofNat 0 := (UInt64.add_zero _).symm
  cases issues : op.issues with
  | false =>
      have same : (exec limits now op state).2.counters = state.counters :=
        exec_counters_of_issuesNone issues
      have events : op.eventsIssued state = 0 := by
        cases op with
        | recomputeDomain target => exact absurd issues (by simp [Op.issues])
        | _ => rfl
      rw [events, ← unchanged]
      exact congrArg (fun counters => counters.2.2) same
  | true =>
      cases op with
      | createDomain kind capacity =>
          simp only [exec, Prod.map_snd, id_eq, Impl.createDomain]
          split_ifs <;> exact unchanged
      | declareFlow options =>
          by_cases allowed : Declarable limits options state
          · simp only [exec, Prod.map_snd, id_eq, declareFlow_of_declarable allowed]
            exact unchanged
          · simp only [exec, Prod.map_snd, id_eq, declareFlow_of_not_declarable allowed]
            exact unchanged
      | recomputeDomain target =>
          simp only [exec, Prod.map_snd, id_eq, Impl.recomputeDomain, Op.eventsIssued]
          cases state.domains.find? target with
          | none => exact unchanged
          | some domain =>
              change (state.recomputed limits now domain).1 = _
              rcases state.recomputed_log limits now domain with
                ⟨congested, isOpen, next, -⟩ | ⟨congested, isOpen, next, -⟩ |
                ⟨congested, isOpen, next, -⟩ | ⟨congested, isOpen, next, -⟩
              · rw [next]
                simp [congested, isOpen]
              all_goals
                rw [next]
                simp [congested, isOpen]
      | _ => exact absurd issues (by simp [Op.issues])

/-! ## Logs after an operation -/

/-- Where the log of a domain comes from: it is that of the domain before, unless
the operation recomputed or created the domain. -/
theorem exec_log_origin {after : CongestionDomain R}
    (stored : (exec limits now op state).2.domains.find? id = some after) :
    (∃ domain, state.domains.find? id = some domain ∧ op ≠ .recomputeDomain id ∧
        after.log = domain.log) ∨
      (∃ domain, state.domains.find? id = some domain ∧ op = .recomputeDomain id ∧
        after.log = (state.recomputed limits now domain).2.log) ∨
      (op.issues = true ∧ state.domains.find? id = none ∧ id = ⟨state.nextDomain⟩ ∧
        op.eventsIssued state = 0 ∧ after.log = ⟨⟨id, ⟨1⟩⟩, [], {}⟩) := by
  rcases exec_domain_origin stored with ⟨domain, invalidated, found, -, rfl⟩ |
    ⟨kind, capacity, rfl, -, absent, here, rfl⟩
  · by_cases recomputes : op = .recomputeDomain id
    · subst recomputes
      exact Or.inr (Or.inl ⟨domain, found, rfl, by simp [domainAfter]⟩)
    · exact Or.inl ⟨domain, found, recomputes, domainAfter_log recomputes⟩
  · exact Or.inr (Or.inr ⟨rfl, absent, here, rfl, rfl⟩)

/-- The numbers of episodes after an operation are those from before, and the
one that was issued. -/
theorem exec_eventIds {after : CongestionDomain R}
    (stored : (exec limits now op state).2.domains.find? id = some after)
    {event : CongestionEventId} (member : event ∈ after.log.eventIds) :
    (∃ domain, state.domains.find? id = some domain ∧ event ∈ domain.log.eventIds) ∨
      op = .recomputeDomain id ∧ op.eventsIssued state = 1 ∧ event = ⟨state.nextEvent⟩ := by
  rcases exec_log_origin stored with ⟨domain, found, -, same⟩ | ⟨domain, found, rfl, log⟩ |
    ⟨-, -, -, -, fresh⟩
  · exact Or.inl ⟨domain, found, same ▸ member⟩
  · rw [log] at member
    rcases state.recomputed_log limits now domain with
      ⟨congested, isOpen, -, written⟩ | ⟨-, isOpen, -, written⟩ |
      ⟨-, isOpen, -, written⟩ | ⟨-, -, -, written⟩
    · -- An episode is opened.
      rw [written] at member
      rcases List.mem_append.mp member with earlier | new
      · exact Or.inl ⟨domain, found, List.mem_append_left _ earlier⟩
      · refine Or.inr ⟨rfl, by simp [Op.eventsIssued, found, congested, isOpen], ?_⟩
        exact List.mem_singleton.mp new
    · -- The open episode stays open under its number.
      rw [written] at member
      exact Or.inl ⟨domain, found, member⟩
    · -- The open episode moves to the history.
      rw [written] at member
      refine Or.inl ⟨domain, found, ?_⟩
      simp only [EpisodeLog.eventIds, Bool.false_eq_true, if_false, List.append_nil,
        List.mem_map] at member
      obtain ⟨episode, inHistory, rfl⟩ := member
      rcases mem_of_mem_pushBounded inHistory with earlier | rfl
      · exact List.mem_append_left _ (List.mem_map_of_mem earlier)
      · simp [EpisodeLog.eventIds, CongestionDomain.log, isOpen, CongestionEpisode.closed]
    · exact Or.inl ⟨domain, found, written ▸ member⟩
  · rw [fresh] at member
    exact absurd member (by simp [EpisodeLog.eventIds])

end CongestionFabric
