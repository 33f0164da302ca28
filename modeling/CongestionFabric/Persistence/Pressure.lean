import CongestionFabric.Engine.Advice
import CongestionFabric.Engine.Fence
import CongestionFabric.Engine.Twins
import CongestionFabric.Persistence.Loaded

/-!
Contract: backpressure is advised from live congestion.

Owns the statement that `eval_backpressure` wants something done only for a domain
whose state is live, the steps that leave a domain awaiting revalidation with its old
deficit, and the theorem that the statement holds throughout a run exactly if the run
has no such step.

`eval_backpressure` compares the numbers of the states, and STALE and
REVALIDATION_REQUIRED are numbered above SATURATED.
-/

namespace CongestionFabric

open Foundation

section Engine

variable {R : Type} [Arithmetic R] {limits : EngineLimits} {now : UInt64} {op : Op R}
  {state : Impl R} {id : CongestionDomainId} {domain : CongestionDomain R} {text : R → Bytes}

/-! ## One state -/

/-- An intent other than NO_ACTION is for a domain whose state is live. -/
def Impl.PressureLive (text : R → Bytes) (state : Impl R) : Prop :=
  ∀ id, (state.evalBackpressure text id).intent ≠ (ActionIntent.noAction : Enum8 _) →
    ∃ domain, state.domains.find? id = some domain ∧ domain.state.isLive = true

/-- The cached rates of the domain show a deficit; a difference that is not ordered
counts as one. -/
def CongestionDomain.inDeficit (domain : CongestionDomain R) : Bool :=
  !decide (domain.offeredBps - domain.servicedBps ≤ 0.0)

/-- The domain awaits revalidation, and its old rates show a deficit. -/
def CongestionDomain.stranded (domain : CongestionDomain R) : Bool :=
  domain.state.awaitsRevalidation && domain.inDeficit

/-- No domain is stranded. -/
def Impl.NoneStranded (state : Impl R) : Prop :=
  ∀ id domain, state.domains.find? id = some domain → domain.stranded = false

private theorem isLive_eq_false {cached : CongestionState} (dead : cached.isLive = false)
    (high : ¬Enumeration.toU8 cached < Enumeration.toU8 CongestionState.saturated) :
    cached.awaitsRevalidation = true := by
  revert dead high
  cases cached <;> decide

/-- When `eval_backpressure` wants something done. -/
private theorem intent_ne_noAction :
    (state.evalBackpressure text id).intent ≠ (ActionIntent.noAction : Enum8 _) ↔
      ∃ domain, state.domains.find? id = some domain ∧
        ¬Enumeration.toU8 domain.state < Enumeration.toU8 CongestionState.saturated ∧
        domain.inDeficit = true := by
  cases stored : state.domains.find? id with
  | none => simp [Impl.evalBackpressure, stored]
  | some domain =>
      have wanted : domain.warrantsAction = true ↔
          ¬Enumeration.toU8 domain.state < Enumeration.toU8 CongestionState.saturated ∧
            domain.inDeficit = true := by
        rw [CongestionDomain.warrantsAction_iff, CongestionDomain.inDeficit, Bool.not_eq_true',
          decide_eq_false_iff_not]
      simp only [Option.some.injEq, exists_eq_left']
      rw [← wanted]
      cases warranted : domain.warrantsAction with
      | false =>
          rw [Impl.evalBackpressure_of_calm text stored warranted]
          exact iff_of_false (fun differs => differs rfl) (by simp)
      | true =>
          rw [(Impl.evalBackpressure_of_warranted text stored warranted).1]
          refine iff_of_true (fun idle => ?_) rfl
          have restrictive := domain.state.intentIsRestrictive_intent
          rw [idle] at restrictive
          exact absurd restrictive (by decide)

/-- `eval_backpressure` is right in a state exactly if no domain is stranded in it. -/
theorem noneStranded_iff_pressureLive : state.NoneStranded ↔ state.PressureLive text := by
  constructor
  · intro none id advised
    obtain ⟨domain, stored, high, deficit⟩ := intent_ne_noAction.mp advised
    refine ⟨domain, stored, ?_⟩
    by_contra dead
    have awaits := isLive_eq_false (Bool.eq_false_iff.mpr dead) high
    have stranded := none id domain stored
    simp [CongestionDomain.stranded, awaits, deficit] at stranded
  · intro live id domain stored
    by_contra stranded
    rw [Bool.not_eq_false, CongestionDomain.stranded, Bool.and_eq_true] at stranded
    obtain ⟨awaits, deficit⟩ := stranded
    have high : ¬Enumeration.toU8 domain.state < Enumeration.toU8 CongestionState.saturated ∧
        domain.state.isLive = false := by
      revert awaits
      cases domain.state <;> decide
    obtain ⟨found, same, alive⟩ := live id
      (intent_ne_noAction.mpr ⟨domain, stored, high.1, deficit⟩)
    obtain rfl := Option.some.inj (stored.symm.trans same)
    exact absurd (alive.symm.trans high.2) (by simp)

/-! ## One operation -/

/-- Recovery would strand the domain: it leaves UNKNOWN domains alone, and keeps the
rates of all. -/
def CongestionDomain.strandable (domain : CongestionDomain R) : Bool :=
  domain.state ≠ .unknown && domain.inDeficit

private theorem requireRevalidation_stranded (domain : CongestionDomain R) :
    domain.requireRevalidation.stranded = domain.strandable := by
  obtain ⟨_, _, required⟩ := domain.requireRevalidation_eq
  rw [required]
  by_cases unknown : domain.state = .unknown
  · simp [CongestionDomain.stranded, CongestionDomain.strandable, unknown,
      CongestionState.awaitsRevalidation]
  · simp [CongestionDomain.stranded, CongestionDomain.strandable, unknown,
      CongestionState.awaitsRevalidation, CongestionDomain.inDeficit]

/-- The fence of the worker would leave a deficit: what it published counts as nothing. -/
def CongestionDomain.strandableWithout (domain : CongestionDomain R) (worker : WorkerId)
    (deadBoot : WorkerBootId) : Bool :=
  let offered := if domain.ownsOffered worker deadBoot then 0.0 else domain.offeredBps
  let serviced := if domain.ownsServiced worker deadBoot then 0.0 else domain.servicedBps
  domain.state ≠ .unknown && !decide (offered - serviced ≤ 0.0)

/-- The domains that a fence invalidates if it is accepted: in the order of the map, all
from the first one with a rate of the worker on. -/
def Impl.invalidatedBy (state : Impl R) (worker : WorkerId) (deadBoot : WorkerBootId) :
    List (CongestionDomainId × CongestionDomain R) :=
  if (fenceBoot state.workerBoot worker deadBoot).isSome then
    state.domains.entries.dropWhile fun entry => !entry.2.ratedBy (worker, deadBoot)
  else []

private theorem dropEvidence_stranded {worker : WorkerId} {deadBoot : WorkerBootId}
    {invalidated : Bool} (marked : (invalidated || domain.ratedBy (worker, deadBoot)) = true) :
    (domain.dropEvidence worker deadBoot invalidated).2.stranded =
      domain.strandableWithout worker deadBoot := by
  obtain ⟨any, set, written⟩ := domain.dropEvidence_eq worker deadBoot invalidated
  obtain rfl := set.trans marked
  rw [written]
  by_cases unknown : domain.state = .unknown
  · simp [CongestionDomain.stranded, CongestionDomain.strandableWithout, unknown,
      CongestionState.awaitsRevalidation]
  · simp [CongestionDomain.stranded, CongestionDomain.strandableWithout, unknown,
      CongestionState.awaitsRevalidation, CongestionDomain.inDeficit]

/-- The loop of the fence, from its flag on. -/
private theorem accumulate_stranded (worker : WorkerId) (deadBoot : WorkerBootId)
    {entries : List (CongestionDomainId × CongestionDomain R)}
    (none : ∀ entry ∈ entries, entry.2.stranded = false) (flag : Bool) :
    ((UnorderedMap.accumulate (fun anyInvalidated _ domain =>
        CongestionDomain.dropEvidence worker deadBoot anyInvalidated domain) flag entries).any
        fun entry => entry.2.stranded) =
      (if flag then entries
        else entries.dropWhile fun entry => !entry.2.ratedBy (worker, deadBoot)).any
        fun entry => entry.2.strandableWithout worker deadBoot := by
  induction entries generalizing flag with
  | nil => cases flag <;> rfl
  | cons head rest inductionHypothesis =>
      obtain ⟨id, domain⟩ := head
      have others := inductionHypothesis fun entry member =>
        none entry (List.mem_cons_of_mem _ member)
      rw [UnorderedMap.accumulate, List.any_cons, others, CongestionDomain.dropEvidence_flag]
      cases flag with
      | true =>
          rw [dropEvidence_stranded (Bool.true_or _)]
          rfl
      | false =>
          cases rated : domain.ratedBy (worker, deadBoot) with
          | true =>
              rw [dropEvidence_stranded (by rw [rated, Bool.or_true])]
              simp [rated]
          | false =>
              rw [dropEvidence_alone rated, none _ List.mem_cons_self]
              simp [rated]

/-- What a fence strands. -/
private theorem Impl.NoneStranded.fence_iff (none : state.NoneStranded) (worker : WorkerId)
    (deadBoot : WorkerBootId) :
    ((state.invalidatedBy worker deadBoot).any fun entry =>
        entry.2.strandableWithout worker deadBoot) = false ↔
      (state.fenceWorker worker deadBoot).2.NoneStranded := by
  unfold Impl.invalidatedBy
  cases fenced : fenceBoot state.workerBoot worker deadBoot with
  | none =>
      have refused : (state.fenceWorker worker deadBoot).2 = state := by
        unfold Impl.fenceWorker
        rw [fenced]
      rw [refused]
      exact iff_of_true rfl none
  | some workerBoot =>
      have listed : ∀ entry ∈ state.domains.entries, entry.2.stranded = false :=
        fun entry member => none entry.1 entry.2 (UnorderedMap.mem_entries_iff.mp member)
      have walked := accumulate_stranded worker deadBoot listed false
      rw [if_neg Bool.false_ne_true] at walked
      rw [Option.isSome_some, if_pos rfl, ← walked, fenceWorker_eq fenced]
      change ((state.domains.mapAccumulate _ false).entries.any fun entry =>
        entry.2.stranded) = false ↔ _
      exact UnorderedMap.any_entries_eq_false

private theorem clearRevalidation_notStranded (domain : CongestionDomain R) :
    domain.clearRevalidation.stranded = false := by
  rw [domain.clearRevalidation_eq]
  cases awaits : domain.state.awaitsRevalidation with
  | true => rfl
  | false => simp [CongestionDomain.stranded, awaits]

/-- A publication clears a pending revalidation, whatever rate it sets. -/
private theorem record_notStranded (domain : CongestionDomain R) (measurement : Measurement R)
    (owner : WorkerId) (ownerBoot : WorkerBootId) :
    (domain.record measurement owner ownerBoot).stranded = false := by
  have cleared : domain.clearRevalidation.state.awaitsRevalidation = false := by
    rw [domain.clearRevalidation_eq]
    cases awaits : domain.state.awaitsRevalidation with
    | true => rfl
    | false => simpa using awaits
  have same : (domain.record measurement owner ownerBoot).state =
      domain.clearRevalidation.state := by
    unfold CongestionDomain.record
    dsimp only
    split_ifs <;> rfl
  rw [CongestionDomain.stranded, same, cleared, Bool.false_and]

/-- A recomputation keeps the rates, and lifts no revalidation. -/
private theorem recomputed_stranded (limits : EngineLimits) (now : UInt64) (state : Impl R)
    (domain : CongestionDomain R) :
    (state.recomputed limits now domain).2.stranded = domain.stranded := by
  obtain ⟨_, _, _, written⟩ := state.recomputed_eq limits now domain
  rw [written]
  unfold CongestionDomain.stranded
  dsimp only
  rw [assess_awaits]
  rfl

private theorem domainAfter_notStranded {invalidated : Bool} (kept : domain.stranded = false)
    (notFence : ∀ worker deadBoot, op ≠ .fenceWorker worker deadBoot)
    (notRecover : op ≠ .recoverDynamicEvidence) :
    (domainAfter limits now op state invalidated id domain).stranded = false := by
  refine domainAfter_elim (motive := fun after => after.stranded = false) kept ?_ ?_ ?_ ?_ ?_ ?_ ?_
  · exact fun worker deadBoot fences _ => absurd fences (notFence worker deadBoot)
  · exact fun _ _ _ => kept
  · exact fun _ _ _ _ => clearRevalidation_notStranded domain
  · exact fun measurement owner ownerBoot _ _ =>
      record_notStranded domain measurement owner ownerBoot
  · exact fun _ => (recomputed_stranded limits now state domain).trans kept
  · exact fun _ _ _ => kept
  · exact fun recovers => absurd recovers notRecover

private theorem newDomain_notStranded (id : CongestionDomainId) (kind : Enum8 DomainKind)
    (capacity : CapacityProfile R) : (Impl.newDomain id kind capacity).stranded = false := rfl

/-- No other operation strands a domain. -/
private theorem Impl.NoneStranded.exec (none : state.NoneStranded)
    (notFence : ∀ worker deadBoot, op ≠ .fenceWorker worker deadBoot)
    (notRecover : op ≠ .recoverDynamicEvidence) (limits : EngineLimits) (now : UInt64) :
    (exec limits now op state).2.NoneStranded := by
  intro id after stored
  rcases exec_domain_origin stored with ⟨domain, invalidated, found, -, rfl⟩ |
    ⟨kind, capacity, -, -, -, -, rfl⟩
  · exact domainAfter_notStranded (none id domain found) notFence notRecover
  · exact newDomain_notStranded id kind capacity

end Engine

/-! ## Runs -/

variable {limits : EngineLimits} {state next : Impl Binary64}

/-- The event strands a domain: a recovery while one with a deficit is not UNKNOWN, a
fence while one that it invalidates is not UNKNOWN and has a deficit without the worker's
rates, or a load of a file that has one with a deficit which is not UNKNOWN. -/
def Event.strands (state : Impl Binary64) : Event → Bool
  | .engine (.call _ .recoverDynamicEvidence) =>
      state.domains.entries.any fun entry => entry.2.strandable
  | .engine (.call _ (.fenceWorker worker deadBoot)) =>
      (state.invalidatedBy worker deadBoot).any fun entry =>
        entry.2.strandableWithout worker deadBoot
  | .load file => (file.bind Impl.decode).any fun persisted =>
      persisted.domains.entries.any fun entry => entry.2.strandable
  | _ => false

/-- What the recovery pass makes of a table of domains. -/
private theorem none_revalidated
    {before after : UnorderedMap CongestionDomainId (CongestionDomain Binary64)}
    (revalidated : ∀ id domain, after.find? id = some domain ↔
      ∃ earlier, before.find? id = some earlier ∧ earlier.requireRevalidation = domain) :
    (before.entries.any fun entry => entry.2.strandable) = false ↔
      ∀ id domain, after.find? id = some domain → domain.stranded = false := by
  rw [UnorderedMap.any_entries_eq_false]
  constructor
  · intro none id domain stored
    obtain ⟨earlier, found, rfl⟩ := (revalidated id domain).mp stored
    rw [requireRevalidation_stranded]
    exact none id earlier found
  · intro none id earlier found
    rw [← requireRevalidation_stranded]
    exact none id _ ((revalidated id _).mpr ⟨earlier, found, rfl⟩)

private theorem Impl.NoneStranded.event_iff (none : state.NoneStranded) {event : Event}
    (step : FileStep limits state event next) :
    event.strands state = false ↔ next.NoneStranded := by
  cases step with
  | engine taken =>
      cases taken with
      | call now op =>
          cases op with
          | fenceWorker worker deadBoot => exact none.fence_iff worker deadBoot
          | recoverDynamicEvidence =>
              exact none_revalidated fun id domain => UnorderedMap.find?_mapValues_eq_some
          | _ => exact iff_of_true rfl (none.exec (by simp) (by simp) limits now)
      | rehash same =>
          refine iff_of_true rfl fun id domain stored => ?_
          rw [← same.domains.find?_eq] at stored
          exact none id domain stored
  | load file =>
      cases decoded : file.bind Impl.decode with
      | none =>
          have refused : (state.load file).2 = state := by simp only [Impl.load_eq, decoded]
          rw [refused]
          refine iff_of_true ?_ none
          simp only [Event.strands, decoded, Option.any_none]
      | some persisted =>
          have accepted : (state.load file).2 = (state.commit persisted).revalidateAll := by
            simp only [Impl.load_eq, decoded]
          rw [accepted]
          simp only [Event.strands, decoded, Option.any_some]
          exact none_revalidated fun id domain => Impl.committed_domain_iff

/-- Along every run, whatever files it loads: `eval_backpressure` advises something
only for domains whose state is live, in every state of the run, exactly if no step of
the run leaves a domain that awaits revalidation with a deficit. -/
theorem pressureLive_throughout_iff {history : List (Impl Binary64 × Event)}
    {final : Impl Binary64} (text : Binary64 → Bytes)
    (run : Run (FileStep limits) Impl.fresh history final) :
    EveryStep history (fun _ state event => event.strands state = false) ↔
      Throughout history final fun _ state => state.PressureLive text := by
  have initial : (Impl.fresh : Impl Binary64).NoneStranded :=
    fun id domain stored => absurd stored (by simp [Impl.fresh])
  have exactly := @Run.everyStep_iff_throughout _ _ _ _ _ _ (fun _ state => state.NoneStranded)
    (fun _ state event => event.strands state = false) run fun none step => none.event_iff step
  have same : (fun (_ : List (Impl Binary64 × Event)) (state : Impl Binary64) =>
      state.PressureLive text) = fun _ state => state.NoneStranded :=
    funext fun _ => funext fun _ => propext noneStranded_iff_pressureLive.symm
  rw [same, ← exactly, and_iff_right initial]

/-- A domain whose offered load exceeds its capacity, and whose serviced load is given. -/
private def pressed (serviced : Binary64) : List Event :=
  [.engine (.call 1 (.createDomain DomainKind.nicTx (.ofTheoretical 1000.0))),
    .engine (.call 2 (.publishMeasurement ⟨1⟩
      { kind := MeasurementKind.offeredBytesPerSec, value := 2000.0 } ⟨0⟩ ⟨0⟩)),
    .engine (.call 3 (.recomputeDomain ⟨1⟩)),
    .engine (.call 4 (.publishMeasurement ⟨1⟩
      { kind := MeasurementKind.completedBytesPerSec, value := serviced } ⟨0⟩ ⟨0⟩)),
    .engine (.call 5 .recoverDynamicEvidence)]

theorem pressed_balanced_live :
    Throughout
      ([] ++ followed (fun state event => event.next {} state) (pressed 2000.0) Impl.fresh)
      (follow (fun state event => event.next {} state) (pressed 2000.0) Impl.fresh)
      fun _ reached => reached.PressureLive Binary64.toDecimal :=
  (pressureLive_throughout_iff Binary64.toDecimal
    (run_follow (fileStep_next {}) (pressed 2000.0) Run.nil)).mp (by decide +kernel)

/-- After the recovery the domain awaits revalidation, and the old rates still yield
ADMIT_LIMITED. -/
theorem pressed_not_live :
    ¬∀ (limits : EngineLimits) (history : List (Impl Binary64 × Event)) (final : Impl Binary64),
      Run (FileStep limits) Impl.fresh history final →
        Throughout history final fun _ reached => reached.PressureLive Binary64.toDecimal := by
  intro always
  have live := (always {} _ _ (run_follow (fileStep_next {}) (pressed 0.0) Run.nil)).2
  have none := noneStranded_iff_pressureLive.mpr live ⟨1⟩ _
    (Option.some_get (by decide +kernel)).symm
  exact absurd none (by decide +kernel)

end CongestionFabric
