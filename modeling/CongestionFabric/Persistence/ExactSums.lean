import CongestionFabric.Engine.Bindings
import CongestionFabric.Engine.Sums
import CongestionFabric.Persistence.Loaded

/-!
Contract: exact byte sums along runs.

Owns the calls that can raise a byte sum of a domain, and the exact condition on these
steps of a run under which every byte sum that the engine forms is the mathematical one
in every state.

Does not own: the sums of one domain. The operations check every counter of a flow
on its own, and nothing bounds the counters of several flows together.
-/

namespace CongestionFabric

open Foundation

/-! ## What raises a sum -/

section Engine

variable {R : Type} [Arithmetic R] {limits : EngineLimits} {now : UInt64} {op : Op R}
  {state next : Impl R} {id : FlowId} {flow : Flow R} {domain : CongestionDomain R}

/-- What a flow adds to the five sums, if it is included. -/
def Flow.amounts : List (Flow R → Nat) :=
  [fun flow => (if flow.isQueued then flow.admittedBytes.value else 0).toNat,
    fun flow => (if flow.isInFlight then flow.inFlightBytes.value else 0).toNat,
    fun flow => flow.completedBytes.value.toNat, fun flow => flow.cancelledBytes.value.toNat,
    fun flow => flow.failedBytes.value.toNat]

/-- What a flow counts for in a sum. -/
def Flow.counted (amount : Flow R → Nat) (flow : Flow R) : Nat :=
  if flow.state.isStaleOrSuperseded then 0 else amount flow

/-- What a reference counts for. -/
def countedAt (amount : Flow R → Nat) (flows : UnorderedMap FlowId (Flow R))
    (ref : EntityRef FlowTag) : Nat :=
  (findFlow flows ref).elim 0 (Flow.counted amount)

/-- A sum of the domain, reference by reference. -/
def countedIn (amount : Flow R → Nat) (domain : CongestionDomain R)
    (flows : UnorderedMap FlowId (Flow R)) : Nat :=
  (domain.flows.map (countedAt amount flows)).sum

private theorem sum_includedFlows (amount : Flow R → Nat) (flows : UnorderedMap FlowId (Flow R)) :
    ((includedFlows domain flows).map amount).sum = countedIn amount domain flows := by
  unfold includedFlows countedIn
  induction domain.flows with
  | nil => rfl
  | cons ref rest inductionHypothesis =>
      rw [List.map_cons, List.sum_cons, ← inductionHypothesis, countedAt]
      cases found : findFlow flows ref with
      | none => simp [found]
      | some flow =>
          cases stale : flow.state.isStaleOrSuperseded with
          | true => simp [found, stale, Flow.counted, Option.filter]
          | false => simp [found, stale, Flow.counted, Option.filter]

/-- The bytes of a domain fit if every sum does. -/
theorem bytesFit_iff_countedIn {flows : UnorderedMap FlowId (Flow R)} :
    domain.BytesFit flows ↔ ∀ amount ∈ Flow.amounts, countedIn amount domain flows < 2 ^ 64 := by
  simp only [Flow.amounts, List.forall_mem_cons, ← sum_includedFlows, sum_map_filter]
  constructor
  · intro fit
    exact ⟨fit.queued, fit.inFlight, fit.completed, fit.cancelled, fit.failed,
      fun _ member => absurd member List.not_mem_nil⟩
  · rintro ⟨queued, inFlight, completed, cancelled, failed, -⟩
    exact ⟨queued, inFlight, completed, cancelled, failed⟩

/-- The calls that can raise a sum: those that move bytes, and those after which a reference
or a flow can count again. -/
def Op.raisesSums : Op R → Bool
  | .queueFlow _ | .startFlow .. | .flowProgress .. | .flowComplete .. | .flowCancel ..
  | .flowFail .. | .advanceFlowGeneration .. | .revalidateFlow .. => true
  | _ => false

/-- Any other call keeps the reference of a flow, which counts for no more than before. -/
private theorem flowAfter_counted (limits : EngineLimits) (now : UInt64) (state : Impl R)
    (id : FlowId) (sound : flow.WellAccounted) (quiet : op.raisesSums = false)
    {amount : Flow R → Nat}
    (member : amount ∈ Flow.amounts) :
    (flowAfter limits now op state id flow).ref = flow.ref ∧
      (flowAfter limits now op state id flow).counted amount ≤ flow.counted amount := by
  have fence : ∀ owned, (flow.fence owned).ref = flow.ref ∧
      (flow.fence owned).counted amount ≤ flow.counted amount := by
    intro owned
    unfold Flow.fence
    split
    · exact ⟨rfl, by simp [Flow.counted, FlowState.isStaleOrSuperseded]⟩
    · exact ⟨rfl, Nat.le_refl _⟩
  apply flowAfter_elim (motive := fun after => after.ref = flow.ref ∧
    after.counted amount ≤ flow.counted amount)
  case same => exact ⟨rfl, Nat.le_refl _⟩
  case fenceWorker => exact fun _ _ _ _ => fence _
  case fenceSource => exact fun _ _ _ _ => fence _
  case admission =>
    intro ref _ _
    rcases sound.admission (state.domains.contains flow.domain.id) with
      ⟨-, refused⟩ | ⟨declared, -, admitted⟩
    · rw [refused]
      exact ⟨rfl, Nat.le_refl _⟩
    · rw [admitted]
      refine ⟨rfl, ?_⟩
      simp only [Flow.amounts, List.mem_cons, List.not_mem_nil, or_false] at member
      rcases member with rfl | rfl | rfl | rfl | rfl
      all_goals
        simp [Flow.counted, declared, Flow.isQueued, Flow.isInFlight, FlowState.canProgress,
          FlowState.isStaleOrSuperseded]
  case recover =>
    intro _
    unfold Flow.requireRevalidation
    split
    · next running =>
        refine ⟨rfl, ?_⟩
        simp only [Bool.and_eq_true, Bool.not_eq_true'] at running
        have counts : flow.counted amount = amount flow := by
          rw [Flow.counted, running.2, if_neg Bool.false_ne_true]
        rw [counts]
        simp only [Flow.amounts, List.mem_cons, List.not_mem_nil, or_false] at member
        rcases member with rfl | rfl | rfl | rfl | rfl
        all_goals
          simp [Flow.counted, Flow.isQueued, Flow.isInFlight, FlowState.canProgress,
            FlowState.isStaleOrSuperseded]
    · exact ⟨rfl, Nat.le_refl _⟩
  all_goals
    intros
    subst_vars
    exact absurd quiet (by simp [Op.raisesSums])

/-- A flow that is declared or just admitted counts for nothing. -/
private theorem counted_early {flow : Flow R} (sound : flow.WellAccounted)
    (early : flow.state = .declared ∨ flow.state = .admitted) {amount : Flow R → Nat}
    (member : amount ∈ Flow.amounts) : flow.counted amount = 0 := by
  have live : flow.state.live = true := by rcases early with early | early <;> rw [early] <;> rfl
  have completed := sound.unprogressed early
  obtain ⟨cancelled, failed⟩ := sound.unfinished live
  simp only [Flow.amounts, List.mem_cons, List.not_mem_nil, or_false] at member
  rcases member with rfl | rfl | rfl | rfl | rfl
  all_goals
    rcases early with early | early <;>
      simp [Flow.counted, early, Flow.isQueued, Flow.isInFlight, FlowState.canProgress,
        completed, cancelled, failed]

/-- No reference counts for more after such a call. -/
private theorem countedAt_exec_le (limits : EngineLimits) (now : UInt64)
    (sound : state.WellAccounted) (quiet : op.raisesSums = false) {amount : Flow R → Nat}
    (member : amount ∈ Flow.amounts) (ref : EntityRef FlowTag) :
    countedAt amount (exec limits now op state).2.flows ref ≤ countedAt amount state.flows ref := by
  unfold countedAt
  cases found : findFlow (exec limits now op state).2.flows ref with
  | none => exact Nat.zero_le _
  | some after =>
      obtain ⟨stored, current⟩ := findFlow_eq_some.mp found
      have accounted := sound.exec limits now op ref.id after stored
      rcases exec_flow_origin stored with ⟨flow, earlier, rfl⟩ | ⟨options, -, -, -, -, rfl⟩
      · obtain ⟨same, less⟩ :=
          flowAfter_counted limits now state ref.id (sound _ _ earlier) quiet member
        have resolved : findFlow state.flows ref = some flow :=
          findFlow_eq_some.mpr ⟨earlier, by rw [← same]; exact current⟩
        rw [resolved]
        exact less
      · rw [Option.elim_some, counted_early accounted (Or.inl rfl) member]
        exact Nat.zero_le _

/-- The reference that an admission pushes counts for nothing yet. -/
private theorem countedAt_pushed (limits : EngineLimits) (now : UInt64)
    (sound : state.WellAccounted) {ref : EntityRef FlowTag} {id : CongestionDomainId}
    (reached : state.reaches ref
      (fun flow => (flow.admission (state.domains.contains flow.domain.id)).1) id = true)
    {amount : Flow R → Nat} (member : amount ∈ Flow.amounts) :
    countedAt amount (exec limits now (.admitFlow ref) state).2.flows ref = 0 := by
  obtain ⟨flow, resolved, accepted⟩ := (Option.any_eq_true _ _).mp reached
  obtain ⟨earlier, current⟩ := findFlow_eq_some.mp resolved
  have admits : (flow.admission (state.domains.contains flow.domain.id)).1 = true :=
    (Bool.and_eq_true_iff.mp accepted).1
  have moved : (exec limits now (.admitFlow ref) state).2.flows.find? ref.id =
      some (flowAfter limits now (.admitFlow ref) state ref.id flow) := exec_flow earlier
  have written : flowAfter limits now (.admitFlow ref) state ref.id flow =
      (flow.admission (state.domains.contains flow.domain.id)).2 :=
    if_pos ⟨rfl, current⟩
  rcases (sound _ _ earlier).admission (state.domains.contains flow.domain.id) with
    ⟨-, refused⟩ | ⟨-, -, admitted⟩
  · rw [refused] at admits
    exact absurd admits Bool.false_ne_true
  · rw [written, admitted] at moved
    rw [countedAt, findFlow_eq_some.mpr ⟨moved, current⟩]
    exact counted_early (sound.exec limits now (.admitFlow ref) _ _ moved) (Or.inr rfl) member

/-- A call that moves no bytes keeps the sums within 64 bits. -/
theorem Impl.BytesFit.exec (fit : state.BytesFit) (sound : state.WellAccounted)
    (quiet : op.raisesSums = false) (limits : EngineLimits) (now : UInt64) :
    (exec limits now op state).2.BytesFit := by
  intro id after stored
  rw [bytesFit_iff_countedIn]
  intro amount member
  have less := countedAt_exec_le limits now sound quiet member
  rcases exec_domain_origin stored with ⟨domain, invalidated, found, -, rfl⟩ |
    ⟨kind, capacity, -, -, -, -, rfl⟩
  · have before := bytesFit_iff_countedIn.mp (fit id domain found) amount member
    have listed : (domain.flows.map (countedAt amount (CongestionFabric.exec limits now op
        state).2.flows)).sum ≤ countedIn amount domain state.flows :=
      List.sum_le_sum fun ref _ => less ref
    unfold countedIn
    rcases domainAfter_flows limits now op state invalidated id domain with
      same | ⟨ref, rfl, reached, pushed⟩
    · rw [same]
      exact Nat.lt_of_le_of_lt listed before
    · rw [pushed, List.map_append, List.sum_append, List.map_singleton, List.sum_singleton,
        countedAt_pushed limits now sound reached member]
      exact Nat.lt_of_le_of_lt listed before
  · simp [countedIn, Impl.newDomain]

/-- Every byte sum that the engine forms for any of its domains is exact. -/
def Impl.SumsExact (state : Impl R) : Prop :=
  ∀ id domain, state.domains.find? id = some domain → domain.SumsExact state.flows

theorem Impl.sumsExact_iff : state.SumsExact ↔ state.BytesFit :=
  forall_congr' fun _ => forall_congr' fun _ => imp_congr_right fun _ =>
    CongestionDomain.sumsExact_iff

end Engine

/-! ## Runs -/

variable {limits : EngineLimits} {history : List (Impl Binary64 × Event)}
  {state next final : Impl Binary64} {event : Event}

/-- The event can raise a byte sum. -/
def Event.raisesSums : Event → Bool
  | .engine (.call _ op) => op.raisesSums
  | .engine .rehash => false
  | .load _ => true

private theorem bytesFit_fileStep_iff (sound : state.WellAccounted) (fit : state.BytesFit)
    (step : FileStep limits state event next) :
    (event.raisesSums = true → (event.next limits state).BytesFit) ↔ next.BytesFit := by
  cases step with
  | engine step =>
      cases step with
      | call now op =>
          cases raises : op.raisesSums with
          | true => exact ⟨fun kept => kept raises, fun kept _ => kept⟩
          | false =>
              refine iff_of_true (fun raised => ?_) (fit.exec sound raises limits now)
              exact absurd (raises.symm.trans raised) Bool.false_ne_true
      | rehash same => exact iff_of_true (by simp [Event.raisesSums]) (same.bytesFit_iff.mpr fit)
  | load file => exact ⟨fun kept => kept rfl, fun kept _ => kept⟩

/-- In every run the byte sums of all domains are exact in every state if and only
if no load, and no call that moves bytes, advances a generation or revalidates a flow,
leaves a domain whose included flows have, in one of the counters, more bytes than 64
bits hold. -/
theorem sumsExact_throughout_iff (run : Run (FileStep limits) Impl.fresh history final) :
    (∀ taken ∈ history, taken.2.raisesSums = true →
        (taken.2.next limits taken.1).BytesFit) ↔
      Throughout history final fun _ state => state.SumsExact := by
  apply run.forall_iff_throughout Impl.WellAccounted
    (fun state event => event.raisesSums = true → (event.next limits state).BytesFit)
    Impl.wellAccounted_fresh
  · intro id domain stored
    exact absurd stored (by simp [Impl.fresh, UnorderedMap.empty, UnorderedMap.find?])
  · exact fun sound taken => sound.fileStep taken
  · intro state event next sound exact step
    rw [Impl.sumsExact_iff]
    exact bytesFit_fileStep_iff sound (Impl.sumsExact_iff.mp exact) step

/-- Two flows of the same size, admitted to one domain and queued. -/
private def queuesTwo (submittedBytes : UInt64) : List Event :=
  [.registerWorker ⟨1⟩ ⟨1⟩, .registerSource ⟨1⟩ ⟨1⟩,
    .createDomain DomainKind.nicTx (.ofTheoretical 1000.0),
    .declareFlow (.ofFirst submittedBytes), .declareFlow (.ofFirst submittedBytes),
    .admitFlow ⟨⟨1⟩, ⟨1⟩⟩, .admitFlow ⟨⟨2⟩, ⟨1⟩⟩, .queueFlow ⟨⟨1⟩, ⟨1⟩⟩,
    .queueFlow ⟨⟨2⟩, ⟨1⟩⟩].map fun op => .engine (.call 1 op)

private def queuedTwo (submittedBytes : UInt64) : Impl Binary64 :=
  follow (fun state event => event.next {} state) (queuesTwo submittedBytes) Impl.fresh

private theorem run_queuedTwo (submittedBytes : UInt64) : Run (FileStep {}) Impl.fresh
    ([] ++ followed (fun state event => event.next {} state) (queuesTwo submittedBytes) Impl.fresh)
    (queuedTwo submittedBytes) :=
  run_follow (fileStep_next {}) (queuesTwo submittedBytes) Run.nil

/-- Two flows of 500 bytes. -/
theorem queuedTwo_sums :
    Throughout (followed (fun state event => event.next {} state) (queuesTwo 500) Impl.fresh)
      (queuedTwo 500) fun _ state => state.SumsExact :=
  (sumsExact_throughout_iff (run_queuedTwo 500)).mp (by decide +kernel)

private theorem queuedTwo_stored :
    ((queuedTwo 9223372036854775808).domains.find? ⟨1⟩).isSome = true := by
  decide +kernel

/-- Two flows of 2 to the 63 bytes each: the backlog wraps to nothing, and the
domain is seen without a queue. -/
theorem queuedTwo_halves_wrap :
    ¬∀ (limits : EngineLimits) (history : List (Impl Binary64 × Event)) (final : Impl Binary64),
      Run (FileStep limits) Impl.fresh history final → final.SumsExact := by
  intro always
  have sums := always {} _ _ (run_queuedTwo 9223372036854775808)
  have seen := (sums ⟨1⟩ _ (Option.some_get queuedTwo_stored).symm).backlogSeen
    (by decide +kernel)
  exact absurd seen (by decide +kernel)

end CongestionFabric
