import CongestionFabric.Engine.Advice
import CongestionFabric.Foundation.Wrap
import Mathlib.Algebra.Order.BigOperators.Group.List
import Mathlib.Algebra.Order.Ring.Nat

/-!
Contract: the byte sums the engine forms over the flows of a domain.

Owns the flows that `aggregate_domain` and `evaluate_fairness` include, the
mathematical sums over them, what the 64-bit sums of the source are in terms of
these, and the exact condition under which no addition wraps.

Does not own: the operation counts, and which states an engine reaches.
-/

namespace CongestionFabric

open Foundation

variable {R : Type} [Arithmetic R]

/-! ## Included flows -/

/-- The flows that `aggregate_domain` includes, in list order. -/
def includedFlows (domain : CongestionDomain R) (flows : UnorderedMap FlowId (Flow R)) :
    List (Flow R) :=
  domain.flows.filterMap fun ref =>
    (findFlow flows ref).filter fun flow => !flow.state.isStaleOrSuperseded

/-- The flow adds to the queued bytes. -/
def Flow.isQueued (flow : Flow R) : Bool := flow.state = .queued

/-- The flow adds to the bytes in flight. -/
def Flow.isInFlight (flow : Flow R) : Bool := flow.state ≠ .queued && flow.state.canProgress

/-- The mathematical sum of a counter over a list of flows. -/
def totalBytes (counter : Flow R → ByteCounter) (flows : List (Flow R)) : Nat :=
  (flows.map fun flow => (counter flow).value.toNat).sum

/-- The mathematical queued backlog of a domain. -/
def backlogBytes (domain : CongestionDomain R) (flows : UnorderedMap FlowId (Flow R)) : Nat :=
  totalBytes Flow.admittedBytes ((includedFlows domain flows).filter Flow.isQueued)

/-- `total_completed` of `evaluate_fairness`. -/
def totalCompleted (parts : List (Flow R)) : UInt64 :=
  parts.foldl (fun total flow => total + flow.completedBytes.value) 0

/-- The observed share is taken of `total_completed`. -/
theorem share_observedShareBps (domain : CongestionDomain R) (parts : List (Flow R))
    (flow : Flow R) :
    (domain.share parts flow).observedShareBps =
      if totalCompleted parts > 0 then
        domain.servicedBps * (Arithmetic.ofUInt64 flow.completedBytes.value /
          Arithmetic.ofUInt64 (totalCompleted parts))
      else domain.servicedBps / Arithmetic.ofUInt64 (.ofNat parts.length) := rfl

theorem aggregateDomain_eq_foldl (domain : CongestionDomain R)
    (flows : UnorderedMap FlowId (Flow R)) :
    aggregateDomain domain flows = (includedFlows domain flows).foldl Aggregate.count {} := by
  unfold aggregateDomain includedFlows
  rw [List.foldl_filterMap]
  congr 1
  funext aggregate ref
  cases findFlow flows ref with
  | none => rfl
  | some flow =>
      cases inert : flow.state.isStaleOrSuperseded with
      | true => simp [Option.filter, inert]
      | false => simp [Option.filter, inert]

/-- The participants of `evaluate_fairness` are the included flows that can still
go on. -/
theorem liveFlows_eq_filter (domain : CongestionDomain R) (flows : UnorderedMap FlowId (Flow R)) :
    liveFlows domain flows =
      (includedFlows domain flows).filter fun flow => !flow.isTerminal := by
  unfold liveFlows includedFlows
  rw [List.filter_filterMap]
  apply List.filterMap_congr
  intro ref _
  cases findFlow flows ref with
  | none => rfl
  | some flow =>
      cases inert : flow.state.isStaleOrSuperseded <;> cases terminal : flow.isTerminal <;>
        simp [inert, terminal, Option.filter]

/-! ## The sums of the source -/

section Counters

variable (domain : CongestionDomain R) (flows : UnorderedMap FlowId (Flow R))

/-- A byte counter of the aggregate to which every included flow adds an amount. -/
private theorem toNat_aggregate (counter : Aggregate → UInt64) (amount : Flow R → UInt64)
    (start : counter {} = 0)
    (adds : ∀ aggregate flow, counter (aggregate.count flow) = counter aggregate + amount flow) :
    (counter (aggregateDomain domain flows)).toNat =
      ((includedFlows domain flows).map fun flow => (amount flow).toNat).sum % 2 ^ 64 := by
  rw [aggregateDomain_eq_foldl, toNat_foldl counter amount adds, start]
  exact congrArg (· % 2 ^ 64) (Nat.zero_add _)

theorem toNat_queuedBytes :
    (aggregateDomain domain flows).queuedBytes.toNat = backlogBytes domain flows % 2 ^ 64 := by
  rw [toNat_aggregate domain flows Aggregate.queuedBytes
    (fun flow => if flow.isQueued then flow.admittedBytes.value else 0) rfl, sum_map_filter]
  · rfl
  · intro aggregate flow
    by_cases queued : flow.state = .queued
    · simp [Aggregate.count, Flow.isQueued, queued]
    · by_cases progress : flow.state.canProgress = true
      · simp [Aggregate.count, Flow.isQueued, queued, progress]
      · simp [Aggregate.count, Flow.isQueued, queued, progress]

theorem toNat_inFlightBytes :
    (aggregateDomain domain flows).inFlightBytes.toNat =
      totalBytes Flow.inFlightBytes ((includedFlows domain flows).filter Flow.isInFlight) %
        2 ^ 64 := by
  rw [toNat_aggregate domain flows Aggregate.inFlightBytes
    (fun flow => if flow.isInFlight then flow.inFlightBytes.value else 0) rfl, sum_map_filter]
  · rfl
  · intro aggregate flow
    by_cases queued : flow.state = .queued
    · simp [Aggregate.count, Flow.isInFlight, queued]
    · by_cases progress : flow.state.canProgress = true
      · simp [Aggregate.count, Flow.isInFlight, queued, progress]
      · simp [Aggregate.count, Flow.isInFlight, queued, progress]

/-- The three counters to which every included flow adds. -/
theorem toNat_settledBytes :
    (aggregateDomain domain flows).completedBytes.toNat =
        totalBytes Flow.completedBytes (includedFlows domain flows) % 2 ^ 64 ∧
      (aggregateDomain domain flows).cancelledBytes.toNat =
        totalBytes Flow.cancelledBytes (includedFlows domain flows) % 2 ^ 64 ∧
      (aggregateDomain domain flows).failedBytes.toNat =
        totalBytes Flow.failedBytes (includedFlows domain flows) % 2 ^ 64 := by
  have settled : ∀ (counter : Aggregate → UInt64) (amount : Flow R → ByteCounter),
      counter {} = 0 →
      (∀ aggregate flow, counter (Aggregate.count aggregate flow) =
        counter aggregate + (amount flow).value) →
      (counter (aggregateDomain domain flows)).toNat =
        totalBytes amount (includedFlows domain flows) % 2 ^ 64 :=
    fun counter amount => toNat_aggregate domain flows counter fun flow => (amount flow).value
  refine ⟨settled _ _ rfl ?_, settled _ _ rfl ?_, settled _ _ rfl ?_⟩
  all_goals
    intro aggregate flow
    unfold Aggregate.count
    dsimp only
    split_ifs <;> rfl

end Counters

theorem toNat_totalCompleted (parts : List (Flow R)) :
    (totalCompleted parts).toNat = totalBytes Flow.completedBytes parts % 2 ^ 64 := by
  have accumulated := toNat_foldl (fun total : UInt64 => total)
    (fun flow : Flow R => flow.completedBytes.value) (fun _ _ => rfl) parts 0
  exact accumulated.trans (congrArg (· % 2 ^ 64) (Nat.zero_add _))

/-! ## Exact sums -/

namespace CongestionDomain

/-- Every byte sum that the engine forms for the domain is the mathematical one,
and a backlog is seen as a queue. -/
structure SumsExact (domain : CongestionDomain R) (flows : UnorderedMap FlowId (Flow R)) :
    Prop where
  queued : (aggregateDomain domain flows).queuedBytes.toNat = backlogBytes domain flows
  inFlight : (aggregateDomain domain flows).inFlightBytes.toNat =
    totalBytes Flow.inFlightBytes ((includedFlows domain flows).filter Flow.isInFlight)
  completed : (aggregateDomain domain flows).completedBytes.toNat =
    totalBytes Flow.completedBytes (includedFlows domain flows)
  cancelled : (aggregateDomain domain flows).cancelledBytes.toNat =
    totalBytes Flow.cancelledBytes (includedFlows domain flows)
  failed : (aggregateDomain domain flows).failedBytes.toNat =
    totalBytes Flow.failedBytes (includedFlows domain flows)
  totalCompleted : (totalCompleted (liveFlows domain flows)).toNat =
    totalBytes Flow.completedBytes (liveFlows domain flows)
  backlogSeen : 0 < backlogBytes domain flows → (aggregateDomain domain flows).queuedBytes > 0

/-- The bytes of the included flows fit into 64 bits, counter by counter. -/
structure BytesFit (domain : CongestionDomain R) (flows : UnorderedMap FlowId (Flow R)) :
    Prop where
  queued : backlogBytes domain flows < 2 ^ 64
  inFlight : totalBytes Flow.inFlightBytes
    ((includedFlows domain flows).filter Flow.isInFlight) < 2 ^ 64
  completed : totalBytes Flow.completedBytes (includedFlows domain flows) < 2 ^ 64
  cancelled : totalBytes Flow.cancelledBytes (includedFlows domain flows) < 2 ^ 64
  failed : totalBytes Flow.failedBytes (includedFlows domain flows) < 2 ^ 64

variable {domain : CongestionDomain R} {flows : UnorderedMap FlowId (Flow R)}

instance : Decidable (domain.BytesFit flows) :=
  decidable_of_iff
    (backlogBytes domain flows < 2 ^ 64 ∧
      totalBytes Flow.inFlightBytes ((includedFlows domain flows).filter Flow.isInFlight) < 2 ^ 64 ∧
      totalBytes Flow.completedBytes (includedFlows domain flows) < 2 ^ 64 ∧
      totalBytes Flow.cancelledBytes (includedFlows domain flows) < 2 ^ 64 ∧
      totalBytes Flow.failedBytes (includedFlows domain flows) < 2 ^ 64)
    ⟨fun ⟨queued, inFlight, completed, cancelled, failed⟩ =>
        ⟨queued, inFlight, completed, cancelled, failed⟩,
      fun ⟨queued, inFlight, completed, cancelled, failed⟩ =>
        ⟨queued, inFlight, completed, cancelled, failed⟩⟩

/-- The bytes of a domain are those of its included flows. -/
theorem bytesFit_congr {others : UnorderedMap FlowId (Flow R)}
    (same : includedFlows domain others = includedFlows domain flows)
    (fit : domain.BytesFit flows) : domain.BytesFit others := by
  obtain ⟨queued, inFlight, completed, cancelled, failed⟩ := fit
  unfold backlogBytes at queued
  rw [← same] at queued inFlight completed cancelled failed
  exact ⟨queued, inFlight, completed, cancelled, failed⟩

private theorem fits_of_exact {word : UInt64} {total : Nat} (same : word.toNat = total) :
    total < 2 ^ 64 :=
  same ▸ word.toNat_lt

private theorem exact_of_fits {word : UInt64} {total : Nat} (sum : word.toNat = total % 2 ^ 64)
    (fits : total < 2 ^ 64) : word.toNat = total :=
  sum.trans (Nat.mod_eq_of_lt fits)

/-- The participants complete no more than the included flows. -/
private theorem totalBytes_liveFlows_le :
    totalBytes Flow.completedBytes (liveFlows domain flows) ≤
      totalBytes Flow.completedBytes (includedFlows domain flows) := by
  rw [liveFlows_eq_filter]
  exact (List.filter_sublist.map _).sum_le_sum fun _ _ => Nat.zero_le _

/-- The sums of a domain are exact if and only if they fit into 64 bits. -/
theorem sumsExact_iff : domain.SumsExact flows ↔ domain.BytesFit flows := by
  obtain ⟨completed, cancelled, failed⟩ := toNat_settledBytes domain flows
  constructor
  · intro sums
    exact ⟨fits_of_exact sums.queued, fits_of_exact sums.inFlight, fits_of_exact sums.completed,
      fits_of_exact sums.cancelled, fits_of_exact sums.failed⟩
  · intro fit
    have queued := exact_of_fits (toNat_queuedBytes domain flows) fit.queued
    refine ⟨queued, exact_of_fits (toNat_inFlightBytes domain flows) fit.inFlight,
      exact_of_fits completed fit.completed, exact_of_fits cancelled fit.cancelled,
      exact_of_fits failed fit.failed, ?_, ?_⟩
    · apply exact_of_fits (toNat_totalCompleted _)
      exact Nat.lt_of_le_of_lt totalBytes_liveFlows_le fit.completed
    · intro waiting
      rw [gt_iff_lt, UInt64.lt_iff_toNat_lt, queued]
      exact waiting

end CongestionDomain

/-! ## Enumeration order -/

namespace Impl

/-- A reference resolves to the same flow in whatever order the map is kept. -/
theorem Reordered.findFlow_eq {left right : Impl R} (same : left.Reordered right)
    (ref : EntityRef FlowTag) : findFlow right.flows ref = findFlow left.flows ref := by
  unfold findFlow
  rw [same.flows.find?_eq]

theorem Reordered.includedFlows_eq {left right : Impl R} (same : left.Reordered right)
    (domain : CongestionDomain R) :
    includedFlows domain right.flows = includedFlows domain left.flows := by
  unfold includedFlows
  simp only [same.findFlow_eq]

/-- The bytes of every domain fit into 64 bits. -/
def BytesFit (state : Impl R) : Prop :=
  ∀ id domain, state.domains.find? id = some domain → domain.BytesFit state.flows

instance (state : Impl R) : Decidable state.BytesFit :=
  inferInstanceAs (Decidable (∀ id domain, state.domains.find? id = some domain →
    domain.BytesFit state.flows))

theorem Reordered.bytesFit_iff {left right : Impl R} (same : left.Reordered right) :
    right.BytesFit ↔ left.BytesFit := by
  unfold BytesFit
  simp only [same.domains.find?_eq]
  refine forall_congr' fun id => forall_congr' fun domain => imp_congr_right fun _ => ?_
  have alike := same.includedFlows_eq domain
  exact ⟨CongestionDomain.bytesFit_congr alike.symm, CongestionDomain.bytesFit_congr alike⟩

end Impl

end CongestionFabric
