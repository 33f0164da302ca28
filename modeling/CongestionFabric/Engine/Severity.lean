import CongestionFabric.Engine.Sums
import CongestionFabric.Foundation.Exact

/-!
Contract: how the classification moves with the load and with the capacity, with
rates read as exact numbers.

Owns the order of severity, the chain of decisions of `classify` cut into the case
with and the case without a backlog, and the results on top of them: an overload is
reported, more offered load never lowers the state, and when more capacity raises
it.

Does not own: rounding. Every quantity is exact, as are the thresholds.
-/

namespace CongestionFabric

open Foundation

/-! ## Severity -/

/-- The place of a state in the order of severity. A state that no assessed load
has is in no place. -/
def CongestionState.severity : CongestionState → Option Nat
  | .idle => some 0
  | .healthy => some 1
  | .busy => some 2
  | .approachingSaturation => some 3
  | .saturated => some 4
  | .recovering => some 5
  | .queueing => some 6
  | .congested => some 7
  | .severelyCongested => some 8
  | .unknown | .backpressured | .stale | .revalidationRequired => none

/-- The states are the same, or the left one comes first in the order of severity. -/
def CongestionState.atMost (left right : CongestionState) : Bool :=
  left = right || match left.severity, right.severity with
    | some lower, some upper => decide (lower ≤ upper)
    | _, _ => false

theorem CongestionState.atMost_refl (state : CongestionState) : state.atMost state = true := by
  simp [CongestionState.atMost]

/-- The end of the decisions with a backlog. -/
def backloggedState (growing troubled wide draining : Bool) : CongestionState :=
  if growing then
    if troubled then .severelyCongested else if wide then .congested else .queueing
  else if draining then .recovering else .queueing

/-- The end of the decisions without a backlog. -/
def flowingState (exceeded near busy : Bool) : CongestionState :=
  if exceeded then .saturated else if near then .approachingSaturation else if busy then .busy
  else .healthy

private theorem backloggedState_mono : ∀ growing growing' troubled troubled' wide wide' draining
    draining' : Bool, (growing = true → growing' = true) →
    ((growing && troubled) = true → troubled' = true) →
    (wide = true → wide' = true) → (draining' = true → draining = true) →
    (backloggedState growing troubled wide draining).atMost
      (backloggedState growing' troubled' wide' draining') = true := by
  decide

private theorem flowingState_mono : ∀ exceeded exceeded' near near' busy busy' : Bool,
    (exceeded = true → exceeded' = true) → (near = true → near' = true) →
    (busy = true → busy' = true) →
    (flowingState exceeded near busy).atMost (flowingState exceeded' near' busy') = true := by
  decide

section Chain

variable {R : Type} [Arithmetic R]

/-- The chain of decisions, cut at the question whether there is a backlog. -/
theorem Signals.state_eq (signals : Signals R) :
    signals.state =
      if signals.queuedBytes > 0 then
        backloggedState (decide (signals.deficit > 1e-9))
          (signals.latencyHigh || signals.starvation)
          (decide (signals.deficit > 0.2 * signals.eff)) (decide (signals.deficit < -1e-9))
      else
        flowingState (decide (signals.sat > 1.0))
          (decide (signals.servRatio ≥ 0.95) && decide (signals.sat ≥ 0.9))
          (decide (signals.sat ≥ 0.8)) := by
  unfold Signals.state
  by_cases queue : signals.queuedBytes > 0
  · simp only [queue, true_and, not_true_eq_false, and_false, if_false, if_true, and_true]
    by_cases growing : signals.deficit > 1e-9
    · cases slow : signals.latencyHigh <;> cases starved : signals.starvation <;>
        by_cases wide : signals.deficit > 0.2 * signals.eff <;>
        simp [backloggedState, growing, wide]
    · by_cases draining : signals.deficit < -1e-9 <;>
        simp [backloggedState, growing, draining]
  · simp only [queue, false_and, not_false_eq_true, and_true, if_false]
    by_cases exceeded : signals.sat > 1.0
    · simp [flowingState, exceeded]
    · by_cases serviced : signals.servRatio ≥ 0.95 <;> by_cases high : signals.sat ≥ 0.9 <;>
        by_cases busy : signals.sat ≥ 0.8 <;>
        simp [flowingState, exceeded, serviced, high, busy]

theorem Signals.idle_atMost_state (signals : Signals R) :
    CongestionState.idle.atMost signals.state = true := by
  have backlogged : ∀ growing troubled wide draining : Bool,
      CongestionState.idle.atMost (backloggedState growing troubled wide draining) = true := by
    decide
  have flowing : ∀ exceeded near busy : Bool,
      CongestionState.idle.atMost (flowingState exceeded near busy) = true := by
    decide
  rw [signals.state_eq]
  split
  · exact backlogged ..
  · exact flowing ..

end Chain

/-! ## Capacity -/

/-- An effective capacity is a number, and not negative. -/
theorem CapacityProfile.effective_number {profile : CapacityProfile Exact} {eff : Exact}
    (bound : profile.effective = some eff) : ∃ capacity : ℚ, eff = .number capacity ∧
      0 ≤ capacity := by
  have closed : ∀ {candidate : Exact}, usable candidate = some eff → ¬eff < 0.0 := by
    intro candidate checked
    unfold usable at checked
    split_ifs at checked with refused
    obtain rfl := Option.some.inj checked
    simp only [Bool.or_eq_true, decide_eq_true_eq, not_or] at refused
    exact refused.1
  have nonnegative : ¬eff < 0.0 := by
    unfold effective at bound
    split at bound
    · exact absurd bound (by simp)
    · split_ifs at bound
      · exact closed bound
      · exact closed bound
  obtain ⟨capacity, rfl⟩ := Exact.isFinite_iff.mp (effective_finite bound)
  rw [Exact.zero_eq, Exact.number_lt, not_lt] at nonnegative
  exact ⟨capacity, rfl, nonnegative⟩

/-! ## Offered load -/

section Offered

variable {signals : Signals Exact} {capacity offered larger : ℚ}

/-- The saturation over a capacity that is a number. -/
private theorem sat_eq (number : signals.eff = .number capacity) :
    { signals with offered := .number offered }.sat =
      .number (if 0 < capacity then offered / capacity else 0) := by
  unfold Signals.sat
  simp only [number, Exact.zero_eq, gt_iff_lt, Exact.number_lt]
  split
  · next positive => exact Exact.number_div offered positive.ne'
  · rfl

private theorem saturation_le (capacity : ℚ) (le : offered ≤ larger) :
    (if 0 < capacity then offered / capacity else 0) ≤
      if 0 < capacity then larger / capacity else 0 := by
  split
  · next positive => exact div_le_div_of_nonneg_right le positive.le
  · exact le_refl 0

/-- With the other signals fixed, more offered load never lowers the state. -/
theorem Signals.state_atMost_of_offered_le (signals : Signals Exact)
    (number : signals.eff = .number capacity) (le : offered ≤ larger) :
    { signals with offered := .number offered }.state.atMost
      { signals with offered := .number larger }.state = true := by
  rw [Signals.state_eq, Signals.state_eq]
  dsimp only
  split
  · apply backloggedState_mono
    · simp only [decide_eq_true_eq]
      exact Exact.lt_sub_of_le le
    · simp only [Bool.and_eq_true]
      exact And.right
    · simp only [decide_eq_true_eq]
      exact Exact.lt_sub_of_le le
    · simp only [decide_eq_true_eq]
      exact Exact.sub_lt_of_le le
  · have higher := saturation_le capacity le
    rw [sat_eq number, sat_eq number]
    simp only [Exact.ofScientific_eq, gt_iff_lt, ge_iff_le, Exact.number_lt, Exact.number_le]
    apply flowingState_mono
    · simp only [decide_eq_true_eq]
      exact fun passes => passes.trans_le higher
    · simp only [Bool.and_eq_true, decide_eq_true_eq]
      exact fun passes => ⟨passes.1, passes.2.trans higher⟩
    · simp only [decide_eq_true_eq]
      exact fun passes => passes.trans higher

/-- For every domain, flow population, service rate and capacity, more offered load
never lowers the state that `classify` returns. -/
theorem classify_atMost_of_offered_le (domain : CongestionDomain Exact) (aggregate : Aggregate)
    (flows : UnorderedMap FlowId (Flow Exact)) (revalidation : Bool) (le : offered ≤ larger) :
    (classify { domain with offeredBps := .number offered } aggregate flows
        revalidation).state.atMost
      (classify { domain with offeredBps := .number larger } aggregate flows
        revalidation).state = true := by
  unfold classify
  cases revalidation with
  | true => exact CongestionState.atMost_refl _
  | false =>
      simp only [Bool.false_eq_true, if_false]
      cases bound : domain.capacity.effective with
      | none => exact CongestionState.atMost_refl _
      | some eff =>
          obtain ⟨capacity, number, -⟩ := CapacityProfile.effective_number bound
          simp only [Exact.zero_eq, Exact.number_le]
          split
          · split
            · exact CongestionState.atMost_refl _
            · exact Signals.idle_atMost_state _
          · next traffic =>
              -- What is not idle does not become so.
              rw [if_neg fun idle => traffic ⟨le.trans idle.1, idle.2⟩]
              exact Signals.state_atMost_of_offered_le
                { eff := eff
                  offered := .number offered
                  serviced := domain.servicedBps
                  queuedBytes := aggregate.queuedBytes
                  latencyHigh := latencyHigh domain eff
                  starvation := starvation (liveFlows domain flows) } number le

/-- Half and one and a half of the capacity, with nothing queued. -/
theorem classify_atMost_of_half :
    (classify { capacity := .ofTheoretical 1000.0, offeredBps := Exact.number 1500 } {} .empty
        false).state = .saturated ∧
      (classify { capacity := .ofTheoretical 1000.0, offeredBps := Exact.number 500 } {} .empty
        false).state.atMost
      (classify { capacity := .ofTheoretical 1000.0, offeredBps := Exact.number 1500 } {} .empty
        false).state = true :=
  ⟨by decide +kernel, classify_atMost_of_offered_le { capacity := .ofTheoretical 1000.0 } {} .empty
    false (by norm_num)⟩

end Offered

/-! ## More capacity -/

section Larger

variable {capacity larger : ℚ}

private theorem ratios_of_positive (signals : Signals Exact)
    (number : signals.eff = .number capacity) (positive : 0 < capacity) :
    signals.sat = signals.offered / .number capacity ∧
      signals.servRatio = signals.serviced / .number capacity := by
  have passes : signals.eff > 0.0 := by
    rw [number, Exact.zero_eq, gt_iff_lt, Exact.number_lt]
    exact positive
  unfold Signals.sat Signals.servRatio
  rw [if_pos passes, if_pos passes, number]
  exact ⟨rfl, rfl⟩

/-- Without a backlog, or with the same judgement of latency, more capacity never
raises the state. -/
theorem Signals.state_atMost_of_capacity_le (signals : Signals Exact) {slow : Bool}
    (positive : 0 < capacity) (le : capacity ≤ larger)
    (noSlower : signals.queuedBytes > 0 → signals.deficit > 1e-9 →
      (slow || signals.starvation) = true →
        (signals.latencyHigh || signals.starvation) = true) :
    ({ signals with eff := .number larger, latencyHigh := slow } : Signals Exact).state.atMost
      ({ signals with eff := .number capacity } : Signals Exact).state = true := by
  rw [Signals.state_eq, Signals.state_eq]
  dsimp only
  split
  · next queue =>
      apply backloggedState_mono
      · exact id
      · simp only [Bool.and_eq_true, decide_eq_true_eq]
        exact fun both => noSlower queue both.1 both.2
      · simp only [decide_eq_true_eq, Exact.ofScientific_eq, gt_iff_lt]
        exact Exact.lt_of_number_le (by linarith)
      · exact id
  · obtain ⟨satLarger, servicedLarger⟩ := ratios_of_positive
      { signals with eff := .number larger, latencyHigh := slow } rfl (positive.trans_le le)
    obtain ⟨sat, serviced⟩ := ratios_of_positive { signals with eff := .number capacity } rfl
      positive
    rw [satLarger, servicedLarger, sat, serviced]
    simp only [Exact.ofScientific_eq]
    apply flowingState_mono
    · simp only [decide_eq_true_eq]
      refine Exact.lt_div_of_le positive le ?_
      norm_num
    · simp only [Bool.and_eq_true, decide_eq_true_eq]
      refine And.imp (Exact.le_div_of_le positive le ?_) (Exact.le_div_of_le positive le ?_)
      · norm_num
      · norm_num
    · simp only [decide_eq_true_eq]
      refine Exact.le_div_of_le positive le ?_
      norm_num

/-- A growing backlog with trouble is above one without. -/
private theorem severe_above_pressed : ∀ wide wide' draining draining' : Bool,
    ¬(backloggedState true (true || false) wide draining).atMost
      (backloggedState true (false || false) wide' draining') = true := by
  decide

/-- The domain has a positive service latency that, times the capacity, is above the
threshold of inflation. -/
def CongestionDomain.latencyInflates (domain : CongestionDomain Exact) (capacity : ℚ) : Prop :=
  ∃ latency, domain.measurements.get .serviceLatency = some latency ∧ latency.value > 0.0 ∧
    latency.value * .number capacity > 2.0

theorem latencyHigh_iff {domain : CongestionDomain Exact} (positive : 0 < capacity) :
    latencyHigh domain (.number capacity) = true ↔ domain.latencyInflates capacity := by
  have calm : ¬(1.0 : Exact) > 2.0 := by
    rw [Exact.one_eq, Exact.ofScientific_eq, gt_iff_lt, Exact.number_lt]
    norm_num
  have passes : Exact.number capacity > 0.0 := by
    rw [Exact.zero_eq, gt_iff_lt, Exact.number_lt]
    exact positive
  unfold latencyHigh CongestionDomain.latencyInflates
  cases domain.measurements.get .serviceLatency with
  | none =>
      simp only [decide_eq_true_eq, reduceCtorEq, false_and, exists_false, iff_false]
      exact calm
  | some latency =>
      simp only [decide_eq_true_eq, passes, and_true, Option.some.injEq, exists_eq_left']
      split
      · next measured => rw [and_iff_right measured]
      · next unmeasured => exact iff_of_false calm fun both => unmeasured both.1

/-- The domain is assessed with a growing backlog and no starvation. -/
def CongestionDomain.pressedOnly (domain : CongestionDomain Exact) (aggregate : Aggregate)
    (flows : UnorderedMap FlowId (Flow Exact)) : Prop :=
  ¬(domain.offeredBps ≤ 0.0 ∧ domain.servicedBps ≤ 0.0 ∧ aggregate.queuedOps = 0 ∧
      aggregate.inFlightOps = 0) ∧
    aggregate.queuedBytes > 0 ∧ domain.offeredBps - domain.servicedBps > 1e-9 ∧
    starvation (liveFlows domain flows) = false

/-- For every domain, flow population and pair of positive capacities, the larger one
raises the state that `classify` returns exactly if the domain is under the pressure
of a growing backlog alone and its service latency counts as inflated only at the
larger capacity. -/
theorem classify_atMost_of_capacity_le_iff (domain : CongestionDomain Exact)
    (aggregate : Aggregate) (flows : UnorderedMap FlowId (Flow Exact)) (revalidation : Bool)
    {profile grown : CapacityProfile Exact} (bound : profile.effective = some (.number capacity))
    (grownBound : grown.effective = some (.number larger)) (positive : 0 < capacity)
    (le : capacity ≤ larger) :
    (classify { domain with capacity := grown } aggregate flows revalidation).state.atMost
        (classify { domain with capacity := profile } aggregate flows revalidation).state = true ↔
      ¬(revalidation = false ∧ domain.pressedOnly aggregate flows ∧
        domain.latencyInflates larger ∧ ¬domain.latencyInflates capacity) := by
  unfold classify
  cases revalidation with
  | true => simp [CongestionState.atMost_refl]
  | false =>
      rw [← latencyHigh_iff positive, ← latencyHigh_iff (positive.trans_le le)]
      simp only [Bool.false_eq_true, if_false, bound, grownBound, true_and]
      split
      · next idle =>
          exact iff_of_true (CongestionState.atMost_refl _) fun pressed => pressed.1.1 idle
      · next traffic =>
          by_cases turns : domain.pressedOnly aggregate flows ∧
              latencyHigh domain (.number larger) = true ∧
              ¬latencyHigh domain (.number capacity) = true
          · refine iff_of_false ?_ fun steady => steady turns
            obtain ⟨⟨-, queue, growing, fair⟩, slow, quick⟩ := turns
            rw [Signals.state_eq, Signals.state_eq]
            simp only [queue, if_true, Signals.deficit, growing, decide_true]
            rw [Bool.not_eq_true] at quick
            change ¬(backloggedState true (latencyHigh domain (.number larger) ||
              starvation (liveFlows domain flows)) _ _).atMost (backloggedState true
              (latencyHigh domain (.number capacity) || starvation (liveFlows domain flows))
              _ _) = true
            rw [slow, quick, fair]
            exact severe_above_pressed _ _ _ _
          · refine iff_of_true ?_ turns
            apply Signals.state_atMost_of_capacity_le
              { eff := .number capacity
                offered := domain.offeredBps
                serviced := domain.servicedBps
                queuedBytes := aggregate.queuedBytes
                latencyHigh := latencyHigh domain (.number capacity)
                starvation := starvation (liveFlows domain flows) } positive le
            intro queue growing troubled
            dsimp only at queue growing troubled ⊢
            cases fair : starvation (liveFlows domain flows) with
            | true => exact Bool.or_true _
            | false =>
                rw [fair, Bool.or_false] at troubled
                rw [Bool.or_false]
                by_contra quick
                exact turns ⟨⟨traffic, queue, growing, fair⟩, troubled, quick⟩

/-- A flow of ten queued bytes. -/
private def queuedFlow : UnorderedMap FlowId (Flow Exact) :=
  ⟨[(⟨1⟩, { ref := ⟨⟨1⟩, ⟨1⟩⟩, state := .queued, admittedBytes := ⟨10⟩ })], List.nodup_singleton _⟩

/-- A domain with that flow, more offered than serviced, and a service latency of one. -/
private def slowDomain : CongestionDomain Exact where
  flows := [⟨⟨1⟩, ⟨1⟩⟩]
  offeredBps := 10.0
  measurements := ({} : MeasurementSet Exact).put
    { kind := MeasurementKind.serviceLatency, value := 1.0 }

private theorem effective_ofTheoretical {bytesPerSecond : Exact}
    (number : bytesPerSecond = .number capacity) (positive : 0 < capacity) :
    (CapacityProfile.ofTheoretical bytesPerSecond).effective = some (.number capacity) := by
  subst number
  have known : (BandwidthKind.theoretical : Enum8 BandwidthKind) ≠ BandwidthKind.unknown := by
    decide
  have bound : (CapacityProfile.ofTheoretical (Exact.number capacity)).effectiveBeforeReservation =
      some (.number capacity) := by
    simp [CapacityProfile.effectiveBeforeReservation, CapacityProfile.ofTheoretical,
      CapacityProfile.tighten, Rate.isUnknown, Rate.isFiniteNonneg, positive.le, known,
      Arithmetic.stdMin]
    rfl
  unfold CapacityProfile.effective
  simp only [bound]
  simp [CapacityProfile.ofTheoretical, CapacityProfile.usable, Rate.isUnknown, positive.le]

/-- At capacities of three and four the latency counts as inflated. -/
theorem slowDomain_atMost :
    (classify { slowDomain with capacity := .ofTheoretical 4.0 }
        (aggregateDomain slowDomain queuedFlow) queuedFlow false).state.atMost
      (classify { slowDomain with capacity := .ofTheoretical 3.0 }
        (aggregateDomain slowDomain queuedFlow) queuedFlow false).state = true :=
  (classify_atMost_of_capacity_le_iff slowDomain (aggregateDomain slowDomain queuedFlow)
    queuedFlow false (effective_ofTheoretical (Exact.ofScientific_eq ..) (by norm_num))
    (effective_ofTheoretical (Exact.ofScientific_eq ..) (by norm_num)) (by norm_num)
    (by norm_num)).mpr fun turned =>
      turned.2.2.2 ((latencyHigh_iff (by norm_num)).mp (by decide +kernel))

/-- From a capacity of one to one of three the state rises from CONGESTED to
SEVERELY_CONGESTED. -/
theorem slowDomain_rises :
    ¬∀ (domain : CongestionDomain Exact) (flows : UnorderedMap FlowId (Flow Exact))
      (profile grown : CapacityProfile Exact) (capacity larger : ℚ),
      profile.effective = some (.number capacity) → grown.effective = some (.number larger) →
      0 < capacity → capacity ≤ larger →
      (classify { domain with capacity := grown } (aggregateDomain domain flows) flows
          false).state.atMost
        (classify { domain with capacity := profile } (aggregateDomain domain flows) flows
          false).state = true := by
  intro always
  have never := always slowDomain queuedFlow (.ofTheoretical 1.0) (.ofTheoretical 3.0) _ _
    (effective_ofTheoretical (Exact.ofScientific_eq ..) (by norm_num))
    (effective_ofTheoretical (Exact.ofScientific_eq ..) (by norm_num)) (by norm_num) (by norm_num)
  exact absurd never (by decide +kernel)

end Larger

/-! ## Overload -/

/-- The states that tell of no overload. -/
def CongestionState.relaxed (state : CongestionState) : Bool :=
  state = .idle || state = .healthy || state = .busy || state = .approachingSaturation

section Overload

variable {state : Impl Exact} {id : CongestionDomainId} {domain : CongestionDomain Exact}
  {eff : Exact}

private theorem backloggedState_not_relaxed : ∀ growing troubled wide draining : Bool,
    (backloggedState growing troubled wide draining).relaxed = false := by
  decide

private theorem sat_of_overload (signals : Signals Exact) {capacity : ℚ}
    (number : signals.eff = .number capacity) (positive : 0 < capacity)
    (overload : .number capacity < signals.offered) : signals.sat > 1.0 := by
  rw [(ratios_of_positive signals number positive).1, Exact.one_eq]
  exact Exact.one_lt_div_of_lt positive overload

/-- A domain that is not awaiting revalidation and is offered more than its
effective capacity is never reported relaxed if and only if the capacity is positive
or the queued bytes do not add up to a multiple of the range of a word. -/
theorem overload_reported_iff (stored : state.domains.find? id = some domain)
    (bound : domain.capacity.effective = some eff)
    (settled : domain.state.awaitsRevalidation = false) (overload : eff < domain.offeredBps) :
    (state.assessCongestion id).state.relaxed = false ↔
      0.0 < eff ∨ ¬2 ^ 64 ∣ backlogBytes domain state.flows := by
  obtain ⟨capacity, rfl, nonnegative⟩ := CapacityProfile.effective_number bound
  have offered : ¬domain.offeredBps ≤ 0.0 := by
    rw [Exact.zero_eq]
    exact Exact.not_le_of_lt (Exact.lt_of_number_le nonnegative overload)
  have queue : (aggregateDomain domain state.flows).queuedBytes > 0 ↔
      ¬2 ^ 64 ∣ backlogBytes domain state.flows := by
    rw [gt_iff_lt, UInt64.lt_iff_toNat_lt, toNat_queuedBytes, Nat.dvd_iff_mod_eq_zero]
    exact Nat.pos_iff_ne_zero
  unfold Impl.assessCongestion Impl.assess classify
  simp only [stored, settled, bound, offered, false_and, if_false, Bool.false_eq_true]
  rw [Signals.state_eq, ← queue]
  dsimp only
  split
  · next waiting => exact iff_of_true (backloggedState_not_relaxed _ _ _ _) (Or.inr waiting)
  · next empty =>
      rw [or_iff_left empty]
      by_cases positive : 0 < capacity
      · rw [decide_eq_true (sat_of_overload _ rfl positive overload), Exact.zero_eq,
          Exact.number_lt]
        exact iff_of_true rfl positive
      · have exhausted : ¬(0.0 : Exact) < .number capacity := by
          rw [Exact.zero_eq, Exact.number_lt]
          exact positive
        unfold Signals.sat Signals.servRatio
        simp only [gt_iff_lt, exhausted, if_false, iff_false]
        norm_num [Exact.ofScientific_eq, flowingState, CongestionState.relaxed]

/-- A domain of 1000 bytes per second, of which some are reserved, with no flow and
2000 bytes per second offered. -/
private def reserving (reserved : Exact) : CongestionDomain Exact where
  ref := ⟨⟨1⟩, ⟨1⟩⟩
  capacity := { CapacityProfile.ofTheoretical 1000.0 with
    reserved := { bytesPerSecond := reserved, kind := BandwidthKind.reserved } }
  offeredBps := 2000.0

private def reservedDomain (reserved : Exact) : Impl Exact where
  domains := ⟨[(⟨1⟩, reserving reserved)], List.nodup_singleton _⟩

theorem reservedDomain_half_reported :
    ((reservedDomain 500.0).assessCongestion ⟨1⟩).state.relaxed = false := by
  have half : (reserving 500.0).capacity.effective = some (Exact.number 500) := by
    decide +kernel
  exact (overload_reported_iff rfl half rfl (by decide +kernel)).mpr (Or.inl (by decide +kernel))

/-- Fully reserved, the domain is reported HEALTHY. -/
theorem reservedDomain_full_hidden :
    ¬∀ (state : Impl Exact) (id : CongestionDomainId) (domain : CongestionDomain Exact)
      (eff : Exact), state.domains.find? id = some domain →
      domain.capacity.effective = some eff → domain.state.awaitsRevalidation = false →
      eff < domain.offeredBps → (state.assessCongestion id).state.relaxed = false := by
  intro always
  have reported := always (reservedDomain 1000.0) ⟨1⟩ _ (.number 0) rfl (by decide +kernel) rfl
    (by decide +kernel)
  exact absurd reported (by decide +kernel)

end Overload

end CongestionFabric
