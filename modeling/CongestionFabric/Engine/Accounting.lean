import CongestionFabric.Engine.FlowEffect

/-!
Contract: byte accounting of one flow and of every flow of an engine.

Owns the lifecycle invariant that ties the counters of a flow to its state, the
exact outcome of every flow operation on a record that satisfies it (in
particular that the late refusals of the source cannot happen there), its
preservation by every operation, and the conservation of bytes.

Does not own: files; a loaded record meets the invariant because the loader
checks it.
-/

namespace CongestionFabric

open Foundation

variable {R : Type} [Arithmetic R]

/-! ## The lifecycle invariant -/

/-- The states in which the owner of a flow can still act on it. -/
def FlowState.live (state : FlowState) : Bool :=
  state = .declared || state = .admitted || state = .queued || state = .active

/-- What the counters of a flow are, given its state. -/
structure Flow.WellAccounted (flow : Flow R) : Prop where
  accounting : flow.accountingValid = true
  entered : flow.state ≠ .validating ∧ flow.state ≠ .backpressured ∧ flow.state ≠ .throttled ∧
    flow.state ≠ .draining
  unadmitted : flow.state = .declared → flow.admittedBytes.value = 0
  unprogressed : flow.state = .declared ∨ flow.state = .admitted → flow.completedBytes.value = 0
  unstarted : flow.state.live = true → flow.state ≠ .active → flow.inFlightBytes.value = 0
  unfinished : flow.state.live = true →
    flow.cancelledBytes.value = 0 ∧ flow.failedBytes.value = 0

variable {flow : Flow R} {boot : WorkerBootId} {now delta soFar : UInt64}

/-- A record that no live state constrains needs only the accounting check. -/
theorem Flow.WellAccounted.of_inert (accounting : flow.accountingValid = true)
    (entered : flow.state ≠ .validating ∧ flow.state ≠ .backpressured ∧
      flow.state ≠ .throttled ∧ flow.state ≠ .draining)
    (inert : flow.state.live = false) : flow.WellAccounted where
  accounting := accounting
  entered := entered
  unadmitted declared := by simp [FlowState.live, declared] at inert
  unprogressed early := by rcases early with early | early <;> simp [FlowState.live, early] at inert
  unstarted live := by simp [inert] at live
  unfinished live := by simp [inert] at live

theorem Flow.WellAccounted.le (sound : flow.WellAccounted) :
    flow.completedBytes.value.toNat ≤ flow.admittedBytes.value.toNat ∧
      flow.admittedBytes.value.toNat ≤ flow.submittedBytes.value.toNat ∧
      flow.inFlightBytes.value.toNat ≤ flow.admittedBytes.value.toNat :=
  Flow.accountingValid_iff.mp sound.accounting

/-- The unchecked subtraction of `flow_complete`, `flow_cancel` and `flow_fail`
does not wrap. -/
theorem Flow.WellAccounted.remaining (sound : flow.WellAccounted) :
    (flow.admittedBytes.value - flow.completedBytes.value).toNat =
      flow.admittedBytes.value.toNat - flow.completedBytes.value.toNat :=
  UInt64.toNat_sub_of_le _ _ (UInt64.le_iff_toNat_le.mpr sound.le.1)

/-! ## Which states each guard admits -/

private theorem mayAdmit {state : FlowState}
    (allowed : flowTransitionAllowed state .admitted = true) :
    state = .declared ∨ state = .validating := by
  cases state <;> simp_all [flowTransitionAllowed]

private theorem mayQueue {state : FlowState}
    (allowed : flowTransitionAllowed state .queued = true) : state = .admitted := by
  cases state <;> simp_all [flowTransitionAllowed]

private theorem mayFinish {state : FlowState}
    (allowed : flowTransitionAllowed state .cancelled = true ∨
      flowTransitionAllowed state .failed = true) :
    state.live = true ∨ state = .validating ∨ state = .backpressured ∨ state = .throttled ∨
      state = .draining := by
  cases state <;> simp_all [flowTransitionAllowed, FlowState.live]

theorem mayFinish_of_live {state : FlowState} (live : state.live = true) :
    flowTransitionAllowed state .cancelled = true ∧
      flowTransitionAllowed state .failed = true := by
  cases state <;> simp_all [flowTransitionAllowed, FlowState.live]

private theorem mayComplete {state : FlowState}
    (allowed : flowTransitionAllowed state .completed = true) :
    state = .active ∨ state = .backpressured ∨ state = .throttled ∨ state = .draining := by
  cases state <;> simp_all [flowTransitionAllowed]

private theorem mayRevalidate {state : FlowState}
    (allowed : flowTransitionAllowed state .revalidationRequired = true) : state = .stale := by
  cases state <;> simp_all [flowTransitionAllowed]

/-! ## Exact outcomes

On a record that satisfies the invariant every body accepts exactly under the
stated condition and then writes one definite record; otherwise it refuses and
leaves the record as it was. -/

theorem Flow.WellAccounted.admission (sound : flow.WellAccounted) (domainExists : Bool) :
    (¬(flow.state = .declared ∧ domainExists = true) ∧
        flow.admission domainExists = (false, flow)) ∨
      flow.state = .declared ∧ domainExists = true ∧ flow.admission domainExists =
        (true, { flow with admittedBytes := flow.submittedBytes, state := .admitted }) := by
  unfold Flow.admission
  by_cases allowed : flowTransitionAllowed flow.state .admitted = true
  · have declared : flow.state = .declared :=
      (mayAdmit allowed).resolve_right sound.entered.1
    cases domainExists with
    | false => exact Or.inl ⟨by simp, by simp⟩
    | true =>
        have added : flow.admittedBytes.add flow.submittedBytes.value =
            some flow.submittedBytes := by
          rw [ByteCounter.add_eq_some, sound.unadmitted declared]
          simp
        refine Or.inr ⟨declared, rfl, ?_⟩
        simp [allowed, added]
  · have undeclared : flow.state ≠ .declared := by
      intro declared
      simp [declared, flowTransitionAllowed] at allowed
    exact Or.inl ⟨fun both => undeclared both.1, by simp [allowed]⟩

theorem Flow.queue_cases (flow : Flow R) (limits : EngineLimits) (domainExists : Bool)
    (queued : UInt64) :
    flow.queue limits domainExists queued = (false, flow) ∨
      flow.state = .admitted ∧ flow.queue limits domainExists queued =
        (true, { flow with state := .queued }) := by
  unfold Flow.queue
  by_cases allowed : flowTransitionAllowed flow.state .queued = true
  · have admitted := mayQueue allowed
    split_ifs
    · exact Or.inl rfl
    · exact Or.inl rfl
    · exact Or.inl rfl
    · exact Or.inr ⟨admitted, rfl⟩
  · exact Or.inl (by simp [allowed])

/-- The record of a started flow. -/
def Flow.started (flow : Flow R) (now : UInt64) : Flow R :=
  { flow with
    state := .active
    inFlightBytes := flow.admittedBytes
    startedMs := now
    lastProgressMs := now }

theorem Flow.WellAccounted.start (sound : flow.WellAccounted) (now : UInt64)
    (boot : WorkerBootId) :
    (¬(flow.ownerBoot = boot ∧ (flow.state = .queued ∨ flow.state = .admitted)) ∧
        flow.start now boot = (false, flow)) ∨
      flow.ownerBoot = boot ∧ (flow.state = .queued ∨ flow.state = .admitted) ∧
        flow.start now boot = (true, flow.started now) := by
  unfold Flow.start
  by_cases owned : flow.ownerBoot = boot
  · by_cases ready : flow.state = .queued ∨ flow.state = .admitted
    · have nothing : flow.inFlightBytes.value = 0 := by
        apply sound.unstarted
        · rcases ready with ready | ready <;> simp [FlowState.live, ready]
        · rcases ready with ready | ready <;> simp [ready]
      have added : flow.inFlightBytes.add flow.admittedBytes.value = some flow.admittedBytes := by
        rw [ByteCounter.add_eq_some, nothing]
        simp
      refine Or.inr ⟨owned, ready, ?_⟩
      rcases ready with ready | ready <;>
        simp [owned, FlowState.isStaleOrSuperseded, ready, added, Flow.started]
    · obtain ⟨notQueued, notAdmitted⟩ := not_or.mp ready
      refine Or.inl ⟨fun both => ready both.2, ?_⟩
      simp [owned, notQueued, notAdmitted, sound.entered.1]
  · exact Or.inl ⟨fun both => owned both.1, by simp [owned]⟩

theorem Flow.WellAccounted.progress (sound : flow.WellAccounted) (now : UInt64)
    (boot : WorkerBootId) (delta : UInt64) :
    (¬(flow.ownerBoot = boot ∧ (flow.state = .queued ∨ flow.state = .active) ∧
          flow.completedBytes.value.toNat + delta.toNat ≤ flow.admittedBytes.value.toNat) ∧
        flow.progress now boot delta = (false, flow)) ∨
      flow.ownerBoot = boot ∧ (flow.state = .queued ∨ flow.state = .active) ∧
        ∃ completed inFlight : UInt64,
          completed.toNat = flow.completedBytes.value.toNat + delta.toNat ∧
          completed.toNat ≤ flow.admittedBytes.value.toNat ∧
          inFlight.toNat = flow.inFlightBytes.value.toNat - delta.toNat ∧
          flow.progress now boot delta = (true, { flow with
            completedBytes := ⟨completed⟩
            inFlightBytes := ⟨inFlight⟩
            lastProgressMs := now }) := by
  unfold Flow.progress
  by_cases owned : flow.ownerBoot = boot
  · by_cases running : flow.state = .queued ∨ flow.state = .active
    · have current : flow.state.isStaleOrSuperseded = false := by
        rcases running with running | running <;> simp [FlowState.isStaleOrSuperseded, running]
      have able : flow.state.canProgress = true := by
        rcases running with running | running <;> simp [FlowState.canProgress, running]
      simp only [owned, ne_eq, not_true_eq_false, if_false, current, Bool.false_eq_true, able,
        Bool.not_true]
      cases added : Checked.add flow.completedBytes.value delta with
      | none =>
          refine Or.inl ⟨?_, rfl⟩
          rintro ⟨-, -, fits⟩
          have bound := flow.admittedBytes.value.toNat_lt
          have fitting : Checked.add flow.completedBytes.value delta =
              some (flow.completedBytes.value + delta) := by
            rw [Checked.add_eq_some, UInt64.toNat_add]
            omega
          rw [fitting] at added
          exact absurd added (by simp)
      | some completed =>
          have total := Checked.add_eq_some.mp added
          by_cases within : completed ≤ flow.admittedBytes.value
          · have fits := UInt64.le_iff_toNat_le.mp within
            have moved := Checked.toNat_min delta flow.inFlightBytes.value
            cases rest : Checked.sub flow.inFlightBytes.value
                (min delta flow.inFlightBytes.value) with
            | none =>
                have fitting : Checked.sub flow.inFlightBytes.value
                    (min delta flow.inFlightBytes.value) =
                      some (flow.inFlightBytes.value - min delta flow.inFlightBytes.value) := by
                  rw [Checked.sub_eq_some, UInt64.toNat_sub_of_le _ _ (by
                    rw [UInt64.le_iff_toNat_le]
                    omega)]
                  omega
                rw [fitting] at rest
                exact absurd rest (by simp)
            | some inFlight =>
                have difference := Checked.sub_eq_some.mp rest
                refine Or.inr ⟨trivial, running, completed, inFlight, total.symm, fits, ?_, ?_⟩
                · omega
                · simp [UInt64.not_lt.mpr within]
          · refine Or.inl ⟨?_, by simp [UInt64.not_le.mp within]⟩
            rintro ⟨-, -, fits⟩
            exact within (UInt64.le_iff_toNat_le.mpr (by omega))
    · obtain ⟨notQueued, notActive⟩ := not_or.mp running
      have unable : flow.state.canProgress = false := by
        simp [FlowState.canProgress, notQueued, notActive, sound.entered.2]
      exact Or.inl ⟨fun all => running all.2.1, by simp [unable]⟩
  · exact Or.inl ⟨fun all => owned all.1, by simp [owned]⟩

theorem Flow.WellAccounted.complete (sound : flow.WellAccounted) (now : UInt64)
    (boot : WorkerBootId) :
    (¬(flow.ownerBoot = boot ∧ flow.state = .active) ∧
        flow.complete now boot = (false, flow)) ∨
      flow.ownerBoot = boot ∧ flow.state = .active ∧ flow.complete now boot =
        (true, { flow with
          completedBytes := flow.admittedBytes
          inFlightBytes := {}
          state := .completed
          lastProgressMs := now }) := by
  unfold Flow.complete
  by_cases owned : flow.ownerBoot = boot
  · by_cases allowed : flowTransitionAllowed flow.state .completed = true
    · have active : flow.state = .active := by
        have others := sound.entered
        rcases mayComplete allowed with active | other | other | other
        · exact active
        · exact absurd other others.2.1
        · exact absurd other others.2.2.1
        · exact absurd other others.2.2.2
      have added : flow.completedBytes.add
          (flow.admittedBytes.value - flow.completedBytes.value) = some flow.admittedBytes := by
        rw [ByteCounter.add_eq_some, sound.remaining]
        have within := sound.le.1
        omega
      refine Or.inr ⟨owned, active, ?_⟩
      simp [owned, active, added, flowTransitionAllowed]
    · refine Or.inl ⟨?_, by simp [allowed]⟩
      rintro ⟨-, active⟩
      simp [active, flowTransitionAllowed] at allowed
  · exact Or.inl ⟨fun both => owned both.1, by simp [owned]⟩

/-- A state that may be cancelled or failed is live, because no operation enters
the other states that the table lists. -/
theorem Flow.WellAccounted.live_of_mayFinish (sound : flow.WellAccounted)
    (allowed : flowTransitionAllowed flow.state .cancelled = true ∨
      flowTransitionAllowed flow.state .failed = true) : flow.state.live = true := by
  obtain ⟨validating, backpressured, throttled, draining⟩ := sound.entered
  rcases mayFinish allowed with live | other | other | other | other
  · exact live
  · exact absurd other validating
  · exact absurd other backpressured
  · exact absurd other throttled
  · exact absurd other draining

theorem Flow.WellAccounted.cancel (sound : flow.WellAccounted) (now : UInt64)
    (boot : WorkerBootId) (soFar : UInt64) :
    (¬(flow.ownerBoot = boot ∧ flow.state.live = true) ∧
        flow.cancel now boot soFar = (false, flow)) ∨
      flow.ownerBoot = boot ∧ flow.state.live = true ∧ ∃ cancelled : UInt64,
        cancelled.toNat = min soFar.toNat
          (flow.admittedBytes.value.toNat - flow.completedBytes.value.toNat) ∧
        flow.cancel now boot soFar = (true, { flow with
          cancelledBytes := ⟨cancelled⟩
          inFlightBytes := {}
          state := .cancelled
          lastProgressMs := now }) := by
  unfold Flow.cancel
  by_cases owned : flow.ownerBoot = boot
  · by_cases allowed : flowTransitionAllowed flow.state .cancelled = true
    · have live := sound.live_of_mayFinish (Or.inl allowed)
      have current : flow.state.isStaleOrSuperseded = false := by
        revert allowed
        cases flow.state <;> simp [flowTransitionAllowed, FlowState.isStaleOrSuperseded]
      have amount := Checked.toNat_min soFar
        (flow.admittedBytes.value - flow.completedBytes.value)
      rw [sound.remaining] at amount
      -- Nothing was cancelled before, so the counter becomes exactly the new amount.
      have added : flow.cancelledBytes.add (min soFar
          (flow.admittedBytes.value - flow.completedBytes.value)) =
            some ⟨min soFar (flow.admittedBytes.value - flow.completedBytes.value)⟩ := by
        rw [ByteCounter.add_eq_some, (sound.unfinished live).1]
        simp
      have within : ¬flow.completedBytes.value +
          min soFar (flow.admittedBytes.value - flow.completedBytes.value) >
            flow.admittedBytes.value := by
        have ordered := sound.le.1
        have bound := flow.admittedBytes.value.toNat_lt
        rw [gt_iff_lt, UInt64.lt_iff_toNat_lt, UInt64.toNat_add, amount]
        omega
      refine Or.inr ⟨owned, live, _, amount, ?_⟩
      simp only [owned, ne_eq, not_true_eq_false, if_false, current, Bool.false_eq_true, allowed,
        Bool.not_true, added, within]
    · refine Or.inl ⟨fun both => allowed ?_, by simp [allowed]⟩
      exact (mayFinish_of_live both.2).1
  · exact Or.inl ⟨fun both => owned both.1, by simp [owned]⟩

theorem Flow.WellAccounted.fail (sound : flow.WellAccounted) (now : UInt64)
    (boot : WorkerBootId) :
    (¬(flow.ownerBoot = boot ∧ flow.state.live = true) ∧
        flow.fail now boot = (false, flow)) ∨
      flow.ownerBoot = boot ∧ flow.state.live = true ∧ ∃ failed : UInt64,
        failed.toNat =
          flow.admittedBytes.value.toNat - flow.completedBytes.value.toNat ∧
        flow.fail now boot = (true, { flow with
          failedBytes := ⟨failed⟩
          inFlightBytes := {}
          state := .failed
          lastProgressMs := now }) := by
  unfold Flow.fail
  by_cases owned : flow.ownerBoot = boot
  · by_cases allowed : flowTransitionAllowed flow.state .failed = true
    · have live := sound.live_of_mayFinish (Or.inr allowed)
      have added : flow.failedBytes.add
          (flow.admittedBytes.value - flow.completedBytes.value) =
            some ⟨flow.admittedBytes.value - flow.completedBytes.value⟩ := by
        rw [ByteCounter.add_eq_some, (sound.unfinished live).2]
        simp
      refine Or.inr ⟨owned, live, _, sound.remaining, ?_⟩
      simp only [owned, ne_eq, not_true_eq_false, if_false, Bool.false_eq_true, allowed,
        Bool.not_true, added]
    · refine Or.inl ⟨fun both => allowed ?_, by simp [allowed]⟩
      exact (mayFinish_of_live both.2).2
  · exact Or.inl ⟨fun both => owned both.1, by simp [owned]⟩

theorem Flow.revalidate_cases (flow : Flow R) (boot : WorkerBootId) :
    (¬(flow.ownerBoot = boot ∧ flow.state = .stale) ∧
        flow.revalidate boot = (false, flow)) ∨
      flow.ownerBoot = boot ∧ flow.state = .stale ∧ flow.revalidate boot =
        (true, { flow with state := .revalidationRequired }) := by
  unfold Flow.revalidate
  by_cases owned : flow.ownerBoot = boot
  · by_cases allowed : flowTransitionAllowed flow.state .revalidationRequired = true
    · exact Or.inr ⟨owned, mayRevalidate allowed, by simp [owned, allowed]⟩
    · refine Or.inl ⟨?_, by simp [allowed]⟩
      rintro ⟨-, stale⟩
      simp [stale, flowTransitionAllowed] at allowed
  · exact Or.inl ⟨fun both => owned both.1, by simp [owned]⟩

/-! ## Preservation -/

theorem Flow.wellAccounted_declare (id : FlowId) (now : UInt64) (options : FlowOptions R) :
    (Flow.declare id now options).WellAccounted where
  accounting := Flow.accountingValid_iff.mpr ⟨Nat.le_refl _, Nat.zero_le _, Nat.le_refl _⟩
  entered := by simp [Flow.declare]
  unadmitted _ := rfl
  unprogressed _ := rfl
  unstarted _ _ := rfl
  unfinished _ := ⟨rfl, rfl⟩

/-- A change of state to one that nobody acts on keeps the invariant. -/
private theorem Flow.WellAccounted.park (sound : flow.WellAccounted) {state : FlowState}
    (parked : state = .stale ∨ state = .revalidationRequired) :
    ({ flow with state := state } : Flow R).WellAccounted := by
  apply Flow.WellAccounted.of_inert
  · exact sound.accounting
  · rcases parked with rfl | rfl <;> simp
  · rcases parked with rfl | rfl <;> rfl

private theorem Flow.WellAccounted.fence (sound : flow.WellAccounted) (owned : Bool) :
    (flow.fence owned).WellAccounted := by
  unfold Flow.fence
  split
  · exact sound.park (Or.inl rfl)
  · exact sound

private theorem Flow.WellAccounted.requireRevalidation (sound : flow.WellAccounted) :
    flow.requireRevalidation.WellAccounted := by
  unfold Flow.requireRevalidation
  split
  · exact sound.park (Or.inr rfl)
  · exact sound

private theorem Flow.WellAccounted.advanceGeneration (sound : flow.WellAccounted)
    (next : FlowGeneration) : (flow.advanceGeneration next).2.WellAccounted := by
  unfold Flow.advanceGeneration
  split
  · exact sound
  · by_cases stale : flow.state = .stale
    · simp only [stale, if_true]
      exact .of_inert sound.accounting (by simp) rfl
    · simp only [stale, if_false]
      exact ⟨sound.accounting, sound.entered, sound.unadmitted, sound.unprogressed,
        sound.unstarted, sound.unfinished⟩

private theorem Flow.WellAccounted.admit_record (sound : flow.WellAccounted)
    (domainExists : Bool) : (flow.admission domainExists).2.WellAccounted := by
  rcases sound.admission domainExists with ⟨-, refused⟩ | ⟨declared, -, accepted⟩
  · rw [refused]
    exact sound
  · have live : flow.state.live = true := by simp [FlowState.live, declared]
    have idle := sound.unstarted live (by simp [declared])
    have early := sound.unprogressed (Or.inl declared)
    rw [accepted]
    refine ⟨Flow.accountingValid_iff.mpr ?_, by simp, by simp, fun _ => early,
      fun _ _ => idle, fun _ => sound.unfinished live⟩
    simp [idle, early]

private theorem Flow.WellAccounted.queue_record (sound : flow.WellAccounted)
    (limits : EngineLimits) (domainExists : Bool) (queued : UInt64) :
    (flow.queue limits domainExists queued).2.WellAccounted := by
  rcases flow.queue_cases limits domainExists queued with refused | ⟨admitted, accepted⟩
  · rw [refused]
    exact sound
  · have live : flow.state.live = true := by simp [FlowState.live, admitted]
    rw [accepted]
    exact ⟨sound.accounting, by simp, by simp, by simp,
      fun _ _ => sound.unstarted live (by simp [admitted]), fun _ => sound.unfinished live⟩

private theorem Flow.WellAccounted.start_record (sound : flow.WellAccounted) (now : UInt64)
    (boot : WorkerBootId) : (flow.start now boot).2.WellAccounted := by
  rcases sound.start now boot with ⟨-, refused⟩ | ⟨-, ready, accepted⟩
  · rw [refused]
    exact sound
  · have live : flow.state.live = true := by
      rcases ready with ready | ready <;> simp [FlowState.live, ready]
    obtain ⟨completed, admitted, -⟩ := sound.le
    rw [accepted]
    refine ⟨Flow.accountingValid_iff.mpr ⟨completed, admitted, Nat.le_refl _⟩, ?_, ?_, ?_, ?_,
      fun _ => sound.unfinished live⟩ <;> simp [Flow.started]

private theorem Flow.WellAccounted.progress_record (sound : flow.WellAccounted)
    (now : UInt64) (boot : WorkerBootId) (delta : UInt64) :
    (flow.progress now boot delta).2.WellAccounted := by
  rcases sound.progress now boot delta with ⟨-, refused⟩ |
    ⟨-, running, completed, inFlight, -, within, moved, accepted⟩
  · rw [refused]
    exact sound
  · have live : flow.state.live = true := by
      rcases running with running | running <;> simp [FlowState.live, running]
    obtain ⟨-, admitted, flying⟩ := sound.le
    rw [accepted]
    refine ⟨Flow.accountingValid_iff.mpr ⟨within, admitted, ?_⟩, sound.entered, ?_, ?_, ?_,
      fun _ => sound.unfinished live⟩
    · change inFlight.toNat ≤ flow.admittedBytes.value.toNat
      omega
    · rcases running with running | running <;> simp [running]
    · rcases running with running | running <;> simp [running]
    · intro _ notActive
      have nothing := sound.unstarted live notActive
      apply UInt64.toNat_inj.mp
      rw [moved, nothing]
      simp

private theorem Flow.WellAccounted.complete_record (sound : flow.WellAccounted)
    (now : UInt64) (boot : WorkerBootId) : (flow.complete now boot).2.WellAccounted := by
  rcases sound.complete now boot with ⟨-, refused⟩ | ⟨-, -, accepted⟩
  · rw [refused]
    exact sound
  · obtain ⟨-, admitted, -⟩ := sound.le
    rw [accepted]
    exact .of_inert (Flow.accountingValid_iff.mpr ⟨Nat.le_refl _, admitted, Nat.zero_le _⟩)
      (by simp) rfl

private theorem Flow.WellAccounted.cancel_record (sound : flow.WellAccounted)
    (now : UInt64) (boot : WorkerBootId) (soFar : UInt64) :
    (flow.cancel now boot soFar).2.WellAccounted := by
  rcases sound.cancel now boot soFar with ⟨-, refused⟩ | ⟨-, -, cancelled, -, accepted⟩
  · rw [refused]
    exact sound
  · obtain ⟨completed, admitted, -⟩ := sound.le
    rw [accepted]
    exact .of_inert (Flow.accountingValid_iff.mpr ⟨completed, admitted, Nat.zero_le _⟩)
      (by simp) rfl

private theorem Flow.WellAccounted.fail_record (sound : flow.WellAccounted)
    (now : UInt64) (boot : WorkerBootId) : (flow.fail now boot).2.WellAccounted := by
  rcases sound.fail now boot with ⟨-, refused⟩ | ⟨-, -, failed, -, accepted⟩
  · rw [refused]
    exact sound
  · obtain ⟨completed, admitted, -⟩ := sound.le
    rw [accepted]
    exact .of_inert (Flow.accountingValid_iff.mpr ⟨completed, admitted, Nat.zero_le _⟩)
      (by simp) rfl

private theorem Flow.WellAccounted.revalidate_record (sound : flow.WellAccounted)
    (boot : WorkerBootId) : (flow.revalidate boot).2.WellAccounted := by
  rcases flow.revalidate_cases boot with ⟨-, refused⟩ | ⟨-, -, accepted⟩
  · rw [refused]
    exact sound
  · rw [accepted]
    exact sound.park (Or.inr rfl)

/-- Every operation keeps the lifecycle invariant of every existing flow. -/
theorem Flow.WellAccounted.after (sound : flow.WellAccounted) (limits : EngineLimits)
    (now : UInt64) (op : Op R) (state : Impl R) (id : FlowId) :
    (flowAfter limits now op state id flow).WellAccounted := by
  apply flowAfter_elim
  case same => exact sound
  case fenceWorker => exact fun _ _ _ _ => sound.fence _
  case fenceSource => exact fun _ _ _ _ => sound.fence _
  case admission => exact fun _ _ _ => sound.admit_record _
  case queue => exact fun _ _ _ => sound.queue_record _ _ _
  case start => exact fun _ _ _ _ => sound.start_record _ _
  case progress => exact fun _ _ _ _ _ => sound.progress_record _ _ _
  case complete => exact fun _ _ _ _ => sound.complete_record _ _
  case cancel => exact fun _ _ _ _ _ => sound.cancel_record _ _ _
  case fail => exact fun _ _ _ _ => sound.fail_record _ _
  case advance => exact fun _ _ _ _ => sound.advanceGeneration _
  case revalidate => exact fun _ _ _ _ => sound.revalidate_record _
  case recover => exact fun _ => sound.requireRevalidation

/-- The operation is a fence. -/
def Op.isFence : Op R → Bool
  | .fenceWorker _ _ | .fenceSource _ _ => true
  | _ => false

/-- What an operation leaves of a flow that nobody can act on: the record itself
with a generation and a state, and the state changes only to await revalidation
or, in a fence, to STALE. -/
structure Flow.Parked (flow after : Flow R) (op : Op R) : Prop where
  record : ∃ generation state,
    after = { flow with ref := { flow.ref with generation }, state := state }
  state : after.state = flow.state ∨ flow.isTerminal = false ∧
    (after.state = .revalidationRequired ∨ op.isFence = true ∧ after.state = .stale)

theorem Flow.Parked.refl (flow : Flow R) (op : Op R) : flow.Parked flow op where
  record := ⟨flow.ref.generation, flow.state, rfl⟩
  state := Or.inl rfl

private theorem Flow.parked_fence (flow : Flow R) (owned : Bool) {op : Op R}
    (fence : op.isFence = true) : flow.Parked (flow.fence owned) op := by
  unfold Flow.fence
  split
  · next reached =>
      simp only [Bool.and_eq_true, Bool.not_eq_true'] at reached
      exact ⟨⟨flow.ref.generation, .stale, rfl⟩, Or.inr ⟨reached.1.2, Or.inr ⟨fence, rfl⟩⟩⟩
  · exact .refl flow op

theorem Flow.WellAccounted.parked (sound : flow.WellAccounted) (inert : flow.state.live = false)
    (limits : EngineLimits) (now : UInt64) (op : Op R) (state : Impl R) (id : FlowId) :
    flow.Parked (flowAfter limits now op state id flow) op := by
  have notLive : flow.state.live ≠ true := by simp [inert]
  have awaits : flow.state = .stale → flow.isTerminal = false := by
    intro stale
    simp [Flow.isTerminal, stale, FlowState.isTerminal]
  apply flowAfter_elim (motive := fun after => flow.Parked after op)
  case same => exact .refl flow op
  case fenceWorker =>
    rintro worker deadBoot rfl _
    exact flow.parked_fence _ rfl
  case fenceSource =>
    rintro source deadBoot rfl _
    exact flow.parked_fence _ rfl
  case admission =>
    intro ref _ _
    rcases sound.admission (state.domains.contains flow.domain.id) with ⟨-, refused⟩ | ⟨declared, -⟩
    · rw [refused]
      exact .refl flow op
    · exact absurd (by simp [FlowState.live, declared]) notLive
  case queue =>
    intro ref _ _
    rcases flow.queue_cases limits (state.domains.contains flow.domain.id)
      (state.queuedFlows flow.domain.id) with refused | ⟨admitted, -⟩
    · rw [refused]
      exact .refl flow op
    · exact absurd (by simp [FlowState.live, admitted]) notLive
  case start =>
    intro ref boot _ _
    rcases sound.start now boot with ⟨-, refused⟩ | ⟨-, ready, -⟩
    · rw [refused]
      exact .refl flow op
    · rcases ready with ready | ready <;> exact absurd (by simp [FlowState.live, ready]) notLive
  case progress =>
    intro ref boot delta _ _
    rcases sound.progress now boot delta with ⟨-, refused⟩ | ⟨-, running, -⟩
    · rw [refused]
      exact .refl flow op
    · rcases running with running | running <;>
        exact absurd (by simp [FlowState.live, running]) notLive
  case complete =>
    intro ref boot _ _
    rcases sound.complete now boot with ⟨-, refused⟩ | ⟨-, active, -⟩
    · rw [refused]
      exact .refl flow op
    · exact absurd (by simp [FlowState.live, active]) notLive
  case cancel =>
    intro ref boot soFar _ _
    rcases sound.cancel now boot soFar with ⟨-, refused⟩ | ⟨-, live, -⟩
    · rw [refused]
      exact .refl flow op
    · exact absurd live notLive
  case fail =>
    intro ref boot _ _
    rcases sound.fail now boot with ⟨-, refused⟩ | ⟨-, live, -⟩
    · rw [refused]
      exact .refl flow op
    · exact absurd live notLive
  case advance =>
    intro ref following _ _
    unfold Flow.advanceGeneration
    split_ifs with refused stale
    · exact .refl flow op
    · exact ⟨⟨following, .revalidationRequired, rfl⟩, Or.inr ⟨awaits stale, Or.inl rfl⟩⟩
    · exact ⟨⟨following, flow.state, rfl⟩, Or.inl rfl⟩
  case revalidate =>
    intro ref boot _ _
    rcases flow.revalidate_cases boot with ⟨-, refused⟩ | ⟨-, stale, accepted⟩
    · rw [refused]
      exact .refl flow op
    · rw [accepted]
      exact ⟨⟨flow.ref.generation, .revalidationRequired, rfl⟩,
        Or.inr ⟨awaits stale, Or.inl rfl⟩⟩
  case recover =>
    intro _
    unfold Flow.requireRevalidation
    split
    · next reached =>
        simp only [Bool.and_eq_true, Bool.not_eq_true'] at reached
        exact ⟨⟨flow.ref.generation, .revalidationRequired, rfl⟩,
          Or.inr ⟨reached.1, Or.inl rfl⟩⟩
    · exact .refl flow op

/-- A flow that nobody can act on stays so: it keeps its state, comes to await
revalidation, or is made STALE by a fence. -/
theorem Flow.WellAccounted.after_inert (sound : flow.WellAccounted)
    (inert : flow.state.live = false) (limits : EngineLimits) (now : UInt64) (op : Op R)
    (state : Impl R) (id : FlowId) :
    (flowAfter limits now op state id flow).state = flow.state ∨
      (flowAfter limits now op state id flow).state = .revalidationRequired ∨
      op.isFence = true ∧ (flowAfter limits now op state id flow).state = .stale :=
  (sound.parked inert limits now op state id).state.imp_right And.right

/-! ## Every flow of an engine -/

/-- Every flow of the engine satisfies the lifecycle invariant. -/
def Impl.WellAccounted (state : Impl R) : Prop :=
  ∀ id flow, state.flows.find? id = some flow → flow.WellAccounted

variable {limits : EngineLimits} {state next : Impl R} {label : Label R}

theorem Impl.wellAccounted_fresh : (Impl.fresh : Impl R).WellAccounted := by
  intro id flow stored
  simp [Impl.fresh] at stored

theorem Impl.WellAccounted.exec (sound : state.WellAccounted) (limits : EngineLimits)
    (now : UInt64) (op : Op R) : (exec limits now op state).2.WellAccounted := by
  intro id after stored
  rcases exec_flow_origin stored with ⟨flow, found, rfl⟩ | ⟨options, -, -, -, -, rfl⟩
  · exact (sound id flow found).after limits now op state id
  · exact Flow.wellAccounted_declare id now options

theorem Impl.WellAccounted.step (sound : state.WellAccounted)
    (taken : Step limits state label next) : next.WellAccounted := by
  cases taken with
  | call now op => exact sound.exec limits now op
  | rehash same =>
      intro id flow stored
      rw [← same.flows.find?_eq] at stored
      exact sound id flow stored

end CongestionFabric
