import CongestionFabric.Engine.Generations
import CongestionFabric.Engine.Shares

/-!
Contract: the books that the callers of the engine can keep from its answers.

Owns:
- the account of a flow, which knows what was declared and which calls were accepted,
  and never looks at the engine;
- the books of all flows, and the entry that a call and its answer make;
- the invariant that every flow has the counters its account gives.

Does not own: restarts, and how a call reaches the engine.
-/

namespace CongestionFabric

open Foundation

variable {R : Type} [Arithmetic R]

/-! ## Accounts -/

/-- How a flow ended. -/
inductive Ending where
  | completed
  | cancelled (reported : Nat)
  | failed
deriving DecidableEq

/-- The account of a flow, in whole numbers: what was acknowledged in all, and since the
flow started. -/
structure Account where
  submitted : Nat
  admitted : Bool := false
  acknowledged : Nat := 0
  sinceStart : Option Nat := none
  ending : Option Ending := none
deriving DecidableEq

namespace Account

/-- The bytes that may be sent. -/
def volume (account : Account) : Nat :=
  if account.admitted then account.submitted else 0

def remaining (account : Account) : Nat := account.volume - account.acknowledged

/-- Completion acknowledges what remains. -/
def completed (account : Account) : Nat :=
  if account.ending = some .completed then account.volume else account.acknowledged

/-- A cancellation counts no more than what remains, whatever it reports. -/
def cancelled (account : Account) : Nat :=
  match account.ending with
  | some (.cancelled reported) => min reported account.remaining
  | _ => 0

def failed (account : Account) : Nat :=
  if account.ending = some .failed then account.remaining else 0

/-- Nothing is in flight before the start and after the end. -/
def inFlight (account : Account) : Nat :=
  match account.sinceStart, account.ending with
  | some acknowledged, none => account.volume - acknowledged
  | _, _ => 0

/-- What an accepted call enters. -/
def accept (op : Op R) (account : Account) : Account :=
  match op with
  | .admitFlow _ => { account with admitted := true }
  | .startFlow _ _ => { account with sinceStart := some 0 }
  | .flowProgress _ _ delta => { account with
      acknowledged := account.acknowledged + delta.toNat
      sinceStart := account.sinceStart.map (· + delta.toNat) }
  | .flowComplete _ _ => { account with ending := some .completed }
  | .flowCancel _ _ soFar => { account with ending := some (.cancelled soFar.toNat) }
  | .flowFail _ _ => { account with ending := some .failed }
  | _ => account

end Account

/-! ## Books -/

/-- The operation was accepted, as its answer says. -/
def Result.accepts : Result R → Bool
  | .verdict accepted => accepted
  | _ => false

/-- The entry that a call and its answer make in the account of a flow. -/
def Account.enter (id : FlowId) (op : Op R) (result : Result R) (account : Account) : Account :=
  if result.accepts = true ∧ op.flowRef.map EntityRef.id = some id then account.accept op
  else account

/-- The accounts of all flows. -/
abbrev Books := FlowId → Option Account

/-- The books after a call and its answer. A declaration whose answer names a flow opens
an account, unless there is one. -/
def Books.enter (op : Op R) (result : Result R) (books : Books) : Books := fun id =>
  match op, result with
  | .declareFlow options, .flowRef ref =>
      if ref.id = id ∧ id.isValid = true ∧ books id = none then
        some { submitted := options.submittedBytes.toNat }
      else books id
  | op, result => (books id).map (Account.enter id op result)

/-! ## One flow -/

/-- The flow has the counters of the account. -/
structure Account.Settles (account : Account) (flow : Flow R) : Prop where
  submitted : flow.submittedBytes.value.toNat = account.submitted
  admitted : flow.admittedBytes.value.toNat = account.volume
  completed : flow.completedBytes.value.toNat = account.completed
  cancelled : flow.cancelledBytes.value.toNat = account.cancelled
  failed : flow.failedBytes.value.toNat = account.failed
  inFlight : flow.inFlightBytes.value.toNat = account.inFlight

/-- And the account knows which flows have not ended, and which have not started. -/
structure Account.Follows (account : Account) (flow : Flow R) : Prop where
  settles : account.Settles flow
  unended : flow.state.live = true → account.ending = none
  unstarted : flow.state.live = true → flow.state ≠ .active → account.sinceStart = none

namespace Account

variable {account : Account} {flow : Flow R} {id : FlowId} {now : UInt64}

/-- A flow is declared with a new account. -/
private theorem follows_declare (options : FlowOptions R) :
    ({ submitted := options.submittedBytes.toNat } : Account).Follows
      (Flow.declare id now options) :=
  ⟨⟨rfl, rfl, rfl, rfl, rfl, rfl⟩, fun _ => rfl, fun _ _ => rfl⟩

/-- Another generation, and a state in which nobody can act on the flow. -/
private theorem Follows.park (follows : account.Follows flow) (ref : EntityRef FlowTag)
    {state : FlowState} (inert : state = flow.state ∨ state.live = false) :
    account.Follows { flow with ref := ref, state := state } := by
  have settles : account.Settles { flow with ref := ref, state := state } :=
    ⟨follows.settles.submitted, follows.settles.admitted, follows.settles.completed,
      follows.settles.cancelled, follows.settles.failed, follows.settles.inFlight⟩
  rcases inert with rfl | inert
  · exact ⟨settles, follows.unended, follows.unstarted⟩
  · have notLive : state.live ≠ true := by simp [inert]
    exact ⟨settles, fun live => absurd live notLive, fun live => absurd live notLive⟩

private theorem Follows.fence (follows : account.Follows flow) (owned : Bool) :
    account.Follows (flow.fence owned) := by
  unfold Flow.fence
  split
  · exact follows.park flow.ref (Or.inr rfl)
  · exact follows

private theorem Follows.requireRevalidation (follows : account.Follows flow) :
    account.Follows flow.requireRevalidation := by
  unfold Flow.requireRevalidation
  split
  · exact follows.park flow.ref (Or.inr rfl)
  · exact follows

private theorem Follows.advanceGeneration (follows : account.Follows flow)
    (next : FlowGeneration) : account.Follows (flow.advanceGeneration next).2 := by
  unfold Flow.advanceGeneration
  split
  · exact follows
  · refine follows.park _ ?_
    split
    · exact Or.inr rfl
    · exact Or.inl rfl

/-- The body refuses and leaves the record, or it accepts and makes the entry. -/
def Enters (entry : Account → Account) (account : Account) (flow : Flow R)
    (outcome : Bool × Flow R) : Prop :=
  outcome = (false, flow) ∨ outcome.1 = true ∧ (entry account).Follows outcome.2

/-- The counters of an account that has not ended. -/
private theorem Settles.unended (settles : account.Settles flow) (unended : account.ending = none) :
    flow.completedBytes.value.toNat = account.acknowledged ∧
      flow.cancelledBytes.value.toNat = 0 ∧ flow.failedBytes.value.toNat = 0 := by
  refine ⟨settles.completed.trans ?_, settles.cancelled.trans ?_, settles.failed.trans ?_⟩
  · unfold Account.completed
    rw [unended, if_neg (by simp)]
  · unfold Account.cancelled
    rw [unended]
  · unfold Account.failed
    rw [unended, if_neg (by simp)]

private theorem Follows.admission (follows : account.Follows flow) (sound : flow.WellAccounted)
    (ref : EntityRef FlowTag) (domainExists : Bool) :
    Enters (accept (.admitFlow ref : Op R)) account flow (flow.admission domainExists) := by
  rcases sound.admission domainExists with ⟨-, refused⟩ | ⟨declared, -, accepted⟩
  · exact Or.inl refused
  · have live : flow.state.live = true := by simp [FlowState.live, declared]
    have unended := follows.unended live
    have unstarted := follows.unstarted live (by simp [declared])
    have idle := sound.unstarted live (by simp [declared])
    obtain ⟨completed, cancelled, failed⟩ := follows.settles.unended unended
    rw [accepted]
    refine Or.inr ⟨rfl, ⟨⟨follows.settles.submitted, follows.settles.submitted, ?_, ?_, ?_, ?_⟩,
      fun _ => unended, fun _ _ => unstarted⟩⟩
    · simpa [Account.completed, accept, unended] using completed
    · simpa [Account.cancelled, accept, unended] using cancelled
    · simpa [Account.failed, accept, unended] using failed
    · simpa [Account.inFlight, accept, unended, unstarted] using congrArg UInt64.toNat idle

private theorem Follows.queue (follows : account.Follows flow) (ref : EntityRef FlowTag)
    (limits : EngineLimits) (domainExists : Bool) (queued : UInt64) :
    Enters (accept (.queueFlow ref : Op R)) account flow
      (flow.queue limits domainExists queued) := by
  rcases flow.queue_cases limits domainExists queued with refused | ⟨admitted, accepted⟩
  · exact Or.inl refused
  · have live : flow.state.live = true := by simp [FlowState.live, admitted]
    rw [accepted]
    have settles := follows.settles
    exact Or.inr ⟨rfl, ⟨settles.submitted, settles.admitted, settles.completed, settles.cancelled,
      settles.failed, settles.inFlight⟩, fun _ => follows.unended live,
      fun _ _ => follows.unstarted live (by simp [admitted])⟩

private theorem Follows.start (follows : account.Follows flow) (sound : flow.WellAccounted)
    (ref : EntityRef FlowTag) (now : UInt64) (boot : WorkerBootId) :
    Enters (accept (.startFlow ref boot : Op R)) account flow (flow.start now boot) := by
  rcases sound.start now boot with ⟨-, refused⟩ | ⟨-, ready, accepted⟩
  · exact Or.inl refused
  · have live : flow.state.live = true := by
      rcases ready with ready | ready <;> simp [FlowState.live, ready]
    have unended := follows.unended live
    have settles := follows.settles
    rw [accepted]
    refine Or.inr ⟨rfl, ⟨settles.submitted, settles.admitted, settles.completed, settles.cancelled,
      settles.failed, ?_⟩, fun _ => unended, fun _ notActive => absurd rfl notActive⟩
    change flow.admittedBytes.value.toNat = _
    simp only [Account.inFlight, accept, unended, Nat.sub_zero]
    exact settles.admitted

private theorem Follows.progress (follows : account.Follows flow) (sound : flow.WellAccounted)
    (ref : EntityRef FlowTag) (now : UInt64) (boot : WorkerBootId) (delta : UInt64) :
    Enters (accept (.flowProgress ref boot delta : Op R)) account flow
      (flow.progress now boot delta) := by
  rcases sound.progress now boot delta with ⟨-, refused⟩ |
    ⟨-, running, completed, inFlight, total, within, rest, accepted⟩
  · exact Or.inl refused
  · have live : flow.state.live = true := by
      rcases running with running | running <;> simp [FlowState.live, running]
    have unended := follows.unended live
    have settles := follows.settles
    obtain ⟨acknowledged, cancelled, failed⟩ := settles.unended unended
    rw [accepted]
    refine Or.inr ⟨rfl, ⟨settles.submitted, settles.admitted, ?_, ?_, ?_, ?_⟩, fun _ => unended,
      fun _ notActive => ?_⟩
    · simpa [Account.completed, accept, unended, acknowledged] using total
    · simpa [Account.cancelled, accept, unended] using cancelled
    · simpa [Account.failed, accept, unended] using failed
    · have before := settles.inFlight
      cases started : account.sinceStart with
      | none =>
          simp only [Account.inFlight, started] at before
          simp only [Account.inFlight, accept, started, Option.map_none]
          omega
      | some acknowledged =>
          simp only [Account.inFlight, started, unended] at before
          simp only [Account.inFlight, accept, started, unended, Option.map_some]
          change inFlight.toNat = account.volume - (acknowledged + delta.toNat)
          omega
    · have unstarted := follows.unstarted live notActive
      simp only [accept, unstarted, Option.map_none]

private theorem Follows.complete (follows : account.Follows flow) (sound : flow.WellAccounted)
    (ref : EntityRef FlowTag) (now : UInt64) (boot : WorkerBootId) :
    Enters (accept (.flowComplete ref boot : Op R)) account flow (flow.complete now boot) := by
  rcases sound.complete now boot with ⟨-, refused⟩ | ⟨-, active, accepted⟩
  · exact Or.inl refused
  · have live : flow.state.live = true := by simp [FlowState.live, active]
    have settles := follows.settles
    obtain ⟨-, cancelled, failed⟩ := settles.unended (follows.unended live)
    rw [accepted]
    refine Or.inr ⟨rfl, ⟨settles.submitted, settles.admitted, ?_, ?_, ?_, ?_⟩,
      fun live => absurd live (by simp [FlowState.live]),
      fun live => absurd live (by simp [FlowState.live])⟩
    · simp only [Account.completed, accept, if_true]
      exact settles.admitted
    · simpa [Account.cancelled, accept] using cancelled
    · simpa [Account.failed, accept] using failed
    · simp [Account.inFlight, accept]

private theorem Follows.cancel (follows : account.Follows flow) (sound : flow.WellAccounted)
    (ref : EntityRef FlowTag) (now : UInt64) (boot : WorkerBootId) (soFar : UInt64) :
    Enters (accept (.flowCancel ref boot soFar : Op R)) account flow
      (flow.cancel now boot soFar) := by
  rcases sound.cancel now boot soFar with ⟨-, refused⟩ | ⟨-, live, amount, counted, accepted⟩
  · exact Or.inl refused
  · have settles := follows.settles
    obtain ⟨acknowledged, -, failed⟩ := settles.unended (follows.unended live)
    rw [settles.admitted, acknowledged] at counted
    rw [accepted]
    refine Or.inr ⟨rfl, ⟨settles.submitted, settles.admitted, ?_, ?_, ?_, ?_⟩,
      fun live => absurd live (by simp [FlowState.live]),
      fun live => absurd live (by simp [FlowState.live])⟩
    · simpa [Account.completed, accept] using acknowledged
    · exact counted
    · simpa [Account.failed, accept] using failed
    · simp [Account.inFlight, accept]

private theorem Follows.fail (follows : account.Follows flow) (sound : flow.WellAccounted)
    (ref : EntityRef FlowTag) (now : UInt64) (boot : WorkerBootId) :
    Enters (accept (.flowFail ref boot : Op R)) account flow (flow.fail now boot) := by
  rcases sound.fail now boot with ⟨-, refused⟩ | ⟨-, live, amount, counted, accepted⟩
  · exact Or.inl refused
  · have settles := follows.settles
    obtain ⟨acknowledged, cancelled, -⟩ := settles.unended (follows.unended live)
    rw [settles.admitted, acknowledged] at counted
    rw [accepted]
    refine Or.inr ⟨rfl, ⟨settles.submitted, settles.admitted, ?_, ?_, ?_, ?_⟩,
      fun live => absurd live (by simp [FlowState.live]),
      fun live => absurd live (by simp [FlowState.live])⟩
    · simpa [Account.completed, accept] using acknowledged
    · simpa [Account.cancelled, accept] using cancelled
    · exact counted
    · simp [Account.inFlight, accept]

private theorem Follows.revalidate (follows : account.Follows flow) (ref : EntityRef FlowTag)
    (boot : WorkerBootId) :
    Enters (accept (.revalidateFlow ref boot : Op R)) account flow (flow.revalidate boot) := by
  rcases flow.revalidate_cases boot with ⟨-, refused⟩ | ⟨-, -, accepted⟩
  · exact Or.inl refused
  · rw [accepted]
    exact Or.inr ⟨rfl, follows.park flow.ref (Or.inr rfl)⟩

variable {limits : EngineLimits} {state : Impl R} {ref : EntityRef FlowTag}

/-- An operation on a flow makes the entry of its body. -/
private theorem Follows.onFlow {op : Op R} {body : Flow R → Bool × Flow R}
    {after : Flow R → Impl R → Impl R} (follows : account.Follows flow)
    (stored : state.flows.find? id = some flow) (named : op.flowRef = some ref)
    (call : Bool × Impl R) (called : call = state.onFlow ref body after)
    (enters : Enters (accept op) account flow (body flow)) :
    (account.enter id op (.verdict call.1)).Follows
      (if ref.names id flow then (body flow).2 else flow) := by
  obtain rfl := called
  unfold enter
  rw [named]
  by_cases here : ref.names id flow
  · have verdict : (state.onFlow ref body after).1 = (body flow).1 := by
      rw [here.1] at stored
      rw [Bool.eq_iff_iff, Impl.onFlow_accepted, findFlow_eq_some.mpr ⟨stored, here.2⟩]
      simp
    have addressed : (some ref).map EntityRef.id = some id := congrArg some here.1.symm
    rw [if_pos here, verdict]
    rcases enters with refused | ⟨accepted, entered⟩
    · rw [refused, if_neg (fun both => Bool.false_ne_true both.1)]
      exact follows
    · rw [if_pos ⟨accepted, addressed⟩]
      exact entered
  · rw [if_neg here, if_neg]
    · exact follows
    · rintro ⟨accepted, same⟩
      obtain ⟨found, isFound, -⟩ := Impl.onFlow_accepted.mp accepted
      obtain ⟨stillStored, current⟩ := findFlow_eq_some.mp isFound
      rw [Option.some.inj same, stored] at stillStored
      exact here ⟨(Option.some.inj same).symm, Option.some.inj stillStored ▸ current⟩

/-- The entry of every operation is what the operation does to the flow. -/
private theorem Follows.after (follows : account.Follows flow) (sound : flow.WellAccounted)
    (stored : state.flows.find? id = some flow) (limits : EngineLimits) (now : UInt64)
    (op : Op R) :
    (account.enter id op (exec limits now op state).1).Follows
      (flowAfter limits now op state id flow) := by
  have untouched : ∀ {op : Op R} {result : Result R}, op.flowRef = none →
      account.enter id op result = account := by
    intro op result unnamed
    unfold enter
    rw [unnamed, if_neg (by simp)]
  cases op with
  | admitFlow ref =>
      have called : state.admitFlow ref = state.onFlow ref
        (fun flow => flow.admission (state.domains.contains flow.domain.id)) _ := rfl
      have entered : (account.enter id (.admitFlow ref)
          (.verdict (state.admitFlow ref).1)).Follows _ :=
        follows.onFlow stored rfl _ called (follows.admission sound ref _)
      exact entered
  | queueFlow ref =>
      have called : state.queueFlow limits ref = state.onFlow ref
        (fun flow => flow.queue limits (state.domains.contains flow.domain.id)
          (state.queuedFlows flow.domain.id)) _ := rfl
      have entered : (account.enter id (.queueFlow ref)
          (.verdict (state.queueFlow limits ref).1)).Follows _ :=
        follows.onFlow stored rfl _ called (follows.queue ref limits _ _)
      exact entered
  | startFlow ref boot =>
      exact follows.onFlow stored rfl (state.startFlow now ref boot) rfl
        (follows.start sound ref now boot)
  | flowProgress ref boot delta =>
      exact follows.onFlow stored rfl (state.flowProgress now ref boot delta) rfl
        (follows.progress sound ref now boot delta)
  | flowComplete ref boot =>
      exact follows.onFlow stored rfl (state.flowComplete now ref boot) rfl
        (follows.complete sound ref now boot)
  | flowCancel ref boot soFar =>
      exact follows.onFlow stored rfl (state.flowCancel now ref boot soFar) rfl
        (follows.cancel sound ref now boot soFar)
  | flowFail ref boot =>
      exact follows.onFlow stored rfl (state.flowFail now ref boot) rfl
        (follows.fail sound ref now boot)
  | revalidateFlow ref boot =>
      exact follows.onFlow stored rfl (state.revalidateFlow ref boot) rfl
        (follows.revalidate ref boot)
  | advanceFlowGeneration ref next =>
      have same : account.enter id (.advanceFlowGeneration ref next)
          (exec limits now (.advanceFlowGeneration ref next) state).1 = account := by
        unfold enter
        exact ite_self _
      rw [same]
      unfold flowAfter
      dsimp only
      split
      · exact follows.advanceGeneration next
      · exact follows
  | fenceWorker worker deadBoot =>
      rw [untouched rfl]
      unfold flowAfter
      dsimp only
      split
      · exact follows.fence _
      · exact follows
  | fenceSource source deadBoot =>
      rw [untouched rfl]
      unfold flowAfter
      dsimp only
      split
      · exact follows.fence _
      · exact follows
  | recoverDynamicEvidence =>
      rw [untouched rfl]
      exact follows.requireRevalidation
  | _ =>
      rw [untouched rfl]
      exact follows

end Account

/-! ## Every flow of an engine -/

/-- Every flow under a valid identifier has the counters of its account, and there is no
account without a flow. -/
structure Impl.Balances (state : Impl R) (books : Books) : Prop where
  keyed : state.FlowsKeyed
  sound : state.WellAccounted
  follows : ∀ {id flow}, id.isValid = true → state.flows.find? id = some flow →
    ∃ account, books id = some account ∧ account.Follows flow
  absent : ∀ {id}, state.flows.find? id = none → books id = none

section Engine

variable {limits : EngineLimits} {now : UInt64} {op : Op R} {state next : Impl R} {books : Books}

theorem Impl.balances_fresh : (Impl.fresh : Impl R).Balances fun _ => none where
  keyed := Impl.flowsKeyed_fresh
  sound := Impl.wellAccounted_fresh
  follows _ stored := absurd stored (by simp [Impl.fresh])
  absent _ := rfl

/-- An account that exists gets the entry of the call. -/
private theorem Books.enter_eq_some {id : FlowId} {account : Account} (result : Result R)
    (kept : books id = some account) :
    books.enter op result id = some (account.enter id op result) := by
  unfold Books.enter
  rw [kept]
  split
  · rw [if_neg (by simp), Account.enter, if_neg (by simp [Op.flowRef])]
  · rfl

/-- An accepted declaration answers with the flow under the number it took. -/
private theorem declareFlow_stored {options : FlowOptions R} (now : UInt64)
    (allowed : Declarable limits options state) :
    ∃ flow, (exec limits now (.declareFlow options) state).2.flows.find? ⟨state.nextFlow⟩ =
        some flow ∧
      (exec limits now (.declareFlow options) state).1 = .flowRef flow.ref := by
  change ∃ flow, (state.declareFlow limits now options).2.flows.find? _ = some flow ∧
    Result.flowRef (state.declareFlow limits now options).1 = .flowRef flow.ref
  rw [declareFlow_of_declarable allowed]
  unfold Impl.storeFlow
  dsimp only
  cases taken : state.flows.find? ⟨state.nextFlow⟩ with
  | none =>
      have stored := UnorderedMap.find?_emplace state.flows ⟨state.nextFlow⟩
        (.declare ⟨state.nextFlow⟩ now options) ⟨state.nextFlow⟩
      rw [if_pos ⟨taken, rfl⟩] at stored
      exact ⟨_, stored, by rw [stored]⟩
  | some flow =>
      have stored := UnorderedMap.find?_emplace state.flows ⟨state.nextFlow⟩
        (.declare ⟨state.nextFlow⟩ now options) ⟨state.nextFlow⟩
      rw [if_neg (by simp [taken]), taken] at stored
      exact ⟨flow, stored, by rw [stored]⟩

/-- A flow that does not exist afterwards gets no account: what an accepted declaration
names is there. -/
private theorem Books.enter_eq_none (keyed : (exec limits now op state).2.FlowsKeyed)
    {id : FlowId} (closed : books id = none)
    (absent : (exec limits now op state).2.flows.find? id = none) :
    books.enter op (exec limits now op state).1 id = none := by
  unfold Books.enter
  split
  · next options ref answer =>
      rw [if_neg, closed]
      rintro ⟨rfl, valid, -⟩
      by_cases allowed : Declarable limits options state
      · obtain ⟨flow, stored, answered⟩ := declareFlow_stored now allowed
        obtain rfl := Result.flowRef.inj (answer.symm.trans answered)
        rw [← keyed _ flow stored, absent] at stored
        exact absurd stored (by simp)
      · have refused : (state.declareFlow limits now options).1 = {} := by
          rw [declareFlow_of_not_declarable allowed]
        obtain rfl := (Result.flowRef.inj answer).symm.trans refused
        exact absurd valid (by decide)
  · rw [closed, Option.map_none]

/-- A flow that exists keeps its account, and a new one gets one. -/
private theorem Impl.Balances.enter (balances : state.Balances books) {id : FlowId}
    {after : Flow R} (valid : id.isValid = true)
    (stored : (exec limits now op state).2.flows.find? id = some after) :
    ∃ account, books.enter op (CongestionFabric.exec limits now op state).1 id = some account ∧
      account.Follows after := by
  rcases exec_flow_origin stored with ⟨flow, found, rfl⟩ |
    ⟨options, rfl, allowed, absent, rfl, rfl⟩
  · obtain ⟨account, kept, follows⟩ := balances.follows valid found
    exact ⟨_, Books.enter_eq_some _ kept, follows.after (balances.sound id flow found) found ..⟩
  · refine ⟨_, ?_, Account.follows_declare options⟩
    obtain ⟨flow, found, answered⟩ := declareFlow_stored now allowed
    obtain rfl := Option.some.inj (stored.symm.trans found)
    rw [answered]
    exact if_pos ⟨rfl, valid, balances.absent absent⟩

/-- Every call and its answer keep the books balanced. -/
theorem Impl.Balances.exec (balances : state.Balances books) (limits : EngineLimits)
    (now : UInt64) (op : Op R) :
    (exec limits now op state).2.Balances
      (books.enter op (CongestionFabric.exec limits now op state).1) where
  keyed := balances.keyed.exec limits now op
  sound := balances.sound.exec limits now op
  follows valid stored := balances.enter valid stored
  absent missing := by
    apply Books.enter_eq_none (balances.keyed.exec limits now op) ?_ missing
    apply balances.absent
    by_contra present
    obtain ⟨flow, stored⟩ := Option.ne_none_iff_exists'.mp present
    rw [exec_flow stored] at missing
    exact absurd missing (by simp)

/-- A recovery is entered nowhere. -/
theorem Books.enter_recoverDynamicEvidence :
    books.enter (.recoverDynamicEvidence : Op R) .nothing = books := by
  funext id
  exact Option.map_id'

/-- Every flow under a valid identifier settles with its account, and no other account
exists. -/
theorem Impl.Balances.settles (balances : state.Balances books) {id : FlowId}
    (valid : id.isValid = true) :
    Option.Rel Account.Settles (books id) (state.flows.find? id) := by
  cases stored : state.flows.find? id with
  | none =>
      rw [balances.absent stored]
      exact .none
  | some flow =>
      obtain ⟨account, kept, follows⟩ := balances.follows valid stored
      rw [kept]
      exact .some follows.settles

theorem Impl.Balances.rehash (balances : state.Balances books) (same : state.Reordered next) :
    next.Balances books where
  keyed := balances.keyed.step (.rehash same : Step {} _ _ _)
  sound := balances.sound.step (.rehash same : Step {} _ _ _)
  follows valid stored := balances.follows valid ((same.flows.find?_eq _).trans stored)
  absent missing := balances.absent ((same.flows.find?_eq _).trans missing)

end Engine

end CongestionFabric
