import CongestionFabric.Engine.Episodes
import CongestionFabric.Persistence.Loaded
import CongestionFabric.Persistence.SavedFile

/-!
Contract: an operation that reports failure leaves the engine as it was.

Owns the engines that can be reached when every loaded file was written by
`save`, with the number of identifiers issued on the way; the numbering
invariant (identifiers in use were issued, the next one is free); and failure
atomicity.

Does not own: files from elsewhere, whose counters may name identifiers already
in use.
-/

namespace CongestionFabric

open Foundation

/-! ## Identifiers -/

section Issued

variable {R : Type} [Arithmetic R]

/-- The domain identifiers an operation issues. -/
def Op.domainsIssued (limits : EngineLimits) (state : Impl R) : Op R → Nat
  | .createDomain _ capacity => if state.creatable limits capacity then 1 else 0
  | _ => 0

/-- The flow identifiers an operation issues. -/
def Op.flowsIssued (limits : EngineLimits) (state : Impl R) : Op R → Nat
  | .declareFlow options => if Declarable limits options state then 1 else 0
  | _ => 0

/-- The counters move by what an operation issues. -/
theorem exec_counters (limits : EngineLimits) (now : UInt64) (op : Op R) (state : Impl R) :
    (exec limits now op state).2.nextDomain =
        state.nextDomain + .ofNat (op.domainsIssued limits state) ∧
      (exec limits now op state).2.nextFlow =
        state.nextFlow + .ofNat (op.flowsIssued limits state) := by
  have unchanged : ∀ next : Impl R, next.nextDomain = state.nextDomain →
      next.nextFlow = state.nextFlow →
        next.nextDomain = state.nextDomain + .ofNat 0 ∧
          next.nextFlow = state.nextFlow + .ofNat 0 := by
    intro next domains flows
    exact ⟨domains.trans (UInt64.add_zero _).symm, flows.trans (UInt64.add_zero _).symm⟩
  cases issues : op.issues with
  | false =>
      have same : (exec limits now op state).2.counters = state.counters :=
        exec_counters_of_issuesNone issues
      have none : op.domainsIssued limits state = 0 ∧ op.flowsIssued limits state = 0 := by
        cases op with
        | createDomain kind capacity => exact absurd issues (by simp [Op.issues])
        | declareFlow options => exact absurd issues (by simp [Op.issues])
        | _ => exact ⟨rfl, rfl⟩
      rw [none.1, none.2]
      exact unchanged _ (congrArg Prod.fst same) (congrArg (fun counters => counters.2.1) same)
  | true =>
      cases op with
      | createDomain kind capacity =>
          cases allowed : state.creatable limits capacity with
          | true =>
              simp only [exec, Prod.map_snd, id_eq, createDomain_of_creatable allowed,
                Op.domainsIssued, allowed, if_true, Op.flowsIssued]
              exact ⟨rfl, (UInt64.add_zero _).symm⟩
          | false =>
              simp only [exec, Prod.map_snd, id_eq, createDomain_of_not_creatable allowed,
                Op.domainsIssued, allowed, Op.flowsIssued]
              exact unchanged _ rfl rfl
      | declareFlow options =>
          by_cases allowed : Declarable limits options state
          · simp only [exec, Prod.map_snd, id_eq, declareFlow_of_declarable allowed,
              Op.domainsIssued, allowed, if_true, Op.flowsIssued]
            exact ⟨(UInt64.add_zero _).symm, rfl⟩
          · simp only [exec, Prod.map_snd, id_eq, declareFlow_of_not_declarable allowed,
              Op.domainsIssued, allowed, if_false, Op.flowsIssued]
            exact unchanged _ rfl rfl
      | recomputeDomain domain =>
          simp only [exec, Prod.map_snd, id_eq, Impl.recomputeDomain]
          split <;> exact unchanged _ rfl rfl
      | _ => exact absurd issues (by simp [Op.issues])

/-- The identifiers in use were issued, none is zero, and the counters stand at
the next one to issue. -/
structure Impl.Numbered (domains flows : Nat) (state : Impl R) : Prop where
  nextDomain : state.nextDomain.toNat = domains + 1
  nextFlow : state.nextFlow.toNat = flows + 1
  domainIds : ∀ id domain, state.domains.find? id = some domain → id.value.toNat ≤ domains
  flowIds : ∀ id flow, state.flows.find? id = some flow → id.value.toNat ≤ flows

variable {domains flows : Nat} {state : Impl R}

/-- The next domain identifier is free and valid. -/
theorem Impl.Numbered.domainFree (numbered : state.Numbered domains flows) :
    state.domains.find? ⟨state.nextDomain⟩ = none ∧ state.nextDomain ≠ 0 := by
  have counter := numbered.nextDomain
  constructor
  · cases found : state.domains.find? ⟨state.nextDomain⟩ with
    | none => rfl
    | some domain =>
        have issued := numbered.domainIds _ domain found
        change state.nextDomain.toNat ≤ domains at issued
        omega
  · intro zero
    rw [zero] at counter
    change 0 = domains + 1 at counter
    omega

/-- The next flow identifier is free and valid. -/
theorem Impl.Numbered.flowFree (numbered : state.Numbered domains flows) :
    state.flows.find? ⟨state.nextFlow⟩ = none ∧ state.nextFlow ≠ 0 := by
  have counter := numbered.nextFlow
  constructor
  · cases found : state.flows.find? ⟨state.nextFlow⟩ with
    | none => rfl
    | some flow =>
        have issued := numbered.flowIds _ flow found
        change state.nextFlow.toNat ≤ flows at issued
        omega
  · intro zero
    rw [zero] at counter
    change 0 = flows + 1 at counter
    omega

/-- A counter that stands at the next number moves by what is issued. -/
theorem toNat_advance {counter : UInt64} {issued more : Nat}
    (at_next : counter.toNat = issued + 1) (room : issued + more < 2 ^ 64 - 1) :
    (counter + .ofNat more).toNat = issued + more + 1 := by
  have small : (UInt64.ofNat more).toNat = more := UInt64.toNat_ofNat_of_lt (by
    change more < 2 ^ 64
    omega)
  rw [UInt64.toNat_add, small]
  omega

/-- As long as the counters do not run out, an operation keeps the numbering. -/
theorem Impl.Numbered.exec (numbered : state.Numbered domains flows) (limits : EngineLimits)
    (now : UInt64) (op : Op R)
    (domainRoom : domains + op.domainsIssued limits state < 2 ^ 64 - 1)
    (flowRoom : flows + op.flowsIssued limits state < 2 ^ 64 - 1) :
    (exec limits now op state).2.Numbered (domains + op.domainsIssued limits state)
      (flows + op.flowsIssued limits state) := by
  obtain ⟨nextDomain, nextFlow⟩ := exec_counters limits now op state
  refine ⟨?_, ?_, ?_, ?_⟩
  · rw [nextDomain]
    exact toNat_advance numbered.nextDomain domainRoom
  · rw [nextFlow]
    exact toNat_advance numbered.nextFlow flowRoom
  · intro id after stored
    rcases exec_domain_origin stored with ⟨domain, -, found, -⟩ |
      ⟨kind, capacity, rfl, allowed, -, rfl, -⟩
    · have issued := numbered.domainIds id domain found
      omega
    · have counter := numbered.nextDomain
      simp only [Op.domainsIssued, allowed, if_true]
      omega
  · intro id after stored
    rcases exec_flow_origin stored with ⟨flow, found, -⟩ |
      ⟨options, rfl, allowed, -, rfl, -⟩
    · have issued := numbered.flowIds id flow found
      omega
    · have counter := numbered.nextFlow
      simp only [Op.flowsIssued, allowed, if_true]
      omega

end Issued

/-! ## Reachable engines -/

/-- The engines that any calls, under any limits, can produce when every loaded
file was written by `save` on such an engine, with the numbers of domain and flow
identifiers issued on the way. A load takes the numbers over from the saved
engine, whose counters it installs. -/
inductive Reachable : Nat → Nat → Impl Binary64 → Prop
  | fresh : Reachable 0 0 Impl.fresh
  | call {domains flows : Nat} {state : Impl Binary64} (reached : Reachable domains flows state)
      (limits : EngineLimits) (now : UInt64) (op : Op Binary64) :
      Reachable (domains + op.domainsIssued limits state) (flows + op.flowsIssued limits state)
        (exec limits now op state).2
  | rehash {domains flows : Nat} {state next : Impl Binary64}
      (reached : Reachable domains flows state) (same : state.Reordered next) :
      Reachable domains flows next
  | load {domains flows savedDomains savedFlows : Nat} {state saved next : Impl Binary64}
      (reached : Reachable domains flows state)
      (written : Reachable savedDomains savedFlows saved)
      (accepted : state.load (some (saveBytes saved)) = (true, next)) :
      Reachable savedDomains savedFlows next

theorem Reachable.wellAccounted {domains flows : Nat} {state : Impl Binary64}
    (reached : Reachable domains flows state) : state.WellAccounted := by
  induction reached with
  | fresh => exact Impl.wellAccounted_fresh
  | call _ limits now op inductionHypothesis => exact inductionHypothesis.exec limits now op
  | rehash _ same inductionHypothesis =>
      exact inductionHypothesis.step (.rehash same : Step {} _ _ _)
  | @load _ _ _ _ _ saved _ _ _ accepted inductionHypothesis _ =>
      have sound := inductionHypothesis.load (some (saveBytes saved))
      rwa [accepted] at sound

theorem Reachable.numbered {domains flows : Nat} {state : Impl Binary64}
    (reached : Reachable domains flows state) (domainRoom : domains < 2 ^ 64 - 1)
    (flowRoom : flows < 2 ^ 64 - 1) : state.Numbered domains flows := by
  induction reached with
  | fresh => exact ⟨rfl, rfl, by simp [Impl.fresh], by simp [Impl.fresh]⟩
  | call _ limits now op inductionHypothesis =>
      exact (inductionHypothesis (by omega) (by omega)).exec limits now op domainRoom flowRoom
  | rehash _ same inductionHypothesis =>
      have numbered := inductionHypothesis domainRoom flowRoom
      have rest := same.rest
      refine ⟨?_, ?_, ?_, ?_⟩
      · rw [← numbered.nextDomain, rest]
      · rw [← numbered.nextFlow, rest]
      · intro id domain stored
        rw [← same.domains.find?_eq] at stored
        exact numbered.domainIds id domain stored
      · intro id flow stored
        rw [← same.flows.find?_eq] at stored
        exact numbered.flowIds id flow stored
  | @load _ _ _ _ state saved next _ _ accepted _ inductionHypothesis =>
      -- The file decodes to the engine it was saved from, so its numbers carry over.
      have numbered := inductionHypothesis domainRoom flowRoom
      rcases load_saveBytes_cases saved state with refused | committed
      · rw [refused] at accepted
        exact absurd (Prod.mk.inj accepted).1 (by simp)
      · rw [committed] at accepted
        obtain rfl := (Prod.mk.inj accepted).2
        refine ⟨numbered.nextDomain, numbered.nextFlow, ?_, ?_⟩
        · intro id after stored
          obtain ⟨domain, recovered, -⟩ := Impl.restoredFrom_domain_iff.mp stored
          obtain ⟨earlier, found, -⟩ := UnorderedMap.find?_mapValues_eq_some.mp recovered
          exact numbered.domainIds id earlier found
        · intro id after stored
          obtain ⟨flow, found, -⟩ := UnorderedMap.find?_mapValues_eq_some.mp stored
          exact numbered.flowIds id flow found

/-! ## Failure atomicity -/

section Failure

variable {R : Type} [Arithmetic R] {state : Impl R} {domains flows : Nat}

/-- A refused flow operation whose body refuses without a write changes nothing. -/
private theorem onFlow_refused {ref : EntityRef FlowTag} {body : Flow R → Bool × Flow R}
    {after : Flow R → Impl R → Impl R}
    (clean : ∀ flow, findFlow state.flows ref = some flow →
      body flow = (false, flow) ∨ (body flow).1 = true)
    (refused : (!(state.onFlow ref body after).1) = true) :
    (state.onFlow ref body after).2 = state := by
  unfold Impl.onFlow at refused ⊢
  cases found : findFlow state.flows ref with
  | none => rfl
  | some flow =>
      simp only [found] at refused ⊢
      rcases clean flow found with untouched | accepted
      · have stored := (findFlow_eq_some.mp found).1
        simp only [untouched, Bool.false_eq_true, if_false, UnorderedMap.modify_self stored]
      · simp [accepted] at refused

/-- In an engine whose flows are well accounted and whose numbers are in order,
an operation that fails changes nothing. -/
theorem exec_failed (sound : state.WellAccounted)
    (numbered : state.Numbered domains flows) (limits : EngineLimits) (now : UInt64) (op : Op R)
    (failed : (exec limits now op state).1.failed = true) :
    (exec limits now op state).2 = state := by
  have of_ref : ∀ {ref : EntityRef FlowTag} {flow : Flow R},
      findFlow state.flows ref = some flow → flow.WellAccounted :=
    fun found => sound _ _ (findFlow_eq_some.mp found).1
  cases op with
  | admitFlow ref =>
      change (state.admitFlow ref).2 = state
      refine onFlow_refused (fun flow found => ?_) failed
      exact ((of_ref found).admission _).imp And.right fun accepted => by rw [accepted.2.2]
  | queueFlow ref =>
      change (state.queueFlow limits ref).2 = state
      refine onFlow_refused (fun flow found => ?_) failed
      exact (flow.queue_cases _ _ _).imp_right fun accepted => by rw [accepted.2]
  | startFlow ref boot =>
      change (state.startFlow now ref boot).2 = state
      refine onFlow_refused (fun flow found => ?_) failed
      exact ((of_ref found).start now boot).imp And.right fun accepted => by rw [accepted.2.2]
  | flowProgress ref boot delta =>
      change (state.flowProgress now ref boot delta).2 = state
      refine onFlow_refused (fun flow found => ?_) failed
      refine ((of_ref found).progress now boot delta).imp And.right ?_
      rintro ⟨-, -, _, _, -, -, -, accepted⟩
      rw [accepted]
  | flowComplete ref boot =>
      change (state.flowComplete now ref boot).2 = state
      refine onFlow_refused (fun flow found => ?_) failed
      exact ((of_ref found).complete now boot).imp And.right fun accepted => by rw [accepted.2.2]
  | flowCancel ref boot soFar =>
      change (state.flowCancel now ref boot soFar).2 = state
      refine onFlow_refused (fun flow found => ?_) failed
      refine ((of_ref found).cancel now boot soFar).imp And.right ?_
      rintro ⟨-, -, _, -, accepted⟩
      rw [accepted]
  | flowFail ref boot =>
      change (state.flowFail now ref boot).2 = state
      refine onFlow_refused (fun flow found => ?_) failed
      refine ((of_ref found).fail now boot).imp And.right ?_
      rintro ⟨-, -, _, -, accepted⟩
      rw [accepted]
  | revalidateFlow ref boot =>
      change (state.revalidateFlow ref boot).2 = state
      refine onFlow_refused (fun flow found => ?_) failed
      exact (flow.revalidate_cases boot).imp And.right fun accepted => by rw [accepted.2.2]
  | advanceFlowGeneration ref next =>
      simp only [exec, Prod.map_fst, Prod.map_snd, id_eq, Result.failed, Bool.not_eq_true',
        Impl.advanceFlowGeneration] at failed ⊢
      cases stored : state.flows.find? ref.id with
      | none => rfl
      | some flow =>
          simp only [stored, Flow.advanceGeneration] at failed ⊢
          split_ifs at failed with older
          simp only [older, if_true, UnorderedMap.modify_self stored]
  | createDomain kind capacity =>
      cases allowed : state.creatable limits capacity with
      | false => simp only [exec, Prod.map_snd, id_eq, createDomain_of_not_creatable allowed]
      | true =>
          obtain ⟨absent, nonzero⟩ := numbered.domainFree
          simp [exec, createDomain_of_creatable allowed, Impl.storeDomain, Result.failed,
            UnorderedMap.find?_emplace, absent, Impl.newDomain, Id.isValid, nonzero] at failed
  | declareFlow options =>
      by_cases allowed : Declarable limits options state
      · obtain ⟨absent, nonzero⟩ := numbered.flowFree
        simp [exec, declareFlow_of_declarable allowed, Impl.storeFlow, Result.failed,
          UnorderedMap.find?_emplace, absent, Flow.declare, Id.isValid, nonzero] at failed
      · simp only [exec, Prod.map_snd, id_eq, declareFlow_of_not_declarable allowed]
  | registerWorker worker boot =>
      simp only [exec, Prod.map_fst, Prod.map_snd, id_eq, Result.failed, Bool.not_eq_true',
        Impl.registerWorker] at failed ⊢
      rw [registerBoot_table, failed]
      rfl
  | registerSource source boot =>
      simp only [exec, Prod.map_fst, Prod.map_snd, id_eq, Result.failed, Bool.not_eq_true',
        Impl.registerSource] at failed ⊢
      rw [registerBoot_table, failed]
      rfl
  | fenceWorker worker deadBoot =>
      simp only [exec, Prod.map_fst, Prod.map_snd, id_eq, Result.failed, Impl.fenceWorker]
        at failed ⊢
      split at failed <;> simp_all
  | fenceSource source deadBoot =>
      simp only [exec, Prod.map_fst, Prod.map_snd, id_eq, Result.failed, Impl.fenceSource]
        at failed ⊢
      split at failed <;> simp_all
  | advanceEpoch next =>
      simp only [exec, Prod.map_fst, Prod.map_snd, id_eq, Result.failed, Impl.advanceEpoch]
        at failed ⊢
      split at failed <;> simp_all
  | removeDomain domain =>
      simp only [exec, Prod.map_fst, Prod.map_snd, id_eq, Result.failed, Impl.removeDomain]
        at failed ⊢
      split at failed <;> simp_all
  | publishMeasurement domain measurement owner ownerBoot =>
      simp only [exec, Prod.map_fst, Prod.map_snd, id_eq, Result.failed,
        Impl.publishMeasurement] at failed ⊢
      cases found : state.domains.find? domain <;> simp only [found] at failed ⊢ <;>
        split_ifs at failed ⊢ <;> first | rfl | simp at failed
  | applyLocalShaping domain action =>
      simp only [exec, Prod.map_fst, Prod.map_snd, id_eq, Result.failed,
        Impl.applyLocalShaping] at failed ⊢
      cases found : state.domains.find? domain <;> simp only [found] at failed ⊢ <;>
        split_ifs at failed ⊢ <;> first | rfl | simp at failed
  | recomputeDomain domain => exact absurd failed (by simp [exec, Result.failed])
  | recoverDynamicEvidence => exact absurd failed (by simp [exec, Result.failed])

end Failure

/-- In every engine reached with fewer than `2 ^ 64 - 1` identifiers of a kind
issued, every operation that reports failure, and every load that does, leaves
the whole state as it was. -/
theorem failed_unchanged_of_reachable {domains flows : Nat} {state : Impl Binary64}
    (reached : Reachable domains flows state) (domainRoom : domains < 2 ^ 64 - 1)
    (flowRoom : flows < 2 ^ 64 - 1) :
    (∀ (limits : EngineLimits) (now : UInt64) (op : Op Binary64),
        (exec limits now op state).1.failed = true → (exec limits now op state).2 = state) ∧
      ∀ file, (state.load file).1 = false → (state.load file).2 = state := by
  refine ⟨fun limits now op failed => ?_, fun file refused => ?_⟩
  · exact exec_failed reached.wellAccounted (reached.numbered domainRoom flowRoom) limits now op
      failed
  · exact Impl.load_refused refused

private def createdEngine : Impl Binary64 :=
  execAll {} [(1, .registerWorker ⟨1⟩ ⟨1⟩), (1, .registerSource ⟨1⟩ ⟨1⟩),
    (1, .createDomain DomainKind.nicTx {})] Impl.fresh

/-- A started flow; the engine was saved and loaded before. -/
private def startedEngine : Impl Binary64 :=
  execAll {} [(2, .declareFlow (.ofFirst 100)), (3, .admitFlow ⟨⟨1⟩, ⟨1⟩⟩),
    (4, .startFlow ⟨⟨1⟩, ⟨1⟩⟩ ⟨1⟩)] (Impl.fresh.load (some (saveBytes createdEngine))).2

private theorem createdEngine_restored : Restores createdEngine Impl.fresh
    (Impl.fresh.commit createdEngine.recoverDynamicEvidence.persisted) :=
  load_of_decode (decode_saveBytes (show createdEngine.Loadable by decide +kernel)) Impl.fresh

private theorem startedEngine_eq : startedEngine =
    execAll {} [(2, .declareFlow (.ofFirst 100)), (3, .admitFlow ⟨⟨1⟩, ⟨1⟩⟩),
      (4, .startFlow ⟨⟨1⟩, ⟨1⟩⟩ ⟨1⟩)]
      (Impl.fresh.commit createdEngine.recoverDynamicEvidence.persisted) := by
  rw [startedEngine, createdEngine_restored]

private theorem reachable_startedEngine :
    ∃ domains flows, Reachable domains flows startedEngine ∧ domains = 1 ∧ flows = 1 := by
  have created : Reachable _ _ createdEngine :=
    ((Reachable.fresh.call {} 1 (.registerWorker ⟨1⟩ ⟨1⟩)).call {} 1
      (.registerSource ⟨1⟩ ⟨1⟩)).call {} 1 (.createDomain DomainKind.nicTx {})
  have loaded := Reachable.load .fresh created createdEngine_restored
  rw [startedEngine_eq]
  exact ⟨_, _, ((loaded.call {} 2 (.declareFlow (.ofFirst 100))).call {} 3
    (.admitFlow ⟨⟨1⟩, ⟨1⟩⟩)).call {} 4 (.startFlow ⟨⟨1⟩, ⟨1⟩⟩ ⟨1⟩), by decide +kernel,
    by decide +kernel⟩

/-- Progress beyond the admitted bytes is refused and leaves no trace. -/
theorem startedEngine_overrun_unchanged :
    (exec {} 5 (.flowProgress ⟨⟨1⟩, ⟨1⟩⟩ ⟨1⟩ 101) startedEngine).1.failed = true ∧
      (exec {} 5 (.flowProgress ⟨⟨1⟩, ⟨1⟩⟩ ⟨1⟩ 101) startedEngine).2 = startedEngine := by
  have failed : (exec {} 5 (.flowProgress ⟨⟨1⟩, ⟨1⟩⟩ ⟨1⟩ 101) startedEngine).1.failed = true := by
    rw [startedEngine_eq]
    decide +kernel
  obtain ⟨domains, flows, reached, rfl, rfl⟩ := reachable_startedEngine
  exact ⟨failed, (failed_unchanged_of_reachable reached (by decide) (by decide)).1 _ _ _ failed⟩

end CongestionFabric
