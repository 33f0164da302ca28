import CongestionFabric.Engine.Episodes
import CongestionFabric.Persistence.Occupancy

/-!
Contract: the limits of an engine along its runs.

Owns the statement that every bounded collection is within its limit, the steps
that keep it, and the theorem that the two say the same of a run.

Every limit is enforced where an entry is inserted. A load inserts without looking
at the limits, and brings open flows for which no slot is counted.
-/

namespace CongestionFabric

open Foundation

/-! ## Within the limits -/

section Engine

variable {R : Type} [Arithmetic R]

/-- Every bounded collection of the engine is within its limit. -/
structure Impl.WithinLimits (limits : EngineLimits) (state : Impl R) : Prop where
  domains : state.domains.size ≤ limits.maxDomains.toNat
  flows : state.openFlows ≤ limits.maxActiveFlows.toNat
  history : state.flowHistory.length ≤ limits.maxFlowHistory.toNat
  episodes : ∀ id domain, state.domains.find? id = some domain →
    domain.episodes.length ≤ limits.maxEpisodeHistoryPerDomain.toNat

theorem Impl.withinLimits_fresh (limits : EngineLimits) :
    (Impl.fresh : Impl R).WithinLimits limits where
  domains := Nat.zero_le _
  flows := Nat.zero_le _
  history := Nat.zero_le _
  episodes := by
    intro id domain stored
    exact absurd stored (by simp [Impl.fresh])

variable {limits : EngineLimits} {now : UInt64} {op : Op R} {state next : Impl R}

/-- `create_domain` inserts only below the limit, and nothing else inserts. -/
private theorem exec_domains_size (within : state.domains.size ≤ limits.maxDomains.toNat) :
    (exec limits now op state).2.domains.size ≤ limits.maxDomains.toNat := by
  by_cases creates : ∃ kind capacity, op = .createDomain kind capacity ∧
      state.creatable limits capacity = true
  · obtain ⟨kind, capacity, -, allowed⟩ := creates
    have room : state.domains.size < limits.maxDomains.toNat := by
      simp only [Impl.creatable, Bool.and_eq_true, decide_eq_true_eq] at allowed
      exact allowed.1
    have covered : (exec limits now op state).2.domains.size ≤
        (⟨state.nextDomain⟩ :: state.domains.keys).length := by
      apply UnorderedMap.size_le_length
      intro id present
      obtain ⟨after, stored⟩ := UnorderedMap.contains_eq_true.mp present
      rcases exec_domain_origin stored with ⟨domain, _, found, -, -⟩ | ⟨_, _, -, -, -, new, -⟩
      · exact List.mem_cons_of_mem _
          (List.mem_map.mpr ⟨_, UnorderedMap.mem_entries_iff.mpr found, rfl⟩)
      · exact List.mem_cons.mpr (Or.inl new)
    rw [List.length_cons, UnorderedMap.keys, List.length_map] at covered
    exact Nat.le_trans covered room
  · have covered : (exec limits now op state).2.domains.size ≤ state.domains.keys.length := by
      apply UnorderedMap.size_le_length
      intro id present
      obtain ⟨after, stored⟩ := UnorderedMap.contains_eq_true.mp present
      rcases exec_domain_origin stored with ⟨domain, _, found, -, -⟩ |
        ⟨kind, capacity, same, allowed, -⟩
      · exact List.mem_map.mpr ⟨_, UnorderedMap.mem_entries_iff.mpr found, rfl⟩
      · exact absurd ⟨kind, capacity, same, allowed⟩ creates
    rw [UnorderedMap.keys, List.length_map] at covered
    exact Nat.le_trans covered within

private theorem exec_flowHistory_length
    (within : state.flowHistory.length ≤ limits.maxFlowHistory.toNat) :
    (exec limits now op state).2.flowHistory.length ≤ limits.maxFlowHistory.toNat := by
  rcases exec_flowHistory limits now op state with same | pushed
  · rw [same]
    exact within
  · rw [pushed]
    exact length_pushBounded_le within

private theorem exec_episodes_length
    (within : ∀ id domain, state.domains.find? id = some domain →
      domain.episodes.length ≤ limits.maxEpisodeHistoryPerDomain.toNat) :
    ∀ id after, (exec limits now op state).2.domains.find? id = some after →
      after.episodes.length ≤ limits.maxEpisodeHistoryPerDomain.toNat := by
  intro id after stored
  change after.log.history.length ≤ _
  rcases exec_log_origin stored with ⟨domain, found, -, same⟩ | ⟨domain, found, -, recomputed⟩ |
    ⟨-, -, -, -, created⟩
  · rw [same]
    exact within id domain found
  · have earlier := within id domain found
    rw [recomputed]
    rcases state.recomputed_log limits now domain with
      ⟨-, -, -, log⟩ | ⟨-, -, -, log⟩ | ⟨-, -, -, log⟩ | ⟨-, -, -, log⟩
    · rw [log]
      exact earlier
    · rw [log]
      exact earlier
    · rw [log]
      exact length_pushBounded_le earlier
    · rw [log]
      exact earlier
  · rw [created]
    exact Nat.zero_le _

/-- The other collections stay within their limits, so a call keeps all of them
exactly if it keeps the open flows. -/
private theorem withinLimits_exec_iff (within : state.WithinLimits limits) :
    (exec limits now op state).2.WithinLimits limits ↔
      (exec limits now op state).2.openFlows ≤ limits.maxActiveFlows.toNat :=
  ⟨fun after => after.flows, fun flows =>
    ⟨exec_domains_size within.domains, flows, exec_flowHistory_length within.history,
      exec_episodes_length within.episodes⟩⟩

private theorem Impl.WithinLimits.reordered (within : state.WithinLimits limits)
    (same : state.Reordered next) : next.WithinLimits limits where
  domains := Nat.le_trans (Nat.le_of_eq same.domains.length_eq.symm) within.domains
  flows := by
    rw [same.openFlows_eq]
    exact within.flows
  history := by
    have rest : state.flowHistory = next.flowHistory := by rw [same.rest]
    rw [← rest]
    exact within.history
  episodes := by
    intro id domain stored
    rw [← same.domains.find?_eq] at stored
    exact within.episodes id domain stored

end Engine

/-! ## Runs -/

/-- The records of a file are within the limits. -/
@[mk_iff] structure Persisted.WithinLimits (limits : EngineLimits) (persisted : Persisted) :
    Prop where
  domains : persisted.domains.size ≤ limits.maxDomains.toNat
  flows : persisted.flows.count (fun flow => !flow.isTerminal) ≤ limits.maxActiveFlows.toNat
  history : persisted.flows.size ≤ limits.maxFlowHistory.toNat
  episodes : ∀ entry ∈ persisted.domains.entries,
    entry.2.episodes.length ≤ limits.maxEpisodeHistoryPerDomain.toNat

instance (limits : EngineLimits) (persisted : Persisted) :
    Decidable (persisted.WithinLimits limits) :=
  decidable_of_iff _ (Persisted.withinLimits_iff limits persisted).symm

/-- A file that is loaded is within the limits, and a declaration that adds a flow
finds fewer open flows than the limit. -/
def KeepsLimits (limits : EngineLimits) (state : Impl Binary64) : Event → Prop
  | .engine (.call _ (.declareFlow options)) =>
      Declarable limits options state → state.flows.find? ⟨state.nextFlow⟩ = none →
        state.openFlows < limits.maxActiveFlows.toNat
  | .load file => ∀ persisted ∈ file.bind Impl.decode, persisted.WithinLimits limits
  | _ => True

instance (limits : EngineLimits) (state : Impl Binary64) :
    (event : Event) → Decidable (KeepsLimits limits state event)
  | .load file => inferInstanceAs (Decidable (∀ persisted ∈ file.bind Impl.decode, _))
  | .engine (.call _ (.declareFlow _)) => inferInstanceAs (Decidable (_ → _ → _))
  | .engine .rehash
  | .engine (.call _ (.advanceEpoch ..)) | .engine (.call _ (.registerWorker ..))
  | .engine (.call _ (.registerSource ..)) | .engine (.call _ (.fenceWorker ..))
  | .engine (.call _ (.fenceSource ..)) | .engine (.call _ (.createDomain ..))
  | .engine (.call _ (.removeDomain ..)) | .engine (.call _ (.admitFlow ..))
  | .engine (.call _ (.queueFlow ..)) | .engine (.call _ (.startFlow ..))
  | .engine (.call _ (.flowProgress ..)) | .engine (.call _ (.flowComplete ..))
  | .engine (.call _ (.flowCancel ..)) | .engine (.call _ (.flowFail ..))
  | .engine (.call _ (.advanceFlowGeneration ..)) | .engine (.call _ (.revalidateFlow ..))
  | .engine (.call _ (.publishMeasurement ..)) | .engine (.call _ (.recomputeDomain ..))
  | .engine (.call _ (.applyLocalShaping ..)) | .engine (.call _ .recoverDynamicEvidence) =>
      .isTrue trivial

variable {limits : EngineLimits} {state next : Impl Binary64} {event : Event}

private theorem keepsLimits_exec_iff (sound : state.WellAccounted)
    (within : state.WithinLimits limits) (now : UInt64) (op : Op Binary64) :
    KeepsLimits limits state (.engine (.call now op)) ↔
      (exec limits now op state).2.WithinLimits limits := by
  rw [withinLimits_exec_iff within]
  have earlier := within.flows
  cases exec_slots sound limits now op with
  | takes options declares declarable counter flows =>
      subst declares
      rw [flows]
      by_cases unused : state.flows.find? ⟨state.nextFlow⟩ = none
      · rw [if_pos unused]
        exact ⟨fun keeps => keeps declarable unused, fun room _ _ => room⟩
      · rw [if_neg unused]
        exact iff_of_true (fun _ absent => absurd absent unused) earlier
  | gives id flow stored finishes counter flows =>
      refine iff_of_true ?_ (by omega)
      cases op with
      | declareFlow options => exact absurd finishes Bool.false_ne_true
      | _ => trivial
  | leaves undeclared unfinished counter flows =>
      rw [flows]
      refine iff_of_true ?_ earlier
      cases op with
      | declareFlow options =>
          exact fun declarable => absurd declarable (undeclared options rfl)
      | _ => trivial

/-- What a load installs is within the limits exactly if the file is. -/
private theorem withinLimits_load_iff {file : Option Bytes} {persisted : Persisted}
    (decoded : file.bind Impl.decode = some persisted) :
    (state.load file).2.WithinLimits limits ↔ persisted.WithinLimits limits := by
  have flows : (state.load file).2.openFlows = _ := openFlows_load decoded
  have loaded : (state.load file).2 = (state.commit persisted).revalidateAll := by
    simp only [Impl.load_eq, decoded]
  rw [loaded] at flows ⊢
  have domains : (state.commit persisted).revalidateAll.domains.size = persisted.domains.size :=
    List.length_map _
  have history : (state.commit persisted).revalidateAll.flowHistory.length =
      persisted.flows.size := List.length_map _
  have episodes : ∀ domain : CongestionDomain Binary64,
      domain.requireRevalidation.episodes = domain.episodes := by
    intro domain
    obtain ⟨_, _, required⟩ := domain.requireRevalidation_eq
    rw [required]
  constructor
  · intro within
    refine ⟨domains ▸ within.domains, flows ▸ within.flows, history ▸ within.history, ?_⟩
    rintro ⟨id, domain⟩ member
    rw [← episodes]
    exact within.episodes id _
      (Impl.committed_domain_iff.mpr ⟨domain, UnorderedMap.mem_entries_iff.mp member, rfl⟩)
  · intro within
    refine ⟨domains ▸ within.domains, flows ▸ within.flows, history ▸ within.history, ?_⟩
    intro id after stored
    obtain ⟨domain, found, rfl⟩ := Impl.committed_domain_iff.mp stored
    rw [episodes]
    exact within.episodes (id, domain) (UnorderedMap.mem_entries_iff.mpr found)

private theorem keepsLimits_iff (sound : state.WellAccounted)
    (within : state.WithinLimits limits) (taken : FileStep limits state event next) :
    KeepsLimits limits state event ↔ next.WithinLimits limits := by
  cases taken with
  | engine step =>
      cases step with
      | call now op => exact keepsLimits_exec_iff sound within now op
      | rehash same => exact iff_of_true trivial (within.reordered same)
  | load file =>
      cases decoded : file.bind Impl.decode with
      | none =>
          have refused : (state.load file).2 = state := by simp only [Impl.load_eq, decoded]
          rw [refused]
          refine iff_of_true (fun persisted found => ?_) within
          rw [decoded] at found
          exact absurd found (by simp)
      | some persisted =>
          rw [withinLimits_load_iff decoded]
          constructor
          · exact fun keeps => keeps persisted decoded
          · intro fits other found
            obtain rfl := Option.some.inj (decoded.symm.trans found)
            exact fits

/-- A file that is loaded is within the limits and has no more open flows than the loading
engine counts slots. -/
def LoadsCounted (limits : EngineLimits) (state : Impl Binary64) : Event → Prop
  | .load file => ∀ persisted ∈ file.bind Impl.decode, persisted.WithinLimits limits ∧
      persisted.flows.count (fun flow => !flow.isTerminal) ≤ state.activeFlows.toNat
  | _ => True

instance (limits : EngineLimits) (state : Impl Binary64) :
    (event : Event) → Decidable (LoadsCounted limits state event)
  | .load file => inferInstanceAs (Decidable (∀ persisted ∈ file.bind Impl.decode,
      persisted.WithinLimits limits ∧
        persisted.flows.count (fun flow => !flow.isTerminal) ≤ state.activeFlows.toNat))
  | .engine _ => .isTrue trivial

private theorem slotsSuffice_fileStep (covered : state.SlotsSuffice)
    (counted : LoadsCounted limits state event) (taken : FileStep limits state event next) :
    next.SlotsSuffice := by
  have sound := covered.sound.fileStep taken
  cases taken with
  | engine step => exact (covered.step step).1
  | load file =>
      refine ⟨sound, ?_⟩
      rw [activeFlows_load]
      cases decoded : file.bind Impl.decode with
      | none =>
          have refused : (state.load file).2 = state := by simp only [Impl.load_eq, decoded]
          rw [refused]
          exact covered.enough
      | some persisted =>
          rw [openFlows_load decoded]
          exact (counted persisted decoded).2

/-- As long as every open flow has a slot, the check that `declare_flow` makes on its
counter is one on the open flows. -/
private theorem keepsLimits_of_slotsSuffice (covered : state.SlotsSuffice)
    (counted : LoadsCounted limits state event) : KeepsLimits limits state event := by
  cases event with
  | load file => exact fun persisted decoded => (counted persisted decoded).1
  | engine label =>
      cases label with
      | rehash => trivial
      | call now op =>
          cases op with
          | declareFlow options =>
              intro declarable _
              have room := UInt64.lt_iff_toNat_lt.mp declarable.room
              exact Nat.lt_of_le_of_lt covered.enough room
          | _ => trivial

/-- Where the loads count their flows, every step keeps the limits. -/
private theorem keepsLimits_of_loadsCounted {history : List (Impl Binary64 × Event)}
    {final : Impl Binary64} (run : Run (FileStep limits) Impl.fresh history final)
    (counted : ∀ taken ∈ history, LoadsCounted limits taken.1 taken.2) :
    final.SlotsSuffice ∧ ∀ taken ∈ history, KeepsLimits limits taken.1 taken.2 := by
  induction run with
  | nil => exact ⟨Impl.slotsSuffice_fresh, fun taken member => absurd member List.not_mem_nil⟩
  | snoc previous last inductionHypothesis =>
      obtain ⟨earlier, now⟩ := List.forall_mem_append.mp counted
      have here := List.forall_mem_singleton.mp now
      obtain ⟨covered, keeps⟩ := inductionHypothesis earlier
      refine ⟨slotsSuffice_fileStep covered here last, List.forall_mem_append.mpr ⟨keeps, ?_⟩⟩
      exact List.forall_mem_singleton.mpr (keepsLimits_of_slotsSuffice covered here)

/-- Along every run from a fresh engine, whatever its limits and whatever files it
loads: the limits hold in every state exactly if every loaded file is within them and
every declaration that adds a flow finds fewer open flows than allowed. The check of
`declare_flow` sees to the latter wherever the loaded files have no more open flows than
the engine counts slots. -/
theorem withinLimits_throughout_iff {history : List (Impl Binary64 × Event)}
    {final : Impl Binary64} (run : Run (FileStep limits) Impl.fresh history final) :
    ((∀ taken ∈ history, KeepsLimits limits taken.1 taken.2) ↔
        Throughout history final fun _ reached => reached.WithinLimits limits) ∧
      ((∀ taken ∈ history, LoadsCounted limits taken.1 taken.2) →
        Throughout history final fun _ reached => reached.WithinLimits limits) := by
  have same : (∀ taken ∈ history, KeepsLimits limits taken.1 taken.2) ↔
      Throughout history final fun _ reached => reached.WithinLimits limits := by
    apply run.forall_iff_throughout Impl.WellAccounted (KeepsLimits limits)
      Impl.wellAccounted_fresh (Impl.withinLimits_fresh limits)
    · exact fun sound taken => sound.fileStep taken
    · exact keepsLimits_iff
  exact ⟨same, fun counted => same.mp (keepsLimits_of_loadsCounted run counted).2⟩

/-- An engine for one open flow, with that flow. -/
private def fillOne : List Event :=
  [.engine (.call 1 (.registerWorker ⟨1⟩ ⟨1⟩)), .engine (.call 1 (.registerSource ⟨1⟩ ⟨1⟩)),
    .engine (.call 1 (.createDomain DomainKind.nicTx {})),
    .engine (.call 2 (.declareFlow (.ofFirst 100))),
    .engine (.call 3 (.declareFlow (.ofFirst 100)))]

private def oneSlot : EngineLimits := { maxActiveFlows := 1 }

private def filledOne : Impl Binary64 :=
  follow (fun state event => event.next oneSlot state) fillOne Impl.fresh

/-- The full engine loads its own file. -/
private def refillOne : List Event := fillOne ++ [.load (some (saveBytes filledOne))]

theorem refillOne_withinLimits :
    (∀ taken ∈ [] ++ followed (fun state event => event.next oneSlot state) refillOne Impl.fresh,
        KeepsLimits oneSlot taken.1 taken.2) ∧
      Throughout
        ([] ++ followed (fun state event => event.next oneSlot state) refillOne Impl.fresh)
        (follow (fun state event => event.next oneSlot state) refillOne Impl.fresh)
        fun _ reached => reached.WithinLimits oneSlot := by
  have both := withinLimits_throughout_iff (run_follow (fileStep_next oneSlot) refillOne Run.nil)
  have within := both.2 (by decide +kernel)
  exact ⟨both.1.mpr within, within⟩

/-- An engine with the same limits that loads the file of the full engine counts no
slot for the loaded flow, and accepts one more. -/
theorem filledOne_exceeded :
    ¬∀ (limits : EngineLimits) (history : List (Impl Binary64 × Event)) (final : Impl Binary64),
      Run (FileStep limits) Impl.fresh history final →
        Throughout history final fun _ reached => reached.WithinLimits limits := by
  intro always
  have read := load_of_decode
    (decode_saveBytes (show filledOne.Loadable by decide +kernel)) Impl.fresh
  have loaded : Run (FileStep oneSlot) Impl.fresh _ _ :=
    Run.nil.snoc (.load Impl.fresh (some (saveBytes filledOne)))
  rw [read] at loaded
  have declared := loaded.snoc (.engine (.call _ 4 (.declareFlow (.ofFirst 100))))
  exact absurd (always oneSlot _ _ declared).2.flows (by decide +kernel)

end CongestionFabric
