import CongestionFabric.Foundation.Supply
import CongestionFabric.Persistence.Atomicity
import CongestionFabric.Persistence.Restorable

/-!
Contract: identifiers that are issued after a load.

Owns the identifiers that an operation issues, the supply of unused ones that an
engine has, the files whose counters leave such a supply, and the theorem that
after such a file nothing is issued twice.

The loader takes the three counters over as they are in the file, and `emplace`
keeps an old entry where a number is in use.
-/

namespace CongestionFabric

open Foundation

/-! ## Issued identifiers -/

/-- The identifiers an operation issues. -/
def Op.idsIssued (limits : EngineLimits) (state : Impl Binary64) (op : Op Binary64) : Nat :=
  op.domainsIssued limits state + op.flowsIssued limits state + op.eventsIssued state

/-- What the operation issues is neither zero nor in use: the reference that is
returned names no earlier domain or flow, and an episode that is opened has a
number of its own. -/
def Op.IssuesFresh (limits : EngineLimits) (now : UInt64) (state : Impl Binary64) :
    Op Binary64 → Prop
  | .createDomain kind capacity => state.creatable limits capacity = true →
      (state.createDomain limits kind capacity).1.id.value ≠ 0 ∧
        state.domains.find? (state.createDomain limits kind capacity).1.id = none
  | .declareFlow options => Declarable limits options state →
      (state.declareFlow limits now options).1.id.value ≠ 0 ∧
        state.flows.find? (state.declareFlow limits now options).1.id = none
  | .recomputeDomain id => ∀ domain, state.domains.find? id = some domain →
      state.opensEpisode domain = true →
        (state.recomputed limits now domain).2.currentEpisode.eventId.value ≠ 0 ∧
          ∀ other stored, state.domains.find? other = some stored →
            (state.recomputed limits now domain).2.currentEpisode.eventId ∉ stored.log.eventIds
  | _ => True

/-- The engine can issue that many identifiers. -/
structure Impl.Supplied (budget : Nat) (state : Impl Binary64) : Prop where
  domains : Supplies budget state.nextDomain fun number =>
    ∃ domain, state.domains.find? ⟨number⟩ = some domain
  flows : Supplies budget state.nextFlow fun number =>
    ∃ flow, state.flows.find? ⟨number⟩ = some flow
  events : Supplies budget state.nextEvent fun number =>
    ∃ id domain, state.domains.find? id = some domain ∧ ⟨number⟩ ∈ domain.log.eventIds

section Calls

variable {limits : EngineLimits} {now : UInt64} {op : Op Binary64} {state : Impl Binary64}
  {budget : Nat}

theorem Impl.Supplied.mono {smaller : Nat} (supplied : state.Supplied budget)
    (within : smaller ≤ budget) : state.Supplied smaller :=
  ⟨supplied.domains.mono within, supplied.flows.mono within, supplied.events.mono within⟩

private theorem issued_le_one (op : Op Binary64) (limits : EngineLimits) (state : Impl Binary64) :
    op.domainsIssued limits state ≤ 1 ∧ op.flowsIssued limits state ≤ 1 ∧
      op.eventsIssued state ≤ 1 := by
  refine ⟨?_, ?_, ?_⟩
  · cases op with
    | createDomain kind capacity =>
        unfold Op.domainsIssued
        dsimp only
        split <;> omega
    | _ => exact Nat.zero_le 1
  · cases op with
    | declareFlow options =>
        unfold Op.flowsIssued
        dsimp only
        split <;> omega
    | _ => exact Nat.zero_le 1
  · cases op with
    | recomputeDomain id =>
        unfold Op.eventsIssued
        dsimp only
        split <;> omega
    | _ => exact Nat.zero_le 1

/-- One call. -/
theorem Impl.Supplied.exec (supplied : state.Supplied (budget + op.idsIssued limits state))
    (small : budget < 2 ^ 64 - 1) : (exec limits now op state).2.Supplied budget := by
  obtain ⟨oneDomain, oneFlow, oneEvent⟩ := issued_le_one op limits state
  obtain ⟨nextDomain, nextFlow⟩ := exec_counters limits now op state
  refine ⟨?_, ?_, ?_⟩
  · rw [nextDomain]
    refine (supplied.domains.mono ?_).step small oneDomain ?_
    · unfold Op.idsIssued
      omega
    · rintro number ⟨after, stored⟩
      rcases exec_domain_origin stored with ⟨domain, -, found, -⟩ |
        ⟨kind, capacity, rfl, allowed, -, here, -⟩
      · exact Or.inl ⟨domain, found⟩
      · exact Or.inr ⟨if_pos allowed, congrArg Id.value here⟩
  · rw [nextFlow]
    refine (supplied.flows.mono ?_).step small oneFlow ?_
    · unfold Op.idsIssued
      omega
    · rintro number ⟨after, stored⟩
      rcases exec_flow_origin stored with ⟨flow, found, -⟩ | ⟨options, rfl, allowed, -, here, -⟩
      · exact Or.inl ⟨flow, found⟩
      · exact Or.inr ⟨if_pos allowed, congrArg Id.value here⟩
  · rw [exec_nextEvent]
    refine (supplied.events.mono ?_).step small oneEvent ?_
    · unfold Op.idsIssued
      omega
    · rintro number ⟨id, after, stored, member⟩
      rcases exec_eventIds stored member with ⟨domain, found, earlier⟩ | ⟨-, issued, new⟩
      · exact Or.inl ⟨id, domain, found, earlier⟩
      · exact Or.inr ⟨issued, congrArg Id.value new⟩

/-- A supplied engine issues fresh identifiers. -/
theorem Impl.Supplied.issuesFresh (supplied : state.Supplied budget)
    (room : op.idsIssued limits state ≤ budget) : op.IssuesFresh limits now state := by
  cases op with
  | createDomain kind capacity =>
      intro allowed
      have positive : 0 < budget := by
        simp only [Op.idsIssued, Op.domainsIssued, allowed, if_true] at room
        omega
      obtain ⟨nonzero, unused⟩ := supplied.domains.first positive
      have absent : state.domains.find? ⟨state.nextDomain⟩ = none :=
        Option.eq_none_iff_forall_ne_some.mpr fun domain found => unused ⟨domain, found⟩
      have ref : (state.createDomain limits kind capacity).1.id = ⟨state.nextDomain⟩ := by
        rw [createDomain_of_creatable allowed]
        simp [Impl.storeDomain, UnorderedMap.find?_emplace, absent, Impl.newDomain]
      rw [ref]
      exact ⟨nonzero, absent⟩
  | declareFlow options =>
      intro allowed
      have positive : 0 < budget := by
        simp only [Op.idsIssued, Op.flowsIssued, allowed, if_true] at room
        omega
      obtain ⟨nonzero, unused⟩ := supplied.flows.first positive
      have absent : state.flows.find? ⟨state.nextFlow⟩ = none :=
        Option.eq_none_iff_forall_ne_some.mpr fun flow found => unused ⟨flow, found⟩
      have ref : (state.declareFlow limits now options).1.id = ⟨state.nextFlow⟩ := by
        rw [declareFlow_of_declarable allowed]
        simp [Impl.storeFlow, UnorderedMap.find?_emplace, absent, Flow.declare]
      rw [ref]
      exact ⟨nonzero, absent⟩
  | recomputeDomain id =>
      intro domain found opens
      obtain ⟨congested, isClosed⟩ := Bool.and_eq_true_iff.mp opens
      have positive : 0 < budget := by
        have one : (Op.recomputeDomain id : Op Binary64).eventsIssued state = 1 := by
          rw [Op.eventsIssued, found, Option.any_some]
          exact if_pos opens
        unfold Op.idsIssued at room
        omega
      obtain ⟨nonzero, unused⟩ := supplied.events.first positive
      have event : (state.recomputed limits now domain).2.currentEpisode.eventId =
          ⟨state.nextEvent⟩ := by
        rw [Bool.not_eq_true'] at isClosed
        unfold Impl.recomputed CongestionDomain.trackEpisode
        dsimp only
        rw [if_pos congested, if_pos (by simp [isClosed])]
        rfl
      rw [event]
      exact ⟨nonzero, fun other stored isStored member => unused ⟨other, stored, isStored, member⟩⟩
  | _ => trivial

end Calls

/-! ## Files -/

/-- The counter starts at one or above, can hand out every number that may be
issued without wrapping to zero, and none of them is in use. -/
def clearFrom (counter : UInt64) (used : List UInt64) : Bool :=
  decide (0 < counter.toNat) && decide (counter.toNat + (2 ^ 63 - 1) ≤ 2 ^ 64) &&
    used.all fun number =>
      decide (number.toNat < counter.toNat) ||
        decide (counter.toNat + (2 ^ 63 - 1) ≤ number.toNat)

theorem supplies_of_clearFrom {counter : UInt64} {used : List UInt64}
    (isClear : clearFrom counter used = true) :
    Supplies (2 ^ 63 - 1) counter fun number => number ∈ used := by
  simp only [clearFrom, Bool.and_eq_true, decide_eq_true_eq, List.all_eq_true,
    Bool.or_eq_true] at isClear
  exact supplies_of_range isClear.1.1 isClear.1.2 isClear.2

/-- The three counters of a file are clear of the identifiers in it. -/
def Persisted.countersClear (persisted : Persisted) : Bool :=
  clearFrom persisted.nextDomain (persisted.domains.keys.map Id.value) &&
    clearFrom persisted.nextFlow (persisted.flows.keys.map Id.value) &&
    clearFrom persisted.nextEvent (persisted.domains.entries.flatMap fun entry =>
      entry.2.log.eventIds.map Id.value)

theorem Persisted.supplied {persisted : Persisted} (isClear : persisted.countersClear = true)
    (state : Impl Binary64) :
    (state.commit persisted).revalidateAll.Supplied (2 ^ 63 - 1) := by
  simp only [Persisted.countersClear, Bool.and_eq_true] at isClear
  obtain ⟨⟨domains, flows⟩, events⟩ := isClear
  refine ⟨?_, ?_, ?_⟩
  · refine (supplies_of_clearFrom domains).keep ?_
    rintro number ⟨after, stored⟩
    obtain ⟨domain, found, -⟩ := Impl.committed_domain_iff.mp stored
    have entry := UnorderedMap.mem_entries_iff.mpr found
    exact List.mem_map_of_mem (List.mem_map_of_mem entry)
  · refine (supplies_of_clearFrom flows).keep ?_
    rintro number ⟨after, stored⟩
    obtain ⟨flow, found, -⟩ := Impl.committed_flow_iff.mp stored
    have entry := UnorderedMap.mem_entries_iff.mpr found
    exact List.mem_map_of_mem (List.mem_map_of_mem entry)
  · refine (supplies_of_clearFrom events).keep ?_
    rintro number ⟨id, after, stored, member⟩
    obtain ⟨domain, found, rfl⟩ := Impl.committed_domain_iff.mp stored
    rw [domain.requireRevalidation_log] at member
    exact List.mem_flatMap.mpr ⟨(id, domain), UnorderedMap.mem_entries_iff.mpr found,
      List.mem_map_of_mem member⟩

/-! ## Runs after a load -/

/-- Every file that a load accepts has clear counters. -/
def Event.countersClear : Event → Bool
  | .load file => (file.bind Impl.decode).all Persisted.countersClear
  | .engine _ => true

def Event.idsIssued (limits : EngineLimits) (state : Impl Binary64) : Event → Nat
  | .engine (.call _ op) => op.idsIssued limits state
  | _ => 0

/-- The identifiers issued along a history. -/
def idsIssued (limits : EngineLimits) (history : List (Impl Binary64 × Event)) : Nat :=
  (history.map fun taken => taken.2.idsIssued limits taken.1).sum

theorem idsIssued_snoc (limits : EngineLimits) (history : List (Impl Binary64 × Event))
    (state : Impl Binary64) (event : Event) :
    idsIssued limits (history ++ [(state, event)]) =
      idsIssued limits history + event.idsIssued limits state := by
  simp [idsIssued]

variable {limits : EngineLimits} {state next : Impl Binary64} {event : Event}

private theorem Impl.Supplied.fileStep {budget : Nat}
    (supplied : state.Supplied (budget + event.idsIssued limits state))
    (small : budget ≤ 2 ^ 63 - 1) (isClear : event.countersClear = true)
    (taken : FileStep limits state event next) : next.Supplied budget := by
  cases taken with
  | engine step =>
      cases step with
      | call now op => exact supplied.exec (by omega)
      | rehash same =>
          have counters : next.counters = state.counters := by rw [same.rest]; rfl
          obtain ⟨nextDomain, others⟩ := Prod.mk.inj counters
          obtain ⟨nextFlow, nextEvent⟩ := Prod.mk.inj others
          refine ⟨?_, ?_, ?_⟩
          · rw [nextDomain]
            refine supplied.domains.keep fun number isUsed => ?_
            simpa only [same.domains.find?_eq] using isUsed
          · rw [nextFlow]
            refine supplied.flows.keep fun number isUsed => ?_
            simpa only [same.flows.find?_eq] using isUsed
          · rw [nextEvent]
            refine supplied.events.keep fun number isUsed => ?_
            simpa only [same.domains.find?_eq] using isUsed
  | load file =>
      rcases Impl.load_cases file state with refused | ⟨bytes, persisted, rfl, decoded, accepted⟩
      · rw [refused]
        exact supplied
      · rw [accepted]
        simp only [Event.countersClear, Option.bind_some, decoded, Option.all_some] at isClear
        exact (Persisted.supplied isClear state).mono small

/-- After every accepted file with clear counters, and along every later run
whose loads have them too: as long as fewer than `2 ^ 63` identifiers are issued,
each is neither zero nor in use. -/
theorem issuesFresh_of_run {file : Bytes} {history : List (Impl Binary64 × Event)}
    {final : Impl Binary64} (accepted : (state.load (some file)).1 = true)
    (isClear : (Impl.decode file).all Persisted.countersClear = true)
    (later : Run (FileStep limits) (state.load (some file)).2 history final)
    (loads : EveryStep history fun _ _ event => event.countersClear = true) (now : UInt64)
    (op : Op Binary64) (few : idsIssued limits history + op.idsIssued limits final < 2 ^ 63) :
    op.IssuesFresh limits now final := by
  have start : (state.load (some file)).2.Supplied (2 ^ 63 - 1) := by
    rcases Impl.load_cases (some file) state with refused | ⟨_, persisted, same, decoded, committed⟩
    · rw [refused] at accepted
      exact absurd accepted (by simp)
    · obtain rfl := Option.some.inj same
      rw [decoded, Option.all_some] at isClear
      rw [committed]
      exact Persisted.supplied isClear state
  have supplied := later.invariant_of_everyStep
    (fun history reached => ∀ budget, budget + idsIssued limits history ≤ 2 ^ 63 - 1 →
      reached.Supplied budget)
    (fun budget within => start.mono (by omega)) ?_ loads
  · have left := supplied (2 ^ 63 - 1 - idsIssued limits history) (by omega)
    exact left.issuesFresh (by omega)
  · intro history reached event next before met taken budget within
    rw [idsIssued_snoc] at within
    exact (before (budget + event.idsIssued limits reached) (by omega)).fileStep (by omega)
      met taken

/-- An engine with one domain and one flow, and a counter for the next flow. -/
private def numberedFrom (nextFlow : UInt64) : Impl Binary64 :=
  { execAll {} [(1, .registerWorker ⟨1⟩ ⟨1⟩), (1, .registerSource ⟨1⟩ ⟨1⟩),
      (1, .createDomain DomainKind.nicTx {}), (2, .declareFlow (.ofFirst 100))] Impl.fresh with
    nextFlow := nextFlow }

/-- After a load, a domain is created and then a flow is declared. -/
theorem numberedFrom_issuesFresh :
    (Impl.fresh.load (some (saveBytes (numberedFrom 2)))).1 = true ∧
      (Op.declareFlow (.ofFirst 100)).IssuesFresh {} 4
        (exec {} 3 (.createDomain DomainKind.nicTx {})
          (Impl.fresh.load (some (saveBytes (numberedFrom 2)))).2).2 := by
  have decoded := decode_saveBytes (show (numberedFrom 2).Loadable by decide +kernel)
  have accepted : (Impl.fresh.load (some (saveBytes (numberedFrom 2)))).1 = true := by
    rw [load_of_decode decoded]
  have isClear : (Impl.decode (saveBytes (numberedFrom 2))).all Persisted.countersClear = true := by
    rw [decoded]
    decide +kernel
  have few : idsIssued {} [((Impl.fresh.load (some (saveBytes (numberedFrom 2)))).2,
        .engine (.call 3 (.createDomain DomainKind.nicTx {})))] +
      (Op.declareFlow (.ofFirst 100)).idsIssued {} (exec {} 3 (.createDomain DomainKind.nicTx {})
        (Impl.fresh.load (some (saveBytes (numberedFrom 2)))).2).2 < 2 ^ 63 := by
    rw [load_of_decode decoded]
    decide +kernel
  have later : Run (FileStep {}) (Impl.fresh.load (some (saveBytes (numberedFrom 2)))).2
      [((Impl.fresh.load (some (saveBytes (numberedFrom 2)))).2,
        .engine (.call 3 (.createDomain DomainKind.nicTx {})))]
      (exec {} 3 (.createDomain DomainKind.nicTx {})
        (Impl.fresh.load (some (saveBytes (numberedFrom 2)))).2).2 :=
    Run.nil.snoc (.engine (.call _ 3 (.createDomain DomainKind.nicTx {})))
  exact ⟨accepted, issuesFresh_of_run accepted isClear later
    (everyStep_snoc.mpr ⟨everyStep_nil, rfl⟩) 4 (.declareFlow (.ofFirst 100)) few⟩

/-- A file whose flow counter stands at an existing flow is accepted, and the
next declaration returns a reference to that flow. -/
theorem numberedFrom_reissues :
    ¬∀ (limits : EngineLimits) (file : Bytes) (state : Impl Binary64)
      (history : List (Impl Binary64 × Label Binary64)) (final : Impl Binary64),
      (state.load (some file)).1 = true →
        Run (Step limits) (state.load (some file)).2 history final →
        ∀ (now : UInt64) (op : Op Binary64),
          (history.map fun taken => Event.idsIssued limits taken.1 (.engine taken.2)).sum +
            op.idsIssued limits final < 2 ^ 63 → op.IssuesFresh limits now final := by
  intro always
  have decoded := decode_saveBytes (show (numberedFrom 1).Loadable by decide +kernel)
  have fresh := always {} (saveBytes (numberedFrom 1)) Impl.fresh [] _
    (by rw [load_of_decode decoded]) Run.nil 3 (.declareFlow (.ofFirst 100))
    (by rw [load_of_decode decoded]; decide +kernel)
  rw [load_of_decode decoded] at fresh
  obtain ⟨-, absent⟩ := fresh (by decide +kernel)
  rw [← Option.not_isSome_iff_eq_none] at absent
  exact absent (by decide +kernel)

end CongestionFabric
