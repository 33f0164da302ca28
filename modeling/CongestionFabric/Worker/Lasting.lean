import CongestionFabric.Engine.Bindings
import CongestionFabric.Persistence.Permanence
import CongestionFabric.Worker.Service

/-!
Contract: facts about an engine that no coordinator takes back.

Owns the domains, boots and flows that stay whatever the sessions do: a domain is never
removed over the protocol, a recorded boot never goes back, and a flow never returns to
an earlier step of its launch.

Does not own: evidence, which every session may replace.
-/

namespace CongestionFabric

open Foundation
open Foundation.Reader

/-! ## What a coordinator asks of its engine -/

/-- The request removes no domain. -/
def Request.keepsDomains : Request → Bool
  | .operation (.removeDomain _) => false
  | _ => true

private theorem rdBody_keepsDomains (type : Option MessageType) :
    Yields (Request.rdBody type) fun request => request.keepsDomains = true := by
  cases type with
  | none => exact yields_pure rfl
  | some type =>
      cases type with
      | hello | admission | queue | queryCongestion | save =>
          exact .after fun _ => yields_pure rfl
      | start | complete | queryResidual | fenceWorker | invalidateSource | advanceGeneration
      | revalidate => exact .after fun _ => .after fun _ => yields_pure rfl
      | progress | cancel =>
          exact .after fun _ => .after fun _ => .after fun _ => yields_pure rfl
      | register | applyShaping =>
          exact .after fun _ => .after fun _ => .after fun _ => .after fun _ => yields_pure rfl
      | createDomain | publishMeasurement =>
          exact .after fun _ => .after fun _ => .after fun _ => .after fun _ => .after fun _ =>
            yields_pure rfl
      | declareFlow =>
          exact .after fun _ => .after fun _ => .after fun _ => .after fun _ => .after fun _ =>
            .after fun _ => .after fun _ => .after fun _ => .after fun _ => .after fun _ =>
            .after fun _ => .after fun _ => .after fun _ => .after fun _ => yields_pure rfl
      | queryBottleneck =>
          exact .after fun _ => .after_require fun _ => .after fun _ => yields_pure rfl
      | _ => exact yields_pure rfl

private theorem ofFrame_keepsDomains (frame : Frame) (id : CongestionDomainId) :
    Request.ofFrame frame ≠ some (.operation (.removeDomain id)) := by
  unfold Request.ofFrame
  split
  · simp
  · next request rest read =>
      intro removes
      have keeps := rdBody_keepsDomains _ _ _ _ read
      rw [Option.some.inj removes] at keeps
      exact absurd keeps (by simp [Request.keepsDomains])

/-- No input makes a coordinator remove a domain. -/
theorem Coordinator.call_ne_removeDomain {coordinator : Coordinator} {input : Input}
    {now : UInt64} {op : Op Binary64} (called : coordinator.call input = some (now, op))
    (id : CongestionDomainId) : op ≠ .removeDomain id := by
  rintro rfl
  unfold Coordinator.call at called
  split at called
  · next session _ _ _ frame _ =>
      obtain ⟨op, first, same⟩ := Option.map_eq_some_iff.mp called
      obtain ⟨-, rfl⟩ := Prod.mk.inj same
      unfold Session.firstCall at first
      split at first
      · simp at first
      · simp at first
      · simp at first
      · next removes =>
          rw [Option.some.inj first] at removes
          exact ofFrame_keepsDomains frame id removes
      · split at first <;> simp at first
      · simp at first
      · simp at first
  · obtain ⟨op, second, same⟩ := Option.map_eq_some_iff.mp called
    obtain ⟨-, rfl⟩ := Prod.mk.inj same
    unfold Session.secondCall at second
    split at second <;> simp at second
  · obtain ⟨op, last, same⟩ := Option.map_eq_some_iff.mp called
    obtain ⟨-, rfl⟩ := Prod.mk.inj same
    unfold Session.lastCall at last
    split at last <;> simp at last
  · simp at called

/-- No step of a coordinator takes the property of its engine back. -/
def Lasts (limits : EngineLimits) (property : Impl Binary64 → Prop) : Prop :=
  ∀ (coordinator : Coordinator) (input : Input) (next : Coordinator),
    CoordinatorStep limits coordinator input next → property coordinator.engine →
      property next.engine

variable {limits : EngineLimits} {property other : Impl Binary64 → Prop}

/-- What every operation but a removal keeps, and looks at contents only. -/
theorem lasts_of_exec
    (exec : ∀ engine now op, (∀ id, op ≠ .removeDomain id) → property engine →
      property (exec limits now op engine).2)
    (reordered : ∀ {engine next : Impl Binary64}, engine.Reordered next → property engine →
      property next) : Lasts limits property := by
  intro coordinator input next taken holds
  cases taken with
  | rehash same => exact reordered same holds
  | input =>
      rw [Coordinator.next_engine]
      cases called : coordinator.call input with
      | none => exact holds
      | some call =>
          exact exec _ _ _ (fun id => Coordinator.call_ne_removeDomain called id) holds

theorem Lasts.and (left : Lasts limits property) (right : Lasts limits other) :
    Lasts limits fun engine => property engine ∧ other engine :=
  fun _ _ _ taken both => ⟨left _ _ _ taken both.1, right _ _ _ taken both.2⟩

theorem lasts_wellAccounted : Lasts limits Impl.WellAccounted :=
  fun _ _ _ taken sound => sound.coordinatorStep taken

/-! ## Boots -/

section Tables

variable {Tag BootTag : Type} {table : UnorderedMap (Id Tag) (Generation BootTag)}
  {id other : Id Tag} {boot later : Generation BootTag}

/-- The identity is recorded at this boot or a newer one. -/
def RecordsFrom (table : UnorderedMap (Id Tag) (Generation BootTag)) (id : Id Tag)
    (boot : Generation BootTag) : Prop :=
  ∃ recorded, table.find? id = some recorded ∧ boot.value.toNat ≤ recorded.value.toNat

theorem RecordsFrom.registered (records : RecordsFrom table id boot) :
    RecordsFrom (registerBoot table other later).2 id boot := by
  obtain ⟨recorded, found, older⟩ := records
  unfold RecordsFrom
  rw [registerBoot_find?]
  split
  · next replaced =>
      obtain ⟨accepted, rfl⟩ := replaced
      obtain ⟨-, -, newer⟩ := registerBoot_accepted.mp accepted
      have newer := UInt64.lt_iff_toNat_lt.mp (newer recorded found)
      exact ⟨later, rfl, by omega⟩
  · exact ⟨recorded, found, older⟩

theorem RecordsFrom.fenced (records : RecordsFrom table id boot) :
    RecordsFrom ((fenceBoot table other later).getD table) id boot := by
  obtain ⟨recorded, found, older⟩ := records
  unfold RecordsFrom
  rw [fenceBoot_find?]
  split
  · next bumped =>
      obtain ⟨⟨-, current⟩, rfl⟩ := bumped
      rw [found] at current
      obtain rfl := Option.some.inj current
      exact ⟨recorded.next, rfl, Nat.le_trans older recorded.le_next⟩
  · exact ⟨recorded, found, older⟩

theorem RecordsFrom.refuses (records : RecordsFrom table id boot) :
    (registerBoot table id boot).1 = false := by
  obtain ⟨recorded, found, older⟩ := records
  rw [← Bool.not_eq_true, registerBoot_accepted]
  rintro ⟨-, -, newest⟩
  have newer := UInt64.lt_iff_toNat_lt.mp (newest recorded found)
  omega

theorem recordsFrom_of_recordsAbove (above : recordsAbove table id boot = true) :
    RecordsFrom table id boot := by
  obtain ⟨recorded, found, newer⟩ := recordsAbove_iff.mp above
  exact ⟨recorded, found, Nat.le_of_lt (UInt64.lt_iff_toNat_lt.mp newer)⟩

end Tables

/-- The worker is recorded at this boot or a newer one. -/
def Impl.Knows (worker : WorkerId) (boot : WorkerBootId) (engine : Impl Binary64) : Prop :=
  RecordsFrom engine.workerBoot worker boot

theorem lasts_knows (worker : WorkerId) (boot : WorkerBootId) :
    Lasts limits (Impl.Knows worker boot) := by
  apply lasts_of_exec
  · rintro engine now op - records
    unfold Impl.Knows
    rw [(exec_tables limits now op engine).1]
    cases op with
    | registerWorker other later => exact records.registered
    | fenceWorker other dead => exact records.fenced
    | _ => exact records
  · rintro engine next same ⟨recorded, found, older⟩
    exact ⟨recorded, (same.workerBoot.find?_eq _).symm.trans found, older⟩

/-- The source is recorded at this boot or a newer one. -/
def Impl.KnowsSource (source : SourceId) (boot : SourceBootId) (engine : Impl Binary64) : Prop :=
  RecordsFrom engine.sourceBoot source boot

theorem lasts_knowsSource (source : SourceId) (boot : SourceBootId) :
    Lasts limits (Impl.KnowsSource source boot) := by
  apply lasts_of_exec
  · rintro engine now op - records
    unfold Impl.KnowsSource
    rw [(exec_tables limits now op engine).2]
    cases op with
    | registerSource other later => exact records.registered
    | fenceSource other dead => exact records.fenced
    | _ => exact records
  · rintro engine next same ⟨recorded, found, older⟩
    exact ⟨recorded, (same.sourceBoot.find?_eq _).symm.trans found, older⟩

theorem lasts_recordsAbove (worker : WorkerId) (boot : WorkerBootId) :
    Lasts limits fun engine => recordsAbove engine.workerBoot worker boot = true := by
  apply lasts_of_exec
  · intro engine now op _ above
    exact Impl.recordsAbove_exec now op above
  · intro engine next same above
    unfold recordsAbove
    rw [← same.workerBoot.find?_eq]
    exact above

/-! ## Domains -/

/-- The domain is there, as it was created. -/
def Impl.Offers (id : CongestionDomainId) (origin : CongestionDomain Binary64)
    (engine : Impl Binary64) : Prop :=
  ∃ domain, engine.domains.find? id = some domain ∧ domain.SameOrigin origin

theorem lasts_offers (id : CongestionDomainId) (origin : CongestionDomain Binary64) :
    Lasts limits (Impl.Offers id origin) := by
  apply lasts_of_exec
  · rintro engine now op keeps ⟨domain, found, same⟩
    obtain ⟨invalidated, stored⟩ := exec_domain limits now op found (keeps id)
    have written := domainAfter_sameOrigin limits now op engine invalidated id domain
    exact ⟨_, stored, written.ref.trans same.ref, written.kind.trans same.kind,
      written.capacity.trans same.capacity, written.defaultFairness.trans same.defaultFairness⟩
  · rintro engine next reordered ⟨domain, found, same⟩
    exact ⟨domain, (reordered.domains.find?_eq _).symm.trans found, same⟩

/-! ## Flows -/

/-- Admitted with all its bytes, whatever became of it. -/
def Flow.Admitted (flow : Flow Binary64) : Prop :=
  flow.state ≠ .declared ∧ flow.admittedBytes = flow.submittedBytes

/-- And started. -/
def Flow.Launched (flow : Flow Binary64) : Prop :=
  flow.Admitted ∧ flow.state ≠ .admitted ∧ flow.state ≠ .queued

section Record

variable {flow : Flow Binary64} {now : UInt64} {op : Op Binary64} {state : Impl Binary64}
  {id : FlowId}

theorem Flow.Admitted.after (admitted : flow.Admitted) (sound : flow.WellAccounted)
    (limits : EngineLimits) (now : UInt64) (op : Op Binary64) (state : Impl Binary64)
    (id : FlowId) : (flowAfter limits now op state id flow).Admitted := by
  have settled := sound.settled admitted.1 limits now op state id
  exact ⟨settled.state, settled.admitted.trans (admitted.2.trans settled.submitted.symm)⟩

/-- Only a flow that is declared or admitted comes to wait. -/
theorem Flow.Launched.after (launched : flow.Launched) (sound : flow.WellAccounted)
    (limits : EngineLimits) (now : UInt64) (op : Op Binary64) (state : Impl Binary64)
    (id : FlowId) : (flowAfter limits now op state id flow).Launched := by
  refine ⟨launched.1.after sound limits now op state id, ?_⟩
  obtain ⟨⟨notDeclared, -⟩, notAdmitted, notQueued⟩ := launched
  have fence : ∀ owned, (flow.fence owned).state ≠ .admitted ∧
      (flow.fence owned).state ≠ .queued := by
    intro owned
    unfold Flow.fence
    split
    · exact ⟨by simp, by simp⟩
    · exact ⟨notAdmitted, notQueued⟩
  apply flowAfter_elim (motive := fun after => after.state ≠ .admitted ∧ after.state ≠ .queued)
  case same => exact ⟨notAdmitted, notQueued⟩
  case fenceWorker => exact fun _ _ _ _ => fence _
  case fenceSource => exact fun _ _ _ _ => fence _
  case admission =>
    intro ref _ _
    rcases sound.admission (state.domains.contains flow.domain.id) with
      ⟨-, refused⟩ | ⟨declared, -⟩
    · rw [refused]
      exact ⟨notAdmitted, notQueued⟩
    · exact absurd declared notDeclared
  case queue =>
    intro ref _ _
    rcases flow.queue_cases limits (state.domains.contains flow.domain.id)
      (state.queuedFlows flow.domain.id) with refused | ⟨admitted, -⟩
    · rw [refused]
      exact ⟨notAdmitted, notQueued⟩
    · exact absurd admitted notAdmitted
  case start =>
    intro ref boot _ _
    rcases sound.start now boot with ⟨-, refused⟩ | ⟨-, -, accepted⟩
    · rw [refused]
      exact ⟨notAdmitted, notQueued⟩
    · rw [accepted]
      exact ⟨by simp [Flow.started], by simp [Flow.started]⟩
  case progress =>
    intro ref boot delta _ _
    rcases sound.progress now boot delta with ⟨-, refused⟩ | ⟨-, -, _, _, -, -, -, accepted⟩
    · rw [refused]
      exact ⟨notAdmitted, notQueued⟩
    · rw [accepted]
      exact ⟨notAdmitted, notQueued⟩
  case complete =>
    intro ref boot _ _
    rcases sound.complete now boot with ⟨-, refused⟩ | ⟨-, -, accepted⟩
    · rw [refused]
      exact ⟨notAdmitted, notQueued⟩
    · rw [accepted]
      exact ⟨by simp, by simp⟩
  case cancel =>
    intro ref boot soFar _ _
    rcases sound.cancel now boot soFar with ⟨-, refused⟩ | ⟨-, -, _, -, accepted⟩
    · rw [refused]
      exact ⟨notAdmitted, notQueued⟩
    · rw [accepted]
      exact ⟨by simp, by simp⟩
  case fail =>
    intro ref boot _ _
    rcases sound.fail now boot with ⟨-, refused⟩ | ⟨-, -, _, -, accepted⟩
    · rw [refused]
      exact ⟨notAdmitted, notQueued⟩
    · rw [accepted]
      exact ⟨by simp, by simp⟩
  case advance =>
    intro ref following _ _
    unfold Flow.advanceGeneration
    split_ifs
    · exact ⟨notAdmitted, notQueued⟩
    · exact ⟨by simp, by simp⟩
    · exact ⟨notAdmitted, notQueued⟩
  case revalidate =>
    intro ref boot _ _
    rcases flow.revalidate_cases boot with ⟨-, refused⟩ | ⟨-, -, accepted⟩
    · rw [refused]
      exact ⟨notAdmitted, notQueued⟩
    · rw [accepted]
      exact ⟨by simp, by simp⟩
  case recover =>
    intro _
    unfold Flow.requireRevalidation
    split
    · exact ⟨by simp, by simp⟩
    · exact ⟨notAdmitted, notQueued⟩

end Record

/-- The flow is there, as it was declared, with all flows in order; `stage` tells how far
it has come. -/
structure Impl.Carries (id : FlowId) (origin : Flow Binary64) (stage : Flow Binary64 → Prop)
    (engine : Impl Binary64) : Prop where
  sound : engine.WellAccounted
  flow : ∃ flow, engine.flows.find? id = some flow ∧ flow.SameOrigin origin ∧
    flow.submittedBytes = origin.submittedBytes ∧ stage flow

/-- One operation takes the flow from one stage to another. -/
theorem Impl.Carries.exec {id : FlowId} {origin : Flow Binary64}
    {stage later : Flow Binary64 → Prop} {engine : Impl Binary64}
    (carries : engine.Carries id origin stage) (limits : EngineLimits) (now : UInt64)
    (op : Op Binary64)
    (reaches : ∀ flow, engine.flows.find? id = some flow → flow.WellAccounted → stage flow →
      later (flowAfter limits now op engine id flow)) :
    (CongestionFabric.exec limits now op engine).2.Carries id origin later := by
  obtain ⟨sound, flow, found, same, bytes, reached⟩ := carries
  refine ⟨sound.exec limits now op, _, exec_flow found, ?_, ?_,
    reaches flow found (sound id flow found) reached⟩
  · have written := flowAfter_sameOrigin limits now op engine id flow
    exact ⟨written.id.trans same.id, written.ownerWorker.trans same.ownerWorker,
      written.ownerBoot.trans same.ownerBoot, written.source.trans same.source,
      written.sourceBoot.trans same.sourceBoot, written.domain.trans same.domain,
      written.trafficClass.trans same.trafficClass, written.fairness.trans same.fairness,
      written.provenance.trans same.provenance, written.description.trans same.description⟩
  · obtain ⟨_, _, _, _, _, _, _, _, _, written, -⟩ :=
      flowAfter_written limits now op engine id flow
    rw [written]
    exact bytes

theorem lasts_carries {stage : Flow Binary64 → Prop} (id : FlowId) (origin : Flow Binary64)
    (kept : ∀ {flow : Flow Binary64}, flow.WellAccounted → stage flow →
      ∀ now op state, stage (flowAfter limits now op state id flow)) :
    Lasts limits (Impl.Carries id origin stage) := by
  apply lasts_of_exec
  · intro engine now op _ carries
    exact carries.exec limits now op fun flow _ sound reached => kept sound reached now op engine
  · rintro engine next reordered ⟨sound, flow, found, same⟩
    refine ⟨fun other record stored => sound other record ?_, flow, ?_, same⟩
    · exact (reordered.flows.find?_eq _).trans stored
    · exact (reordered.flows.find?_eq _).symm.trans found

/-- A flow that nobody can act on. -/
def Impl.Inert (id : FlowId) (engine : Impl Binary64) : Prop :=
  engine.WellAccounted ∧
    ∃ flow, engine.flows.find? id = some flow ∧ flow.state.live = false

theorem lasts_inert (id : FlowId) : Lasts limits (Impl.Inert id) := by
  apply lasts_of_exec
  · rintro engine now op - ⟨sound, flow, found, inert⟩
    refine ⟨sound.exec limits now op, _, exec_flow found, ?_⟩
    rcases (sound id flow found).after_inert inert limits now op engine id with
      same | awaits | ⟨-, stale⟩
    · rw [same]
      exact inert
    · rw [awaits]
      rfl
    · rw [stale]
      rfl
  · rintro engine next reordered ⟨sound, flow, found, inert⟩
    refine ⟨fun other record stored => sound other record ?_, flow, ?_, inert⟩
    · exact (reordered.flows.find?_eq _).trans stored
    · exact (reordered.flows.find?_eq _).symm.trans found

end CongestionFabric
