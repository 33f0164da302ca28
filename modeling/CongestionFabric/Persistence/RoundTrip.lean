import Mathlib.Tactic.MkIffOfInductiveProp
import CongestionFabric.Persistence.Snapshot

/-!
Contract: a saved engine can be loaded, and loading restores it.

Owns, for every record, the conditions the loader checks and the fact that the
reader returns the written record; the whole payload and envelope; what two engines
share that agree on every persisted field; and the theorem that loading a saved
engine, its maps enumerated in any order, installs the recovered engine.

The conditions are those of the loader, field by field.
-/

namespace CongestionFabric

open Foundation
open Foundation.Reader

/-! ## Primitives -/

theorem reads_rd32 (value : UInt32) : Reads u32 (wr32 value) value := reads_u32 value

theorem reads_rd64 (value : UInt64) : Reads u64 (wr64 value) value := reads_u64 value

theorem reads_rdF64 (value : Binary64) : Reads rdF64 (wrF64 value) value :=
  (reads_u64 value.bits).map

theorem reads_rdBool (value : Bool) : Reads rdBool (wrBool value) value := by
  cases value <;> exact (reads_u8 _).map

theorem toNat_ofNat_length {length bound : Nat} (within : length ≤ bound)
    (small : bound < 2 ^ 64) : (UInt64.ofNat length).toNat = length :=
  UInt64.toNat_ofNat_of_lt (Nat.lt_of_le_of_lt within small)

theorem reads_rdStr {text : Bytes} (within : text.length ≤ maxStringBytes) :
    Reads rdStr (wrStr text) text := by
  have length := toNat_ofNat_length within (by decide)
  refine (reads_u64 _).step (.after_require (by simpa [length] using within) ?_)
  rw [length]
  exact (reads_bytes text).last

theorem reads_rdCount {count : Nat} (within : count ≤ maxCollectionCount) :
    Reads rdCount (wr64 (.ofNat count)) (.ofNat count) := by
  have length := toNat_ofNat_length within (by decide)
  exact (reads_u64 (.ofNat count)).bind_nil
    (.after_require (by simpa [length] using within) (reads_pure _))

/-- A counted list. -/
private theorem reads_counted {A B : Type} {item : Reader A} {write : A → Bytes}
    {values : List A} {next : List A → Reader B} {chunks : List Bytes} {result : B}
    (within : values.length ≤ maxCollectionCount)
    (each : ∀ value ∈ values, Reads item (write value) value)
    (tail : Reads (next values) chunks.flatten result) :
    Reads (do
      let count ← rdCount
      let read ← many count.toNat item
      next read) (wr64 (.ofNat values.length) :: values.flatMap write :: chunks).flatten
      result := by
  refine (reads_rdCount within).step ?_
  rw [toNat_ofNat_length within (by decide)]
  exact (reads_many each).step tail

section Identities

variable {Tag E : Type}

theorem reads_rdId (id : Id Tag) : Reads rdId (wrId id) id := (reads_u64 id.value).map

theorem reads_rdGeneration (generation : Generation Tag) :
    Reads rdGeneration (wrGeneration generation) generation :=
  (reads_u64 generation.value).map

theorem reads_rdRef (ref : EntityRef Tag) : Reads rdRef (wrRef ref) ref :=
  (reads_rdId ref.id).step <| (reads_rdGeneration ref.generation).step <| reads_pure _

theorem reads_rdEnumUnchecked (value : Enum8 E) : Reads rdEnumUnchecked (wrEnum value) value :=
  (reads_u8 value.toU8).map

theorem reads_rdEnum [Enumeration E] {value : Enum8 E} (valid : value.valid = true)
    (text : String) : Reads (rdEnum text) (wrEnum value) value :=
  (reads_u8 value.toU8).bind_nil (.after_require valid (reads_pure _))

end Identities

theorem reads_rdCongestionState (state : CongestionState) (text : String) :
    Reads (rdCongestionState text) (wr8 (Enumeration.toU8 state)) state :=
  (reads_u8 (Enumeration.toU8 state)).bind_nil
    (reads_expect (CongestionState.ofU8?_toU8 state))

theorem reads_rdFlowState (state : FlowState) :
    Reads rdFlowState (wr8 (Enumeration.toU8 state)) state :=
  (reads_u8 (Enumeration.toU8 state)).bind_nil (reads_expect (FlowState.ofU8?_toU8 state))

theorem reads_rdBytes (counter : ByteCounter) : Reads rdBytes (wrBytes counter) counter :=
  (reads_u64 counter.value).map

/-! ## Records -/

/-- The checks of `rd_rate`; they are made for an UNKNOWN rate as well. -/
@[mk_iff] structure Rate.Loadable (rate : Rate Binary64) : Prop where
  kind : rate.kind.valid = true
  provenance : rate.provenance.valid = true
  finiteNonneg : rate.isFiniteNonneg = true

instance (rate : Rate Binary64) : Decidable rate.Loadable :=
  decidable_of_iff _ (Rate.loadable_iff rate).symm

theorem reads_rdRate {rate : Rate Binary64} (loadable : rate.Loadable) :
    Reads rdRate (wrRate rate) rate :=
  (reads_rdEnum loadable.kind _).step <| (reads_rdEnum loadable.provenance _).step <|
    (reads_rdF64 _).step <| (reads_rdGeneration _).step <|
    .after_require loadable.finiteNonneg <| reads_pure _

@[mk_iff] structure CapacityProfile.Loadable (profile : CapacityProfile Binary64) : Prop where
  theoretical : profile.theoretical.Loadable
  configured : profile.configured.Loadable
  measuredService : profile.measuredService.Loadable
  reserved : profile.reserved.Loadable
  valid : profile.valid = true

instance (profile : CapacityProfile Binary64) : Decidable profile.Loadable :=
  decidable_of_iff _ (CapacityProfile.loadable_iff profile).symm

theorem reads_rdCapacity {profile : CapacityProfile Binary64} (loadable : profile.Loadable) :
    Reads rdCapacity (wrCapacity profile) profile :=
  (reads_rdRate loadable.theoretical).step <| (reads_rdRate loadable.configured).step <|
    (reads_rdRate loadable.measuredService).step <| (reads_rdRate loadable.reserved).step <|
    (reads_rdGeneration _).step <| reads_pure _

theorem reads_rdFairness {config : FairnessConfig Binary64}
    {rdModel : Reader (Enum8 FairnessModel)}
    (model : Reads rdModel (wrEnum config.model) config.model) :
    Reads (rdFairness rdModel) (wrFairness config) config :=
  model.step <| (reads_rdF64 _).step <| (reads_rdF64 _).step <| (reads_rdF64 _).step <|
    (reads_rdBool _).step <| (reads_rdGeneration _).step <| reads_pure _

/-- The checks `load` makes on a flow stored under a key. -/
@[mk_iff] structure Flow.Loadable (id : FlowId) (flow : Flow Binary64) : Prop where
  key : id.value ≠ 0
  ref : flow.ref.id = id
  trafficClass : flow.trafficClass.valid = true
  accounting : flow.accountingValid = true
  fairness : flow.fairness.valid = true
  provenance : flow.provenance.valid = true
  description : flow.description.length ≤ maxStringBytes

instance (id : FlowId) (flow : Flow Binary64) : Decidable (flow.Loadable id) :=
  decidable_of_iff _ (Flow.loadable_iff id flow).symm

theorem reads_rdFlow {id : FlowId} {flow : Flow Binary64} (loadable : flow.Loadable id) :
    Reads rdFlow (wrFlow flow) flow :=
  (reads_rdRef _).step <| (reads_rdId _).step <| (reads_rdGeneration _).step <|
    (reads_rdId _).step <| (reads_rdGeneration _).step <| (reads_rdRef _).step <|
    (reads_rdRef _).step <| (reads_rdEnum loadable.trafficClass _).step <|
    (reads_rdRef _).step <| (reads_rdRef _).step <| (reads_rdFlowState _).step <|
    (reads_rdBytes _).step <| (reads_rdBytes _).step <| (reads_rdBytes _).step <|
    (reads_rdBytes _).step <| (reads_rdBytes _).step <| (reads_rdBytes _).step <|
    (reads_rdBytes _).step <| (reads_u64 _).step <| (reads_u64 _).step <| (reads_u64 _).step <|
    (reads_rdF64 _).step <| (reads_rdF64 _).step <| (reads_rdF64 _).step <|
    (reads_rdF64 _).step <| (reads_rdF64 _).step <|
    (reads_rdFairness (reads_rdEnumUnchecked _)).step <|
    (reads_rdEnum loadable.provenance _).step <| (reads_rdStr loadable.description).step <|
    reads_pure _

/-- The bounds `load` puts on an episode. -/
@[mk_iff] structure CongestionEpisode.Bounded (episode : CongestionEpisode Binary64) : Prop where
  trigger : episode.trigger.length ≤ maxStringBytes
  affectedFlows : episode.affectedFlows.length ≤ maxCollectionCount

instance (episode : CongestionEpisode Binary64) : Decidable episode.Bounded :=
  decidable_of_iff _ (CongestionEpisode.bounded_iff episode).symm

theorem reads_rdEpisode {episode : CongestionEpisode Binary64} (bounded : episode.Bounded)
    (peakText outcomeText : String) :
    Reads (rdEpisode peakText outcomeText) (wrEpisode episode) episode :=
  (reads_rdId _).step <| (reads_rdGeneration _).step <| (reads_rdRef _).step <|
    (reads_rdCongestionState _ _).step <| (reads_u64 _).step <| (reads_u64 _).step <|
    (reads_u64 _).step <| (reads_u64 _).step <| (reads_rdStr bounded.trigger).step <|
    (reads_rdF64 _).step <| (reads_rdF64 _).step <|
    reads_counted bounded.affectedFlows (fun _ _ => reads_rdId _) <|
    (reads_rdRef _).step <| (reads_rdCongestionState _ _).step <| (reads_rdBool _).step <|
    reads_pure _

theorem reads_rdHistoryEpisode {episode : CongestionEpisode Binary64}
    (bounded : episode.Bounded) (valid : episode.valid = true) :
    Reads rdHistoryEpisode (wrEpisode episode) episode :=
  (reads_rdEpisode bounded _ _).bind_nil (.after_require valid (reads_pure _))

/-- The checks `load` makes on a domain stored under a key. -/
@[mk_iff] structure CongestionDomain.Loadable (id : CongestionDomainId)
    (domain : CongestionDomain Binary64) : Prop where
  key : id.value ≠ 0
  ref : domain.ref.id = id
  kind : domain.kind.valid = true
  capacity : domain.capacity.Loadable
  stateProvenance : domain.stateProvenance.valid = true
  fairnessModel : domain.defaultFairness.model.valid = true
  fairness : domain.defaultFairness.valid = true
  shaping : shapingValid domain.shaping.rate domain.shaping.capacity = true
  offeredProvenance : domain.offeredProvenance.valid = true
  admittedProvenance : domain.admittedProvenance.valid = true
  servicedProvenance : domain.servicedProvenance.valid = true
  utilisationProvenance : domain.utilisationProvenance.valid = true
  effectiveProvenance : domain.effectiveProvenance.valid = true
  residualProvenance : domain.residualProvenance.valid = true
  flows : domain.flows.length ≤ maxCollectionCount
  episodes : domain.episodes.length ≤ maxCollectionCount
  history : ∀ episode ∈ domain.episodes, episode.Bounded ∧ episode.valid = true
  current : domain.currentEpisode.Bounded

instance (id : CongestionDomainId) (domain : CongestionDomain Binary64) :
    Decidable (domain.Loadable id) :=
  decidable_of_iff _ (CongestionDomain.loadable_iff id domain).symm

/-- What a file keeps of a domain: measurements, owners, the fill of the bucket
and upstream links restart from their defaults. -/
def CongestionDomain.persisted {R : Type} [Arithmetic R] (domain : CongestionDomain R) :
    CongestionDomain R :=
  { domain with
    measurements := {}
    upstreamDomains := []
    shaping := .full domain.shaping.rate domain.shaping.capacity
    offeredOwner := {}
    offeredOwnerBoot := {}
    servicedOwner := {}
    servicedOwnerBoot := {} }

theorem reads_rdDomain {id : CongestionDomainId} {domain : CongestionDomain Binary64}
    (loadable : domain.Loadable id) :
    Reads (rdDomain id) (wrDomain domain) domain.persisted :=
  (reads_rdRef _).step <| .after_require (decide_eq_true loadable.ref) <|
    (reads_rdEnum loadable.kind _).step <| (reads_rdCapacity loadable.capacity).step <|
    (reads_rdGeneration _).step <| (reads_rdCongestionState _ _).step <|
    (reads_rdEnum loadable.stateProvenance _).step <| (reads_rdGeneration _).step <|
    (reads_rdGeneration _).step <|
    (reads_rdFairness (reads_rdEnum loadable.fairnessModel _)).step <|
    .after_require loadable.fairness <| (reads_rdF64 _).step <| (reads_rdF64 _).step <|
    .after_require loadable.shaping <|
    (reads_rdF64 _).step <| (reads_rdEnum loadable.offeredProvenance _).step <|
    (reads_rdF64 _).step <| (reads_rdEnum loadable.admittedProvenance _).step <|
    (reads_rdF64 _).step <| (reads_rdEnum loadable.servicedProvenance _).step <|
    (reads_rdF64 _).step <| (reads_rdEnum loadable.utilisationProvenance _).step <|
    (reads_rdF64 _).step <| (reads_rdEnum loadable.effectiveProvenance _).step <|
    (reads_rdF64 _).step <| (reads_rdEnum loadable.residualProvenance _).step <|
    reads_counted loadable.flows (fun _ _ => reads_rdRef _) <|
    reads_counted loadable.episodes
      (fun episode member => reads_rdHistoryEpisode (loadable.history episode member).1
        (loadable.history episode member).2) <|
    (reads_rdEpisode loadable.current _ _).step <|
    .after_require loadable.capacity.valid <| reads_pure _

/-! ## Maps -/

section Entries

variable {K V : Type}

private theorem imaged_keys (image : V → V) (entries : List (K × V)) :
    (entries.map fun entry => (entry.1, image entry.2)).map Prod.fst =
      entries.map Prod.fst := by
  rw [List.map_map]
  rfl

variable [DecidableEq K]

/-- The map that a loop has built after reading some entries. -/
def rebuilt (image : V → V) (entries : List (K × V)) : UnorderedMap K V :=
  .ofEntries (entries.map fun entry => (entry.1, image entry.2))

variable {map : UnorderedMap K V} {write : K × V → Bytes}
  {body : UnorderedMap K V → Reader (UnorderedMap K V)}

theorem rebuilt_entries (image : V → V) (map : UnorderedMap K V) :
    rebuilt image map.entries = map.mapValues fun _ value => image value := by
  apply UnorderedMap.ext_entries
  exact UnorderedMap.ofEntries_entries (by rw [imaged_keys]; exact map.nodup)

theorem rebuilt_concat (image : V → V) (earlier : List (K × V)) (entry : K × V) :
    rebuilt image (earlier ++ [entry]) =
      (rebuilt image earlier).emplace entry.1 (image entry.2) := by
  simp only [rebuilt, List.map_append, List.map_cons, List.map_nil, UnorderedMap.ofEntries_concat]

/-- The next entry of a map is not among those already read. -/
theorem rebuilt_absent {image : V → V} {earlier later : List (K × V)} {entry : K × V}
    (split : map.entries = earlier ++ entry :: later) :
    (rebuilt image earlier).contains entry.1 = false := by
  have distinct := map.nodup
  rw [split, List.map_append, List.map_cons, List.nodup_append] at distinct
  obtain ⟨earlierDistinct, -, disjoint⟩ := distinct
  rw [UnorderedMap.contains_eq_false, UnorderedMap.find?_eq_none_iff, UnorderedMap.keys, rebuilt,
    UnorderedMap.ofEntries_entries (by rw [imaged_keys]; exact earlierDistinct), imaged_keys]
  intro member
  exact disjoint entry.1 member entry.1 (by simp) rfl

/-- A loop that emplaces what it reads rebuilds a map entry by entry. -/
private theorem reads_entries (image : V → V)
    (each : ∀ entry ∈ map.entries, ∀ table : UnorderedMap K V, table.contains entry.1 = false →
      Reads (body table) (write entry) (table.emplace entry.1 (image entry.2))) :
    Reads (loop map.size body .empty) (map.entries.flatMap write)
      (map.mapValues fun _ value => image value) := by
  rw [← rebuilt_entries]
  apply reads_loop (rebuilt image) []
  intro earlier entry later split
  rw [List.nil_append, rebuilt_concat]
  exact each entry (by simp [split]) _ (rebuilt_absent split)

end Entries

theorem reads_rdMapCount {size : Nat} (within : size ≤ maxCollectionCount) (text : String) :
    Reads (rdMapCount text) (wr32 (.ofNat size)) size := by
  have length : (UInt32.ofNat size).toNat = size :=
    UInt32.toNat_ofNat_of_lt (Nat.lt_of_le_of_lt within (by decide))
  refine (reads_rd32 (.ofNat size)).bind_nil (.after_require ?_ ?_)
  · simpa [length] using within
  · rw [length]
    exact reads_pure size

/-- The checks `load` makes on a boot table. -/
@[mk_iff] structure BootsLoadable {Tag BootTag : Type}
    (table : UnorderedMap (Id Tag) (Generation BootTag)) : Prop where
  size : table.size ≤ maxCollectionCount
  entries : ∀ entry ∈ table.entries, entry.1.value ≠ 0 ∧ entry.2.value ≠ 0

instance {Tag BootTag : Type} (table : UnorderedMap (Id Tag) (Generation BootTag)) :
    Decidable (BootsLoadable table) :=
  decidable_of_iff _ (bootsLoadable_iff table).symm

theorem reads_rdBoots {Tag BootTag : Type} {table : UnorderedMap (Id Tag) (Generation BootTag)}
    (loadable : BootsLoadable table) (countText invalidText duplicateText : String) :
    Reads (rdBoots countText invalidText duplicateText) (wrMap wrId wrGeneration table)
      table := by
  have read : Reads (rdBoots countText invalidText duplicateText)
      (wrMap wrId wrGeneration table) (table.mapValues fun _ boot => boot) := by
    refine (reads_rdMapCount loadable.size countText).step
      (.last (reads_entries (fun boot => boot) ?_))
    intro entry member earlier absent
    obtain ⟨idNonzero, bootNonzero⟩ := loadable.entries entry member
    have valid : (entry.1.isValid && entry.2.isValid) = true := by
      rw [Bool.and_eq_true]
      exact ⟨Id.isValid_eq_true.mpr idNonzero, Generation.isValid_eq_true.mpr bootNonzero⟩
    exact (reads_rdId _).step <| (reads_rdGeneration _).step <| .after_require valid <|
      .after_require (by rw [absent]; rfl) <| reads_pure _
  rwa [UnorderedMap.mapValues_same] at read

/-- An absent key meets the generation test of the loader. -/
private theorem regression_absent {K V : Type} [DecidableEq K] {map : UnorderedMap K V} {key : K}
    {test : V → Bool} (absent : map.contains key = false) : (map.find? key).all test = true := by
  rw [UnorderedMap.contains_eq_false.mp absent]
  rfl

theorem reads_rdDomains {domains : UnorderedMap CongestionDomainId (CongestionDomain Binary64)}
    (size : domains.size ≤ maxCollectionCount)
    (loadable : ∀ entry ∈ domains.entries, entry.2.Loadable entry.1) :
    Reads rdDomains (wrMap wrId wrDomain domains)
      (domains.mapValues fun _ domain => domain.persisted) := by
  refine (reads_rdMapCount size _).step (.last (reads_entries CongestionDomain.persisted ?_))
  intro entry member earlier absent
  have checks := loadable entry member
  exact (reads_rdId _).step <| .after_require (Id.isValid_eq_true.mpr checks.key) <|
    (reads_rdDomain checks).step <| .after_require (regression_absent absent) <|
    .after_require (by rw [absent]; rfl) <| reads_pure _

theorem reads_rdFlows {flows : UnorderedMap FlowId (Flow Binary64)}
    (size : flows.size ≤ maxCollectionCount)
    (loadable : ∀ entry ∈ flows.entries, entry.2.Loadable entry.1) :
    Reads rdFlows (wrMap wrId wrFlow flows) flows := by
  have read : Reads rdFlows (wrMap wrId wrFlow flows)
      (flows.mapValues fun _ flow => flow) := by
    refine (reads_rdMapCount size _).step (.last (reads_entries (fun flow => flow) ?_))
    intro entry member earlier absent
    have checks := loadable entry member
    exact (reads_rdId _).step <| .after_require (Id.isValid_eq_true.mpr checks.key) <|
      (reads_rdFlow checks).step <| .after_require (decide_eq_true checks.ref) <|
      .after_require checks.trafficClass <| .after_require checks.accounting <|
      .after_require checks.fairness <| .after_require (regression_absent absent) <|
      .after_require (by rw [absent]; rfl) <| reads_pure _
  rwa [UnorderedMap.mapValues_same] at read

/-! ## The whole engine -/

/-- The conditions under which the loader accepts what `save` writes of an
engine. -/
@[mk_iff] structure Impl.Loadable (state : Impl Binary64) : Prop where
  epoch : state.epoch.value ≠ 0
  workerBoot : BootsLoadable state.workerBoot
  sourceBoot : BootsLoadable state.sourceBoot
  domainCount : state.domains.size ≤ maxCollectionCount
  domains : ∀ entry ∈ state.domains.entries, entry.2.Loadable entry.1
  flowCount : state.flows.size ≤ maxCollectionCount
  flows : ∀ entry ∈ state.flows.entries, entry.2.Loadable entry.1
  fileSize : (saveBytes state).length ≤ 2 ^ 30

instance (state : Impl Binary64) : Decidable state.Loadable :=
  decidable_of_iff _ (Impl.loadable_iff state).symm

/-- The persisted part of an engine. -/
def Impl.persisted (state : Impl Binary64) : Persisted where
  epoch := state.epoch
  workerBoot := state.workerBoot
  sourceBoot := state.sourceBoot
  domains := state.domains.mapValues fun _ domain => domain.persisted
  flows := state.flows
  nextDomain := state.nextDomain
  nextFlow := state.nextFlow
  nextEvent := state.nextEvent
  nextPolicy := state.nextPolicy

variable {state : Impl Binary64}

theorem reads_rdFields (loadable : state.Loadable) :
    Reads rdFields (wrPayload state) state.persisted :=
  (reads_rdGeneration _).step <|
    .after_require (Generation.isValid_eq_true.mpr loadable.epoch) <|
    (reads_rdBoots loadable.workerBoot _ _ _).step <|
    (reads_rdBoots loadable.sourceBoot _ _ _).step <|
    (reads_rdDomains loadable.domainCount loadable.domains).step <|
    (reads_rdFlows loadable.flowCount loadable.flows).step <|
    (reads_u64 _).step <| (reads_u64 _).step <| (reads_u64 _).step <| (reads_u64 _).step <|
    reads_pure _

private theorem rdPayload_wrPayload (loadable : state.Loadable) :
    rdPayload (wrPayload state) = .ok (state.persisted, []) := by
  unfold rdPayload
  rw [(reads_rdFields loadable).run_all, run_remaining, run_require (by simp)]
  rfl

theorem wrEnvelope_length (payload : Bytes) :
    (wrEnvelope payload).length = payload.length + 28 := by
  have magic : snapshotMagic.length = 8 := by decide
  simp [wrEnvelope, wr32, wr64, magic]
  omega

theorem rdEnvelope_wrEnvelope {payload : Bytes}
    (small : payload.length ≤ maxPayloadBytes) :
    rdEnvelope (wrEnvelope payload) = .ok (payload, []) := by
  have length := toNat_ofNat_length small (by decide)
  have magic : Reads (bytes 8) snapshotMagic snapshotMagic := reads_bytes snapshotMagic
  unfold rdEnvelope wrEnvelope
  simp only [List.flatten_cons, List.flatten_nil, List.append_nil]
  rw [magic.run, run_require (by simp)]
  rw [(reads_rd32 _).run, run_require (by simp)]
  rw [(reads_rd64 _).run, run_require (by simpa [length] using small)]
  rw [(reads_rd32 _).run, run_require (by simp)]
  rw [run_remaining, run_require (by simp [length]), length, (reads_bytes payload).run]
  rw [(reads_rd32 (crc32 payload)).run_all, run_remaining, run_require (by simp),
    run_require (by simp)]
  rfl

/-- The loader decodes a saved engine to its persisted part. -/
theorem decode_saveBytes (loadable : state.Loadable) :
    Impl.decode (saveBytes state) = some state.persisted := by
  have size := loadable.fileSize
  have length := wrEnvelope_length (wrPayload state)
  have small : (wrPayload state).length ≤ maxPayloadBytes := by
    change (wrEnvelope (wrPayload state)).length ≤ 2 ^ 30 at size
    change (wrPayload state).length ≤ 2 ^ 30
    omega
  have nonempty : ¬((saveBytes state).length = 0 || (saveBytes state).length > 2 ^ 30) = true := by
    change (saveBytes state).length = _ at length
    rw [Bool.or_eq_true, decide_eq_true_eq, decide_eq_true_eq]
    omega
  unfold Impl.decode
  rw [if_neg nonempty, show saveBytes state = wrEnvelope (wrPayload state) from rfl,
    rdEnvelope_wrEnvelope small]
  simp only [rdPayload_wrPayload loadable]

/-- What a file keeps of a recovered domain is the recovery of what it keeps. -/
private theorem persisted_requireRevalidation (domain : CongestionDomain Binary64) :
    domain.persisted.requireRevalidation = domain.requireRevalidation.persisted := by
  by_cases unknown : domain.state = .unknown
  · simp [CongestionDomain.requireRevalidation, CongestionDomain.persisted, unknown]
  · simp [CongestionDomain.requireRevalidation, CongestionDomain.persisted, unknown]

/-- The recovery loops of `load` do to the committed state what
`recover_dynamic_evidence` does to the saved one. -/
theorem commit_revalidateAll (state target : Impl Binary64) :
    (target.commit state.persisted).revalidateAll =
      target.commit state.recoverDynamicEvidence.persisted := by
  have domains : (state.domains.mapValues fun _ domain => domain.persisted).mapValues
      (fun _ domain => domain.requireRevalidation) =
        (state.domains.mapValues fun _ domain => domain.requireRevalidation).mapValues
          fun _ domain => domain.persisted := by
    apply UnorderedMap.ext_entries
    simp only [UnorderedMap.mapValues, List.map_map]
    apply List.map_congr_left
    rintro ⟨id, domain⟩ -
    exact congrArg (Prod.mk id) (persisted_requireRevalidation domain)
  have keys : (state.flows.mapValues fun _ flow => flow.requireRevalidation).keys =
      state.flows.keys := by
    simp only [UnorderedMap.keys, UnorderedMap.mapValues, List.map_map]
    rfl
  simp only [Impl.revalidateAll, Impl.commit, Impl.persisted, Impl.recoverDynamicEvidence,
    domains, keys]

/-- A file that decodes to the persisted part of an engine makes every engine the
recovered one on that part. -/
theorem load_of_decode {bytes : Bytes} (decoded : Impl.decode bytes = some state.persisted)
    (target : Impl Binary64) :
    target.load (some bytes) = (true, target.commit state.recoverDynamicEvidence.persisted) := by
  rw [Impl.load_eq, Option.bind_some, decoded]
  exact congrArg (Prod.mk true) (commit_revalidateAll state target)

/-! ## Enumeration order -/

section Order

variable {listed : Impl Binary64}

private theorem wrMap_length {K V : Type} [DecidableEq K] {wrKey : K → Bytes} {wrValue : V → Bytes}
    {left right : UnorderedMap K V} (same : left.Same right) :
    (wrMap wrKey wrValue left).length = (wrMap wrKey wrValue right).length := by
  have entries := (List.Perm.flatMap_right
    (fun entry => [wrKey entry.1, wrValue entry.2].flatten) same).length_eq
  simp only [wrMap, List.flatten_cons, List.flatten_nil, List.append_nil, List.length_append]
    at entries ⊢
  rw [entries]
  rfl

private theorem BootsLoadable.reordered {Tag BootTag : Type}
    {left right : UnorderedMap (Id Tag) (Generation BootTag)} (loadable : BootsLoadable left)
    (same : left.Same right) : BootsLoadable right where
  size := by
    have size : left.size = right.size := same.length_eq
    exact size ▸ loadable.size
  entries entry member := loadable.entries entry (same.mem_iff.mpr member)

/-- The checks of the loader do not look at the order in which a map is saved. -/
theorem Impl.Loadable.reordered (loadable : state.Loadable) (same : state.Reordered listed) :
    listed.Loadable := by
  have rest := same.rest
  have domainSize : state.domains.size = listed.domains.size := same.domains.length_eq
  have flowSize : state.flows.size = listed.flows.size := same.flows.length_eq
  constructor
  case epoch =>
    have epoch := loadable.epoch
    rw [rest] at epoch
    exact epoch
  case workerBoot => exact loadable.workerBoot.reordered same.workerBoot
  case sourceBoot => exact loadable.sourceBoot.reordered same.sourceBoot
  case domainCount => exact domainSize ▸ loadable.domainCount
  case domains =>
    exact fun entry member => loadable.domains entry (same.domains.mem_iff.mpr member)
  case flowCount => exact flowSize ▸ loadable.flowCount
  case flows =>
    exact fun entry member => loadable.flows entry (same.flows.mem_iff.mpr member)
  case fileSize =>
    have payload : (wrPayload listed).length = (wrPayload state).length := by
      rw [rest]
      simp only [wrPayload, List.flatten_cons, List.flatten_nil, List.append_nil,
        List.length_append, wrMap_length same.workerBoot, wrMap_length same.sourceBoot,
        wrMap_length same.domains, wrMap_length same.flows]
    have size := loadable.fileSize
    change (wrEnvelope (wrPayload state)).length ≤ 2 ^ 30 at size
    change (wrEnvelope (wrPayload listed)).length ≤ 2 ^ 30
    rw [wrEnvelope_length] at size ⊢
    omega

end Order

/-! ## Equal as far as a file goes -/

/-- Two domains agree on every field that `wr_domain` writes. -/
structure CongestionDomain.SamePersisted (left right : CongestionDomain Binary64) : Prop where
  ref : left.ref = right.ref
  kind : left.kind = right.kind
  capacity : left.capacity = right.capacity
  queue : left.queue.generation = right.queue.generation
  state : left.state = right.state
  stateProvenance : left.stateProvenance = right.stateProvenance
  backpressureGeneration : left.backpressureGeneration = right.backpressureGeneration
  recoveryGeneration : left.recoveryGeneration = right.recoveryGeneration
  defaultFairness : left.defaultFairness = right.defaultFairness
  shapingRate : left.shaping.rate = right.shaping.rate
  shapingCapacity : left.shaping.capacity = right.shaping.capacity
  offeredBps : left.offeredBps = right.offeredBps
  offeredProvenance : left.offeredProvenance = right.offeredProvenance
  admittedBps : left.admittedBps = right.admittedBps
  admittedProvenance : left.admittedProvenance = right.admittedProvenance
  servicedBps : left.servicedBps = right.servicedBps
  servicedProvenance : left.servicedProvenance = right.servicedProvenance
  utilisation : left.utilisation = right.utilisation
  utilisationProvenance : left.utilisationProvenance = right.utilisationProvenance
  effectiveBps : left.effectiveBps = right.effectiveBps
  effectiveProvenance : left.effectiveProvenance = right.effectiveProvenance
  residualBps : left.residualBps = right.residualBps
  residualProvenance : left.residualProvenance = right.residualProvenance
  flows : left.flows = right.flows
  episodes : left.episodes = right.episodes
  currentEpisode : left.currentEpisode = right.currentEpisode

/-- Two engines agree on everything that `save` writes: a flow is written whole. -/
structure Impl.SamePersisted (left right : Impl Binary64) : Prop where
  epoch : left.epoch = right.epoch
  workerBoot : ∀ worker, left.workerBoot.find? worker = right.workerBoot.find? worker
  sourceBoot : ∀ source, left.sourceBoot.find? source = right.sourceBoot.find? source
  domains : ∀ id, Option.Rel CongestionDomain.SamePersisted
    (left.domains.find? id) (right.domains.find? id)
  flows : ∀ id, left.flows.find? id = right.flows.find? id
  nextDomain : left.nextDomain = right.nextDomain
  nextFlow : left.nextFlow = right.nextFlow
  nextEvent : left.nextEvent = right.nextEvent
  nextPolicy : left.nextPolicy = right.nextPolicy

theorem CongestionDomain.samePersisted_persisted (domain : CongestionDomain Binary64) :
    domain.persisted.SamePersisted domain := by
  constructor <;> rfl

/-- The commit of the persisted part of an engine agrees with it, whatever the order
of its maps. -/
theorem Impl.samePersisted_commit {listed : Impl Binary64} (same : state.Reordered listed)
    (target : Impl Binary64) : (target.commit listed.persisted).SamePersisted state := by
  have rest := same.rest
  constructor
  case epoch => rw [rest]; rfl
  case workerBoot => exact fun worker => (same.workerBoot.find?_eq worker).symm
  case sourceBoot => exact fun source => (same.sourceBoot.find?_eq source).symm
  case domains =>
    intro id
    have found : (target.commit listed.persisted).domains.find? id =
        (listed.domains.find? id).map CongestionDomain.persisted :=
      UnorderedMap.find?_mapValues _ _ _
    rw [found, ← same.domains.find?_eq id]
    cases state.domains.find? id with
    | none => exact .none
    | some domain => exact .some domain.samePersisted_persisted
  case flows => exact fun id => (same.flows.find?_eq id).symm
  case nextDomain => rw [rest]; rfl
  case nextFlow => rw [rest]; rfl
  case nextEvent => rw [rest]; rfl
  case nextPolicy => rw [rest]; rfl

theorem Impl.Reordered.recoverDynamicEvidence {listed : Impl Binary64}
    (same : state.Reordered listed) :
    state.recoverDynamicEvidence.Reordered listed.recoverDynamicEvidence where
  workerBoot := same.workerBoot
  sourceBoot := same.sourceBoot
  domains := same.domains.mapValues _
  flows := same.flows.mapValues _
  rest := by
    have rest := same.rest
    rw [rest]
    rfl

/-! ## The round trip -/

/-- Loading what `save` wrote of an engine that meets the loader's checks, with its
maps enumerated in any order, succeeds in every engine and leaves there what
`recover_dynamic_evidence` leaves in the saved one: epoch, boot tables, every
persisted field of every domain, the flows and the counters. -/
theorem load_saveBytes (loadable : state.Loadable) {listed : Impl Binary64}
    (same : state.Reordered listed) (target : Impl Binary64) :
    ∃ loaded, target.load (some (saveBytes listed)) = (true, loaded) ∧
      loaded.SamePersisted state.recoverDynamicEvidence :=
  ⟨_, load_of_decode (decode_saveBytes (loadable.reordered same)) target,
    Impl.samePersisted_commit same.recoverDynamicEvidence target⟩

/-- An engine with a worker, a source, two domains, of which the first is assessed,
and an ADMITTED flow. -/
private def savedEngine : Impl Binary64 :=
  execAll {} [(1, .registerWorker ⟨1⟩ ⟨1⟩), (1, .registerSource ⟨1⟩ ⟨1⟩),
    (1, .createDomain DomainKind.nicTx (.ofTheoretical 1000.0)),
    (1, .createDomain DomainKind.nicTx {}),
    (1, .declareFlow { FlowOptions.ofFirst 100 with description := ascii "bulk" }),
    (2, .admitFlow ⟨⟨1⟩, ⟨1⟩⟩),
    (2, .publishMeasurement ⟨1⟩
      { kind := MeasurementKind.offeredBytesPerSec, value := 500.0 } ⟨1⟩ ⟨1⟩),
    (3, .recomputeDomain ⟨1⟩)] Impl.fresh

/-- The same engine, its domains enumerated the other way round. -/
private def savedBackwards : Impl Binary64 :=
  { savedEngine with domains := .ofEntries savedEngine.domains.entries.reverse }

private theorem savedEngine_reordered : savedEngine.Reordered savedBackwards where
  workerBoot := .refl _
  sourceBoot := .refl _
  domains := by
    have listed : savedBackwards.domains.entries = savedEngine.domains.entries.reverse :=
      UnorderedMap.ofEntries_entries (by
        rw [List.map_reverse]
        exact List.nodup_reverse.mpr savedEngine.domains.nodup)
    unfold UnorderedMap.Same
    rw [listed]
    exact (List.reverse_perm _).symm
  flows := .refl _
  rest := rfl

theorem load_saveBytes_savedEngine :
    savedEngine.domains.size = 2 ∧
      ∃ loaded, Impl.fresh.load (some (saveBytes savedBackwards)) = (true, loaded) ∧
        loaded.SamePersisted savedEngine.recoverDynamicEvidence :=
  ⟨by decide +kernel,
    load_saveBytes (by decide +kernel) savedEngine_reordered Impl.fresh⟩

end CongestionFabric
