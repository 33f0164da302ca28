import CongestionFabric.Persistence.RoundTrip

/-!
Contract: what the loader can make of a saved file.

Owns, for every record, the fact that the reader either refuses the written
record or returns it, the theorem that a saved file decodes to the saved engine
or not at all, and what the engine that loads it is, read in any arithmetic.
Nothing is assumed of the engine.

Does not own: which engines are accepted.
-/

namespace CongestionFabric

open Foundation
open Foundation.Reader

/-! ## Primitives -/

theorem returns_rdStr (text : Bytes) : Returns rdStr (wrStr text) text := by
  intro small
  have length : (UInt64.ofNat text.length).toNat = text.length := by
    apply UInt64.toNat_ofNat_of_lt
    simp only [wrStr, wr64, List.flatten_cons, List.flatten_nil, List.append_nil,
      List.length_append, littleEndian_length] at small
    exact Nat.lt_of_lt_of_le (show text.length < 2 ^ 32 by omega) (by decide)
  revert small
  refine (reads_u64 _).returns.step (.after_require fun _ => ?_)
  rw [length]
  exact (reads_bytes text).returns.last

theorem returns_pure {A : Type} (value : A) : Returns (pure value) [] value :=
  (reads_pure value).returns

theorem returns_rdEnum {E : Type} [Enumeration E] (value : Enum8 E) (text : String) :
    Returns (rdEnum text) (wrEnum value) value :=
  (reads_u8 value.toU8).returns.bind_nil (.after_require fun _ => returns_pure _)

private theorem length_le_flatMap {A : Type} (write : A → Bytes) (values : List A)
    (nonempty : ∀ value, 0 < (write value).length) :
    values.length ≤ (values.flatMap write).length := by
  induction values with
  | nil => exact Nat.zero_le _
  | cons head tail inductionHypothesis =>
      have first := nonempty head
      rw [List.flatMap_cons, List.length_append, List.length_cons]
      omega

/-- A counted list: the count cannot wrap, because every item takes a byte. -/
private theorem returns_counted {A B : Type} {item : Reader A} {write : A → Bytes}
    {values : List A} {next : List A → Reader B} {chunks : List Bytes} {result : B}
    (nonempty : ∀ value, 0 < (write value).length)
    (each : ∀ value ∈ values, Returns item (write value) value)
    (tail : Returns (next values) chunks.flatten result) :
    Returns (do
      let count ← rdCount
      let read ← many count.toNat item
      next read) (wr64 (.ofNat values.length) :: values.flatMap write :: chunks).flatten
      result := by
  intro small
  have length : (UInt64.ofNat values.length).toNat = values.length := by
    apply UInt64.toNat_ofNat_of_lt
    have items := length_le_flatMap write values nonempty
    simp only [List.flatten_cons, List.length_append] at small
    exact Nat.lt_of_lt_of_le (show values.length < 2 ^ 32 by omega) (by decide)
  revert small
  have count : Returns rdCount (wr64 (.ofNat values.length)) (.ofNat values.length) :=
    (reads_u64 _).returns.bind_nil (.after_require fun _ => returns_pure _)
  refine count.step ?_
  rw [length]
  exact (returns_many each).step tail

private theorem wrId_nonempty {Tag : Type} (id : Id Tag) : 0 < (wrId id).length := by
  simp [wrId, wr64]

private theorem wrRef_nonempty {Tag : Type} (ref : EntityRef Tag) : 0 < (wrRef ref).length := by
  simp [wrRef, wrId, wrGeneration, wr64]

private theorem wrEpisode_nonempty (episode : CongestionEpisode Binary64) :
    0 < (wrEpisode episode).length := by
  rw [wrEpisode, List.flatten_cons, List.length_append]
  exact Nat.add_pos_left (wrId_nonempty _) _

/-! ## Records -/

theorem returns_rdRate (rate : Rate Binary64) : Returns rdRate (wrRate rate) rate :=
  (returns_rdEnum _ _).step <| (returns_rdEnum _ _).step <| (reads_rdF64 _).returns.step <|
    (reads_rdGeneration _).returns.step <| .after_require fun _ => returns_pure _

theorem returns_rdCapacity (profile : CapacityProfile Binary64) :
    Returns rdCapacity (wrCapacity profile) profile :=
  (returns_rdRate _).step <| (returns_rdRate _).step <| (returns_rdRate _).step <|
    (returns_rdRate _).step <| (reads_rdGeneration _).returns.step <| returns_pure _

theorem returns_rdFairness {config : FairnessConfig Binary64}
    {rdModel : Reader (Enum8 FairnessModel)}
    (model : Returns rdModel (wrEnum config.model) config.model) :
    Returns (rdFairness rdModel) (wrFairness config) config :=
  model.step <| (reads_rdF64 _).returns.step <| (reads_rdF64 _).returns.step <|
    (reads_rdF64 _).returns.step <| (reads_rdBool _).returns.step <|
    (reads_rdGeneration _).returns.step <| returns_pure _

theorem returns_rdFlow (flow : Flow Binary64) : Returns rdFlow (wrFlow flow) flow :=
  (reads_rdRef _).returns.step <| (reads_rdId _).returns.step <|
    (reads_rdGeneration _).returns.step <| (reads_rdId _).returns.step <|
    (reads_rdGeneration _).returns.step <| (reads_rdRef _).returns.step <|
    (reads_rdRef _).returns.step <| (returns_rdEnum _ _).step <|
    (reads_rdRef _).returns.step <| (reads_rdRef _).returns.step <|
    (reads_rdFlowState _).returns.step <| (reads_rdBytes _).returns.step <|
    (reads_rdBytes _).returns.step <| (reads_rdBytes _).returns.step <|
    (reads_rdBytes _).returns.step <| (reads_rdBytes _).returns.step <|
    (reads_rdBytes _).returns.step <| (reads_rdBytes _).returns.step <|
    (reads_u64 _).returns.step <| (reads_u64 _).returns.step <| (reads_u64 _).returns.step <|
    (reads_rdF64 _).returns.step <| (reads_rdF64 _).returns.step <|
    (reads_rdF64 _).returns.step <| (reads_rdF64 _).returns.step <|
    (reads_rdF64 _).returns.step <|
    (returns_rdFairness (reads_rdEnumUnchecked _).returns).step <|
    (returns_rdEnum _ _).step <| (returns_rdStr _).step <| returns_pure _

theorem returns_rdEpisode (episode : CongestionEpisode Binary64)
    (peakText outcomeText : String) :
    Returns (rdEpisode peakText outcomeText) (wrEpisode episode) episode :=
  (reads_rdId _).returns.step <| (reads_rdGeneration _).returns.step <|
    (reads_rdRef _).returns.step <| (reads_rdCongestionState _ _).returns.step <|
    (reads_u64 _).returns.step <| (reads_u64 _).returns.step <| (reads_u64 _).returns.step <|
    (reads_u64 _).returns.step <| (returns_rdStr _).step <| (reads_rdF64 _).returns.step <|
    (reads_rdF64 _).returns.step <|
    returns_counted wrId_nonempty (fun _ _ => (reads_rdId _).returns) <|
    (reads_rdRef _).returns.step <| (reads_rdCongestionState _ _).returns.step <|
    (reads_rdBool _).returns.step <| returns_pure _

theorem returns_rdHistoryEpisode (episode : CongestionEpisode Binary64) :
    Returns rdHistoryEpisode (wrEpisode episode) episode :=
  (returns_rdEpisode episode _ _).bind_nil (.after_require fun _ => returns_pure _)

theorem returns_rdDomain (id : CongestionDomainId) (domain : CongestionDomain Binary64) :
    Returns (rdDomain id) (wrDomain domain) domain.persisted :=
  (reads_rdRef _).returns.step <| .after_require fun _ => (returns_rdEnum _ _).step <|
    (returns_rdCapacity _).step <| (reads_rdGeneration _).returns.step <|
    (reads_rdCongestionState _ _).returns.step <| (returns_rdEnum _ _).step <|
    (reads_rdGeneration _).returns.step <| (reads_rdGeneration _).returns.step <|
    (returns_rdFairness (returns_rdEnum _ _)).step <| .after_require fun _ =>
    (reads_rdF64 _).returns.step <| (reads_rdF64 _).returns.step <| .after_require fun _ =>
    (reads_rdF64 _).returns.step <| (returns_rdEnum _ _).step <|
    (reads_rdF64 _).returns.step <| (returns_rdEnum _ _).step <|
    (reads_rdF64 _).returns.step <| (returns_rdEnum _ _).step <|
    (reads_rdF64 _).returns.step <| (returns_rdEnum _ _).step <|
    (reads_rdF64 _).returns.step <| (returns_rdEnum _ _).step <|
    (reads_rdF64 _).returns.step <| (returns_rdEnum _ _).step <|
    returns_counted wrRef_nonempty (fun _ _ => (reads_rdRef _).returns) <|
    returns_counted wrEpisode_nonempty (fun _ _ => returns_rdHistoryEpisode _) <|
    (returns_rdEpisode _ _ _).step <| .after_require fun _ => returns_pure _

/-! ## Maps -/

section Maps

variable {K V : Type} [DecidableEq K] {map : UnorderedMap K V} {wrKey : K → Bytes}
  {wrValue : V → Bytes} {body : UnorderedMap K V → Reader (UnorderedMap K V)}

/-- A map is refused or rebuilt: its count cannot wrap, because every entry
takes a byte. -/
private theorem returns_map {countText : String} (image : V → V)
    (nonempty : ∀ key, 0 < (wrKey key).length)
    (each : ∀ entry ∈ map.entries, ∀ table : UnorderedMap K V, table.contains entry.1 = false →
      Returns (body table) [wrKey entry.1, wrValue entry.2].flatten
        (table.emplace entry.1 (image entry.2))) :
    Returns (do
      let count ← rdMapCount countText
      loop count body .empty) (wrMap wrKey wrValue map)
      (map.mapValues fun _ value => image value) := by
  intro small
  have length : (UInt32.ofNat map.size).toNat = map.size := by
    apply UInt32.toNat_ofNat_of_lt
    have entries := length_le_flatMap
      (fun entry => [wrKey entry.1, wrValue entry.2].flatten) map.entries fun entry => by
        rw [List.flatten_cons, List.length_append]
        exact Nat.add_pos_left (nonempty entry.1) _
    rw [wrMap, List.flatten_cons, List.length_append, List.flatten_cons,
      List.length_append] at small
    change map.entries.length < 2 ^ 32
    omega
  revert small
  have count : Returns (rdMapCount countText) (wr32 (.ofNat map.size))
      (UInt32.ofNat map.size).toNat :=
    (reads_rd32 _).returns.bind_nil (.after_require fun _ => returns_pure _)
  refine count.step ?_
  refine .last ?_
  rw [length, ← rebuilt_entries]
  apply returns_loop (rebuilt image) []
  intro earlier entry later split
  rw [List.nil_append, rebuilt_concat]
  exact each entry (by simp [split]) _ (rebuilt_absent split)

end Maps

theorem returns_rdBoots {Tag BootTag : Type}
    (table : UnorderedMap (Id Tag) (Generation BootTag))
    (countText invalidText duplicateText : String) :
    Returns (rdBoots countText invalidText duplicateText) (wrMap wrId wrGeneration table)
      table := by
  have read : Returns (rdBoots countText invalidText duplicateText)
      (wrMap wrId wrGeneration table) (table.mapValues fun _ boot => boot) :=
    returns_map (fun boot => boot) wrId_nonempty fun _ _ _ _ =>
      (reads_rdId _).returns.step <| (reads_rdGeneration _).returns.step <|
        .after_require fun _ => .after_require fun _ => returns_pure _
  rwa [UnorderedMap.mapValues_same] at read

theorem returns_rdDomains
    (domains : UnorderedMap CongestionDomainId (CongestionDomain Binary64)) :
    Returns rdDomains (wrMap wrId wrDomain domains)
      (domains.mapValues fun _ domain => domain.persisted) :=
  returns_map CongestionDomain.persisted wrId_nonempty fun _ _ _ _ =>
    (reads_rdId _).returns.step <| .after_require fun _ => (returns_rdDomain _ _).step <|
      .after_require fun _ => .after_require fun _ => returns_pure _

theorem returns_rdFlows (flows : UnorderedMap FlowId (Flow Binary64)) :
    Returns rdFlows (wrMap wrId wrFlow flows) flows := by
  have read : Returns rdFlows (wrMap wrId wrFlow flows) (flows.mapValues fun _ flow => flow) :=
    returns_map (fun flow => flow) wrId_nonempty fun _ _ _ _ =>
      (reads_rdId _).returns.step <| .after_require fun _ => (returns_rdFlow _).step <|
        .after_require fun _ => .after_require fun _ => .after_require fun _ =>
        .after_require fun _ => .after_require fun _ => .after_require fun _ => returns_pure _
  rwa [UnorderedMap.mapValues_same] at read

/-! ## The whole engine -/

variable {state : Impl Binary64} {persisted : Persisted}

theorem returns_rdFields (state : Impl Binary64) :
    Returns rdFields (wrPayload state) state.persisted :=
  (reads_rdGeneration _).returns.step <| .after_require fun _ =>
    (returns_rdBoots _ _ _ _).step <| (returns_rdBoots _ _ _ _).step <|
    (returns_rdDomains _).step <| (returns_rdFlows _).step <|
    (reads_u64 _).returns.step <| (reads_u64 _).returns.step <|
    (reads_u64 _).returns.step <| (reads_u64 _).returns.step <| returns_pure _

/-- A saved file decodes to the saved engine or not at all. -/
theorem eq_of_decode_saveBytes (decoded : Impl.decode (saveBytes state) = some persisted) :
    persisted = state.persisted := by
  have length := wrEnvelope_length (wrPayload state)
  unfold Impl.decode at decoded
  split at decoded
  · exact absurd decoded (by simp)
  · rename_i accepted
    have small : (wrPayload state).length ≤ maxPayloadBytes := by
      rw [Bool.or_eq_true, decide_eq_true_eq, decide_eq_true_eq, not_or, saveBytes] at accepted
      change (wrPayload state).length ≤ 2 ^ 30
      omega
    rw [saveBytes, rdEnvelope_wrEnvelope small] at decoded
    dsimp only at decoded
    split at decoded
    · exact absurd decoded (by simp)
    · rename_i read
      obtain ⟨fields, rest, first, second⟩ := bind_eq_ok read
      have bound : (wrPayload state).length < 2 ^ 32 := Nat.lt_of_le_of_lt small (by decide)
      rw [← List.append_nil (wrPayload state)] at first
      obtain ⟨rfl, rfl⟩ := Prod.mk.inj (returns_rdFields state bound _ _ first)
      obtain ⟨rfl, -⟩ := Prod.mk.inj (Except.ok.inj second)
      exact (Option.some.inj decoded).symm

/-! ## Restorations -/

section Restorations

variable {R : Type} [Arithmetic R]

/-- The engine that loads the file of another one, in any arithmetic. -/
def Impl.restoredFrom (state saved : Impl R) : Impl R :=
  let recovered := saved.recoverDynamicEvidence
  { state with
    epoch := recovered.epoch
    workerBoot := recovered.workerBoot
    sourceBoot := recovered.sourceBoot
    domains := recovered.domains.mapValues fun _ domain => domain.persisted
    flows := recovered.flows
    flowHistory := recovered.flows.keys
    nextDomain := recovered.nextDomain
    nextFlow := recovered.nextFlow
    nextEvent := recovered.nextEvent
    nextPolicy := recovered.nextPolicy }

/-- The domains of a restored engine are the persisted parts of those of the recovered
one. -/
theorem Impl.restoredFrom_domain_iff {state saved : Impl R} {id : CongestionDomainId}
    {after : CongestionDomain R} :
    (state.restoredFrom saved).domains.find? id = some after ↔
      ∃ domain, saved.recoverDynamicEvidence.domains.find? id = some domain ∧
        domain.persisted = after :=
  UnorderedMap.find?_mapValues_eq_some

end Restorations

/-- Whatever engine loads a saved file: it refuses, or it becomes the restored one. -/
theorem load_saveBytes_cases (state target : Impl Binary64) :
    target.load (some (saveBytes state)) = (false, target) ∨
      target.load (some (saveBytes state)) = (true, target.restoredFrom state) := by
  cases decoded : Impl.decode (saveBytes state) with
  | none =>
      left
      rw [Impl.load_eq]
      rw [Option.bind_some, decoded]
  | some persisted =>
      rw [eq_of_decode_saveBytes decoded] at decoded
      exact Or.inr (load_of_decode decoded target)

/-- The target accepts the file that the saved engine writes, and becomes the next
engine. -/
def Restores (saved target next : Impl Binary64) : Prop :=
  target.load (some (saveBytes saved)) = (true, next)

theorem Restores.eq {saved target next : Impl Binary64} (restored : Restores saved target next) :
    next = target.restoredFrom saved := by
  unfold Restores at restored
  rcases load_saveBytes_cases saved target with refused | accepted
  · rw [refused] at restored
    exact absurd (Prod.mk.inj restored).1 Bool.false_ne_true
  · rw [accepted] at restored
    exact (Prod.mk.inj restored).2.symm

end CongestionFabric
