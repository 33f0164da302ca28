import CongestionFabric.Persistence.RoundTrip

/-!
Contract: what holds of every file the loader accepts.

Owns, for every record, the checks that the reader has made of whatever it
returns, and the same for a whole decoded file. They are the conditions under
which a written record is read back.

Does not own: the fields the loader takes over unchecked.
-/

namespace CongestionFabric

open Foundation
open Foundation.Reader

/-! ## Records -/

theorem yields_rdStr : Yields rdStr fun text => text.length ≤ maxStringBytes :=
  .after fun length => .after_require fun within => (yields_bytes length.toNat).mono fun _ read =>
    read ▸ of_decide_eq_true within

theorem yields_rdCount : Yields rdCount fun count => count.toNat ≤ maxCollectionCount :=
  .after fun _ => .after_require fun within => yields_pure (of_decide_eq_true within)

theorem yields_rdEnum {E : Type} [Enumeration E] (text : String) :
    Yields (rdEnum text) fun value : Enum8 E => value.valid = true :=
  .after fun _ => .after_require fun valid => yields_pure valid

theorem yields_rdRate : Yields rdRate Rate.Loadable :=
  (yields_rdEnum _).bind fun _ kind => (yields_rdEnum _).bind fun _ provenance =>
    .after fun _ => .after fun _ => .after_require fun finite =>
    yields_pure ⟨kind, provenance, finite⟩

/-- The four rates; the profile as a whole is validated later. -/
private theorem yields_rdCapacity : Yields rdCapacity fun profile =>
    profile.theoretical.Loadable ∧ profile.configured.Loadable ∧
      profile.measuredService.Loadable ∧ profile.reserved.Loadable :=
  yields_rdRate.bind fun _ theoretical => yields_rdRate.bind fun _ configured =>
    yields_rdRate.bind fun _ measured => yields_rdRate.bind fun _ reserved =>
    .after fun _ => yields_pure ⟨theoretical, configured, measured, reserved⟩

private theorem yields_rdFairness {rdModel : Reader (Enum8 FairnessModel)}
    (model : Yields rdModel fun value => value.valid = true) :
    Yields (rdFairness rdModel) fun config => config.model.valid = true :=
  model.bind fun _ valid => .after fun _ => .after fun _ => .after fun _ => .after fun _ =>
    .after fun _ => yields_pure valid

private theorem yields_rdFlow : Yields rdFlow fun flow =>
    flow.trafficClass.valid = true ∧ flow.provenance.valid = true ∧
      flow.description.length ≤ maxStringBytes :=
  .after fun _ => .after fun _ => .after fun _ => .after fun _ => .after fun _ => .after fun _ =>
    .after fun _ => (yields_rdEnum _).bind fun _ trafficClass => .after fun _ => .after fun _ =>
    .after fun _ => .after fun _ => .after fun _ => .after fun _ => .after fun _ =>
    .after fun _ => .after fun _ => .after fun _ => .after fun _ => .after fun _ =>
    .after fun _ => .after fun _ => .after fun _ => .after fun _ => .after fun _ =>
    .after fun _ => .after fun _ => (yields_rdEnum _).bind fun _ provenance =>
    yields_rdStr.bind fun _ description => yields_pure ⟨trafficClass, provenance, description⟩

theorem yields_rdEpisode (peakText outcomeText : String) :
    Yields (rdEpisode peakText outcomeText) CongestionEpisode.Bounded :=
  .after fun _ => .after fun _ => .after fun _ => .after fun _ => .after fun _ => .after fun _ =>
    .after fun _ => .after fun _ => yields_rdStr.bind fun _ trigger => .after fun _ =>
    .after fun _ => yields_rdCount.bind fun _ within =>
    (yields_many (yields_any _) _).bind fun _ affected => .after fun _ => .after fun _ =>
    .after fun _ => yields_pure ⟨trigger, affected.1 ▸ within⟩

private theorem yields_rdHistoryEpisode :
    Yields rdHistoryEpisode fun episode => episode.Bounded ∧ episode.valid = true :=
  (yields_rdEpisode _ _).bind fun _ bounded => .after_require fun valid =>
    yields_pure ⟨bounded, valid⟩

theorem yields_rdDomain {id : CongestionDomainId} (key : id.value ≠ 0) :
    Yields (rdDomain id) fun domain => domain.Loadable id :=
  .after fun _ => .after_require fun ref => (yields_rdEnum _).bind fun _ kind =>
    yields_rdCapacity.bind fun _ rates => .after fun _ => .after fun _ =>
    (yields_rdEnum _).bind fun _ stateProvenance => .after fun _ => .after fun _ =>
    (yields_rdFairness (yields_rdEnum _)).bind fun _ fairnessModel =>
    .after_require fun fairness => .after fun _ => .after fun _ => .after_require fun shaping =>
    .after fun _ => (yields_rdEnum _).bind fun _ offered =>
    .after fun _ => (yields_rdEnum _).bind fun _ admitted =>
    .after fun _ => (yields_rdEnum _).bind fun _ serviced =>
    .after fun _ => (yields_rdEnum _).bind fun _ utilisation =>
    .after fun _ => (yields_rdEnum _).bind fun _ effective =>
    .after fun _ => (yields_rdEnum _).bind fun _ residual =>
    yields_rdCount.bind fun _ flowCount => (yields_many (yields_any _) _).bind fun _ flows =>
    yields_rdCount.bind fun _ episodeCount =>
    (yields_many yields_rdHistoryEpisode _).bind fun _ episodes =>
    (yields_rdEpisode _ _).bind fun _ current => .after_require fun valid =>
    yields_pure
      { key
        ref := of_decide_eq_true ref
        kind
        capacity := ⟨rates.1, rates.2.1, rates.2.2.1, rates.2.2.2, valid⟩
        stateProvenance
        fairnessModel
        fairness
        shaping
        offeredProvenance := offered
        admittedProvenance := admitted
        servicedProvenance := serviced
        utilisationProvenance := utilisation
        effectiveProvenance := effective
        residualProvenance := residual
        flows := flows.1 ▸ flowCount
        episodes := episodes.1 ▸ episodeCount
        history := episodes.2
        current }

/-! ## Maps -/

/-- An emplaced entry keeps a property of all entries. -/
private theorem emplace_entries {K V : Type} [DecidableEq K] {map : UnorderedMap K V}
    (post : K → V → Prop) (entries : ∀ key value, map.find? key = some value → post key value)
    {key : K} {value : V} (new : post key value) :
    ∀ other stored, (map.emplace key value).find? other = some stored → post other stored := by
  intro other stored found
  rw [UnorderedMap.find?_emplace] at found
  split_ifs at found with added
  · obtain ⟨-, rfl⟩ := added
    rw [← Option.some.inj found]
    exact new
  · exact entries other stored found

private theorem yields_rdBoots {Tag BootTag : Type}
    (countText invalidText duplicateText : String) :
    Yields (rdBoots countText invalidText duplicateText)
      fun table : UnorderedMap (Id Tag) (Generation BootTag) =>
        ∀ id boot, table.find? id = some boot → id.value ≠ 0 ∧ boot.value ≠ 0 := by
  refine .after fun count => yields_loop (fun table entries => ?_) count _ (by simp)
  refine .after fun id => .after fun boot => .after_require fun valid => .after_require fun _ => ?_
  obtain ⟨idValid, bootValid⟩ := Bool.and_eq_true_iff.mp valid
  exact yields_pure (emplace_entries _ entries
    ⟨Id.isValid_eq_true.mp idValid, Generation.isValid_eq_true.mp bootValid⟩)

private theorem yields_rdDomains : Yields rdDomains fun domains =>
    ∀ id domain, domains.find? id = some domain → domain.Loadable id := by
  refine .after fun count => yields_loop (fun domains entries => ?_) count _ (by simp)
  refine .after fun id => .after_require fun valid =>
    (yields_rdDomain (Id.isValid_eq_true.mp valid)).bind fun domain loadable =>
    .after_require fun _ => .after_require fun _ => ?_
  exact yields_pure (emplace_entries (fun id domain => CongestionDomain.Loadable id domain)
    entries loadable)

private theorem yields_rdFlows : Yields rdFlows fun flows =>
    ∀ id flow, flows.find? id = some flow → flow.Loadable id := by
  refine .after fun count => yields_loop (fun flows entries => ?_) count _ (by simp)
  refine .after fun id => .after_require fun valid => yields_rdFlow.bind fun flow fields =>
    .after_require fun ref => .after_require fun _ => .after_require fun accounting =>
    .after_require fun fairness => .after_require fun _ => .after_require fun _ => ?_
  have loadable : flow.Loadable id :=
    ⟨Id.isValid_eq_true.mp valid, of_decide_eq_true ref, fields.1, accounting, fairness,
      fields.2.1, fields.2.2⟩
  exact yields_pure (emplace_entries (fun id flow => Flow.Loadable id flow) entries
    loadable)

/-! ## Files -/

/-- What the loader has checked of a decoded file. -/
structure Persisted.Checked (persisted : Persisted) : Prop where
  epoch : persisted.epoch.value ≠ 0
  workerBoot : ∀ id boot, persisted.workerBoot.find? id = some boot →
    id.value ≠ 0 ∧ boot.value ≠ 0
  sourceBoot : ∀ id boot, persisted.sourceBoot.find? id = some boot →
    id.value ≠ 0 ∧ boot.value ≠ 0
  domains : ∀ id domain, persisted.domains.find? id = some domain → domain.Loadable id
  flows : ∀ id flow, persisted.flows.find? id = some flow → flow.Loadable id

/-- What the field readers ensure holds of every decoded file. -/
theorem post_of_decode {post : Persisted → Prop} (fields : Yields rdFields post) {file : Bytes}
    {persisted : Persisted} (decoded : Impl.decode file = some persisted) : post persisted := by
  have payload : Yields rdPayload post :=
    fields.bind fun _ holds => .after fun _ => .after_require fun _ => yields_pure holds
  unfold Impl.decode at decoded
  split at decoded
  · exact absurd decoded (by simp)
  · split at decoded
    · exact absurd decoded (by simp)
    · split at decoded
      · exact absurd decoded (by simp)
      · next _ _ _ _ _ read =>
        rw [← Option.some.inj decoded]
        exact payload _ _ _ read

theorem checked_of_decode {file : Bytes} {persisted : Persisted}
    (decoded : Impl.decode file = some persisted) : persisted.Checked := by
  refine post_of_decode ?_ decoded
  exact .after fun _ => .after_require fun epoch => (yields_rdBoots _ _ _).bind fun _ workerBoot =>
    (yields_rdBoots _ _ _).bind fun _ sourceBoot => yields_rdDomains.bind fun _ domains =>
    yields_rdFlows.bind fun _ flows => .after fun _ => .after fun _ => .after fun _ =>
    .after fun _ => yields_pure
      ⟨Generation.isValid_eq_true.mp epoch, workerBoot, sourceBoot, domains, flows⟩

/-- Measurements are not persisted. -/
theorem unmeasured_of_decode {file : Bytes} {persisted : Persisted}
    (decoded : Impl.decode file = some persisted) :
    ∀ id domain, persisted.domains.find? id = some domain → domain.measurements = {} := by
  have record : ∀ id, Yields (rdDomain id) fun domain => domain.measurements = {} := by
    intro id
    unfold rdDomain
    repeat refine .after fun _ => ?_
    exact yields_pure rfl
  have domains : Yields rdDomains fun domains =>
      ∀ id domain, domains.find? id = some domain → domain.measurements = {} := by
    refine .after fun count => yields_loop (fun domains entries => ?_) count _ (by simp)
    refine .after fun id => .after fun _ => (record id).bind fun domain unmeasured =>
      .after fun _ => .after fun _ => ?_
    exact yields_pure (emplace_entries
      (fun _ (domain : CongestionDomain Binary64) => domain.measurements = {}) entries unmeasured)
  have fields : Yields rdFields fun persisted => ∀ id domain,
      persisted.domains.find? id = some domain → domain.measurements = {} :=
    .after fun _ => .after fun _ => .after fun _ => .after fun _ =>
      domains.bind fun _ holds => .after fun _ => .after fun _ => .after fun _ => .after fun _ =>
      .after fun _ => yields_pure holds
  exact post_of_decode fields decoded

end CongestionFabric
