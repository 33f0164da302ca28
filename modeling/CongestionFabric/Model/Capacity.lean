import CongestionFabric.Foundation.Exact
import CongestionFabric.Model.Domain
import Mathlib.Data.List.Induction
import Mathlib.Order.Bounds.Basic

/-!
Contract: what the derived bounds of a capacity profile are, with rates read as
exact numbers or as non-finite values.

Owns:
- `effective` with its search written out, and that it is the shared search;
- the search as the least known bound;
- the values of `effective` and `residual` for every valid profile, and how they
  move with the rates.

Does not own: profiles that `valid` refuses; no domain is created with one.
-/

namespace CongestionFabric

open Foundation

namespace CapacityProfile

section Unrolled

variable {R : Type} [Arithmetic R]

/-- `effective` as the source has it: the search is not that of
`effective_before_reservation`, but one of its own, layer after layer. -/
def effectiveUnrolled (profile : CapacityProfile R) : Option R := Id.run do
  let mut bound : R := Arithmetic.infinity
  let mut found := false
  if !profile.theoretical.isUnknown && profile.theoretical.isFiniteNonneg then
    bound := Arithmetic.stdMin bound profile.theoretical.bytesPerSecond
    found := true
  if !profile.configured.isUnknown && profile.configured.isFiniteNonneg then
    bound := Arithmetic.stdMin bound profile.configured.bytesPerSecond
    found := true
  if !profile.measuredService.isUnknown && profile.measuredService.isFiniteNonneg then
    bound := Arithmetic.stdMin bound profile.measuredService.bytesPerSecond
    found := true
  if !found then
    return none
  if !profile.reserved.isUnknown && profile.reserved.isFiniteNonneg then
    let r := profile.reserved.bytesPerSecond
    if r > bound then
      return none
    bound := bound - r
  if bound < 0.0 || !Arithmetic.isFinite bound then
    return none
  return some bound

/-- The two searches find the same bound, whatever the layers hold. -/
theorem effectiveUnrolled_eq (profile : CapacityProfile R) :
    profile.effectiveUnrolled = profile.effective := by
  unfold effectiveUnrolled effective effectiveBeforeReservation usable
  simp only [List.foldl_cons, List.foldl_nil, tighten]
  -- One case for every set of layers that bound the search.
  cases !profile.theoretical.isUnknown && profile.theoretical.isFiniteNonneg <;>
    cases !profile.configured.isUnknown && profile.configured.isFiniteNonneg <;>
    cases !profile.measuredService.isUnknown && profile.measuredService.isFiniteNonneg <;>
    rfl

/-- The layers of a profile, in the order of the search. -/
def layers (profile : CapacityProfile R) : List (Rate R) :=
  [profile.theoretical, profile.configured, profile.measuredService]

/-- What a profile reserves: nothing when the reservation is UNKNOWN. -/
def reservation (profile : CapacityProfile R) : R :=
  if profile.reserved.isUnknown then 0.0 else profile.reserved.bytesPerSecond

end Unrolled

/-! ## The search -/

/-- The bounds that known rates set. -/
def bounds (rates : List (Rate Exact)) : Set ℚ :=
  {bound | ∃ rate ∈ rates, rate.isUnknown = false ∧ rate.bytesPerSecond = .number bound}

/-- A rate that is known is a number, and not negative. -/
def Sound (rate : Rate Exact) : Prop := rate.isUnknown = true ∨ rate.isFiniteNonneg = true

theorem number_of_isFiniteNonneg {rate : Rate Exact} (finite : rate.isFiniteNonneg = true) :
    ∃ bound : ℚ, rate.bytesPerSecond = .number bound ∧ 0 ≤ bound := by
  unfold Rate.isFiniteNonneg at finite
  rw [Bool.and_eq_true, decide_eq_true_eq, Exact.zero_eq] at finite
  obtain ⟨bound, number⟩ := Exact.isFinite_iff.mp finite.1
  have nonneg := finite.2
  rw [number, ge_iff_le, Exact.number_le] at nonneg
  exact ⟨bound, number, nonneg⟩

theorem bounds_snoc_unknown {rates : List (Rate Exact)} {rate : Rate Exact}
    (unknown : rate.isUnknown = true) : bounds (rates ++ [rate]) = bounds rates := by
  ext bound
  simp [bounds, or_and_right, exists_or, unknown]

theorem bounds_snoc_known {rates : List (Rate Exact)} {rate : Rate Exact} {bound : ℚ}
    (known : rate.isUnknown = false) (number : rate.bytesPerSecond = .number bound) :
    bounds (rates ++ [rate]) = insert bound (bounds rates) := by
  ext other
  simp only [bounds, List.mem_append, List.mem_singleton, or_and_right, exists_or,
    exists_eq_left, known, number, Set.mem_ofPred_eq, Set.mem_insert_iff, true_and,
    Exact.number.injEq, eq_comm (a := other)]
  exact or_comm

/-- What the search holds after some layers: nothing while all were UNKNOWN, and
then the least of their bounds. -/
def Holds (rates : List (Rate Exact)) (search : Exact × Bool) : Prop :=
  (search = (Arithmetic.infinity, false) ∧ ∀ rate ∈ rates, rate.isUnknown = true) ∨
    ∃ bound : ℚ, search = (.number bound, true) ∧ IsLeast (bounds rates) bound

theorem Holds.tighten {rates : List (Rate Exact)} {search : Exact × Bool} {rate : Rate Exact}
    (holds : Holds rates search) (sound : Sound rate) :
    Holds (rates ++ [rate]) (tighten search rate) := by
  cases kind : rate.isUnknown with
  | true =>
      have same : CapacityProfile.tighten search rate = search := by
        simp [CapacityProfile.tighten, kind]
      rw [same]
      rcases holds with ⟨start, unknown⟩ | ⟨bound, found, least⟩
      · refine .inl ⟨start, ?_⟩
        intro other member
        rcases List.mem_append.mp member with inside | last
        · exact unknown other inside
        · rw [List.mem_singleton.mp last]
          exact kind
      · refine .inr ⟨bound, found, ?_⟩
        rw [bounds_snoc_unknown kind]
        exact least
  | false =>
      have finite : rate.isFiniteNonneg = true := by
        rcases sound with unknown | finite
        · exact absurd (kind.symm.trans unknown) Bool.false_ne_true
        · exact finite
      obtain ⟨limit, number, -⟩ := number_of_isFiniteNonneg finite
      have step : CapacityProfile.tighten search rate =
          (Arithmetic.stdMin search.1 (.number limit), true) := by
        simp [CapacityProfile.tighten, kind, finite, number]
      rw [step]
      right
      rcases holds with ⟨rfl, unknown⟩ | ⟨bound, rfl, least⟩
      · refine ⟨limit, rfl, ?_⟩
        have empty : bounds rates = ∅ := by
          rw [Set.eq_empty_iff_forall_notMem]
          rintro bound ⟨other, member, known, -⟩
          exact absurd (known.symm.trans (unknown other member)) Bool.false_ne_true
        rw [bounds_snoc_known kind number, empty, insert_empty_eq]
        exact isLeast_singleton
      · refine ⟨min bound limit, by rw [Exact.stdMin_number], ?_⟩
        rw [bounds_snoc_known kind number, min_comm]
        exact least.insert limit

/-- The search over sound layers. -/
theorem holds_foldl (rates : List (Rate Exact)) (sound : ∀ rate ∈ rates, Sound rate) :
    Holds rates (rates.foldl CapacityProfile.tighten (Arithmetic.infinity, false)) := by
  induction rates using List.reverseRecOn with
  | nil => exact .inl ⟨rfl, by simp⟩
  | append_singleton earlier last inductionHypothesis =>
      rw [List.foldl_append, List.foldl_cons, List.foldl_nil]
      have before := inductionHypothesis fun rate member =>
        sound rate (List.mem_append_left _ member)
      exact before.tighten (sound last (by simp))

/-! ## Valid profiles -/

variable {profile : CapacityProfile Exact}

theorem sound_of_valid (valid : profile.valid = true) : ∀ rate ∈ profile.layers, Sound rate := by
  have checked : ∀ {rate : Rate Exact},
      (if rate.isUnknown then true else rate.isFiniteNonneg) = true → Sound rate := by
    intro rate check
    unfold Sound
    split at check
    · next unknown => exact .inl unknown
    · exact .inr check
  unfold CapacityProfile.valid at valid
  simp only [Bool.and_eq_true] at valid
  obtain ⟨⟨⟨⟨theoretical, configured⟩, measuredService⟩, -⟩, -⟩ := valid
  intro rate member
  simp only [layers, List.mem_cons, List.not_mem_nil, or_false] at member
  rcases member with rfl | rfl | rfl
  · exact checked theoretical
  · exact checked configured
  · exact checked measuredService

/-- A usable bound of the exact reading is a number that is not negative. -/
theorem usable_number {bound : ℚ} (nonneg : 0 ≤ bound) :
    usable (.number bound) = some (Exact.number bound) := by
  simp [usable, nonneg]

/-- What the bounds of a valid profile are: none while every layer is UNKNOWN, and
else the least known bound, before and after the reservation. -/
theorem effective_of_valid (valid : profile.valid = true) :
    (profile.effective = none ∧ ∀ rate ∈ profile.layers, rate.isUnknown = true) ∨
      ∃ bound reserved : ℚ, IsLeast (bounds profile.layers) bound ∧
        profile.effectiveBeforeReservation = some (.number bound) ∧
        profile.reservation = .number reserved ∧ reserved ≤ bound ∧
        profile.effective = some (.number (bound - reserved)) := by
  have sound := sound_of_valid valid
  rcases holds_foldl profile.layers sound with ⟨start, unknown⟩ | ⟨bound, found, least⟩
  · have absent : profile.effectiveBeforeReservation = none := by
      show (if (profile.layers.foldl tighten _).2 then _ else none) = none
      rw [start]
      rfl
    refine .inl ⟨?_, unknown⟩
    unfold effective
    rw [absent]
  · have present : profile.effectiveBeforeReservation = some (.number bound) := by
      show (if (profile.layers.foldl tighten _).2 then some (profile.layers.foldl tighten _).1
        else none) = _
      rw [found]
      rfl
    have consistent : profile.reservationIsConsistent = true := by
      unfold CapacityProfile.valid at valid
      exact (Bool.and_eq_true _ _ ▸ valid).2
    unfold reservationIsConsistent at consistent
    rw [present] at consistent
    right
    cases kind : profile.reserved.isUnknown with
    | true =>
        have nonneg : 0 ≤ bound := by
          obtain ⟨rate, member, known, number⟩ := least.1
          rcases sound rate member with unknown | finite
          · exact absurd (known.symm.trans unknown) Bool.false_ne_true
          · obtain ⟨same, numberSame, nonneg⟩ := number_of_isFiniteNonneg finite
            obtain rfl := Exact.number.inj (number.symm.trans numberSame)
            exact nonneg
        refine ⟨bound, 0, least, present, ?_, nonneg, ?_⟩
        · simp [reservation, kind]
        · unfold effective
          simp [present, kind, usable_number nonneg]
    | false =>
        simp only [kind, Bool.false_eq_true, if_false, Bool.and_eq_true,
          decide_eq_true_eq] at consistent
        obtain ⟨finite, fits⟩ := consistent
        obtain ⟨reserved, number, -⟩ := number_of_isFiniteNonneg finite
        rw [number, Exact.number_le] at fits
        refine ⟨bound, reserved, least, present, ?_, fits, ?_⟩
        · simp [reservation, kind, number]
        · unfold effective
          simp [present, kind, finite, number, fits.not_gt, usable_number (sub_nonneg.mpr fits)]

/-- The remainder under an effective capacity is cut at zero. -/
theorem residual_number {capacity load : ℚ} (bound : profile.effective = some (.number capacity))
    (nonneg : 0 ≤ load) :
    profile.residual (.number load) = some (.number (max 0 (capacity - load))) := by
  unfold residual
  simp only [bound, Exact.zero_eq, Exact.number_lt, nonneg.not_gt, decide_false,
    Exact.isFinite_number, Bool.not_true, Bool.or_self, Bool.false_eq_true, if_false,
    Exact.number_sub]
  split
  · next negative => rw [max_eq_left negative.le]
  · next enough => rw [max_eq_right (not_lt.mp enough)]

/-! ## Coherence -/

/-- The second rate is UNKNOWN where the first is, and where they are known it is
not higher. -/
def Lowered (rate lower : Rate Exact) : Prop :=
  lower.isUnknown = rate.isUnknown ∧
    (rate.isUnknown = false → lower.bytesPerSecond ≤ rate.bytesPerSecond)

/-- The second profile lowers the known bounds of the first and raises its
reservation, or leaves them. -/
structure Tightened (profile tighter : CapacityProfile Exact) : Prop where
  theoretical : Lowered profile.theoretical tighter.theoretical
  configured : Lowered profile.configured tighter.configured
  measuredService : Lowered profile.measuredService tighter.measuredService
  reservation : profile.reservation ≤ tighter.reservation

/-- Every layer has a counterpart in the tighter profile. -/
theorem Tightened.exists_lowered {tighter : CapacityProfile Exact}
    (tightened : Tightened profile tighter) :
    ∀ rate ∈ profile.layers, ∃ lower ∈ tighter.layers, Lowered rate lower := by
  intro rate member
  simp only [layers, List.mem_cons, List.not_mem_nil, or_false, exists_eq_or_imp,
    exists_eq_left] at member ⊢
  rcases member with rfl | rfl | rfl
  · exact .inl tightened.theoretical
  · exact .inr (.inl tightened.configured)
  · exact .inr (.inr tightened.measuredService)

/-- The least bound of a tighter profile is not higher. -/
theorem Tightened.least_le {tighter : CapacityProfile Exact} {bound lower : ℚ}
    (tightened : Tightened profile tighter) (valid : tighter.valid = true)
    (least : IsLeast (bounds profile.layers) bound)
    (leastLower : IsLeast (bounds tighter.layers) lower) : lower ≤ bound := by
  obtain ⟨rate, member, known, number⟩ := least.1
  obtain ⟨counterpart, inTighter, sameKind, le⟩ := tightened.exists_lowered rate member
  have stillKnown : counterpart.isUnknown = false := sameKind.trans known
  rcases sound_of_valid valid counterpart inTighter with unknown | finite
  · exact absurd (stillKnown.symm.trans unknown) Bool.false_ne_true
  · obtain ⟨other, numberOther, -⟩ := number_of_isFiniteNonneg finite
    have below : other ≤ bound := by
      have leRate := le known
      rw [number, numberOther, Exact.number_le] at leRate
      exact leRate
    exact (leastLower.2 ⟨counterpart, inTighter, stillKnown, numberOther⟩).trans below

/-- `effective` of a valid profile is absent exactly when all its layers are UNKNOWN.
Otherwise it is the least known bound, which both searches find, less the
reservation; it is not negative; the remainder under a load is what is left of it,
or zero; and no valid profile with lower known bounds or a higher reservation has
more. -/
theorem effective_coherent (profile : CapacityProfile Exact) (valid : profile.valid = true) :
    profile.effectiveUnrolled = profile.effective ∧
      (profile.effectiveUnrolled = none ↔
        profile.theoretical.isUnknown = true ∧ profile.configured.isUnknown = true ∧
          profile.measuredService.isUnknown = true) ∧
      ∀ value, profile.effectiveUnrolled = some value →
        ∃ bound reserved : ℚ, IsLeast (bounds profile.layers) bound ∧
          profile.effectiveBeforeReservation = some (.number bound) ∧
          profile.reservation = .number reserved ∧
          value = .number (bound - reserved) ∧ 0 ≤ bound - reserved ∧
          (∀ load : ℚ, 0 ≤ load →
            profile.residual (.number load) = some (.number (max 0 (bound - reserved - load)))) ∧
          ∀ tighter : CapacityProfile Exact, tighter.valid = true → Tightened profile tighter →
            ∃ less, tighter.effectiveUnrolled = some less ∧ less ≤ value := by
  simp only [effectiveUnrolled_eq, true_and]
  have allUnknown : (∀ rate ∈ profile.layers, rate.isUnknown = true) ↔
      profile.theoretical.isUnknown = true ∧ profile.configured.isUnknown = true ∧
        profile.measuredService.isUnknown = true := by
    simp [layers]
  rw [← allUnknown]
  rcases effective_of_valid valid with ⟨absent, unknown⟩ |
    ⟨bound, reserved, least, before, reservation, fits, effective⟩
  · refine ⟨iff_of_true absent unknown, fun value present => ?_⟩
    exact absurd (absent.symm.trans present) (Option.some_ne_none value).symm
  · obtain ⟨rate, member, known, -⟩ := least.1
    refine ⟨iff_of_false (by simp [effective]) ?_, fun value present => ?_⟩
    · intro unknown
      exact absurd (known.symm.trans (unknown rate member)) Bool.false_ne_true
    · obtain rfl := Option.some.inj (effective.symm.trans present)
      refine ⟨bound, reserved, least, before, reservation, rfl, sub_nonneg.mpr fits,
        fun load nonneg => residual_number effective nonneg, ?_⟩
      intro tighter tighterValid tightened
      rcases effective_of_valid tighterValid with ⟨-, unknown⟩ |
        ⟨lower, higher, leastLower, -, reservationHigher, -, effectiveLower⟩
      · obtain ⟨counterpart, inTighter, sameKind, -⟩ := tightened.exists_lowered rate member
        have stillKnown := sameKind.trans known
        exact absurd (stillKnown.symm.trans (unknown counterpart inTighter)) Bool.false_ne_true
      · have boundLower : lower ≤ bound := tightened.least_le tighterValid least leastLower
        have raised : reserved ≤ higher := by
          have raised := tightened.reservation
          rw [reservation, reservationHigher, Exact.number_le] at raised
          exact raised
        refine ⟨_, effectiveLower, ?_⟩
        rw [Exact.number_le]
        exact sub_le_sub boundLower raised

/-- A link of 10, configured down and with a reservation. -/
def configuredLink (configured reserved : ℚ) : CapacityProfile Exact where
  theoretical := { bytesPerSecond := .number 10, kind := BandwidthKind.theoretical }
  configured := { bytesPerSecond := .number configured, kind := BandwidthKind.configured }
  reserved := { bytesPerSecond := .number reserved, kind := BandwidthKind.reserved }

/-- Configured down to 8 with 3 reserved the link has 5, and under a load of 2 still
3; configured down to 6 with 4 reserved it has no more than 5. -/
theorem effective_configuredLink :
    (configuredLink 8 3).effectiveUnrolled = some (.number 5) ∧
      (configuredLink 8 3).residual (.number 2) = some (.number 3) ∧
      ∃ less, (configuredLink 6 4).effectiveUnrolled = some less ∧ less ≤ .number 5 := by
  obtain ⟨valid, tighterValid, five⟩ : (configuredLink 8 3).valid = true ∧
      (configuredLink 6 4).valid = true ∧
      (configuredLink 8 3).effectiveUnrolled = some (.number 5) := by
    decide +kernel
  have tightened : Tightened (configuredLink 8 3) (configuredLink 6 4) := by
    refine ⟨⟨rfl, fun _ => ?_⟩, ⟨rfl, fun _ => ?_⟩, ⟨rfl, fun _ => ?_⟩, ?_⟩
    · exact Exact.number_le.mpr le_rfl
    · exact Exact.number_le.mpr (by norm_num)
    · show (0.0 : Exact) ≤ 0.0
      rw [Exact.zero_eq]
      exact Exact.number_le.mpr le_rfl
    · exact Exact.number_le.mpr (by norm_num)
  obtain ⟨-, -, derived⟩ := effective_coherent (configuredLink 8 3) valid
  obtain ⟨bound, reserved, -, -, -, same, -, residual, monotone⟩ := derived _ five
  have remains : bound - reserved = 5 := (Exact.number.inj same).symm
  refine ⟨five, ?_, monotone _ tighterValid tightened⟩
  rw [residual 2 (by norm_num), remains]
  norm_num

end CapacityProfile

end CongestionFabric
