import Mathlib
import CongestionFabric.Foundation.Arithmetic

/-!
Contract: a binary64 difference does not overflow upwards.

Owns the upper bound of a rounded mantissa, the range of a pattern's number, and
the fact that a finite number less a number that is not negative, clipped at
zero, is again finite and not negative.

Does not own: how close a rounded result is to the exact one.
-/

namespace Foundation.Binary64

open Float.Model
open Float.Model.UnpackedFloat

/-! ## Rounding a mantissa -/

/-- After shifting, the mantissa is the quotient, and the residual bits are clear
when nothing was shifted out. -/
private theorem shift_exact (mantissa count : Nat) :
    (ExtendedMantissa.ofMantissaAndAccuracy mantissa .exact >>> count).mantissa =
        mantissa / 2 ^ count ∧
      (((ExtendedMantissa.ofMantissaAndAccuracy mantissa .exact >>> count).roundBit ||
          (ExtendedMantissa.ofMantissaAndAccuracy mantissa .exact >>> count).stickyBit) = true →
        mantissa % 2 ^ count ≠ 0) := by
  change (count.repeat ExtendedMantissa.shiftRightOne
      (ExtendedMantissa.ofMantissaAndAccuracy mantissa .exact)).mantissa = _ ∧
    (((count.repeat ExtendedMantissa.shiftRightOne
        (ExtendedMantissa.ofMantissaAndAccuracy mantissa .exact)).roundBit ||
      (count.repeat ExtendedMantissa.shiftRightOne
        (ExtendedMantissa.ofMantissaAndAccuracy mantissa .exact)).stickyBit) = true → _)
  induction count with
  | zero => simp [Nat.repeat, ExtendedMantissa.ofMantissaAndAccuracy]
  | succ count inductionHypothesis =>
      obtain ⟨quotient, residue⟩ := inductionHypothesis
      have split := Nat.mod_mul (x := mantissa) (a := 2 ^ count) (b := 2)
      rw [← Nat.pow_succ] at split
      refine ⟨?_, ?_⟩
      · rw [Nat.repeat]
        simp only [ExtendedMantissa.shiftRightOne, quotient]
        rw [Nat.div_div_eq_div_mul, Nat.pow_succ]
      · rw [Nat.repeat]
        simp only [ExtendedMantissa.shiftRightOne, quotient, Bool.or_eq_true, bne_iff_ne]
        rintro (odd | earlier)
        · intro zero
          rw [zero] at split
          have positive := Nat.two_pow_pos count
          have product : 2 ^ count * (mantissa / 2 ^ count % 2) = 0 := by omega
          rcases Nat.mul_eq_zero.mp product with impossible | even
          · omega
          · exact odd even
        · have nonzero := residue (by simpa using earlier)
          intro zero
          rw [zero] at split
          omega

/-- A bound on a multiple of the shift bounds the rounded mantissa. -/
private theorem roundedMantissa_le {mantissa count bound : Nat}
    (below : mantissa ≤ bound * 2 ^ count) :
    (ExtendedMantissa.ofMantissaAndAccuracy mantissa .exact >>> count).roundedMantissa ≤
      bound := by
  obtain ⟨quotient, residue⟩ := shift_exact mantissa count
  have positive := Nat.two_pow_pos count
  generalize ExtendedMantissa.ofMantissaAndAccuracy mantissa .exact >>> count = shifted at *
  have floor : shifted.mantissa ≤ bound := by
    rw [quotient]
    exact Nat.div_le_of_le_mul (by rwa [Nat.mul_comm] at below)
  -- A mantissa at the bound is exact, so only smaller ones can be rounded up.
  have strict : (shifted.roundBit || shifted.stickyBit) = true → shifted.mantissa + 1 ≤ bound := by
    intro inexact
    have nonzero := residue inexact
    rw [quotient, Nat.succ_le_iff, Nat.div_lt_iff_lt_mul positive]
    rcases Nat.lt_or_eq_of_le below with smaller | equal
    · exact smaller
    · exact absurd (by rw [equal, Nat.mul_mod_left]) nonzero
  obtain ⟨value, round, sticky⟩ := shifted
  cases round <;> cases sticky <;>
    simp only [ExtendedMantissa.roundedMantissa, ExtendedMantissa.accuracy,
      Accuracy.roundToNearestEven, Bool.or_self, Bool.or_true, Bool.or_false,
      Bool.false_eq_true, forall_const] at floor strict ⊢ <;> omega

/-! ## Numbers up to the largest finite one -/

/-- The number is at most the largest finite one. -/
private structure InRange (mantissa : Nat) (exponent : Int) : Prop where
  low : exponent ≤ 971
  below : mantissa ≤ (2 ^ 53 - 1) * 2 ^ (971 - exponent).toNat

/-- Such a number is rounded at an exponent that a finite number may have. -/
private theorem InRange.target {mantissa : Nat} {exponent : Int}
    (range : InRange mantissa exponent) :
    Format.binary64.targetExponent (totalExponent mantissa exponent) ≤ 971 := by
  obtain ⟨low, below⟩ := range
  have digits : mantissa.log2 < 53 + (971 - exponent).toNat := by
    by_cases zero : mantissa = 0
    · rw [zero, Nat.log2_zero]
      omega
    · rw [Nat.log2_lt zero, Nat.pow_add]
      have positive := Nat.two_pow_pos (971 - exponent).toNat
      calc mantissa ≤ (2 ^ 53 - 1) * 2 ^ (971 - exponent).toNat := below
        _ < 2 ^ 53 * 2 ^ (971 - exponent).toNat := Nat.mul_lt_mul_of_pos_right (by decide) positive
  have format : Format.binary64.minExponent = -1074 := by decide
  have bits : (Format.binary64.mantissaBits : Int) = 53 := by decide
  simp only [Format.targetExponent, totalExponent, format, bits]
  omega

/-- Writing the number at a smaller exponent keeps it. -/
private theorem InRange.decrease {mantissa : Nat} {exponent : Int}
    (range : InRange mantissa exponent) (count : Nat) :
    InRange (mantissa <<< count) (exponent - count) := by
  obtain ⟨low, below⟩ := range
  refine ⟨by omega, ?_⟩
  have split : (971 - (exponent - count)).toNat = (971 - exponent).toNat + count := by omega
  rw [Nat.shiftLeft_eq, split, Nat.pow_add, ← Nat.mul_assoc]
  exact Nat.mul_le_mul_right _ below

/-- Rounding at a larger exponent keeps the number in range. -/
private theorem InRange.shift {mantissa : Nat} {exponent : Int}
    (range : InRange mantissa exponent) (count : Nat) (low : exponent + count ≤ 971) :
    InRange (ExtendedMantissa.ofMantissaAndAccuracy mantissa .exact >>> count).roundedMantissa
      (exponent + count) := by
  refine ⟨low, roundedMantissa_le ?_⟩
  have split : (971 - exponent).toNat = (971 - (exponent + count)).toNat + count := by omega
  have below := range.below
  rwa [split, Nat.pow_add, ← Nat.mul_assoc] at below

/-- Rounding a number in range gives a zero or a finite number whose exponent
fits the format. -/
private theorem InRange.round {mantissa : Nat} {exponent : Int}
    (range : InRange mantissa exponent) (sign : Sign) :
    round Format.binary64 sign mantissa exponent = .zero sign ∨
      ∃ result resultExponent positive, resultExponent ≤ 971 ∧
        round Format.binary64 sign mantissa exponent =
          .finite sign result resultExponent positive := by
  have lowered := range.decrease
    (exponent - Format.binary64.targetExponent (totalExponent mantissa exponent)).toNat
  unfold UnpackedFloat.round decreaseExponent
  dsimp only
  generalize mantissa <<< _ = fine at lowered ⊢
  generalize exponent - _ = fineExponent at lowered ⊢
  unfold roundWithAccuracy shiftToTargetExponent shiftToExponent
  dsimp only
  have target := lowered.target
  have low := lowered.low
  have shifted := lowered.shift
    (Format.binary64.targetExponent (totalExponent fine fineExponent) - fineExponent).toNat
    (by omega)
  generalize fineExponent + _ = coarseExponent at shifted ⊢
  generalize ExtendedMantissa.roundedMantissa _ = coarse at shifted ⊢
  have finalTarget := shifted.target
  have coarseLow := shifted.low
  split
  · exact Or.inl rfl
  · next nonzero => exact Or.inr ⟨_, _, Nat.pos_of_ne_zero nonzero, by omega, rfl⟩

/-! ## Patterns -/

@[simp] private theorem unpackSign_packComponents {spec : Format} {sign exponent mantissa} :
    unpackSign (packComponents spec sign exponent mantissa) = sign.toBitVec := by
  ext index bound
  have first : index = 0 := by omega
  subst first
  have above : ¬spec.mantissaBitsWithoutImplicit + spec.exponentBits <
      spec.mantissaBitsWithoutImplicit := by omega
  simp [unpackSign, packComponents, BitVec.getLsbD_eq_getElem, BitVec.getLsbD_append,
    BitVec.getElem_append, above]

private theorem ofBitVec_toBitVec (sign : Sign) : Sign.ofBitVec sign.toBitVec = sign := by
  cases sign <;> rfl

/-- The number a packed pattern denotes. -/
private theorem unpack_pack (number : UnpackedFloat) :
    (pack number).unpack =
      UnpackedFloat.unpack Format.binary64 (UnpackedFloat.pack Format.binary64 number) := rfl

/-- Packing keeps the sign: a negative number never becomes positive infinity. -/
private theorem pack_negative {mantissa : Nat} {exponent : Int} {positive : 0 < mantissa} :
    (pack (.finite .negative mantissa exponent positive)).unpack ≠ .infinity .positive := by
  rw [unpack_pack]
  simp only [UnpackedFloat.pack]
  split_ifs <;> simp only [packedInfinity, UnpackedFloat.unpack, unpackSign_packComponents,
    ofBitVec_toBitVec] <;> split_ifs <;> simp

/-- A finite number whose exponent fits stays finite. -/
private theorem pack_fitting (sign : Sign) {mantissa : Nat} {exponent : Int}
    (positive : 0 < mantissa) (low : exponent ≤ 971) :
    (pack (.finite sign mantissa exponent positive)).unpack.isFinite = true := by
  rw [unpack_pack]
  have bias : (Format.binary64.exponentBias : Int) = 1023 := by decide
  have field : (exponent + Format.binary64.exponentBias +
      (Format.binary64.mantissaBitsWithoutImplicit : Nat)).toNat ≤ 2046 := by
    rw [bias]
    change (exponent + 1023 + 52).toNat ≤ 2046
    omega
  simp only [UnpackedFloat.pack]
  generalize (exponent + Format.binary64.exponentBias +
    (Format.binary64.mantissaBitsWithoutImplicit : Nat)).toNat = biased at field ⊢
  have fits : ¬2 ^ Format.binary64.exponentBits ≤ biased + 1 := by
    change ¬2 ^ 11 ≤ biased + 1
    omega
  have notAllOnes : ∀ small : Nat, small ≤ 2046 →
      BitVec.ofNat Format.binary64.exponentBits small ≠ -1#_ := by
    intro small bound same
    have value := congrArg BitVec.toNat same
    change small % 2 ^ 11 = 2047 at value
    omega
  rw [if_neg fits]
  split_ifs
  · simp only [UnpackedFloat.unpack, unpackExponent_packComponents]
    rw [if_neg (notAllOnes biased field)]
    split_ifs <;> rfl
  · simp only [UnpackedFloat.unpack, unpackExponent_packComponents]
    rw [if_neg (notAllOnes 0 (by decide))]
    split_ifs <;> rfl

private theorem pack_zero (sign : Sign) : (pack (.zero sign)).unpack = .zero sign := by
  rw [unpack_pack]
  cases sign <;> rfl

private theorem pack_infinity (sign : Sign) : (pack (.infinity sign)).unpack = .infinity sign := by
  rw [unpack_pack]
  cases sign <;> rfl

/-- A finite number of the format is in range. -/
private theorem inRange_of_unpack {value : Binary64} {sign : Sign} {mantissa : Nat}
    {exponent : Int} {positive : 0 < mantissa}
    (number : value.unpack = .finite sign mantissa exponent positive) :
    InRange mantissa exponent := by
  have scaled : exponent ≤ 971 ∧ mantissa ≤ 2 ^ 53 - 1 := by
    unfold unpack UnpackedFloat.unpack at number
    have bias : (Format.binary64.exponentBias : Int) = 1023 := by decide
    dsimp only at number
    rw [bias] at number
    generalize (unpackExponent _ : BitVec Format.binary64.exponentBits) = field at number
    have fieldBound : field.toNat < 2 ^ 11 := field.isLt
    have bounds : ∀ low : BitVec Format.binary64.mantissaBitsWithoutImplicit,
        low.toNat < 2 ^ 52 ∧ (1#1 ++ low).toNat < 2 ^ 53 :=
      fun low => ⟨low.isLt, (1#1 ++ low).isLt⟩
    obtain ⟨lowBound, wholeBound⟩ := bounds (unpackMantissa value.bits.toBitVec)
    split_ifs at number with allOnes mantissaZero zeroField
    · injection number with _ sameMantissa sameExponent
      subst sameMantissa sameExponent
      rw [zeroField]
      refine ⟨by decide, by omega⟩
    · injection number with _ sameMantissa sameExponent
      subst sameMantissa sameExponent
      have notMax : field.toNat ≠ 2047 := fun same => allOnes (BitVec.eq_of_toNat_eq same)
      refine ⟨?_, by omega⟩
      change (field.toNat : Int) - (1023 + 52) ≤ 971
      omega
  refine ⟨scaled.1, ?_⟩
  exact Nat.le_trans scaled.2 (Nat.le_mul_of_pos_right _ (Nat.two_pow_pos _))

/-- Rounding keeps the sign. -/
private theorem round_shape (sign : Sign) (mantissa : Nat) (exponent : Int) :
    UnpackedFloat.round Format.binary64 sign mantissa exponent = .zero sign ∨
      ∃ result resultExponent positive,
        UnpackedFloat.round Format.binary64 sign mantissa exponent =
          .finite sign result resultExponent positive := by
  unfold UnpackedFloat.round decreaseExponent roundWithAccuracy
  dsimp only
  split
  · exact Or.inl rfl
  · next nonzero => exact Or.inr ⟨_, _, Nat.pos_of_ne_zero nonzero, rfl⟩

/-! ## Differences -/

/-- The number is not NaN and not below zero. -/
private def NotNegative (number : UnpackedFloat) : Prop :=
  (∃ sign, number = .zero sign) ∨ number = .infinity .positive ∨
    ∃ mantissa exponent positive, number = .finite .positive mantissa exponent positive

/-- A difference that is at most a number in range does not overflow upwards. -/
private theorem normalize_ne_infinity {mantissa : Int} {exponent : Int}
    (range : 0 < mantissa → InRange mantissa.toNat exponent) :
    (pack (UnpackedFloat.normalize Format.binary64 mantissa exponent .positive)).unpack ≠
      .infinity .positive := by
  unfold UnpackedFloat.normalize
  split
  · rcases round_shape .negative (-mantissa).toNat exponent with zero | ⟨_, _, _, finite⟩
    · simp [zero, pack_zero]
    · rw [finite]
      exact pack_negative
  · simp [pack_zero]
  · next greater =>
    rcases (range (Int.compare_eq_gt.mp greater)).round .positive with
      zero | ⟨_, _, _, low, finite⟩
    · simp [zero, pack_zero]
    · intro infinite
      have kept := pack_fitting .positive ‹_› low
      rw [← finite, infinite] at kept
      exact absurd kept (by decide)

/-- A finite number less one that is not negative is not positive infinity. -/
private theorem sub_ne_infinity {left right : Binary64} (finite : left.unpack.isFinite = true)
    (notNegative : NotNegative right.unpack) :
    (left - right).unpack ≠ .infinity .positive := by
  change (pack (UnpackedFloat.sub Format.binary64 left.unpack right.unpack)).unpack ≠ _
  cases leftNumber : left.unpack with
  | infinity sign => simp [leftNumber, UnpackedFloat.isFinite] at finite
  | notANumber => simp [leftNumber, UnpackedFloat.isFinite] at finite
  | zero sign =>
      rcases notNegative with ⟨rightSign, rightNumber⟩ | rightNumber | ⟨_, _, _, rightNumber⟩
      · rw [rightNumber, UnpackedFloat.sub]
        split_ifs <;> simp [pack_zero]
      · rw [rightNumber, UnpackedFloat.sub, pack_infinity]
        · change UnpackedFloat.infinity .negative ≠ _
          simp
        all_goals simp
      · rw [rightNumber, UnpackedFloat.sub]
        exact pack_negative
  | finite sign mantissa exponent positive =>
      have range := inRange_of_unpack leftNumber
      rcases notNegative with ⟨rightSign, rightNumber⟩ | rightNumber |
        ⟨rightMantissa, rightExponent, _, rightNumber⟩
      · intro infinite
        have kept := pack_fitting sign positive range.low
        rw [rightNumber, UnpackedFloat.sub] at infinite
        · rw [infinite] at kept
          exact absurd kept (by decide)
        all_goals simp
      · rw [rightNumber, UnpackedFloat.sub, pack_infinity]
        · change UnpackedFloat.infinity .negative ≠ _
          simp
        all_goals simp
      · rw [rightNumber, UnpackedFloat.sub]
        apply normalize_ne_infinity
        intro greater
        have lowered := range.decrease (exponent - min exponent rightExponent).toNat
        have common : exponent - ((exponent - min exponent rightExponent).toNat : Int) =
            min exponent rightExponent := by omega
        rw [common] at lowered
        refine ⟨lowered.low, Nat.le_trans ?_ lowered.below⟩
        generalize mantissa <<< _ = first at greater ⊢
        generalize rightMantissa <<< _ = second at greater ⊢
        cases sign <;> simp only [Sign.apply] at greater ⊢ <;> omega

private theorem unpack_zero : (0.0 : Binary64).unpack = .zero .positive := by
  have bits : (0.0 : Binary64) = ⟨0⟩ := by decide
  rw [bits]
  rfl

/-- Clipping at zero leaves no negative number and no NaN. -/
private theorem stdMax_notNegative (value : Binary64) :
    NotNegative (Arithmetic.stdMax 0.0 value).unpack := by
  unfold Arithmetic.stdMax
  split
  · next greater =>
    change UnpackedFloat.lt (0.0 : Binary64).unpack value.unpack = true at greater
    rw [unpack_zero] at greater
    cases number : value.unpack with
    | notANumber => simp [number, UnpackedFloat.lt, UnpackedFloat.compare] at greater
    | zero sign => exact Or.inl ⟨sign, rfl⟩
    | infinity sign =>
        cases sign with
        | positive => exact Or.inr (Or.inl rfl)
        | negative =>
            simp [number, UnpackedFloat.lt, UnpackedFloat.compare] at greater
    | finite sign mantissa exponent positive =>
        cases sign with
        | positive => exact Or.inr (Or.inr ⟨mantissa, exponent, positive, rfl⟩)
        | negative =>
            simp [number, UnpackedFloat.lt, UnpackedFloat.compare] at greater
  · exact Or.inl ⟨.positive, unpack_zero⟩

/-- A finite number less a clipped one, clipped again, is finite and not below
zero. -/
theorem stdMax_sub_stdMax {value : Binary64} (finite : Arithmetic.isFinite value = true)
    (other : Binary64) :
    Arithmetic.isFinite (Arithmetic.stdMax 0.0 (value - Arithmetic.stdMax 0.0 other)) = true ∧
      ¬Arithmetic.stdMax 0.0 (value - Arithmetic.stdMax 0.0 other) < (0.0 : Binary64) := by
  have bounded := sub_ne_infinity finite (stdMax_notNegative other)
  generalize value - Arithmetic.stdMax 0.0 other = difference at bounded ⊢
  have clipped := stdMax_notNegative difference
  have same : (Arithmetic.stdMax 0.0 difference).unpack ≠ .infinity .positive := by
    unfold Arithmetic.stdMax
    split
    · exact bounded
    · simp [unpack_zero]
  generalize Arithmetic.stdMax 0.0 difference = result at clipped same ⊢
  change result.unpack.isFinite = true ∧
    ¬UnpackedFloat.lt result.unpack (0.0 : Binary64).unpack = true
  rw [unpack_zero]
  rcases clipped with ⟨sign, number⟩ | number | ⟨_, _, _, number⟩
  · simp [number, UnpackedFloat.isFinite, UnpackedFloat.lt, UnpackedFloat.compare]
  · exact absurd number same
  · simp [number, UnpackedFloat.isFinite, UnpackedFloat.lt, UnpackedFloat.compare]

/-- An integer is converted to a finite number. -/
theorem ofUInt64_isFinite (value : UInt64) :
    Arithmetic.isFinite (Arithmetic.ofUInt64 value : Binary64) = true := by
  change (pack (UnpackedFloat.normalize Format.binary64 (value.toNat : Int) 0
    .positive)).unpack.isFinite = true
  have range : InRange value.toNat 0 := by
    have large : ∀ count, 64 ≤ count → 2 ^ 64 ≤ (2 ^ 53 - 1) * 2 ^ count := by
      intro count enough
      exact Nat.le_trans (Nat.pow_le_pow_right (by decide) enough)
        (Nat.le_mul_of_pos_left _ (by decide))
    exact ⟨by decide, Nat.le_trans (Nat.le_of_lt value.toNat_lt) (large _ (by decide))⟩
  unfold UnpackedFloat.normalize
  split
  · next less => exact absurd (Int.compare_eq_lt.mp less) (by omega)
  · rw [pack_zero]
    rfl
  · rw [Int.toNat_natCast]
    rcases range.round .positive with zero | ⟨_, _, positive, low, finite⟩
    · rw [zero, pack_zero]
      rfl
    · rw [finite]
      exact pack_fitting .positive positive low

end Foundation.Binary64
