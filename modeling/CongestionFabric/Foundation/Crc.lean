import Mathlib.Data.List.Basic
import Mathlib.Logic.Function.Basic

/-!
Contract: the register of a reflected 32-bit cyclic redundancy check.

Owns one round of the register, the absorption of bytes, the fact that a round is
linear in exclusive or and, for a polynomial with its highest bit set, injective,
and the consequence that two byte strings which differ in one stretch of at most
four bytes leave different registers.

Does not own: a particular polynomial, seed or final complement.
-/

namespace Foundation.Crc

/-! ## One round -/

/-- One round: shift, and add the polynomial if the bit shifted out is set. -/
def round (poly crc : BitVec 32) : BitVec 32 :=
  (crc >>> 1) ^^^ (poly &&& (0 - (crc &&& 1)))

variable {poly crc left right : BitVec 32}

/-- The mask of a round is all ones or all zeros. -/
theorem mask_eq (crc : BitVec 32) :
    0 - (crc &&& 1) = if crc.getLsbD 0 then BitVec.allOnes 32 else 0 := by
  have low : crc &&& 1 = BitVec.setWidth 32 (BitVec.ofBool (crc.getLsbD 0)) :=
    BitVec.and_one_eq_setWidth_ofBool_getLsbD
  rw [low]
  cases crc.getLsbD 0 <;> rfl

theorem round_eq (poly crc : BitVec 32) :
    round poly crc = if crc.getLsbD 0 then (crc >>> 1) ^^^ poly else crc >>> 1 := by
  unfold round
  rw [mask_eq]
  cases crc.getLsbD 0 with
  | true => rw [if_pos rfl, if_pos rfl, BitVec.and_allOnes]
  | false => simp

theorem round_xor (poly left right : BitVec 32) :
    round poly (left ^^^ right) = round poly left ^^^ round poly right := by
  have swap : ∀ a b c d : BitVec 32, (a ^^^ b) ^^^ (c ^^^ d) = (a ^^^ c) ^^^ (b ^^^ d) := by
    intro a b c d
    ac_rfl
  simp only [round_eq, BitVec.getLsbD_xor, BitVec.ushiftRight_xor_distrib]
  cases left.getLsbD 0 <;> cases right.getLsbD 0
  · simp
  · simp [BitVec.xor_assoc]
  · simp only [Bool.true_xor, Bool.not_false, if_true, if_false, Bool.false_eq_true]
    ac_rfl
  · simp only [Bool.true_xor, Bool.not_true, if_true, if_false, Bool.false_eq_true]
    rw [swap, BitVec.xor_self, BitVec.xor_zero]

/-- Only the zero register is sent to zero: a set bit that is shifted out leaves
the highest bit of the polynomial behind. -/
private theorem round_eq_zero (high : poly.getLsbD 31 = true) (zero : round poly crc = 0) :
    crc = 0 := by
  rw [round_eq] at zero
  cases low : crc.getLsbD 0 with
  | true =>
      rw [low, if_pos rfl] at zero
      have top : ((crc >>> 1) ^^^ poly).getLsbD 31 = false := by
        rw [zero]
        rfl
      rw [BitVec.getLsbD_xor, BitVec.getLsbD_ushiftRight, high,
        BitVec.getLsbD_of_ge crc (1 + 31) (by decide)] at top
      exact absurd top (by decide)
  | false =>
      rw [low, if_neg (by simp)] at zero
      apply BitVec.eq_of_getLsbD_eq
      intro index below
      cases index with
      | zero => simpa using low
      | succ index =>
          have bit := congrArg (fun register => register.getLsbD index) zero
          simpa [BitVec.getLsbD_ushiftRight, Nat.add_comm] using bit

theorem round_injective (high : poly.getLsbD 31 = true) : Function.Injective (round poly) := by
  intro left right same
  have zero : round poly (left ^^^ right) = 0 := by rw [round_xor, same, BitVec.xor_self]; rfl
  have equal := round_eq_zero high zero
  calc left = (left ^^^ right) ^^^ right := by
        rw [BitVec.xor_assoc, BitVec.xor_self, BitVec.xor_zero]
    _ = right := by rw [equal]; exact BitVec.zero_xor

/-! ## Several rounds -/

def rounds (poly : BitVec 32) : Nat → BitVec 32 → BitVec 32
  | 0, crc => crc
  | count + 1, crc => rounds poly count (round poly crc)

theorem rounds_add (poly : BitVec 32) (first second : Nat) (crc : BitVec 32) :
    rounds poly (first + second) crc = rounds poly second (rounds poly first crc) := by
  induction first generalizing crc with
  | zero => rw [Nat.zero_add, rounds]
  | succ first inductionHypothesis =>
      rw [Nat.succ_add, rounds, inductionHypothesis, rounds]

theorem rounds_xor (poly : BitVec 32) (count : Nat) (left right : BitVec 32) :
    rounds poly count (left ^^^ right) = rounds poly count left ^^^ rounds poly count right := by
  induction count generalizing left right with
  | zero => rfl
  | succ count inductionHypothesis => rw [rounds, round_xor, inductionHypothesis, rounds, rounds]

theorem rounds_injective (high : poly.getLsbD 31 = true) (count : Nat) :
    Function.Injective (rounds poly count) := by
  induction count with
  | zero => exact Function.injective_id
  | succ count inductionHypothesis => exact inductionHypothesis.comp (round_injective high)

/-- While only clear bits are shifted out, the register just moves down. -/
theorem rounds_of_clear (poly : BitVec 32) (count : Nat) {crc : BitVec 32}
    (clear : ∀ index < count, crc.getLsbD index = false) :
    rounds poly count crc = crc >>> count := by
  induction count generalizing crc with
  | zero => simp [rounds]
  | succ count inductionHypothesis =>
      have low : round poly crc = crc >>> 1 := by
        rw [round_eq, clear 0 (Nat.succ_pos count)]
        rfl
      rw [rounds, low, inductionHypothesis, Nat.add_comm count 1, BitVec.shiftRight_add]
      intro index below
      rw [BitVec.getLsbD_ushiftRight]
      exact clear (1 + index) (by omega)

/-! ## Bytes -/

/-- Absorb one byte. -/
def absorb (poly crc : BitVec 32) (byte : UInt8) : BitVec 32 :=
  rounds poly 8 (crc ^^^ byte.toBitVec.setWidth 32)

/-- The register after a byte string. -/
def register (poly crc : BitVec 32) (data : List UInt8) : BitVec 32 :=
  data.foldl (absorb poly) crc

/-- The little-endian word of a few bytes. -/
def word : List UInt8 → BitVec 32
  | [] => 0
  | byte :: rest => byte.toBitVec.setWidth 32 ^^^ (word rest <<< 8)

/-- The bits of a word, byte by byte. -/
theorem getLsbD_word_cons (byte : UInt8) (rest : List UInt8) (index : Nat) :
    (word (byte :: rest)).getLsbD index =
      if index < 8 then byte.toBitVec.getLsbD index
      else decide (index < 32) && (word rest).getLsbD (index - 8) := by
  rw [word, BitVec.getLsbD_xor, BitVec.getLsbD_shiftLeft, BitVec.getLsbD_setWidth]
  by_cases low : index < 8
  · simp [low, show index < 32 by omega]
  · simp [low, BitVec.getLsbD_of_ge byte.toBitVec index (by omega)]

theorem getLsbD_word_of_ge (data : List UInt8) {index : Nat} (above : 8 * data.length ≤ index) :
    (word data).getLsbD index = false := by
  induction data generalizing index with
  | nil => simp [word]
  | cons byte rest inductionHypothesis =>
      rw [List.length_cons] at above
      rw [getLsbD_word_cons, if_neg (by omega), inductionHypothesis (by omega), Bool.and_false]

/-- Absorbing up to four bytes is adding their word and doing all the rounds. -/
theorem register_eq_rounds (poly crc : BitVec 32) {data : List UInt8} (short : data.length ≤ 4) :
    register poly crc data = rounds poly (8 * data.length) (crc ^^^ word data) := by
  induction data generalizing crc with
  | nil => simp [register, rounds, word]
  | cons byte rest inductionHypothesis =>
      rw [List.length_cons] at short
      have moved : rounds poly 8 (word rest <<< 8) = word rest := by
        rw [rounds_of_clear]
        · apply BitVec.eq_of_getLsbD_eq
          intro index below
          rw [BitVec.getLsbD_ushiftRight, BitVec.getLsbD_shiftLeft]
          by_cases inside : 8 + index < 32
          · simp [inside]
          · simp [inside, getLsbD_word_of_ge rest (show 8 * rest.length ≤ index by omega)]
        · intro index below
          simp [BitVec.getLsbD_shiftLeft, below]
      change register poly (absorb poly crc byte) rest = _
      rw [inductionHypothesis _ (by omega), List.length_cons,
        show 8 * (rest.length + 1) = 8 + 8 * rest.length by omega, rounds_add, word, absorb,
        ← BitVec.xor_assoc, rounds_xor poly 8 (crc ^^^ _), moved]

theorem word_injective {left right : List UInt8} (length : left.length = right.length)
    (short : left.length ≤ 4) (same : word left = word right) : left = right := by
  induction left generalizing right with
  | nil => exact (List.eq_nil_of_length_eq_zero length.symm).symm
  | cons byte rest inductionHypothesis =>
      cases right with
      | nil => exact absurd length (by simp)
      | cons other others =>
          rw [List.length_cons] at short
          have bits : ∀ index, (word (byte :: rest)).getLsbD index =
              (word (other :: others)).getLsbD index := by
            intro index
            rw [same]
          have first : byte = other := by
            apply UInt8.toBitVec_inj.mp
            apply BitVec.eq_of_getLsbD_eq
            intro index below
            have bit := bits index
            rwa [getLsbD_word_cons, getLsbD_word_cons, if_pos below, if_pos below] at bit
          have remaining : word rest = word others := by
            apply BitVec.eq_of_getLsbD_eq
            intro index below
            by_cases inside : index + 8 < 32
            · have bit := bits (index + 8)
              rw [getLsbD_word_cons, getLsbD_word_cons, if_neg (by omega), if_neg (by omega)] at bit
              simpa [inside] using bit
            · have equal : rest.length = others.length := Nat.succ.inj length
              rw [getLsbD_word_of_ge rest (by omega), getLsbD_word_of_ge others (by omega)]
          rw [first, inductionHypothesis (Nat.succ.inj length) (by omega) remaining]

/-- What is absorbed can be taken back. -/
theorem register_injective (high : poly.getLsbD 31 = true) (data : List UInt8) :
    Function.Injective fun crc => register poly crc data := by
  induction data with
  | nil => exact Function.injective_id
  | cons byte rest inductionHypothesis =>
      intro left right same
      have absorbed : absorb poly left byte = absorb poly right byte := inductionHypothesis same
      have added := rounds_injective high 8 absorbed
      exact (BitVec.xor_left_inj _).mp added

/-! ## Strings that differ in one stretch -/

/-- The strings differ, and only within one stretch of at most `width` bytes. -/
def Burst (width : Nat) (left right : List UInt8) : Prop :=
  ∃ before old new after, left = before ++ old ++ after ∧ right = before ++ new ++ after ∧
    old.length = new.length ∧ old.length ≤ width ∧ old ≠ new

theorem Burst.ne {width : Nat} {left right : List UInt8} (burst : Burst width left right) :
    left ≠ right := by
  obtain ⟨before, old, new, after, rfl, rfl, -, -, differ⟩ := burst
  intro same
  exact differ (List.append_cancel_left (List.append_cancel_right same))

theorem Burst.length_eq {width : Nat} {left right : List UInt8} (burst : Burst width left right) :
    left.length = right.length := by
  obtain ⟨before, old, new, after, rfl, rfl, length, -, -⟩ := burst
  simp only [List.length_append, length]

theorem Burst.cons {width : Nat} {left right : List UInt8} (burst : Burst width left right)
    (byte : UInt8) : Burst width (byte :: left) (byte :: right) := by
  obtain ⟨before, old, new, after, rfl, rfl, rest⟩ := burst
  exact ⟨byte :: before, old, new, after, rfl, rfl, rest⟩

theorem Burst.append {width : Nat} {left right : List UInt8} (burst : Burst width left right)
    (suffix : List UInt8) : Burst width (left ++ suffix) (right ++ suffix) := by
  obtain ⟨before, old, new, after, rfl, rfl, rest⟩ := burst
  exact ⟨before, old, new, after ++ suffix, List.append_assoc .., List.append_assoc .., rest⟩

theorem Burst.mono {width wider : Nat} {left right : List UInt8} (burst : Burst width left right)
    (below : width ≤ wider) : Burst wider left right := by
  obtain ⟨before, old, new, after, first, second, length, short, differ⟩ := burst
  exact ⟨before, old, new, after, first, second, length, Nat.le_trans short below, differ⟩

/-- Up to four bytes of difference always show in the register. -/
theorem Burst.register_ne {left right : List UInt8} (high : poly.getLsbD 31 = true)
    (burst : Burst 4 left right) : register poly crc left ≠ register poly crc right := by
  obtain ⟨before, old, new, after, rfl, rfl, length, short, differ⟩ := burst
  intro same
  simp only [register, List.foldl_append] at same
  have stretch := register_injective high after same
  change register poly _ old = register poly _ new at stretch
  rw [register_eq_rounds poly _ short, register_eq_rounds poly _ (length ▸ short), ← length]
    at stretch
  have words := (BitVec.xor_right_inj _).mp (rounds_injective high _ stretch)
  exact differ (word_injective length short words)

/-- A single changed byte lies on one side of any cut. -/
theorem Burst.cut {first second otherFirst otherSecond : List UInt8}
    (burst : Burst 1 (first ++ second) (otherFirst ++ otherSecond))
    (aligned : first.length = otherFirst.length) :
    Burst 1 first otherFirst ∧ second = otherSecond ∨
      first = otherFirst ∧ Burst 1 second otherSecond := by
  obtain ⟨before, old, new, after, left, right, length, short, differ⟩ := burst
  rw [List.append_assoc] at left right
  rcases List.append_eq_append_iff.mp left with ⟨between, rfl, rfl⟩ | ⟨inside, rfl, tail⟩
  · rw [List.append_assoc] at right
    obtain ⟨rfl, rfl⟩ := List.append_inj right aligned.symm
    exact Or.inr ⟨rfl, between, old, new, after, (List.append_assoc ..).symm,
      (List.append_assoc ..).symm, length, short, differ⟩
  · cases inside with
    | nil =>
        rw [List.append_nil] at aligned
        obtain ⟨rfl, rfl⟩ := List.append_inj right aligned.symm
        exact Or.inr ⟨List.append_nil _, [], old, new, after, tail.symm, rfl, length, short, differ⟩
    | cons byte inside =>
        -- The stretch is one byte, and it stands before the cut.
        obtain ⟨changed, rfl⟩ : ∃ changed, old = [changed] := by
          cases old with
          | nil => exact absurd (List.eq_nil_of_length_eq_zero length.symm).symm differ
          | cons changed rest =>
              have empty : rest = [] := by
                apply List.eq_nil_of_length_eq_zero
                rw [List.length_cons] at short
                omega
              exact ⟨changed, by rw [empty]⟩
        obtain ⟨rfl, rfl⟩ := List.cons.inj tail
        change _ = before ++ (new ++ (inside ++ second)) at right
        rw [← List.append_assoc, ← List.append_assoc] at right
        have split := List.append_inj right (by
          simp only [List.length_append, List.length_cons, List.length_nil] at aligned length ⊢
          omega)
        refine Or.inl ⟨⟨before, [changed], new, inside, ?_, split.1, length, short, differ⟩,
          split.2.symm⟩
        rw [List.append_assoc]
        rfl

end Foundation.Crc
