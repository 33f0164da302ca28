import CongestionFabric.Foundation.Crc
import CongestionFabric.Persistence.RoundTrip
import CongestionFabric.Protocol.Frame

/-!
Contract: changes to files and frames that are always noticed.

Owns CRC-32 as an instance of the general register, the envelopes that the loader
accepts, and the theorem that no changed byte, no short change of a payload, no
cut and no extension of a saved file or of an encoded frame gets through.

Does not own: changes that keep every checksum, which do get through.
-/

namespace CongestionFabric

open Foundation
open Foundation.Reader

/-! ## The checksum -/

private def polynomial : BitVec 32 := 0xEDB88320#32

private theorem crcByte_eq (count : Nat) (crc : UInt32) :
    (crcByte count crc).toBitVec = Crc.rounds polynomial count crc.toBitVec := by
  induction count generalizing crc with
  | zero => rfl
  | succ count inductionHypothesis =>
      rw [crcByte, inductionHypothesis, Crc.rounds]
      rfl

private theorem foldl_eq (data : Bytes) (crc : UInt32) :
    (data.foldl (fun crc byte => crcByte 8 (crc ^^^ byte.toUInt32)) crc).toBitVec =
      Crc.register polynomial crc.toBitVec data := by
  induction data generalizing crc with
  | nil => rfl
  | cons byte rest inductionHypothesis =>
      rw [List.foldl_cons, inductionHypothesis, crcByte_eq]
      rfl

/-- A change within four consecutive bytes changes the checksum. -/
theorem crc32_ne {left right : Bytes} (burst : Crc.Burst 4 left right) :
    crc32 left ≠ crc32 right := by
  intro same
  have folds := congrArg (fun crc => (~~~crc).toBitVec) same
  simp only [crc32, UInt32.not_not, foldl_eq] at folds
  exact burst.register_ne (by decide) folds

private theorem wr32_injective {left right : UInt32} (same : wr32 left = wr32 right) :
    left = right := by
  rw [← ofNat_ofLittleEndian_wr32 left, same, ofNat_ofLittleEndian_wr32]

/-! ## Files -/

/-- What precedes the payload of a file. -/
def envelopeHeader (payload : Bytes) : Bytes :=
  [snapshotMagic, wr32 snapshotVersion, wr64 (.ofNat payload.length),
    wr32 (crc32 (wr64 (.ofNat payload.length)))].flatten

theorem wrEnvelope_eq (payload : Bytes) :
    wrEnvelope payload = envelopeHeader payload ++ (payload ++ wr32 (crc32 payload)) := by
  simp [wrEnvelope, envelopeHeader]

theorem envelopeHeader_length (payload : Bytes) : (envelopeHeader payload).length = 24 := by
  have magic : snapshotMagic.length = 8 := by decide
  simp [envelopeHeader, wr32, wr64, magic]

/-- The loader's envelope checks pass for nothing but an envelope. -/
theorem rdEnvelope_eq_ok {file payload rest : Bytes}
    (returned : rdEnvelope file = .ok (payload, rest)) :
    payload.length ≤ maxPayloadBytes ∧ file = wrEnvelope payload ∧ rest = [] := by
  obtain ⟨magic, afterMagic, readMagic, returned⟩ := bind_eq_ok returned
  obtain ⟨⟨⟩, _, passedMagic, returned⟩ := bind_eq_ok returned
  obtain ⟨version, afterVersion, readVersion, returned⟩ := bind_eq_ok returned
  obtain ⟨⟨⟩, _, passedVersion, returned⟩ := bind_eq_ok returned
  obtain ⟨length, afterLength, readLength, returned⟩ := bind_eq_ok returned
  obtain ⟨⟨⟩, _, passedBound, returned⟩ := bind_eq_ok returned
  obtain ⟨lengthCrc, afterCrc, readCrc, returned⟩ := bind_eq_ok returned
  obtain ⟨⟨⟩, _, passedCrc, returned⟩ := bind_eq_ok returned
  obtain ⟨left, _, readLeft, returned⟩ := bind_eq_ok returned
  obtain ⟨⟨⟩, _, passedLeft, returned⟩ := bind_eq_ok returned
  obtain ⟨read, afterPayload, readPayload, returned⟩ := bind_eq_ok returned
  obtain ⟨storedCrc, afterStored, readStored, returned⟩ := bind_eq_ok returned
  obtain ⟨trailing, _, readTrailing, returned⟩ := bind_eq_ok returned
  obtain ⟨⟨⟩, _, passedTrailing, returned⟩ := bind_eq_ok returned
  obtain ⟨⟨⟩, _, passedStored, returned⟩ := bind_eq_ok returned
  obtain ⟨rfl, rfl⟩ := Prod.mk.inj (Except.ok.inj returned)
  obtain ⟨isMagic, rfl⟩ := require_eq_ok.mp passedMagic
  obtain ⟨isVersion, rfl⟩ := require_eq_ok.mp passedVersion
  obtain ⟨within, rfl⟩ := require_eq_ok.mp passedBound
  obtain ⟨isLengthCrc, rfl⟩ := require_eq_ok.mp passedCrc
  obtain ⟨rfl, rfl⟩ := Prod.mk.inj (Except.ok.inj readLeft)
  obtain ⟨-, rfl⟩ := require_eq_ok.mp passedLeft
  obtain ⟨rfl, rfl⟩ := Prod.mk.inj (Except.ok.inj readTrailing)
  obtain ⟨isEnd, rfl⟩ := require_eq_ok.mp passedTrailing
  obtain ⟨isStored, rfl⟩ := require_eq_ok.mp passedStored
  rw [decide_eq_true_eq] at isMagic isVersion within isLengthCrc isEnd isStored
  subst isMagic isVersion isLengthCrc isStored
  have ended := List.eq_nil_of_length_eq_zero isEnd
  obtain ⟨splitMagic, -⟩ := bytes_eq_ok.mp readMagic
  obtain ⟨splitPayload, size⟩ := bytes_eq_ok.mp readPayload
  refine ⟨size ▸ within, ?_, ended⟩
  rw [splitMagic, u32_eq_ok.mp readVersion, u64_eq_ok.mp readLength, u32_eq_ok.mp readCrc,
    splitPayload, u32_eq_ok.mp readStored, ended]
  simp [wrEnvelope, wr32, wr64, size]

/-- Whatever the loader accepts is the envelope of some payload. -/
theorem envelope_of_load {file : Bytes} {target : Impl Binary64}
    (accepted : (target.load (some file)).1 = true) :
    ∃ payload, payload.length ≤ maxPayloadBytes ∧ file = wrEnvelope payload := by
  rw [Impl.load_eq] at accepted
  cases decoded : Impl.decode file with
  | none =>
      simp [decoded] at accepted
  | some persisted =>
      unfold Impl.decode at decoded
      split_ifs at decoded
      split at decoded
      · exact absurd decoded (by simp)
      · next payload rest read =>
        obtain ⟨small, whole, -⟩ := rdEnvelope_eq_ok read
        exact ⟨payload, small, whole⟩

/-- No envelope begins another one. -/
private theorem wrEnvelope_extended {first second suffix : Bytes}
    (firstSmall : first.length < 2 ^ 64) (secondSmall : second.length < 2 ^ 64)
    (begins : wrEnvelope first ++ suffix = wrEnvelope second) :
    suffix = [] := by
  have lengths := congrArg List.length begins
  rw [List.length_append, wrEnvelope_length, wrEnvelope_length] at lengths
  simp only [wrEnvelope, List.flatten_cons, List.append_assoc] at begins
  obtain ⟨-, begins⟩ := List.append_inj begins rfl
  obtain ⟨-, begins⟩ := List.append_inj begins rfl
  obtain ⟨word, -⟩ := List.append_inj begins (by simp [wr64])
  have same : first.length = second.length := by
    have value := congrArg ofLittleEndian word
    simp only [wr64] at value
    rw [ofLittleEndian_littleEndian (UInt64.toNat_lt _),
      ofLittleEndian_littleEndian (UInt64.toNat_lt _), UInt64.toNat_ofNat_of_lt' firstSmall,
      UInt64.toNat_ofNat_of_lt' secondSmall] at value
    exact value
  exact List.eq_nil_of_length_eq_zero (by omega)

/-- The ways in which a byte string is changed: one byte somewhere, cut off, or
continued. -/
inductive Damaged (original : Bytes) : Bytes → Prop
  | byte {changed : Bytes} (single : Crc.Burst 1 original changed) : Damaged original changed
  | cut {kept lost : Bytes} (split : original = kept ++ lost) (some : lost ≠ []) :
      Damaged original kept
  | extended {suffix : Bytes} (some : suffix ≠ []) : Damaged original (original ++ suffix)

theorem damaged_file_refused {payload changed : Bytes}
    (addressable : payload.length < 2 ^ 64) (damaged : Damaged (wrEnvelope payload) changed)
    (target : Impl Binary64) : (target.load (some changed)).1 = false := by
  by_contra accepted
  rw [Bool.not_eq_false] at accepted
  obtain ⟨other, small, whole⟩ := envelope_of_load accepted
  have fits : other.length < 2 ^ 64 := Nat.lt_of_le_of_lt small (by decide)
  cases damaged with
  | byte single =>
      subst whole
      have lengths := single.length_eq
      rw [wrEnvelope_length, wrEnvelope_length] at lengths
      have header : envelopeHeader payload = envelopeHeader other := by
        rw [envelopeHeader, envelopeHeader, show payload.length = other.length by omega]
      rw [wrEnvelope_eq, wrEnvelope_eq, header] at single
      rcases single.cut rfl with ⟨inHeader, -⟩ | ⟨-, behind⟩
      · exact inHeader.ne rfl
      · rcases behind.cut (by omega) with ⟨inPayload, stored⟩ | ⟨rfl, inCrc⟩
        · exact crc32_ne (inPayload.mono (by decide)) (wr32_injective stored)
        · exact inCrc.ne rfl
  | cut split some =>
      rw [whole] at split
      exact some (wrEnvelope_extended fits addressable split.symm)
  | extended some => exact some (wrEnvelope_extended addressable fits whole)

/-- A short change of the payload behind an unchanged header and before an
unchanged checksum. -/
private theorem changed_payload_refused {payload changed : Bytes}
    (burst : Crc.Burst 4 payload changed) (target : Impl Binary64) :
    (target.load (some (envelopeHeader payload ++
      (changed ++ wr32 (crc32 payload))))).1 = false := by
  by_contra accepted
  rw [Bool.not_eq_false] at accepted
  obtain ⟨other, -, whole⟩ := envelope_of_load accepted
  have lengths := congrArg List.length whole
  simp only [wrEnvelope_eq, List.length_append, envelopeHeader_length, wr32_length] at lengths
  rw [wrEnvelope_eq] at whole
  obtain ⟨-, whole⟩ := List.append_inj whole (by rw [envelopeHeader_length, envelopeHeader_length])
  obtain ⟨rfl, stored⟩ := List.append_inj whole (by omega)
  exact crc32_ne burst (wr32_injective stored)

/-! ## Frames -/

private theorem encodeFrame_extended {first second : Frame} {suffix : Bytes}
    (firstWithin : first.body.length ≤ maxFrameBody)
    (secondWithin : second.body.length ≤ maxFrameBody)
    (begins : encodeFrame first ++ suffix = encodeFrame second) : suffix = [] := by
  have lengths := congrArg List.length begins
  rw [List.length_append, encodeFrame, encodeFrame, wrFrame_length, wrFrame_length] at lengths
  simp only [encodeFrame, wrFrame, List.flatten_cons, List.append_assoc] at begins
  obtain ⟨-, begins⟩ := List.append_inj begins rfl
  obtain ⟨-, begins⟩ := List.append_inj begins rfl
  obtain ⟨-, begins⟩ := List.append_inj begins rfl
  obtain ⟨word, -⟩ := List.append_inj begins (by rw [wr32_length, wr32_length])
  have same : first.body.length = second.body.length := by
    rw [← toNat_bodyLen firstWithin, wr32_injective word, toNat_bodyLen secondWithin]
  exact List.eq_nil_of_length_eq_zero (by omega)

private theorem encodeFrame_single {first second : Frame}
    (single : Crc.Burst 1 (encodeFrame first) (encodeFrame second)) : False := by
  have lengths := single.length_eq
  rw [encodeFrame, encodeFrame, wrFrame_length, wrFrame_length] at lengths
  have size : first.body.length = second.body.length := by omega
  simp only [encodeFrame, wrFrame, List.flatten_cons, List.flatten_nil, List.append_nil, size]
    at single
  rcases single.cut rfl with ⟨inMagic, -⟩ | ⟨-, single⟩
  · exact inMagic.ne rfl
  rcases single.cut rfl with ⟨inVersion, -⟩ | ⟨-, single⟩
  · exact inVersion.ne rfl
  rcases single.cut rfl with ⟨inType, behind⟩ | ⟨sameType, single⟩
  · obtain ⟨-, behind⟩ := List.append_inj behind rfl
    obtain ⟨body, stored⟩ := List.append_inj behind size
    have types := inType.append first.body
    have crc := wr32_injective stored
    rw [bodyCrc, bodyCrc, ← body] at crc
    exact crc32_ne (types.mono (by decide)) crc
  rcases single.cut rfl with ⟨inLength, -⟩ | ⟨-, single⟩
  · exact inLength.ne rfl
  rw [show first.type = second.type from (List.cons.inj sameType).1] at single
  rcases single.cut size with ⟨inBody, stored⟩ | ⟨body, inCrc⟩
  · exact crc32_ne ((inBody.cons second.type).mono (by decide)) (wr32_injective stored)
  · rw [body] at inCrc
    exact inCrc.ne rfl

private theorem damaged_frame_refused {frame : Frame} {changed : Bytes}
    (within : frame.body.length ≤ maxFrameBody) (damaged : Damaged (encodeFrame frame) changed) :
    ∃ text, decodeFrame changed = .error text := by
  cases decoded : decodeFrame changed with
  | error text => exact ⟨text, rfl⟩
  | ok other =>
      exfalso
      obtain ⟨fits, whole⟩ := decodeFrame_eq_ok.mp decoded
      cases damaged with
      | byte single =>
          rw [whole] at single
          exact encodeFrame_single single
      | cut split some =>
          rw [whole] at split
          exact some (encodeFrame_extended fits within split.symm)
      | extended some => exact some (encodeFrame_extended within fits whole)

/-! ## Detection -/

/-- Every damaged file is refused, every short change of its payload is, and
every damaged frame is. A file is a vector, so its size fits in 64 bits. -/
theorem tampering_detected :
    (∀ (state target : Impl Binary64) (changed : Bytes), (saveBytes state).length < 2 ^ 64 →
        Damaged (saveBytes state) changed → (target.load (some changed)).1 = false) ∧
      (∀ (state target : Impl Binary64) (changed : Bytes),
        Crc.Burst 4 (wrPayload state) changed →
          (target.load (some (envelopeHeader (wrPayload state) ++
            (changed ++ wr32 (crc32 (wrPayload state)))))).1 = false) ∧
      ∀ (frame : Frame) (changed : Bytes), frame.body.length ≤ maxFrameBody →
        Damaged (encodeFrame frame) changed → ∃ text, decodeFrame changed = .error text := by
  refine ⟨?_, fun state target changed burst => changed_payload_refused burst target,
    fun frame changed => damaged_frame_refused⟩
  intro state target changed addressable damaged
  rw [saveBytes, wrEnvelope_length] at addressable
  exact damaged_file_refused (by omega) damaged target

/-- Some bytes of a string are replaced by as many others. -/
private def replaced (place : Nat) (new original : Bytes) : Bytes :=
  original.take place ++ new ++ original.drop (place + new.length)

private theorem burst_replaced {place width : Nat} {new original : Bytes}
    (within : place + new.length ≤ original.length) (short : new.length ≤ width)
    (differ : (original.drop place).take new.length ≠ new) :
    Crc.Burst width original (replaced place new original) := by
  have size : ((original.drop place).take new.length).length = new.length := by
    rw [List.length_take, List.length_drop]
    omega
  refine ⟨original.take place, _, new, original.drop (place + new.length), ?_, rfl, size,
    size.trans_le short, differ⟩
  rw [List.append_assoc, ← List.drop_drop, List.take_append_drop, List.take_append_drop]

/-- An engine with a worker, a source, two domains and a flow that is admitted. -/
private def recordedEngine : Impl Binary64 :=
  execAll {} [(1, .registerWorker ⟨1⟩ ⟨1⟩), (1, .registerSource ⟨1⟩ ⟨1⟩),
    (1, .createDomain DomainKind.nicTx (.ofTheoretical 1000.0)),
    (1, .createDomain DomainKind.nicRx {}), (1, .declareFlow (.ofFirst 100)),
    (2, .admitFlow ⟨⟨1⟩, ⟨1⟩⟩)] Impl.fresh

private def admissionFrame : Frame := .ofType .admission (wrRef (⟨⟨1⟩, ⟨1⟩⟩ : EntityRef FlowTag))

private theorem recordedEngine_file : 200 ≤ (wrPayload recordedEngine).length ∧
    (saveBytes recordedEngine).length < 2 ^ 64 ∧
    ((saveBytes recordedEngine).drop 60).take 1 ≠ [255] ∧
    ((wrPayload recordedEngine).drop 100).take 4 ≠ [255, 0, 255, 0] ∧
    ((encodeFrame admissionFrame).drop 12).take 1 ≠ [255] := by
  decide +kernel

/-- Its file cut, with one other byte, with four other bytes of the payload, and a frame
with one other byte. -/
theorem recordedEngine_tampering :
    (Impl.fresh.load (some (saveBytes recordedEngine).dropLast)).1 = false ∧
      (Impl.fresh.load (some (replaced 60 [255] (saveBytes recordedEngine)))).1 = false ∧
      (Impl.fresh.load (some (envelopeHeader (wrPayload recordedEngine) ++
        (replaced 100 [255, 0, 255, 0] (wrPayload recordedEngine) ++
          wr32 (crc32 (wrPayload recordedEngine)))))).1 = false ∧
      ∃ text, decodeFrame (replaced 12 [255] (encodeFrame admissionFrame)) = .error text := by
  obtain ⟨long, addressable, otherByte, otherWord, otherBody⟩ := recordedEngine_file
  have size : (saveBytes recordedEngine).length = _ := wrEnvelope_length _
  have some : saveBytes recordedEngine ≠ [] := fun none => by simp [none] at size
  refine ⟨tampering_detected.1 recordedEngine _ _ addressable ?_,
    tampering_detected.1 recordedEngine _ _ addressable ?_,
    tampering_detected.2.1 recordedEngine _ _ ?_,
    tampering_detected.2.2 admissionFrame _ (by decide) ?_⟩
  · exact .cut (List.dropLast_append_getLast some).symm (by simp)
  · refine .byte (burst_replaced ?_ (Nat.le_refl 1) otherByte)
    rw [size, List.length_singleton]
    omega
  · exact burst_replaced (Nat.le_trans (by decide) long) (Nat.le_refl 4) otherWord
  · exact .byte (burst_replaced (by decide) (Nat.le_refl 1) otherBody)

end CongestionFabric
