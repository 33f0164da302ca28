import CongestionFabric.Foundation.Buffer
import CongestionFabric.Persistence.Snapshot

/-!
Contract: the loader on the memory it reads from (`persist::Reader` and `load`).

Owns the cursor of every reader of the format, the envelope as the source checks
it on the buffer of the file, `load` with every access made explicit, and the
theorem that it makes no access outside of its two buffers and returns what the
loader over byte lists returns.

Does not own: what an accepted file holds.
-/

namespace CongestionFabric

open Foundation

/-! ## Records -/

section Cursors

-- The answers of the instance search are as long as the records.
set_option synthInstance.maxSize 100000

variable {Tag BootTag E : Type}

instance : Buffered rdF64 := by
  delta rdF64
  infer_instance

instance : Buffered rdBool := by
  delta rdBool
  infer_instance

instance : Buffered rdStr := by
  delta rdStr
  infer_instance

instance : Buffered rdCount := by
  delta rdCount
  infer_instance

instance : Buffered (rdId : Reader (Id Tag)) := by
  delta rdId
  infer_instance

instance : Buffered (rdGeneration : Reader (Generation Tag)) := by
  delta rdGeneration
  infer_instance

instance : Buffered (rdRef : Reader (EntityRef Tag)) := by
  delta rdRef
  infer_instance

instance : Buffered (rdEnumUnchecked : Reader (Enum8 E)) := by
  delta rdEnumUnchecked
  infer_instance

instance [Enumeration E] (text : String) : Buffered (rdEnum text : Reader (Enum8 E)) := by
  delta rdEnum
  infer_instance

instance (text : String) : Buffered (rdCongestionState text) := by
  delta rdCongestionState
  infer_instance

instance : Buffered rdFlowState := by
  delta rdFlowState
  infer_instance

instance : Buffered rdProv := by
  delta rdProv
  infer_instance

instance : Buffered rdRate := by
  delta rdRate
  infer_instance

instance : Buffered rdCapacity := by
  delta rdCapacity
  infer_instance

instance (rdModel : Reader (Enum8 FairnessModel)) [Buffered rdModel] :
    Buffered (rdFairness rdModel) := by
  delta rdFairness
  infer_instance

instance : Buffered rdBytes := by
  delta rdBytes
  infer_instance

instance : Buffered rdFlow := by
  delta rdFlow
  infer_instance

instance (peakText outcomeText : String) : Buffered (rdEpisode peakText outcomeText) := by
  delta rdEpisode
  infer_instance

instance : Buffered rdHistoryEpisode := by
  delta rdHistoryEpisode
  infer_instance

instance (id : CongestionDomainId) : Buffered (rdDomain id) := by
  delta rdDomain
  infer_instance

instance (text : String) : Buffered (rdMapCount text) := by
  delta rdMapCount
  infer_instance

instance (countText invalidText duplicateText : String) :
    Buffered (rdBoots countText invalidText duplicateText :
      Reader (UnorderedMap (Id Tag) (Generation BootTag))) := by
  delta rdBoots
  infer_instance

instance : Buffered rdDomains := by
  delta rdDomains
  infer_instance

instance : Buffered rdFlows := by
  delta rdFlows
  infer_instance

instance : Buffered rdFields := by
  delta rdFields
  infer_instance

instance : Buffered rdPayload := by
  delta rdPayload
  infer_instance

end Cursors

/-! ## The envelope -/

/-- From the payload on: the payload is copied out, and its checksum is taken
over the buffer of the file, from a place found by subtraction. -/
def envelopeTail (length : UInt64) : Cursor Bytes := do
  let payload ← Cursor.bytes length
  let storedCrc ← Cursor.u32
  let trailing ← Cursor.remaining
  Cursor.require (trailing = 0) "trailing garbage"
  let offset ← Cursor.tell
  let checked ← Cursor.window (offset - length - 4) length
  Cursor.require (crc32 checked = storedCrc) "payload checksum mismatch"
  pure payload

/-- The envelope checks of `load`. -/
def envelopeCursor : Cursor Bytes := do
  let magic ← Cursor.bytes 8
  Cursor.require (magic = snapshotMagic) "bad magic"
  let version ← Cursor.u32
  Cursor.require (version = snapshotVersion) "unsupported version"
  let length ← Cursor.u64
  Cursor.require (length.toNat ≤ maxPayloadBytes) "payload too large"
  let lengthCrc ← Cursor.u32
  Cursor.require (crc32 (wr64 length) = lengthCrc) "length checksum mismatch"
  let left ← Cursor.remaining
  Cursor.require (!decide (left < length)) "truncated payload"
  envelopeTail length

section Envelope

variable {buffer : Bytes} {offset : UInt64}

/-- A checksum word is four bytes long. -/
private theorem u32_ok {later : UInt64} {value : UInt32} (size : buffer.length < 2 ^ 64)
    (within : offset.toNat ≤ buffer.length) (inside : later.toNat ≤ buffer.length)
    (read : Reader.u32 (buffer.drop offset.toNat) = .ok (value, buffer.drop later.toNat)) :
    later = offset + 4 := by
  have split := congrArg List.length (Reader.u32_eq_ok.mp read)
  rw [List.length_append, littleEndian_length, List.length_drop, List.length_drop] at split
  have four : (4 : UInt64).toNat = 4 := rfl
  rw [← UInt64.toNat_inj, Cursor.toNat_advance size (by omega)]
  omega

/-- The place found by subtraction is where the payload was copied from. -/
private theorem payload_place (offset length : UInt64) :
    offset + length + 4 - length - 4 = offset := by
  rw [← UInt64.toBitVec_inj]
  simp only [UInt64.toBitVec_sub, UInt64.toBitVec_add]
  bv_omega

private theorem mirrors_envelopeTail (length : UInt64) :
    Mirrors (envelopeTail length) (do
      let payload ← Reader.bytes length.toNat
      let storedCrc ← Reader.u32
      let trailing ← Reader.remaining
      Reader.require (trailing = 0) "trailing garbage"
      Reader.require (crc32 payload = storedCrc) "payload checksum mismatch"
      pure payload) := by
  intro buffer offset size within
  change Access.Matches buffer _ ((Reader.bytes length.toNat _).bind _)
  by_cases inside : offset.toNat + length.toNat ≤ buffer.length
  · have copied := Cursor.bytes_eq_ok size inside
    have moved := Cursor.toNat_advance size inside
    have read : Reader.bytes length.toNat (buffer.drop offset.toNat) =
        .ok ((buffer.drop offset.toNat).take length.toNat,
          buffer.drop (offset + length).toNat) := by
      rw [Reader.bytes, if_neg (by rw [List.length_drop]; omega), List.drop_drop, moved]
    rw [envelopeTail, Cursor.bind_ok copied, read]
    change Access.Matches buffer _ ((Reader.u32 _).bind _)
    have matched := mirrors_u32 buffer (offset + length) size (moved ▸ inside)
    generalize ran : Cursor.u32 buffer (offset + length) = access at matched
    generalize stored : Reader.u32 (buffer.drop (offset + length).toNat) = outcome at matched ⊢
    cases matched with
    | corrupt text =>
        rw [Cursor.bind_corrupt ran]
        exact .corrupt text
    | ok storedCrc later last =>
        obtain rfl := u32_ok size (moved ▸ inside) last stored
        rw [Cursor.bind_ok ran]
        have ended : decide (UInt64.ofNat buffer.length - (offset + length + 4) = 0) =
            decide ((buffer.drop (offset + length + 4).toNat).length = 0) := by
          rw [decide_eq_decide, ← UInt64.toNat_inj, Cursor.toNat_left size last, List.length_drop]
          rfl
        change Access.Matches buffer
          ((Cursor.require (decide (UInt64.ofNat buffer.length - (offset + length + 4) = 0)) _ >>=
            fun _ => _) buffer (offset + length + 4))
          ((Reader.require (decide ((buffer.drop (offset + length + 4).toNat).length = 0)) _ >>=
            fun _ => _) _)
        rw [ended]
        cases decide ((buffer.drop (offset + length + 4).toNat).length = 0) with
        | false => exact .corrupt _
        | true =>
            have windowed : Cursor.window (offset + length + 4 - length - 4) length buffer
                (offset + length + 4) =
                  .ok ((buffer.drop offset.toNat).take length.toNat) (offset + length + 4) := by
              rw [payload_place]
              exact if_pos inside
            change Access.Matches buffer
              ((Cursor.window (offset + length + 4 - length - 4) length >>= fun _ => _) buffer
                (offset + length + 4)) _
            rw [Cursor.bind_ok windowed]
            exact ((mirrors_require _ _).bind fun _ => mirrors_pure _) buffer
              (offset + length + 4) size last
  · have thrown := Cursor.bytes_eq_corrupt size within (Nat.lt_of_not_le inside)
    rw [envelopeTail, Cursor.bind_corrupt thrown, Reader.bytes,
      if_pos (by rw [List.length_drop]; omega)]
    exact .corrupt _

/-- What is left is compared with the length as machine words. -/
private theorem mirrors_left {B : Type} {length : UInt64} {follow : Cursor B} {next : Reader B}
    (tail : Mirrors follow next) :
    Mirrors (do
        let left ← Cursor.remaining
        Cursor.require (!decide (left < length)) "truncated payload"
        follow) (do
        let left ← Reader.remaining
        Reader.require (length.toNat ≤ left) "truncated payload"
        next) := by
  intro buffer offset size within
  have enough : (!decide (UInt64.ofNat buffer.length - offset < length)) =
      decide (length.toNat ≤ (buffer.drop offset.toNat).length) := by
    rw [← decide_not, decide_eq_decide, UInt64.lt_iff_toNat_lt, Cursor.toNat_left size within,
      List.length_drop]
    omega
  change Access.Matches buffer
    ((Cursor.require (!decide (UInt64.ofNat buffer.length - offset < length)) _ >>= fun _ => _)
      buffer offset) _
  rw [enough]
  exact ((mirrors_require _ _).bind fun _ => tail) buffer offset size within

theorem mirrors_envelope : Mirrors envelopeCursor rdEnvelope :=
  (mirrors_bytes 8).bind fun _ => (mirrors_require _ _).bind fun _ =>
    mirrors_u32.bind fun _ => (mirrors_require _ _).bind fun _ =>
    mirrors_u64.bind fun length => (mirrors_require _ _).bind fun _ =>
    mirrors_u32.bind fun _ => (mirrors_require _ _).bind fun _ =>
    mirrors_left (mirrors_envelopeTail length)

end Envelope

/-! ## Loading -/

/-- `load` on the buffer that the file was read into and the one that the payload
is copied to; `none` if it touches memory outside of them. -/
def Impl.loadBuffer (file : Option Bytes) (state : Impl Binary64) :
    Option (Bool × Impl Binary64) :=
  match file with
  | none => some (false, state)
  | some buffer =>
      if buffer.length = 0 || buffer.length > 2 ^ 30 then some (false, state)
      else
        match envelopeCursor buffer 0 with
        | .fault => none
        | .corrupt _ => some (false, state)
        | .ok payload _ =>
            match Buffered.cursor rdPayload payload 0 with
            | .fault => none
            | .corrupt _ => some (false, state)
            | .ok persisted _ => some (true, (state.commit persisted).afterRestart)

/-- A payload is as long as its length word says. -/
private theorem yields_rdEnvelope : Reader.Yields rdEnvelope fun payload =>
    payload.length < 2 ^ 64 :=
  .after fun _ => .after fun _ => .after fun _ => .after fun _ => .after fun length =>
    .after fun _ => .after fun _ => .after fun _ => .after fun _ => .after fun _ =>
    (Reader.yields_bytes length.toNat).bind fun _ exactly => .after fun _ => .after fun _ =>
    .after fun _ => .after fun _ => Reader.yields_pure (exactly ▸ length.toNat_lt)

/-- Whatever the file, the loader makes no access outside of its buffers. -/
theorem loadBuffer_eq (file : Option Bytes) (state : Impl Binary64) :
    state.loadBuffer file = some (state.load file) := by
  cases file with
  | none => rfl
  | some buffer =>
      unfold Impl.loadBuffer Impl.load
      rw [Option.bind_some, Impl.decode]
      dsimp only
      by_cases bounds : (buffer.length = 0 || buffer.length > 2 ^ 30) = true
      · rw [if_pos bounds, if_pos bounds]
      · rw [if_neg bounds, if_neg bounds]
        have size : buffer.length < 2 ^ 64 := by
          simp only [Bool.or_eq_true, decide_eq_true_eq, not_or] at bounds
          omega
        have envelope := mirrors_envelope buffer 0 size (Nat.zero_le _)
        change Access.Matches buffer _ (rdEnvelope buffer) at envelope
        generalize envelopeCursor buffer 0 = access at envelope ⊢
        generalize read : rdEnvelope buffer = outcome at envelope ⊢
        cases envelope with
        | corrupt text => rfl
        | ok payload offset within =>
            have small := yields_rdEnvelope _ _ _ read
            have mirrors : Mirrors (Buffered.cursor rdPayload) rdPayload := Buffered.mirrors
            have fields := mirrors payload 0 small (Nat.zero_le _)
            change Access.Matches payload _ (rdPayload payload) at fields
            dsimp only
            generalize Buffered.cursor rdPayload payload 0 = inner at fields ⊢
            generalize rdPayload payload = decoded at fields ⊢
            cases fields with
            | corrupt text => rfl
            | ok persisted offset within => rfl

end CongestionFabric
