import CongestionFabric.Coordinator.Request

/-!
Contract: frames as byte strings (`protocol.hpp`).

Owns the constants of the format, the encoder, the in-memory decoder with its
error texts, and the one fact every later argument uses: the decoder accepts
exactly the encodings of frames whose body keeps to the bound, and returns the
frame that was encoded.

Does not own: sockets, and what a frame asks for.
-/

namespace CongestionFabric

open Foundation
open Foundation.Reader

/-- `kMagic`. -/
def frameMagic : Bytes := ascii "CFP1"

/-- `kVersion`. -/
def frameVersion : UInt8 := 1

/-- `kMaxFrameBody`. -/
def maxFrameBody : Nat := 2 ^ 20

/-- `kHeaderBytes`. -/
def headerBytes : Nat := 10

/-- `kCrcBytes`. -/
def crcBytes : Nat := 4

/-- `body_crc`: over the type byte and the body. -/
def bodyCrc (type : UInt8) (body : Bytes) : UInt32 := crc32 (type :: body)

/-- The layout of a frame, with any version byte. -/
def wrFrame (version : UInt8) (frame : Frame) : Bytes :=
  [frameMagic, wr8 version, wr8 frame.type, wr32 (.ofNat frame.body.length), frame.body,
    wr32 (bodyCrc frame.type frame.body)].flatten

/-- `encode_frame`. -/
def encodeFrame (frame : Frame) : Bytes := wrFrame frameVersion frame

/-- The checks of `decode_frame`. The reader stops after the length; body and
checksum are taken from the buffer by their offsets. -/
def rdFrame (data : Bytes) : Reader Frame := do
  let magic ← bytes 4
  require (magic = frameMagic) "bad protocol magic"
  let version ← u8
  require (version = frameVersion) "unsupported protocol version"
  let type ← u8
  let bodyLen ← u32
  require (bodyLen.toNat ≤ maxFrameBody) "frame body too large"
  let left ← remaining
  require (left = bodyLen.toNat + crcBytes) "bad frame length"
  let body := (data.drop headerBytes).take bodyLen.toNat
  let stored := UInt32.ofNat (ofLittleEndian ((data.drop (headerBytes + bodyLen.toNat)).take 4))
  require (stored = bodyCrc type body) "frame checksum mismatch"
  pure ⟨type, body⟩

/-- `decode_frame`. -/
def decodeFrame (data : Bytes) : Except String Frame := (rdFrame data data).map Prod.fst

/-! ## The format -/

theorem wrFrame_eq (version : UInt8) (frame : Frame) :
    wrFrame version frame = frameMagic ++ version :: frame.type ::
      (wr32 (.ofNat frame.body.length) ++
        (frame.body ++ wr32 (bodyCrc frame.type frame.body))) := by
  simp [wrFrame, wr8]

theorem frameMagic_length : frameMagic.length = 4 := rfl

theorem wr32_length (value : UInt32) : (wr32 value).length = 4 := littleEndian_length 4 _

theorem wrFrame_length (version : UInt8) (frame : Frame) :
    (wrFrame version frame).length = headerBytes + frame.body.length + crcBytes := by
  rw [wrFrame_eq]
  simp only [List.length_append, List.length_cons, frameMagic_length, wr32_length, headerBytes,
    crcBytes]
  omega

/-- A bounded length is not changed by its 32-bit field. -/
theorem toNat_bodyLen {length : Nat} (within : length ≤ maxFrameBody) :
    (UInt32.ofNat length).toNat = length :=
  UInt32.toNat_ofNat_of_lt' (Nat.lt_of_le_of_lt within (by decide))

theorem ofNat_ofLittleEndian_wr32 (value : UInt32) :
    UInt32.ofNat (ofLittleEndian (wr32 value)) = value := by
  rw [wr32, ofLittleEndian_littleEndian value.toNat_lt, UInt32.ofNat_toNat]

/-- Body and checksum lie where the offsets of the decoder point. -/
private theorem fields_of_wrFrame (version : UInt8) {frame : Frame} {length : Nat}
    (size : length = frame.body.length) :
    ((wrFrame version frame).drop headerBytes).take length = frame.body ∧
      ((wrFrame version frame).drop (headerBytes + length)).take 4 =
        wr32 (bodyCrc frame.type frame.body) := by
  have header : wrFrame version frame = (frameMagic ++ version :: frame.type ::
      wr32 (.ofNat frame.body.length)) ++ (frame.body ++ wr32 (bodyCrc frame.type frame.body)) := by
    rw [wrFrame_eq]
    simp
  have headerLength : (frameMagic ++ version :: frame.type ::
      wr32 (.ofNat frame.body.length)).length = headerBytes := by
    simp only [List.length_append, List.length_cons, frameMagic_length, wr32_length, headerBytes]
  subst size
  constructor
  · rw [header, List.drop_left' headerLength, List.take_left' rfl]
  · rw [header, ← List.drop_drop, List.drop_left' headerLength, List.drop_left' rfl,
      List.take_of_length_le (Nat.le_of_eq (wr32_length _))]

/-- What a successful run of the decoder's checks has seen. -/
private theorem rdFrame_eq_ok {data rest : Bytes} {frame : Frame}
    (returned : rdFrame data data = .ok (frame, rest)) :
    frame.body.length ≤ maxFrameBody ∧ data = encodeFrame frame := by
  obtain ⟨magic, afterMagic, readMagic, returned⟩ := bind_eq_ok returned
  obtain ⟨⟨⟩, _, passedMagic, returned⟩ := bind_eq_ok returned
  obtain ⟨version, afterVersion, readVersion, returned⟩ := bind_eq_ok returned
  obtain ⟨⟨⟩, _, passedVersion, returned⟩ := bind_eq_ok returned
  obtain ⟨type, afterType, readType, returned⟩ := bind_eq_ok returned
  obtain ⟨bodyLen, afterLen, readLen, returned⟩ := bind_eq_ok returned
  obtain ⟨⟨⟩, _, passedBound, returned⟩ := bind_eq_ok returned
  obtain ⟨left, _, readLeft, returned⟩ := bind_eq_ok returned
  obtain ⟨⟨⟩, _, passedLeft, returned⟩ := bind_eq_ok returned
  obtain ⟨⟨⟩, _, passedCrc, returned⟩ := bind_eq_ok returned
  obtain ⟨rfl, rfl⟩ := Prod.mk.inj (Except.ok.inj returned)
  obtain ⟨isMagic, rfl⟩ := require_eq_ok.mp passedMagic
  obtain ⟨isVersion, rfl⟩ := require_eq_ok.mp passedVersion
  obtain ⟨within, rfl⟩ := require_eq_ok.mp passedBound
  obtain ⟨rfl, rfl⟩ := Prod.mk.inj (Except.ok.inj readLeft)
  obtain ⟨size, rfl⟩ := require_eq_ok.mp passedLeft
  obtain ⟨sameCrc, -⟩ := require_eq_ok.mp passedCrc
  rw [decide_eq_true_eq] at isMagic isVersion within size sameCrc
  subst isMagic isVersion
  obtain ⟨split, -⟩ := bytes_eq_ok.mp readMagic
  rw [u8_eq_ok.mp readVersion, u8_eq_ok.mp readType, u32_eq_ok.mp readLen] at split
  -- The bytes behind the header are the body and the stored checksum.
  have header : data.drop headerBytes = afterLen := by
    have length : (frameMagic ++ frameVersion :: type :: littleEndian 4 bodyLen.toNat).length =
        headerBytes := by
      simp [frameMagic_length, headerBytes]
    rw [split, show
      frameMagic ++ frameVersion :: type :: (littleEndian 4 bodyLen.toNat ++ afterLen) =
      (frameMagic ++ frameVersion :: type :: littleEndian 4 bodyLen.toNat) ++ afterLen by simp]
    exact List.drop_left' length
  rw [← List.drop_drop, header] at sameCrc
  have bodyLength : (afterLen.take bodyLen.toNat).length = bodyLen.toNat := by
    rw [List.length_take, size]
    omega
  have crcLength : (afterLen.drop bodyLen.toNat).length = 4 := by
    rw [List.length_drop, size, crcBytes]
    omega
  have stored :
      afterLen.drop bodyLen.toNat = wr32 (bodyCrc type (afterLen.take bodyLen.toNat)) := by
    have fits := ofLittleEndian_lt (afterLen.drop bodyLen.toNat)
    have written := littleEndian_ofLittleEndian (afterLen.drop bodyLen.toNat)
    rw [crcLength] at fits written
    rw [← sameCrc, List.take_of_length_le (Nat.le_of_eq crcLength), wr32,
      UInt32.toNat_ofNat_of_lt' fits, written]
  rw [header, bodyLength]
  refine ⟨within, ?_⟩
  rw [encodeFrame, wrFrame_eq, split, bodyLength, UInt32.ofNat_toNat, ← stored,
    List.take_append_drop]
  rfl

/-- The checks on the header pass for any buffer that has the body and its
checksum at the decoder's offsets. -/
private theorem rdFrame_wrFrame {data : Bytes} {frame : Frame} {length : Nat}
    (within : frame.body.length ≤ maxFrameBody) (size : length = frame.body.length)
    (body : (data.drop headerBytes).take length = frame.body)
    (stored : (data.drop (headerBytes + length)).take 4 =
      wr32 (bodyCrc frame.type frame.body)) :
    rdFrame data (encodeFrame frame) =
      .ok (frame, frame.body ++ wr32 (bodyCrc frame.type frame.body)) := by
  have fits := toNat_bodyLen within
  have magic : Reads (bytes 4) frameMagic frameMagic := reads_bytes frameMagic
  have readVersion : Reads u8 (wr8 frameVersion) frameVersion := reads_u8 frameVersion
  have readType : Reads u8 (wr8 frame.type) frame.type := reads_u8 frame.type
  have readLen : Reads u32 (wr32 (.ofNat frame.body.length)) (.ofNat frame.body.length) :=
    reads_u32 _
  unfold rdFrame encodeFrame wrFrame
  simp only [List.flatten_cons, List.flatten_nil, List.append_nil]
  rw [magic.run, run_require (by simp), readVersion.run, run_require (by simp), readType.run,
    readLen.run, run_require (by simpa [fits] using within), run_remaining,
    run_require (by simp [fits, wr32_length, crcBytes]), fits, ← size, body, stored,
    run_require (by simp [ofNat_ofLittleEndian_wr32])]
  rfl

/-- The decoder accepts the encodings of bounded frames and nothing else. -/
theorem decodeFrame_eq_ok {data : Bytes} {frame : Frame} :
    decodeFrame data = .ok frame ↔
      frame.body.length ≤ maxFrameBody ∧ data = encodeFrame frame := by
  constructor
  · intro decoded
    unfold decodeFrame at decoded
    cases returned : rdFrame data data with
    | error text =>
        rw [returned] at decoded
        exact absurd decoded (by simp [Except.map])
    | ok outcome =>
        rw [returned] at decoded
        obtain rfl := Except.ok.inj decoded
        exact rdFrame_eq_ok returned
  · rintro ⟨within, rfl⟩
    obtain ⟨body, stored⟩ := fields_of_wrFrame frameVersion (rfl : frame.body.length = _)
    have returned : rdFrame (encodeFrame frame) (encodeFrame frame) = _ :=
      rdFrame_wrFrame within rfl body stored
    rw [decodeFrame, returned]
    rfl

end CongestionFabric
