import CongestionFabric.Protocol.Frame

/-!
Contract: frames received from a socket (`net.hpp` and the two copies of
`recv_frame`, in `coordinator.cpp` and `cfworker.cpp`).

Owns the stream a socket delivers, `read_exact` over it, both receivers, what
each of them accepts, the reassembly of a list of frames whatever the chunks, and
the exact condition under which the receivers agree with `decode_frame`.

Of the socket it is assumed that `recv` returns the next bytes in order, at least
one of them until the stream ends. A failed `recv` is an end of the stream. The
coordinator reads the version byte and does not compare it.
-/

namespace CongestionFabric

open Foundation

/-! ## Sockets -/

/-- What a socket still delivers: a `recv` never crosses the end of a chunk. -/
abbrev Stream := List Bytes

/-- The chunks have at least one byte each. -/
def Stream.Proper (stream : Stream) : Prop := ∀ chunk ∈ stream, chunk ≠ []

/-- `recv` of at most `count` bytes; nothing means that the peer has closed. -/
def recv (count : Nat) (stream : Stream) : Bytes × Stream :=
  match stream with
  | [] => ([], [])
  | chunk :: rest =>
      if chunk.length ≤ count then (chunk, rest) else (chunk.take count, chunk.drop count :: rest)

/-- `read_exact`; `none` is its `false`. -/
def readExact (count : Nat) (stream : Stream) : Option (Bytes × Stream) :=
  if count = 0 then some ([], stream)
  else
    let received := recv count stream
    if received.1.length = 0 then none
    else
      match readExact (count - received.1.length) received.2 with
      | none => none
      | some (more, rest) => some (received.1 ++ more, rest)
termination_by count
decreasing_by
  have positive : (recv count stream).1.length ≠ 0 := by assumption
  omega

/-- The read of a body: an empty one is not read at all. -/
def readBody (count : Nat) (stream : Stream) : Option (Bytes × Stream) :=
  if count = 0 then some ([], stream) else readExact count stream

/-- The header fields `recv_frame` takes by their offsets. -/
def headerType (header : Bytes) : UInt8 := header.getD 5 0

def headerVersion (header : Bytes) : UInt8 := header.getD 4 0

def headerBodyLen (header : Bytes) : UInt32 := .ofNat (ofLittleEndian ((header.drop 6).take 4))

namespace Coordinator

/-- `recv_frame` of the coordinator: the version byte is read and not used. -/
def recvFrame (stream : Stream) : Option (Frame × Stream) := do
  let (header, stream) ← readExact headerBytes stream
  if header.take 4 ≠ frameMagic then none
  else
    let bodyLen := (headerBodyLen header).toNat
    if bodyLen > maxFrameBody then none
    else
      let (body, stream) ← readBody bodyLen stream
      let (crc, stream) ← readExact 4 stream
      if bodyCrc (headerType header) body ≠ .ofNat (ofLittleEndian crc) then none
      else some (⟨headerType header, body⟩, stream)

end Coordinator

namespace Worker

/-- `recv_frame` of the worker. -/
def recvFrame (stream : Stream) : Option (Frame × Stream) := do
  let (header, stream) ← readExact headerBytes stream
  if header.take 4 ≠ frameMagic then none
  else if headerVersion header ≠ frameVersion then none
  else
    let bodyLen := (headerBodyLen header).toNat
    if bodyLen > maxFrameBody then none
    else
      let (body, stream) ← readBody bodyLen stream
      let (crc, stream) ← readExact 4 stream
      if bodyCrc (headerType header) body ≠ .ofNat (ofLittleEndian crc) then none
      else some (⟨headerType header, body⟩, stream)

end Worker

/-! ## Exact reads -/

theorem recv_flatten (count : Nat) (stream : Stream) :
    (recv count stream).1 ++ (recv count stream).2.flatten = stream.flatten := by
  unfold recv
  split
  · rfl
  · split
    · rfl
    · rw [List.flatten_cons, List.flatten_cons, ← List.append_assoc, List.take_append_drop]

theorem recv_length_le (count : Nat) (stream : Stream) : (recv count stream).1.length ≤ count := by
  unfold recv
  split
  · exact Nat.zero_le _
  · split
    · assumption
    · exact List.length_take_le _ _

theorem Stream.Proper.recv {stream : Stream} (proper : stream.Proper) (count : Nat) :
    (recv count stream).2.Proper := by
  unfold CongestionFabric.recv
  split
  · exact proper
  · next chunk rest =>
    split
    · exact fun later member => proper later (List.mem_cons_of_mem _ member)
    · next long =>
      intro later member
      rcases List.mem_cons.mp member with rfl | inside
      · intro empty
        rw [List.drop_eq_nil_iff] at empty
        exact long empty
      · exact proper later (List.mem_cons_of_mem _ inside)

/-- As long as something is to come, `recv` returns some of it. -/
theorem Stream.Proper.recv_ne_nil {stream : Stream} (proper : stream.Proper) {count : Nat}
    (positive : count ≠ 0) (more : stream.flatten ≠ []) :
    (CongestionFabric.recv count stream).1 ≠ [] := by
  unfold CongestionFabric.recv
  split
  · exact absurd rfl more
  · next chunk rest =>
    have some := proper chunk (List.mem_cons_self ..)
    split
    · exact some
    · intro empty
      rcases List.take_eq_nil_iff.mp empty with zero | nothing
      · exact positive zero
      · exact some nothing

/-- `read_exact` returns the next bytes, whatever the chunks, or fails because
there are fewer. -/
theorem readExact_eq_some {count : Nat} {stream rest : Stream} {read : Bytes}
    (proper : stream.Proper) (returned : readExact count stream = some (read, rest)) :
    read.length = count ∧ stream.flatten = read ++ rest.flatten ∧ rest.Proper := by
  induction count using Nat.strongRecOn generalizing stream read with
  | ind count inductionHypothesis =>
      rw [readExact] at returned
      dsimp only at returned
      split_ifs at returned with zero closed
      · obtain ⟨rfl, rfl⟩ := Prod.mk.inj (Option.some.inj returned)
        exact ⟨zero.symm, rfl, proper⟩
      · have below := recv_length_le count stream
        split at returned
        · exact absurd returned (by simp)
        · next more left recursive =>
          obtain ⟨rfl, rfl⟩ := Prod.mk.inj (Option.some.inj returned)
          obtain ⟨length, split, properLeft⟩ :=
            inductionHypothesis _ (by omega) (proper.recv count) recursive
          refine ⟨?_, ?_, properLeft⟩
          · rw [List.length_append]
            omega
          · rw [← recv_flatten count stream, split, List.append_assoc]

theorem readExact_of_length_le {count : Nat} {stream : Stream} (proper : stream.Proper)
    (enough : count ≤ stream.flatten.length) :
    ∃ read rest, readExact count stream = some (read, rest) := by
  induction count using Nat.strongRecOn generalizing stream with
  | ind count inductionHypothesis =>
      rw [readExact]
      dsimp only
      split_ifs with zero closed
      · exact ⟨_, _, rfl⟩
      · have more : stream.flatten ≠ [] := by
          intro empty
          rw [empty, List.length_nil] at enough
          exact zero (Nat.le_zero.mp enough)
        exact absurd (List.eq_nil_of_length_eq_zero closed) (proper.recv_ne_nil zero more)
      · have below := recv_length_le count stream
        have flat := congrArg List.length (recv_flatten count stream)
        rw [List.length_append] at flat
        obtain ⟨read, rest, recursive⟩ :=
          inductionHypothesis (count - (recv count stream).1.length) (by omega)
            (proper.recv count) (by omega)
        rw [recursive]
        exact ⟨_, _, rfl⟩

/-! ## What the receivers accept -/

/-- Both receivers, with the versions they take. -/
private def recvFrameWith (accepts : UInt8 → Bool) (stream : Stream) : Option (Frame × Stream) := do
  let (header, stream) ← readExact headerBytes stream
  if header.take 4 ≠ frameMagic then none
  else if accepts (headerVersion header) = false then none
  else
    let bodyLen := (headerBodyLen header).toNat
    if bodyLen > maxFrameBody then none
    else
      let (body, stream) ← readBody bodyLen stream
      let (crc, stream) ← readExact 4 stream
      if bodyCrc (headerType header) body ≠ .ofNat (ofLittleEndian crc) then none
      else some (⟨headerType header, body⟩, stream)

private theorem coordinator_eq : Coordinator.recvFrame = recvFrameWith fun _ => true := rfl

private theorem worker_eq :
    Worker.recvFrame = recvFrameWith fun version => decide (version = frameVersion) := by
  funext stream
  unfold Worker.recvFrame recvFrameWith
  simp only [decide_eq_false_iff_not]

/-- The ten bytes before the body. -/
private def wrHeader (version type : UInt8) (bodyLen : UInt32) : Bytes :=
  frameMagic ++ version :: type :: wr32 bodyLen

private theorem wrHeader_length (version type : UInt8) (bodyLen : UInt32) :
    (wrHeader version type bodyLen).length = headerBytes := by
  simp [wrHeader, frameMagic_length, wr32_length, headerBytes]

private theorem wrFrame_eq_header (version : UInt8) (frame : Frame) :
    wrFrame version frame = wrHeader version frame.type (.ofNat frame.body.length) ++
      (frame.body ++ wr32 (bodyCrc frame.type frame.body)) := by
  rw [wrFrame_eq, wrHeader]
  simp

private theorem header_fields (version type : UInt8) (bodyLen : UInt32) :
    (wrHeader version type bodyLen).take 4 = frameMagic ∧
      headerVersion (wrHeader version type bodyLen) = version ∧
      headerType (wrHeader version type bodyLen) = type ∧
      headerBodyLen (wrHeader version type bodyLen) = bodyLen := by
  refine ⟨rfl, rfl, rfl, ?_⟩
  change UInt32.ofNat (ofLittleEndian ((wr32 bodyLen).take 4)) = bodyLen
  rw [List.take_of_length_le (Nat.le_of_eq (wr32_length bodyLen)), ofNat_ofLittleEndian_wr32]

/-- Four bytes are the word they denote. -/
private theorem wr32_ofLittleEndian {read : Bytes} (four : read.length = 4) :
    wr32 (.ofNat (ofLittleEndian read)) = read := by
  have fits := ofLittleEndian_lt read
  have written := littleEndian_ofLittleEndian read
  rw [four] at fits written
  rw [wr32, UInt32.toNat_ofNat_of_lt' fits, written]

private theorem header_eq {header : Bytes} (ten : header.length = headerBytes)
    (magic : header.take 4 = frameMagic) :
    header = wrHeader (headerVersion header) (headerType header) (headerBodyLen header) := by
  match header, ten with
  | [a, b, c, d, version, type, first, second, third, fourth], _ =>
      have word : wr32 (headerBodyLen [a, b, c, d, version, type, first, second, third, fourth]) =
          [first, second, third, fourth] := wr32_ofLittleEndian rfl
      rw [wrHeader, word, ← magic]
      rfl

theorem readBody_eq (count : Nat) (stream : Stream) :
    readBody count stream = readExact count stream := by
  unfold readBody
  split
  · next zero =>
    rw [zero, readExact, if_pos rfl]
  · rfl

private theorem wire_of_recvFrameWith {accepts : UInt8 → Bool} {stream rest : Stream}
    {frame : Frame} (proper : stream.Proper)
    (returned : recvFrameWith accepts stream = some (frame, rest)) :
    frame.body.length ≤ maxFrameBody ∧ rest.Proper ∧
      ∃ version, accepts version = true ∧
        stream.flatten = wrFrame version frame ++ rest.flatten := by
  obtain ⟨⟨header, afterHeader⟩, readHeader, returned⟩ := Option.bind_eq_some_iff.mp returned
  simp only [readBody_eq] at returned
  split_ifs at returned with magic refused long
  obtain ⟨⟨body, afterBody⟩, readWhole, returned⟩ := Option.bind_eq_some_iff.mp returned
  obtain ⟨⟨crc, afterCrc⟩, readCrc, returned⟩ := Option.bind_eq_some_iff.mp returned
  dsimp only at returned
  split_ifs at returned with mismatch
  obtain ⟨rfl, rfl⟩ := Prod.mk.inj (Option.some.inj returned)
  obtain ⟨ten, splitHeader, proper⟩ := readExact_eq_some proper readHeader
  obtain ⟨size, splitBody, proper⟩ := readExact_eq_some proper readWhole
  obtain ⟨four, splitCrc, proper⟩ := readExact_eq_some proper readCrc
  have stored := wr32_ofLittleEndian four
  rw [← not_not.mp mismatch] at stored
  refine ⟨show body.length ≤ maxFrameBody by omega, proper, headerVersion header,
    by simpa using refused, ?_⟩
  rw [splitHeader, splitBody, splitCrc, wrFrame_eq_header, size, UInt32.ofNat_toNat, stored,
    ← header_eq ten (not_not.mp magic), List.append_assoc, List.append_assoc]

private theorem recvFrameWith_of_wire {accepts : UInt8 → Bool} {stream : Stream} {frame : Frame}
    {version : UInt8} {tail : Bytes} (proper : stream.Proper) (accepted : accepts version = true)
    (within : frame.body.length ≤ maxFrameBody)
    (wire : stream.flatten = wrFrame version frame ++ tail) :
    ∃ rest, recvFrameWith accepts stream = some (frame, rest) ∧ rest.flatten = tail := by
  have fits := toNat_bodyLen within
  rw [wrFrame_eq_header, List.append_assoc, List.append_assoc] at wire
  have lengths := congrArg List.length wire
  simp only [List.length_append, wrHeader_length, wr32_length] at lengths
  obtain ⟨header, afterHeader, readHeader⟩ := readExact_of_length_le proper
    (show headerBytes ≤ stream.flatten.length by omega)
  obtain ⟨ten, split, properHeader⟩ := readExact_eq_some proper readHeader
  obtain ⟨rfl, wire⟩ := List.append_inj (split.symm.trans wire) (by rw [ten, wrHeader_length])
  obtain ⟨body, afterBody, readWhole⟩ := readExact_of_length_le properHeader
    (show frame.body.length ≤ afterHeader.flatten.length by rw [wire, List.length_append]; omega)
  obtain ⟨size, split, properBody⟩ := readExact_eq_some properHeader readWhole
  obtain ⟨rfl, wire⟩ := List.append_inj (split.symm.trans wire) size
  obtain ⟨crc, rest, readCrc⟩ := readExact_of_length_le properBody
    (show 4 ≤ afterBody.flatten.length by rw [wire, List.length_append, wr32_length]; omega)
  obtain ⟨four, split, -⟩ := readExact_eq_some properBody readCrc
  obtain ⟨rfl, wire⟩ := List.append_inj (split.symm.trans wire) (by rw [four, wr32_length])
  refine ⟨rest, ?_, wire⟩
  obtain ⟨magic, isVersion, isType, isLength⟩ := header_fields version frame.type
    (.ofNat frame.body.length)
  unfold recvFrameWith
  simp only [readHeader, Option.bind_eq_bind, Option.bind_some, magic, isVersion, isType, isLength,
    fits, accepted, readBody_eq, readWhole, readCrc, ofNat_ofLittleEndian_wr32, ne_eq,
    not_true_eq_false, if_false, Bool.true_eq_false, gt_iff_lt, Nat.not_lt.mpr within]

/-! ## Reassembly -/

/-- The loop around `recv_frame`, for at most a number of frames: the frames it
delivers and what it leaves. -/
def drain (recvFrame : Stream → Option (Frame × Stream)) : Nat → Stream → List Frame × Stream
  | 0, stream => ([], stream)
  | bound + 1, stream =>
      match recvFrame stream with
      | none => ([], stream)
      | some (frame, rest) =>
          let later := drain recvFrame bound rest
          (frame :: later.1, later.2)

private theorem Stream.Proper.eq_nil {stream : Stream} (proper : stream.Proper)
    (empty : stream.flatten = []) : stream = [] := by
  cases stream with
  | nil => rfl
  | cons chunk rest =>
      rw [List.flatten_cons, List.append_eq_nil_iff] at empty
      exact absurd empty.1 (proper chunk (List.mem_cons_self ..))

private theorem drain_encoded {accepts : UInt8 → Bool} (accepted : accepts frameVersion = true)
    {frames : List Frame} (within : ∀ frame ∈ frames, frame.body.length ≤ maxFrameBody) :
    ∀ {stream : Stream} {bound : Nat}, stream.Proper →
      stream.flatten = frames.flatMap encodeFrame → frames.length < bound →
        drain (recvFrameWith accepts) bound stream = (frames, []) := by
  induction frames with
  | nil =>
      intro stream bound proper wire positive
      obtain rfl := proper.eq_nil wire
      cases bound with
      | zero => exact absurd positive (Nat.not_lt_zero _)
      | succ bound =>
          have closed : readExact headerBytes [] = none := by
            rw [readExact]
            rfl
          rw [drain, recvFrameWith, closed]
          rfl
  | cons frame frames inductionHypothesis =>
      intro stream bound proper wire positive
      cases bound with
      | zero => exact absurd positive (Nat.not_lt_zero _)
      | succ bound =>
          rw [List.flatMap_cons] at wire
          obtain ⟨rest, received, left⟩ :=
            recvFrameWith_of_wire proper accepted (within frame (List.mem_cons_self ..)) wire
          obtain ⟨-, properRest, -⟩ := wire_of_recvFrameWith proper received
          have later := inductionHypothesis
            (fun other member => within other (List.mem_cons_of_mem _ member))
            properRest left (Nat.lt_of_succ_lt_succ positive)
          rw [drain, received]
          dsimp only
          rw [later]

/-- Encoding and decoding are inverse to each other, and whatever chunks the
transport makes of the encodings of a list of frames, both receivers deliver that
list and leave nothing. -/
theorem frames_reassembled :
    (∀ frame : Frame, frame.body.length ≤ maxFrameBody →
        decodeFrame (encodeFrame frame) = .ok frame) ∧
      (∀ (data : Bytes) (frame : Frame), decodeFrame data = .ok frame →
        encodeFrame frame = data) ∧
      ∀ (frames : List Frame) (stream : Stream),
        (∀ frame ∈ frames, frame.body.length ≤ maxFrameBody) → stream.Proper →
        stream.flatten = frames.flatMap encodeFrame → ∀ bound > frames.length,
          drain Coordinator.recvFrame bound stream = (frames, []) ∧
            drain Worker.recvFrame bound stream = (frames, []) := by
  refine ⟨fun frame within => decodeFrame_eq_ok.mpr ⟨within, rfl⟩,
    fun data frame decoded => (decodeFrame_eq_ok.mp decoded).2.symm, ?_⟩
  intro frames stream within proper wire bound enough
  rw [coordinator_eq, worker_eq]
  exact ⟨drain_encoded rfl within proper wire enough,
    drain_encoded (decide_eq_true rfl) within proper wire enough⟩

private def helloFrame : Frame := .ofType .hello [1, 2, 3]

private def shutdownFrame : Frame := .ofType .shutdown []

/-- Two frames in chunks that fit neither of them. -/
theorem helloShutdown_reassembled :
    let sent := encodeFrame helloFrame ++ encodeFrame shutdownFrame
    drain Coordinator.recvFrame 3 [sent.take 3, (sent.drop 3).take 16, sent.drop 19] =
        ([helloFrame, shutdownFrame], []) ∧
      drain Worker.recvFrame 3 [sent.take 3, (sent.drop 3).take 16, sent.drop 19] =
        ([helloFrame, shutdownFrame], []) := by
  refine frames_reassembled.2.2 [helloFrame, shutdownFrame] _ ?_ ?_ ?_ 3 (by decide)
  · decide
  · intro chunk member empty
    revert empty
    revert chunk
    decide
  · decide

/-! ## Agreement of the decoders -/

/-- The receiver returns a frame after consuming some bytes exactly if these
bytes begin the stream and `decode_frame` returns that frame for them. -/
def AgreesWithDecoder (recvFrame : Stream → Option (Frame × Stream)) (stream : Stream) : Prop :=
  ∀ (consumed : Bytes) (frame : Frame),
    (∃ rest, recvFrame stream = some (frame, rest) ∧
        stream.flatten = consumed ++ rest.flatten) ↔
      consumed <+: stream.flatten ∧ decodeFrame consumed = .ok frame

/-- The fifth byte of the input is the version, or the input would not begin
with a frame even if it were. -/
def VersionHarmless (input : Bytes) : Prop :=
  input[4]? = some frameVersion ∨
    ∀ (consumed : Bytes) (frame : Frame), consumed <+: input.set 4 frameVersion →
      decodeFrame consumed ≠ .ok frame

theorem wrFrame_set (version other : UInt8) (frame : Frame) (tail : Bytes) :
    (wrFrame version frame ++ tail).set 4 other = wrFrame other frame ++ tail := by
  rw [wrFrame_eq, wrFrame_eq]
  rfl

theorem wrFrame_getElem? (version : UInt8) (frame : Frame) (tail : Bytes) :
    (wrFrame version frame ++ tail)[4]? = some version := by
  rw [wrFrame_eq]
  rfl

/-- A receiver that takes the version of the format delivers every frame the
decoder accepts. -/
private theorem recvFrameWith_of_decoded {accepts : UInt8 → Bool}
    (accepted : accepts frameVersion = true) {stream : Stream} (proper : stream.Proper)
    {consumed : Bytes} {frame : Frame} (begins : consumed <+: stream.flatten)
    (decoded : decodeFrame consumed = .ok frame) :
    ∃ rest, recvFrameWith accepts stream = some (frame, rest) ∧
      stream.flatten = consumed ++ rest.flatten := by
  obtain ⟨within, rfl⟩ := decodeFrame_eq_ok.mp decoded
  obtain ⟨tail, wire⟩ := begins
  obtain ⟨rest, received, rfl⟩ := recvFrameWith_of_wire proper accepted within wire.symm
  exact ⟨rest, received, wire.symm⟩

/-- What a receiver takes for a frame of the right version is one. -/
private theorem decoded_of_wire {stream rest : Stream} {consumed : Bytes} {frame : Frame}
    (within : frame.body.length ≤ maxFrameBody)
    (wire : stream.flatten = wrFrame frameVersion frame ++ rest.flatten)
    (split : stream.flatten = consumed ++ rest.flatten) :
    consumed <+: stream.flatten ∧ decodeFrame consumed = .ok frame := by
  obtain rfl := List.append_cancel_right (split.symm.trans wire)
  exact ⟨⟨rest.flatten, split.symm⟩, decodeFrame_eq_ok.mpr ⟨within, rfl⟩⟩

private theorem worker_agrees {stream : Stream} (proper : stream.Proper) :
    AgreesWithDecoder Worker.recvFrame stream := by
  rw [worker_eq]
  intro consumed frame
  constructor
  · rintro ⟨rest, received, split⟩
    obtain ⟨within, -, version, isVersion, wire⟩ := wire_of_recvFrameWith proper received
    rw [of_decide_eq_true isVersion] at wire
    exact decoded_of_wire within wire split
  · rintro ⟨begins, decoded⟩
    exact recvFrameWith_of_decoded (decide_eq_true rfl) proper begins decoded

private theorem coordinator_agrees_iff {stream : Stream} (proper : stream.Proper) :
    AgreesWithDecoder Coordinator.recvFrame stream ↔ VersionHarmless stream.flatten := by
  rw [coordinator_eq]
  constructor
  · intro agrees
    unfold VersionHarmless
    rw [or_iff_not_imp_right]
    intro frames
    simp only [not_forall, not_not] at frames
    obtain ⟨consumed, frame, ⟨tail, begins⟩, decoded⟩ := frames
    obtain ⟨within, rfl⟩ := decodeFrame_eq_ok.mp decoded
    -- The stream is that frame with its own version byte, which the coordinator ignores.
    have long : 4 < stream.flatten.length := by
      have lengths := congrArg List.length begins
      rw [List.length_append, encodeFrame, wrFrame_length, List.length_set] at lengths
      simp only [headerBytes] at lengths
      omega
    have wire : stream.flatten = wrFrame stream.flatten[4] frame ++ tail := by
      rw [← wrFrame_set frameVersion, ← encodeFrame, begins, List.set_set, List.set_getElem_self]
    have taken : ∃ rest, recvFrameWith (fun _ => true) stream = some (frame, rest) ∧
        rest.flatten = tail := recvFrameWith_of_wire proper rfl within wire
    obtain ⟨rest, received, rfl⟩ := taken
    have accepted := ((agrees _ frame).mp ⟨rest, received, wire⟩).2
    have same := (decodeFrame_eq_ok.mp accepted).2
    have version := wrFrame_getElem? stream.flatten[4] frame []
    rw [same, encodeFrame, wrFrame_getElem?] at version
    rw [List.getElem?_eq_getElem long, ← Option.some.inj version]
  · intro harmless consumed frame
    constructor
    · rintro ⟨rest, received, split⟩
      obtain ⟨within, -, version, -, wire⟩ := wire_of_recvFrameWith proper received
      have isVersion : version = frameVersion := by
        rcases harmless with right | nothing
        · rw [wire, wrFrame_getElem?] at right
          exact Option.some.inj right
        · rw [wire, wrFrame_set] at nothing
          exact absurd (decodeFrame_eq_ok.mpr ⟨within, rfl⟩)
            (nothing _ frame (List.prefix_append _ _))
      rw [isVersion] at wire
      exact decoded_of_wire within wire split
    · rintro ⟨begins, decoded⟩
      exact recvFrameWith_of_decoded rfl proper begins decoded

/-- The three decoders agree on a stream exactly if the version byte that the
coordinator does not compare cannot make a difference. -/
theorem decoders_agree_iff (stream : Stream) (proper : stream.Proper) :
    AgreesWithDecoder Coordinator.recvFrame stream ∧ AgreesWithDecoder Worker.recvFrame stream ↔
      VersionHarmless stream.flatten := by
  rw [coordinator_agrees_iff proper]
  exact and_iff_left (worker_agrees proper)

private theorem proper_singleton {chunk : Bytes} (nonempty : chunk ≠ []) :
    Stream.Proper [chunk] := by
  intro other member
  rw [List.mem_singleton.mp member]
  exact nonempty

theorem helloFrame_agreed :
    AgreesWithDecoder Coordinator.recvFrame [encodeFrame helloFrame] ∧
      AgreesWithDecoder Worker.recvFrame [encodeFrame helloFrame] :=
  (decoders_agree_iff [encodeFrame helloFrame] (proper_singleton (by decide))).mpr
    (Or.inl (by decide))

/-- The coordinator delivers a SHUTDOWN of version 2. -/
theorem secondVersion_delivered :
    ¬∀ stream : Stream, stream.Proper → AgreesWithDecoder Coordinator.recvFrame stream ∧
      AgreesWithDecoder Worker.recvFrame stream := by
  intro always
  have agrees := (always [wrFrame 2 shutdownFrame] (proper_singleton (by decide))).1
  rw [coordinator_agrees_iff (proper_singleton (by decide))] at agrees
  rcases agrees with version | nothing
  · exact absurd version (by decide)
  · exact nothing (encodeFrame shutdownFrame) shutdownFrame (List.prefix_refl _)
      (decodeFrame_eq_ok.mpr ⟨by decide, rfl⟩)

end CongestionFabric
