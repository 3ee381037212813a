import Plank.Camera.Codec
import Plank.Transport.Bytes

/-!
# Two implementations of the camera records

`plank_transport_camera.h` and `plank_transport_camera_encoded.h` read and write the headers that
`camera.rs` and `camera_encoded.rs` do. They accept the same byte strings and read the same fields of
them, and neither version accepts a byte string of the other.
-/

namespace Plank.Camera

open Wire Transport

/-- `memcmp(record, "PCAM", 4)` finds no difference. -/
def startsPcam (record : List UInt8) : Bool := record.take 4 = [0x50, 0x43, 0x41, 0x4d]

/-- The four characters are a number. -/
theorem startsPcam_iff {record : List UInt8} (long : 4 ≤ record.length) :
    startsPcam record = true ↔ word record 0 4 = cameraMagic := by
  have size : (record.take 4).length = 4 := List.length_take_of_le long
  unfold startsPcam
  rw [decide_eq_true_eq]
  constructor
  · intro same
    show readBe (record.take 4) = cameraMagic
    rw [same]
    rfl
  · intro same
    have written := writeBe_readBe (record.take 4)
    rw [size, show readBe (record.take 4) = cameraMagic from same] at written
    rw [← written]
    decide

/-- A byte is compared as the number it is. -/
theorem byteAt_eq (record : List UInt8) (offset : Nat) (byte : UInt8) :
    byteAt record offset = byte ↔ word record offset 1 = byte.toNat := by
  rw [word_one, UInt8.toNat_inj]

/-- The size of the header is checked byte by byte, or as a number. -/
theorem size_iff {record : List UInt8} (long : headerBytes ≤ record.length) :
    (byteAt record 6 = 0 ∧ byteAt record 7 = 64) ↔ word record 6 2 = 64 := by
  have inside : 6 + 1 + 1 ≤ record.length := Nat.le_trans (by decide) long
  have low := word_lt record 7 1
  rw [byteAt_eq, byteAt_eq, word_add record 6 1 1 inside]
  show word record 6 1 = 0 ∧ word record 7 1 = 64 ↔
    word record 6 1 * 256 + word record 7 1 = 64
  omega

/-- A word is positive when it is not zero. -/
theorem word_positive (word : UInt64) : word > 0 ↔ word ≠ 0 := by
  rw [gt_iff_lt, UInt64.lt_iff_toNat_lt, show UInt64.toNat 0 = 0 from rfl, Nat.pos_iff_ne_zero,
    ne_eq, ne_eq, ← UInt64.toNat_inj]
  rfl

namespace Native

/-- `PlankCameraHeader`. -/
structure Header where
  /-- `generation`. -/
  generation : UInt64
  /-- `sequence`. -/
  sequence : UInt64
  /-- `capture_time_us`. -/
  captureTimeUs : UInt64
  /-- `codec`. -/
  codec : UInt32
  /-- `colorspace`. -/
  colorspace : UInt32
  /-- `transfer`. -/
  transfer : UInt32
  /-- `ycbcr`. -/
  ycbcr : UInt32
  /-- `quantization`. -/
  quantization : UInt32
  /-- `driver_sequence`. -/
  driverSequence : UInt32
  /-- `width`. -/
  width : UInt16
  /-- `height`. -/
  height : UInt16
  /-- `flags`. -/
  flags : UInt8
  deriving DecidableEq, Repr

namespace Header

/-- `plank_camera_header_valid`. -/
def valid (header : Header) (payloadSize : Nat) : Bool :=
  payloadSize ≠ 0 && payloadSize ≤ maxFrameBytes && header.generation ≠ 0 &&
    header.sequence ≠ 0xffffffffffffffff && header.captureTimeUs ≠ 0 &&
    header.captureTimeUs ≤ maxCaptureTime && (header.codec = h264 || header.codec = mjpeg) &&
    ((header.width = 1280 && header.height = 720) ||
      (header.width = 1920 && header.height = 1080)) &&
    header.flags &&& ~~~(keyFrame ||| discontinuity) = 0 &&
    (header.codec ≠ mjpeg || header.flags &&& keyFrame ≠ 0) && header.colorspace ≤ 12 &&
    header.transfer ≤ 7 && header.ycbcr ≤ 8 && header.quantization ≤ 2

/-- `plank_camera_header_encode`, into storage of a capacity. -/
def encode (header : Header) (payloadSize capacity : Nat) : Option (List UInt8) :=
  if capacity < headerBytes || !header.valid payloadSize then none
  else some <| List.flatten [[0x50, 0x43, 0x41, 0x4d, 1, header.flags, 0, 64],
    writeU64 header.generation, writeU64 header.sequence, writeU64 header.captureTimeUs,
    writeU32 header.codec, writeU16 header.width, writeU16 header.height,
    writeU32 header.colorspace, writeU32 header.transfer, writeU32 header.ycbcr,
    writeU32 header.quantization, writeU32 header.driverSequence, [0, 0, 0, 0]]

/-- `plank_camera_header_decode`, of a record that is there. -/
def decode (record : List UInt8) : Option Header :=
  if record.length ≤ headerBytes || headerBytes + maxFrameBytes < record.length ||
      !startsPcam record || byteAt record 4 ≠ 1 || byteAt record 6 ≠ 0 || byteAt record 7 ≠ 64 ||
      readU32 record 60 ≠ 0 then none
  else
    let value : Header :=
      { flags := byteAt record 5
        generation := readU64 record 8
        sequence := readU64 record 16
        captureTimeUs := readU64 record 24
        codec := readU32 record 32
        width := readU16 record 36
        height := readU16 record 38
        colorspace := readU32 record 40
        transfer := readU32 record 44
        ycbcr := readU32 record 48
        quantization := readU32 record 52
        driverSequence := readU32 record 56 }
    if value.valid (record.length - headerBytes) then some value else none

end Header

/-- The fields of the header of a packet. -/
def Packet.toHeader (packet : Packet) : Header where
  generation := packet.generation
  sequence := packet.sequence
  captureTimeUs := packet.captureTimeUs
  codec := packet.format.codec
  colorspace := packet.format.colorspace
  transfer := packet.format.transfer
  ycbcr := packet.format.ycbcr
  quantization := packet.format.quantization
  driverSequence := packet.driverSequence
  width := packet.format.width
  height := packet.format.height
  flags := packet.flags

/-- Both implementations find the same packets valid. -/
theorem Packet.valid_toHeader (packet : Packet) :
    packet.toHeader.valid packet.payload.length = true ↔ packet.validate = .ok () := by
  have formatted : packet.format.validate = .ok () ↔
      (packet.format.codec = h264 ∨ packet.format.codec = mjpeg) ∧
      ((packet.format.width = 1280 ∧ packet.format.height = 720) ∨
        (packet.format.width = 1920 ∧ packet.format.height = 1080)) ∧
      packet.format.colorspace ≤ 12 ∧ packet.format.transfer ≤ 7 ∧ packet.format.ycbcr ≤ 8 ∧
      packet.format.quantization ≤ 2 := by
    unfold Format.validate
    rw [ensure_bind, ensure_bind, ensure_ok]
    simp only [Bool.or_eq_true, Bool.and_eq_true, beq_iff_eq, Prod.mk.injEq, decide_eq_true_eq,
      and_assoc]
  have checked : packet.validate = .ok () ↔ packet.format.validate = .ok () ∧
      (packet.generation ≠ 0 ∧ packet.sequence ≠ 0xffffffffffffffff) ∧
      (packet.captureTimeUs ≠ 0 ∧ packet.captureTimeUs ≤ maxCaptureTime) ∧
      packet.flags &&& ~~~(keyFrame ||| discontinuity) = 0 ∧
      (packet.format.codec ≠ mjpeg ∨ packet.flags &&& keyFrame ≠ 0) ∧
      1 ≤ packet.payload.length ∧ packet.payload.length ≤ maxFrameBytes := by
    unfold Packet.validate
    cases packet.format.validate with
    | error message => exact ⟨(nomatch ·), (nomatch ·.1)⟩
    | ok done =>
      show (ensure _ _ >>= fun _ => _) = .ok () ↔ _
      rw [ensure_bind, ensure_bind, ensure_bind, ensure_bind, ensure_ok]
      simp only [Bool.or_eq_true, Bool.and_eq_true, bne_iff_ne, beq_iff_eq, decide_eq_true_eq,
        word_positive, true_and]
  rw [checked, formatted]
  unfold Header.valid Packet.toHeader
  simp only [Bool.or_eq_true, Bool.and_eq_true, decide_eq_true_eq, Nat.one_le_iff_ne_zero,
    and_assoc]
  constructor
  · rintro ⟨some, few, live, last, captured, early, codec, size, flags, key, space, transfer, matrix,
      range⟩
    exact ⟨codec, size, space, transfer, matrix, range, live, last, captured, early, flags, key,
      some, few⟩
  · rintro ⟨codec, size, space, transfer, matrix, range, live, last, captured, early, flags, key,
      some, few⟩
    exact ⟨some, few, live, last, captured, early, codec, size, flags, key, space, transfer, matrix,
      range⟩

/-- Both implementations write the same header. -/
theorem Packet.encode_toHeader (packet : Packet) (valid : packet.validate = .ok ())
    {capacity : Nat} (room : headerBytes ≤ capacity) :
    packet.toHeader.encode packet.payload.length capacity = some packet.header := by
  unfold Header.encode
  rw [packet.valid_toHeader.mpr valid, if_neg (by simpa using room), header_eq]
  have front : layout [(4, cameraMagic), (1, 1), (1, packet.flags.toNat), (2, 64)] =
      [0x50, 0x43, 0x41, 0x4d, 1, packet.flags, 0, 64] := by
    unfold layout layout layout
    rw [writeBe_byte]
    rfl
  have back : writeBe 4 0 = [0, 0, 0, 0] := by decide
  simp only [writeU64_eq, writeU32_eq, writeU16_eq, ← front, ← back, fields, layout, toHeader,
    List.flatten_cons, List.flatten_nil, List.append_assoc, List.append_nil]

/-- What the other implementation reads of a long enough record. -/
theorem toHeader_ofBytes {record : List UInt8} (long : headerBytes ≤ record.length) :
    (Packet.ofBytes record).toHeader =
      { flags := byteAt record 5
        generation := readU64 record 8
        sequence := readU64 record 16
        captureTimeUs := readU64 record 24
        codec := readU32 record 32
        width := readU16 record 36
        height := readU16 record 38
        colorspace := readU32 record 40
        transfer := readU32 record 44
        ycbcr := readU32 record 48
        quantization := readU32 record 52
        driverSequence := readU32 record 56 } := by
  have inside {offset : Nat} (small : offset ≤ headerBytes) : offset ≤ record.length :=
    Nat.le_trans small long
  have flags : byteAt record 5 = UInt8.ofNat (word record 5 1) := by
    rw [word_one, UInt8.ofNat_toNat]
  rw [flags, readU64_eq (inside (by decide)), readU64_eq (inside (by decide)),
    readU64_eq (inside (by decide)), readU32_eq (inside (by decide)),
    readU16_eq (inside (by decide)), readU16_eq (inside (by decide)),
    readU32_eq (inside (by decide)), readU32_eq (inside (by decide)),
    readU32_eq (inside (by decide)), readU32_eq (inside (by decide)),
    readU32_eq (inside (by decide))]
  rfl

/-- Both implementations accept the same byte strings and read the same fields. -/
theorem header_decode_iff (record : List UInt8) (header : Header) :
    Header.decode record = some header ↔
      ∃ packet, Packet.decode record = .ok packet ∧ packet.toHeader = header := by
  by_cases sized : headerBytes + 1 ≤ record.length ∧ record.length ≤ headerBytes + maxFrameBytes
  · have long : headerBytes ≤ record.length := by omega
    have magical := startsPcam_iff (Nat.le_trans (by decide) long : 4 ≤ record.length)
    have version := byteAt_eq record 4 1
    have size := size_iff long
    have padding : readU32 record 60 = 0 ↔ word record 60 4 = 0 := by
      rw [readU32_eq (Nat.le_trans (by decide) long), ← UInt32.toNat_inj, toNat_word32]
      rfl
    have payload : (Packet.ofBytes record).payload.length = record.length - headerBytes :=
      List.length_drop
    have valid := (Packet.ofBytes record).valid_toHeader
    rw [payload] at valid
    have packet : (∃ packet, Packet.decode record = .ok packet ∧ packet.toHeader = header) ↔
        (word record 0 4 = cameraMagic ∧ word record 4 1 = 1 ∧ word record 6 2 = 64 ∧
          word record 60 4 = 0) ∧ (Packet.ofBytes record).validate = .ok () ∧
          (Packet.ofBytes record).toHeader = header := by
      unfold Packet.decode
      simp only [ensure_bind, checked_ok, Bool.and_eq_true, decide_eq_true_eq, and_assoc]
      constructor
      · rintro ⟨_, _, _, magical, version, size, padding, valid, rfl, same⟩
        exact ⟨magical, version, size, padding, valid, same⟩
      · rintro ⟨magical, version, size, padding, valid, same⟩
        exact ⟨_, sized.1, sized.2, magical, version, size, padding, valid, rfl, same⟩
    rw [packet, ← magical, ← size, ← padding, ← valid, toHeader_ofBytes long]
    unfold Header.decode
    rw [Option.ite_none_left_eq_some, Option.ite_none_right_eq_some]
    simp only [Bool.or_eq_true, not_or, decide_eq_true_eq, Nat.not_le, Nat.not_lt,
      Bool.not_eq_true', Bool.not_eq_false, ne_eq, not_not, Option.some.injEq, and_assoc]
    rw [version]
    constructor
    · rintro ⟨_, _, rest⟩
      exact rest
    · exact fun rest => ⟨by omega, by omega, rest⟩
  · constructor
    · intro read
      unfold Header.decode at read
      obtain ⟨checks, _⟩ := Option.ite_none_left_eq_some.mp read
      simp only [Bool.or_eq_true, not_or, decide_eq_true_eq, Nat.not_le, Nat.not_lt] at checks
      exact absurd ⟨by omega, by omega⟩ sized
    · rintro ⟨packet, read, _⟩
      unfold Packet.decode at read
      have long := (ensure_bind.mp read).1
      simp only [Bool.and_eq_true, decide_eq_true_eq] at long
      exact absurd long sized

end Native

namespace Encoded

/-- `PlankEncodedCameraHeader`. -/
structure Header where
  /-- `generation`. -/
  generation : UInt64
  /-- `sequence`. -/
  sequence : UInt64
  /-- `capture_time_us`. -/
  captureTimeUs : UInt64
  /-- `codec`. -/
  codec : UInt32
  /-- `platform`. -/
  platform : UInt32
  /-- `encoder`. -/
  encoder : UInt32
  /-- `source_pixel_format`. -/
  sourcePixelFormat : UInt32
  /-- `width`. -/
  width : UInt16
  /-- `height`. -/
  height : UInt16
  /-- `nominal_fps`. -/
  nominalFps : UInt16
  /-- `flags`. -/
  flags : UInt8
  /-- `primaries`. -/
  primaries : UInt8
  /-- `transfer`. -/
  transfer : UInt8
  /-- `matrix`. -/
  matrix : UInt8
  /-- `range`. -/
  range : UInt8
  deriving DecidableEq, Repr

namespace Header

/-- `plank_encoded_camera_header_valid`; every named constant of that header is 1. -/
def valid (header : Header) (payloadSize : Nat) : Bool :=
  payloadSize ≠ 0 && payloadSize ≤ maxFrameBytes && header.generation ≠ 0 &&
    header.sequence ≠ 0xffffffffffffffff && header.captureTimeUs ≠ 0 &&
    header.captureTimeUs ≤ maxCaptureTime && header.codec = h264 && header.width = 1280 &&
    header.height = 720 && header.flags &&& ~~~(keyFrame ||| discontinuity) = 0 &&
    header.platform = 1 && header.encoder = 1 && header.sourcePixelFormat = 1 &&
    header.primaries = 1 && header.transfer = 1 && header.matrix = 1 && header.range = 1 &&
    header.nominalFps = 30

/-- `plank_encoded_camera_header_encode`, into storage of a capacity. -/
def encode (header : Header) (payloadSize capacity : Nat) : Option (List UInt8) :=
  if capacity < headerBytes || !header.valid payloadSize then none
  else some <| List.flatten [[0x50, 0x43, 0x41, 0x4d, 2, header.flags, 0, 64],
    writeU64 header.generation, writeU64 header.sequence, writeU64 header.captureTimeUs,
    writeU32 header.codec, writeU16 header.width, writeU16 header.height,
    writeU32 header.platform, writeU32 header.encoder, writeU32 header.sourcePixelFormat,
    [header.primaries, header.transfer, header.matrix, header.range],
    writeU16 header.nominalFps, [0, 0, 0, 0, 0, 0]]

/-- `plank_encoded_camera_header_decode`, of a record that is there. -/
def decode (record : List UInt8) : Option Header :=
  if record.length ≤ headerBytes || headerBytes + maxFrameBytes < record.length ||
      !startsPcam record || byteAt record 4 ≠ 2 || byteAt record 6 ≠ 0 || byteAt record 7 ≠ 64 ||
      readU16 record 58 ≠ 0 || readU32 record 60 ≠ 0 then none
  else
    let value : Header :=
      { flags := byteAt record 5
        generation := readU64 record 8
        sequence := readU64 record 16
        captureTimeUs := readU64 record 24
        codec := readU32 record 32
        width := readU16 record 36
        height := readU16 record 38
        platform := readU32 record 40
        encoder := readU32 record 44
        sourcePixelFormat := readU32 record 48
        primaries := byteAt record 52
        transfer := byteAt record 53
        matrix := byteAt record 54
        range := byteAt record 55
        nominalFps := readU16 record 56 }
    if value.valid (record.length - headerBytes) then some value else none

end Header

/-- The fields of the header of a packet. -/
def Packet.toHeader (packet : Packet) : Header where
  generation := packet.generation
  sequence := packet.sequence
  captureTimeUs := packet.captureTimeUs
  codec := packet.format.codec
  platform := packet.format.platform
  encoder := packet.format.encoder
  sourcePixelFormat := packet.format.sourcePixelFormat
  width := packet.format.width
  height := packet.format.height
  nominalFps := packet.format.nominalFps
  flags := packet.flags
  primaries := packet.format.primaries
  transfer := packet.format.transfer
  matrix := packet.format.matrix
  range := packet.format.range

/-- Both implementations find the same packets valid. -/
theorem Packet.valid_toHeader (packet : Packet) :
    packet.toHeader.valid packet.payload.length = true ↔ packet.validate = .ok () := by
  have formatted : packet.format.validate = .ok () ↔
      (packet.format.codec = h264 ∧ packet.format.width = 1280 ∧ packet.format.height = 720) ∧
      (packet.format.platform = 1 ∧ packet.format.encoder = 1 ∧
        packet.format.sourcePixelFormat = 1) ∧
      packet.format.primaries = 1 ∧ packet.format.transfer = 1 ∧ packet.format.matrix = 1 ∧
        packet.format.range = 1 ∧ packet.format.nominalFps = 30 := by
    unfold Format.validate
    rw [ensure_bind, ensure_bind, ensure_ok]
    simp only [Bool.and_eq_true, beq_iff_eq, Prod.mk.injEq, and_assoc]
  have checked : packet.validate = .ok () ↔ packet.format.validate = .ok () ∧
      (packet.generation ≠ 0 ∧ packet.sequence ≠ 0xffffffffffffffff) ∧
      (packet.captureTimeUs ≠ 0 ∧ packet.captureTimeUs ≤ maxCaptureTime) ∧
      packet.flags &&& ~~~(keyFrame ||| discontinuity) = 0 ∧
      1 ≤ packet.payload.length ∧ packet.payload.length ≤ maxFrameBytes := by
    unfold Packet.validate
    cases packet.format.validate with
    | error message => exact ⟨(nomatch ·), (nomatch ·.1)⟩
    | ok done =>
      show (ensure _ _ >>= fun _ => _) = .ok () ↔ _
      rw [ensure_bind, ensure_bind, ensure_bind, ensure_ok]
      simp only [Bool.and_eq_true, bne_iff_ne, beq_iff_eq, decide_eq_true_eq, word_positive,
        true_and]
  rw [checked, formatted]
  unfold Header.valid Packet.toHeader
  simp only [Bool.and_eq_true, decide_eq_true_eq, Nat.one_le_iff_ne_zero, and_assoc]
  constructor
  · rintro ⟨some, few, live, last, captured, early, codec, width, height, flags, platform, encoder,
      source, primaries, transfer, matrix, range, rate⟩
    exact ⟨codec, width, height, platform, encoder, source, primaries, transfer, matrix, range, rate,
      live, last, captured, early, flags, some, few⟩
  · rintro ⟨codec, width, height, platform, encoder, source, primaries, transfer, matrix, range,
      rate, live, last, captured, early, flags, some, few⟩
    exact ⟨some, few, live, last, captured, early, codec, width, height, flags, platform, encoder,
      source, primaries, transfer, matrix, range, rate⟩

/-- Both implementations write the same header. -/
theorem Packet.encode_toHeader (packet : Packet) (valid : packet.validate = .ok ())
    {capacity : Nat} (room : headerBytes ≤ capacity) :
    packet.toHeader.encode packet.payload.length capacity = some packet.header := by
  unfold Header.encode
  rw [packet.valid_toHeader.mpr valid, if_neg (by simpa using room), header_eq]
  have front : layout [(4, cameraMagic), (1, 2), (1, packet.flags.toNat), (2, 64)] =
      [0x50, 0x43, 0x41, 0x4d, 2, packet.flags, 0, 64] := by
    unfold layout layout layout
    rw [writeBe_byte]
    rfl
  have color : writeBe 1 packet.format.primaries.toNat ++
      (writeBe 1 packet.format.transfer.toNat ++ (writeBe 1 packet.format.matrix.toNat ++
        writeBe 1 packet.format.range.toNat)) =
      [packet.format.primaries, packet.format.transfer, packet.format.matrix,
        packet.format.range] := by
    rw [writeBe_byte, writeBe_byte, writeBe_byte, writeBe_byte]
    rfl
  have back : writeBe 6 0 = [0, 0, 0, 0, 0, 0] := by decide
  simp only [writeU64_eq, writeU32_eq, writeU16_eq, ← front, ← color, ← back, fields, layout,
    toHeader, List.flatten_cons, List.flatten_nil, List.append_assoc, List.append_nil]

/-- What the other implementation reads of a long enough record. -/
theorem toHeader_ofBytes {record : List UInt8} (long : headerBytes ≤ record.length) :
    (Packet.ofBytes record).toHeader =
      { flags := byteAt record 5
        generation := readU64 record 8
        sequence := readU64 record 16
        captureTimeUs := readU64 record 24
        codec := readU32 record 32
        width := readU16 record 36
        height := readU16 record 38
        platform := readU32 record 40
        encoder := readU32 record 44
        sourcePixelFormat := readU32 record 48
        primaries := byteAt record 52
        transfer := byteAt record 53
        matrix := byteAt record 54
        range := byteAt record 55
        nominalFps := readU16 record 56 } := by
  have inside {offset : Nat} (small : offset ≤ headerBytes) : offset ≤ record.length :=
    Nat.le_trans small long
  have byte (offset : Nat) : byteAt record offset = UInt8.ofNat (word record offset 1) := by
    rw [word_one, UInt8.ofNat_toNat]
  rw [readU64_eq (inside (by decide)), readU64_eq (inside (by decide)),
    readU64_eq (inside (by decide)), readU32_eq (inside (by decide)),
    readU16_eq (inside (by decide)), readU16_eq (inside (by decide)),
    readU32_eq (inside (by decide)), readU32_eq (inside (by decide)),
    readU32_eq (inside (by decide)), readU16_eq (inside (by decide))]
  simp only [byte]
  rfl

/-- Both implementations accept the same byte strings and read the same fields. -/
theorem header_decode_iff (record : List UInt8) (header : Header) :
    Header.decode record = some header ↔
      ∃ packet, Packet.decode record = .ok packet ∧ packet.toHeader = header := by
  by_cases sized : headerBytes + 1 ≤ record.length ∧ record.length ≤ headerBytes + maxFrameBytes
  · have long : headerBytes ≤ record.length := by omega
    have magical := startsPcam_iff (Nat.le_trans (by decide) long : 4 ≤ record.length)
    have version := byteAt_eq record 4 2
    have size := size_iff long
    have padding : (readU16 record 58 = 0 ∧ readU32 record 60 = 0) ↔ word record 58 6 = 0 := by
      have inside : 58 + 2 + 4 ≤ record.length := long
      have low := word_lt record 60 4
      rw [readU16_eq (Nat.le_trans (by decide) long), readU32_eq (Nat.le_trans (by decide) long),
        ← UInt16.toNat_inj, ← UInt32.toNat_inj, toNat_word16, toNat_word32,
        word_add record 58 2 4 inside]
      show word record 58 2 = 0 ∧ word record 60 4 = 0 ↔
        word record 58 2 * 256 ^ 4 + word record 60 4 = 0
      omega
    have payload : (Packet.ofBytes record).payload.length = record.length - headerBytes :=
      List.length_drop
    have valid := (Packet.ofBytes record).valid_toHeader
    rw [payload] at valid
    have packet : (∃ packet, Packet.decode record = .ok packet ∧ packet.toHeader = header) ↔
        (word record 0 4 = cameraMagic ∧ word record 4 1 = 2 ∧ word record 6 2 = 64 ∧
          word record 58 6 = 0) ∧ (Packet.ofBytes record).validate = .ok () ∧
          (Packet.ofBytes record).toHeader = header := by
      unfold Packet.decode
      simp only [ensure_bind, checked_ok, Bool.and_eq_true, decide_eq_true_eq, and_assoc]
      constructor
      · rintro ⟨_, _, _, magical, version, size, padding, valid, rfl, same⟩
        exact ⟨magical, version, size, padding, valid, same⟩
      · rintro ⟨magical, version, size, padding, valid, same⟩
        exact ⟨_, sized.1, sized.2, magical, version, size, padding, valid, rfl, same⟩
    rw [packet, ← magical, ← size, ← padding, ← valid, toHeader_ofBytes long]
    unfold Header.decode
    rw [Option.ite_none_left_eq_some, Option.ite_none_right_eq_some]
    simp only [Bool.or_eq_true, not_or, decide_eq_true_eq, Nat.not_le, Nat.not_lt,
      Bool.not_eq_true', Bool.not_eq_false, ne_eq, not_not, Option.some.injEq, and_assoc]
    rw [version]
    constructor
    · rintro ⟨_, _, rest⟩
      exact rest
    · exact fun rest => ⟨by omega, by omega, rest⟩
  · constructor
    · intro read
      unfold Header.decode at read
      obtain ⟨checks, _⟩ := Option.ite_none_left_eq_some.mp read
      simp only [Bool.or_eq_true, not_or, decide_eq_true_eq, Nat.not_le, Nat.not_lt] at checks
      exact absurd ⟨by omega, by omega⟩ sized
    · rintro ⟨packet, read, _⟩
      unfold Packet.decode at read
      have long := (ensure_bind.mp read).1
      simp only [Bool.and_eq_true, decide_eq_true_eq] at long
      exact absurd long sized

end Encoded

/-- Another discontinuity leaves the checks of a raw packet. -/
theorem Native.Packet.validate_mark (packet : Native.Packet) :
    { packet with flags := packet.flags ||| discontinuity }.validate = packet.validate := by
  unfold Native.Packet.validate
  rw [Record.or_mask packet.flags discontinuity (~~~(keyFrame ||| discontinuity)) rfl,
    Record.or_mask packet.flags discontinuity keyFrame rfl]

/-- Another discontinuity leaves the checks of an encoded packet. -/
theorem Encoded.Packet.validate_mark (packet : Encoded.Packet) :
    { packet with flags := packet.flags ||| discontinuity }.validate = packet.validate := by
  unfold Encoded.Packet.validate
  rw [Record.or_mask packet.flags discontinuity (~~~(keyFrame ||| discontinuity)) rfl]

/-- What is known of the four codecs. -/
structure CodecLaw : Prop where
  /-- A valid raw packet is encoded, and decoded again. -/
  native : ∀ packet : Native.Packet, packet.validate = .ok () → ∃ bytes,
    packet.encode = .ok bytes ∧ Native.Packet.decode bytes = .ok packet
  /-- A valid encoded packet is encoded, and decoded again. -/
  encoded : ∀ packet : Encoded.Packet, packet.validate = .ok () → ∃ bytes,
    packet.encode = .ok bytes ∧ Encoded.Packet.decode bytes = .ok packet
  /-- What is decoded as a raw packet is encoded to the same bytes. -/
  nativeAgain : ∀ bytes packet, Native.Packet.decode bytes = .ok packet →
    packet.encode = .ok bytes
  /-- What is decoded as an encoded packet is encoded to the same bytes. -/
  encodedAgain : ∀ bytes packet, Encoded.Packet.decode bytes = .ok packet →
    packet.encode = .ok bytes
  /-- No byte string is accepted by both versions. -/
  apart : ∀ bytes packet other, Native.Packet.decode bytes = .ok packet →
    Encoded.Packet.decode bytes ≠ .ok other
  /-- A discontinuity may be added to an accepted raw record. -/
  nativeMarked : ∀ bytes packet, Native.Packet.decode bytes = .ok packet → ∃ marked,
    { packet with flags := packet.flags ||| discontinuity }.encode = .ok marked
  /-- A discontinuity may be added to an accepted encoded record. -/
  encodedMarked : ∀ bytes packet, Encoded.Packet.decode bytes = .ok packet → ∃ marked,
    { packet with flags := packet.flags ||| discontinuity }.encode = .ok marked
  /-- Both implementations accept the same raw records, and read the same of them. -/
  nativeAgree : ∀ bytes header, Native.Header.decode bytes = some header ↔
    ∃ packet, Native.Packet.decode bytes = .ok packet ∧ packet.toHeader = header
  /-- Both implementations accept the same encoded records, and read the same of them. -/
  encodedAgree : ∀ bytes header, Encoded.Header.decode bytes = some header ↔
    ∃ packet, Encoded.Packet.decode bytes = .ok packet ∧ packet.toHeader = header
  /-- Both implementations write the same header of a valid raw packet. -/
  nativeWritten : ∀ packet : Native.Packet, packet.validate = .ok () →
    packet.toHeader.encode packet.payload.length headerBytes = some packet.header
  /-- Both implementations write the same header of a valid encoded packet. -/
  encodedWritten : ∀ packet : Encoded.Packet, packet.validate = .ok () →
    packet.toHeader.encode packet.payload.length headerBytes = some packet.header

/-- The camera codecs. -/
theorem camera_codecs : CodecLaw where
  native packet valid := by
    have written := (packet.encode_ok _).mpr ⟨valid, rfl⟩
    exact ⟨_, written, (Native.Packet.decode_ok _ packet).mpr written⟩
  encoded packet valid := by
    have written := (packet.encode_ok _).mpr ⟨valid, rfl⟩
    exact ⟨_, written, (Encoded.Packet.decode_ok _ packet).mpr written⟩
  nativeAgain bytes packet read := (Native.Packet.decode_ok bytes packet).mp read
  encodedAgain bytes packet read := (Encoded.Packet.decode_ok bytes packet).mp read
  apart bytes packet other read against := by
    unfold Native.Packet.decode at read
    unfold Encoded.Packet.decode at against
    have first := (ensure_bind.mp (ensure_bind.mp read).2).1
    have second := (ensure_bind.mp (ensure_bind.mp against).2).1
    simp only [Bool.and_eq_true, decide_eq_true_eq] at first second
    omega
  nativeMarked bytes packet read := by
    have valid := ((packet.encode_ok bytes).mp ((Native.Packet.decode_ok bytes packet).mp read)).1
    exact ⟨_, (Native.Packet.encode_ok _ _).mpr ⟨(packet.validate_mark).trans valid, rfl⟩⟩
  encodedMarked bytes packet read := by
    have valid := ((packet.encode_ok bytes).mp ((Encoded.Packet.decode_ok bytes packet).mp read)).1
    exact ⟨_, (Encoded.Packet.encode_ok _ _).mpr ⟨(packet.validate_mark).trans valid, rfl⟩⟩
  nativeAgree := Native.header_decode_iff
  encodedAgree := Encoded.header_decode_iff
  nativeWritten packet valid := packet.encode_toHeader valid (Nat.le_refl headerBytes)
  encodedWritten packet valid := packet.encode_toHeader valid (Nat.le_refl headerBytes)

end Plank.Camera
