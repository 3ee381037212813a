import Plank.Camera.Record
import Plank.Wire.BigEndian

/-!
# Reading camera records

`camera.rs` and `camera_encoded.rs` read a record by the offsets of its header and check what they
read as they check what they write. A byte string is accepted when it is the encoding of a packet,
and then it is decoded to that packet.
-/

namespace Plank.Camera

open Wire

/-- `PCAM` as a number. -/
def cameraMagic : Nat := 0x5043414d

/-- Fields are written most significant byte first. -/
theorem bigEndian_eq (width value : Nat) : bigEndian width value = writeBe width value := by
  induction width with
  | zero => rfl
  | succ width ih =>
    show UInt8.ofNat (value / 256 ^ width) :: bigEndian width value = _
    rw [ih]
    rfl

/-- A byte is a number of one byte. -/
theorem writeBe_byte (byte : UInt8) : writeBe 1 byte.toNat = [byte] := by
  show [UInt8.ofNat (byte.toNat / 1)] = [byte]
  rw [Nat.div_one, UInt8.ofNat_toNat]

namespace Native

/-- The widths of the header. -/
def widths : List Nat := [4, 1, 1, 2, 8, 8, 8, 4, 2, 2, 4, 4, 4, 4, 4, 4]

namespace Packet

/-- What a record of any bytes reads as. -/
def ofBytes (bytes : List UInt8) : Packet where
  format :=
    { codec := .ofNat (word bytes 32 4)
      width := .ofNat (word bytes 36 2)
      height := .ofNat (word bytes 38 2)
      colorspace := .ofNat (word bytes 40 4)
      transfer := .ofNat (word bytes 44 4)
      ycbcr := .ofNat (word bytes 48 4)
      quantization := .ofNat (word bytes 52 4) }
  flags := .ofNat (word bytes 5 1)
  generation := .ofNat (word bytes 8 8)
  sequence := .ofNat (word bytes 16 8)
  captureTimeUs := .ofNat (word bytes 24 8)
  driverSequence := .ofNat (word bytes 56 4)
  payload := bytes.drop headerBytes

/-- `camera::Packet::decode`. -/
def decode (bytes : List UInt8) : Except String Packet := do
  ensure (headerBytes + 1 ≤ bytes.length && bytes.length ≤ headerBytes + maxFrameBytes)
    "invalid camera record size"
  ensure (word bytes 0 4 = cameraMagic && word bytes 4 1 = 1 && word bytes 6 2 = 64 &&
    word bytes 60 4 = 0) "unsupported camera envelope"
  (ofBytes bytes).validate
  return ofBytes bytes

/-- The numbers of the header. -/
def fields (packet : Packet) : List (Nat × Nat) :=
  [(4, cameraMagic), (1, 1), (1, packet.flags.toNat), (2, 64), (8, packet.generation.toNat),
    (8, packet.sequence.toNat), (8, packet.captureTimeUs.toNat), (4, packet.format.codec.toNat),
    (2, packet.format.width.toNat), (2, packet.format.height.toNat),
    (4, packet.format.colorspace.toNat), (4, packet.format.transfer.toNat),
    (4, packet.format.ycbcr.toNat), (4, packet.format.quantization.toNat),
    (4, packet.driverSequence.toNat), (4, 0)]

/-- The header is written from its numbers. -/
theorem header_eq (packet : Packet) : packet.header = layout packet.fields := by
  have front : writeBe 4 cameraMagic ++ (writeBe 1 1 ++ writeBe 1 packet.flags.toNat) =
      [0x50, 0x43, 0x41, 0x4d, 1, packet.flags] := by
    rw [writeBe_byte]
    rfl
  unfold header fields
  simp only [layout, bigEndian_eq, headerBytes, ← front, List.append_assoc, List.append_nil]

/-- The numbers have the widths of the header. -/
theorem widths_fields (packet : Packet) : packet.fields.map Prod.fst = widths := rfl

/-- The numbers of the header fit. -/
theorem fields_fit (packet : Packet) : ∀ field ∈ packet.fields, field.2 < 256 ^ field.1 := by
  have flags := packet.flags.toNat_lt
  have generation := packet.generation.toNat_lt
  have sequence := packet.sequence.toNat_lt
  have captured := packet.captureTimeUs.toNat_lt
  have codec := packet.format.codec.toNat_lt
  have width := packet.format.width.toNat_lt
  have height := packet.format.height.toNat_lt
  have colorspace := packet.format.colorspace.toNat_lt
  have transfer := packet.format.transfer.toNat_lt
  have ycbcr := packet.format.ycbcr.toNat_lt
  have quantization := packet.format.quantization.toNat_lt
  have driver := packet.driverSequence.toNat_lt
  have magic : cameraMagic < 4294967296 := by decide
  simp only [fields, List.mem_cons, List.not_mem_nil, or_false, forall_eq_or_imp, forall_eq]
  norm_num
  omega

/-- What is read is what was written. -/
theorem ofBytes_eq {packet : Packet} {bytes : List UInt8}
    (read : readLayout bytes 0 widths = packet.fields)
    (rest : bytes.drop headerBytes = packet.payload) : ofBytes bytes = packet := by
  obtain ⟨⟨_, _, _, _, _, _, _⟩, _, _, _, _, _, _⟩ := packet
  simp only [widths, fields, readLayout, List.cons.injEq, Prod.mk.injEq, true_and, and_true,
    Nat.zero_add, Nat.reduceAdd] at read
  obtain ⟨_, _, flags, _, generation, sequence, captured, codec, width, height, colorspace,
    transfer, ycbcr, quantization, driver, _⟩ := read
  unfold ofBytes
  rw [flags, generation, sequence, captured, codec, width, height, colorspace, transfer, ycbcr,
    quantization, driver, rest]
  simp only [UInt8.ofNat_toNat, UInt16.ofNat_toNat, UInt32.ofNat_toNat, UInt64.ofNat_toNat]

/-- What is written is what was read. -/
theorem fields_ofBytes {bytes : List UInt8} (magical : word bytes 0 4 = cameraMagic)
    (version : word bytes 4 1 = 1) (size : word bytes 6 2 = 64) (padding : word bytes 60 4 = 0) :
    (ofBytes bytes).fields = readLayout bytes 0 widths := by
  unfold fields ofBytes
  simp only [toNat_word8, toNat_word16, toNat_word32, toNat_word64, widths, readLayout,
    Nat.zero_add, Nat.reduceAdd, magical, version, size, padding]

/-- The encoding of a valid packet. -/
theorem encode_ok (packet : Packet) (bytes : List UInt8) :
    packet.encode = .ok bytes ↔
      packet.validate = .ok () ∧ layout packet.fields ++ packet.payload = bytes := by
  rw [← header_eq]
  exact checked_ok

/-- The payload of a valid packet has its bounds. -/
theorem payload_of_valid {packet : Packet} (valid : packet.validate = .ok ()) :
    1 ≤ packet.payload.length ∧ packet.payload.length ≤ maxFrameBytes := by
  unfold validate at valid
  cases checked : packet.format.validate with
  | error message =>
    rw [checked] at valid
    exact nomatch valid
  | ok done =>
    rw [checked] at valid
    have rest := (ensure_bind.mp (ensure_bind.mp (ensure_bind.mp (ensure_bind.mp valid).2).2).2).2
    simpa using ensure_ok.mp rest

/-- A byte string is decoded to a packet when it is its encoding. -/
theorem decode_ok (bytes : List UInt8) (packet : Packet) :
    decode bytes = .ok packet ↔ packet.encode = .ok bytes := by
  have total : widths.sum = headerBytes := rfl
  rw [encode_ok]
  unfold decode
  rw [ensure_bind, ensure_bind, checked_ok]
  simp only [Bool.and_eq_true, decide_eq_true_eq]
  constructor
  · rintro ⟨⟨long, _⟩, ⟨⟨⟨magical, version⟩, size⟩, padding⟩, valid, rfl⟩
    refine ⟨valid, ?_⟩
    rw [fields_ofBytes magical version size padding]
    exact layout_append_drop widths (by rw [total]; omega)
  · rintro ⟨valid, rfl⟩
    have read := readLayout_front packet.fields packet.payload packet.fields_fit
    have size : (layout packet.fields).length = headerBytes := by
      rw [length_layout, widths_fields, total]
    rw [widths_fields] at read
    have rest : (layout packet.fields ++ packet.payload).drop headerBytes = packet.payload :=
      List.drop_left' size
    have same := ofBytes_eq read rest
    obtain ⟨some, few⟩ := payload_of_valid valid
    rw [same, List.length_append, size]
    refine ⟨⟨by omega, by omega⟩, ?_, valid, rfl⟩
    generalize layout packet.fields ++ packet.payload = bytes at read
    simp only [widths, fields, readLayout, List.cons.injEq, Prod.mk.injEq, true_and,
      and_true, Nat.zero_add, Nat.reduceAdd] at read
    exact ⟨⟨⟨read.1, read.2.1⟩, read.2.2.2.1⟩, read.2.2.2.2.2.2.2.2.2.2.2.2.2.2.2⟩

end Packet

end Native

namespace Encoded

/-- The widths of the header. -/
def widths : List Nat := [4, 1, 1, 2, 8, 8, 8, 4, 2, 2, 4, 4, 4, 1, 1, 1, 1, 2, 6]

namespace Packet

/-- What a record of any bytes reads as. -/
def ofBytes (bytes : List UInt8) : Packet where
  format :=
    { codec := .ofNat (word bytes 32 4)
      width := .ofNat (word bytes 36 2)
      height := .ofNat (word bytes 38 2)
      platform := .ofNat (word bytes 40 4)
      encoder := .ofNat (word bytes 44 4)
      sourcePixelFormat := .ofNat (word bytes 48 4)
      primaries := .ofNat (word bytes 52 1)
      transfer := .ofNat (word bytes 53 1)
      matrix := .ofNat (word bytes 54 1)
      range := .ofNat (word bytes 55 1)
      nominalFps := .ofNat (word bytes 56 2) }
  flags := .ofNat (word bytes 5 1)
  generation := .ofNat (word bytes 8 8)
  sequence := .ofNat (word bytes 16 8)
  captureTimeUs := .ofNat (word bytes 24 8)
  payload := bytes.drop headerBytes

/-- `camera_encoded::Packet::decode`. -/
def decode (bytes : List UInt8) : Except String Packet := do
  ensure (headerBytes + 1 ≤ bytes.length && bytes.length ≤ headerBytes + maxFrameBytes)
    "invalid camera record size"
  ensure (word bytes 0 4 = cameraMagic && word bytes 4 1 = 2 && word bytes 6 2 = 64 &&
    word bytes 58 6 = 0) "unsupported encoded camera envelope"
  (ofBytes bytes).validate
  return ofBytes bytes

/-- The numbers of the header. -/
def fields (packet : Packet) : List (Nat × Nat) :=
  [(4, cameraMagic), (1, 2), (1, packet.flags.toNat), (2, 64), (8, packet.generation.toNat),
    (8, packet.sequence.toNat), (8, packet.captureTimeUs.toNat), (4, packet.format.codec.toNat),
    (2, packet.format.width.toNat), (2, packet.format.height.toNat),
    (4, packet.format.platform.toNat), (4, packet.format.encoder.toNat),
    (4, packet.format.sourcePixelFormat.toNat), (1, packet.format.primaries.toNat),
    (1, packet.format.transfer.toNat), (1, packet.format.matrix.toNat),
    (1, packet.format.range.toNat), (2, packet.format.nominalFps.toNat), (6, 0)]

/-- The header is written from its numbers. -/
theorem header_eq (packet : Packet) : packet.header = layout packet.fields := by
  have front : writeBe 4 cameraMagic ++ (writeBe 1 2 ++ writeBe 1 packet.flags.toNat) =
      [0x50, 0x43, 0x41, 0x4d, 2, packet.flags] := by
    rw [writeBe_byte]
    rfl
  have color : writeBe 1 packet.format.primaries.toNat ++
      (writeBe 1 packet.format.transfer.toNat ++ (writeBe 1 packet.format.matrix.toNat ++
        writeBe 1 packet.format.range.toNat)) =
      [packet.format.primaries, packet.format.transfer, packet.format.matrix,
        packet.format.range] := by
    rw [writeBe_byte, writeBe_byte, writeBe_byte, writeBe_byte]
    rfl
  have padding : writeBe 2 0 ++ writeBe 4 0 = writeBe 6 0 := by decide
  unfold header fields
  simp only [layout, bigEndian_eq, headerBytes, ← front, ← color, ← padding, List.append_assoc,
    List.append_nil]

/-- The numbers have the widths of the header. -/
theorem widths_fields (packet : Packet) : packet.fields.map Prod.fst = widths := rfl

/-- The numbers of the header fit. -/
theorem fields_fit (packet : Packet) : ∀ field ∈ packet.fields, field.2 < 256 ^ field.1 := by
  have flags := packet.flags.toNat_lt
  have generation := packet.generation.toNat_lt
  have sequence := packet.sequence.toNat_lt
  have captured := packet.captureTimeUs.toNat_lt
  have codec := packet.format.codec.toNat_lt
  have width := packet.format.width.toNat_lt
  have height := packet.format.height.toNat_lt
  have platform := packet.format.platform.toNat_lt
  have encoder := packet.format.encoder.toNat_lt
  have source := packet.format.sourcePixelFormat.toNat_lt
  have primaries := packet.format.primaries.toNat_lt
  have transfer := packet.format.transfer.toNat_lt
  have matrix := packet.format.matrix.toNat_lt
  have range := packet.format.range.toNat_lt
  have rate := packet.format.nominalFps.toNat_lt
  have magic : cameraMagic < 4294967296 := by decide
  simp only [fields, List.mem_cons, List.not_mem_nil, or_false, forall_eq_or_imp, forall_eq]
  norm_num
  omega

/-- What is read is what was written. -/
theorem ofBytes_eq {packet : Packet} {bytes : List UInt8}
    (read : readLayout bytes 0 widths = packet.fields)
    (rest : bytes.drop headerBytes = packet.payload) : ofBytes bytes = packet := by
  obtain ⟨⟨_, _, _, _, _, _, _, _, _, _, _⟩, _, _, _, _, _⟩ := packet
  simp only [widths, fields, readLayout, List.cons.injEq, Prod.mk.injEq, true_and, and_true,
    Nat.zero_add, Nat.reduceAdd] at read
  obtain ⟨_, _, flags, _, generation, sequence, captured, codec, width, height, platform, encoder,
    source, primaries, transfer, matrix, range, rate, _⟩ := read
  unfold ofBytes
  rw [flags, generation, sequence, captured, codec, width, height, platform, encoder, source,
    primaries, transfer, matrix, range, rate, rest]
  simp only [UInt8.ofNat_toNat, UInt16.ofNat_toNat, UInt32.ofNat_toNat, UInt64.ofNat_toNat]

/-- What is written is what was read. -/
theorem fields_ofBytes {bytes : List UInt8} (magical : word bytes 0 4 = cameraMagic)
    (version : word bytes 4 1 = 2) (size : word bytes 6 2 = 64) (padding : word bytes 58 6 = 0) :
    (ofBytes bytes).fields = readLayout bytes 0 widths := by
  unfold fields ofBytes
  simp only [toNat_word8, toNat_word16, toNat_word32, toNat_word64, widths, readLayout,
    Nat.zero_add, Nat.reduceAdd, magical, version, size, padding]

/-- The encoding of a valid packet. -/
theorem encode_ok (packet : Packet) (bytes : List UInt8) :
    packet.encode = .ok bytes ↔
      packet.validate = .ok () ∧ layout packet.fields ++ packet.payload = bytes := by
  rw [← header_eq]
  exact checked_ok

/-- The payload of a valid packet has its bounds. -/
theorem payload_of_valid {packet : Packet} (valid : packet.validate = .ok ()) :
    1 ≤ packet.payload.length ∧ packet.payload.length ≤ maxFrameBytes := by
  unfold validate at valid
  cases checked : packet.format.validate with
  | error message =>
    rw [checked] at valid
    exact nomatch valid
  | ok done =>
    rw [checked] at valid
    have rest := (ensure_bind.mp (ensure_bind.mp (ensure_bind.mp valid).2).2).2
    simpa using ensure_ok.mp rest

/-- A byte string is decoded to a packet when it is its encoding. -/
theorem decode_ok (bytes : List UInt8) (packet : Packet) :
    decode bytes = .ok packet ↔ packet.encode = .ok bytes := by
  have total : widths.sum = headerBytes := rfl
  rw [encode_ok]
  unfold decode
  rw [ensure_bind, ensure_bind, checked_ok]
  simp only [Bool.and_eq_true, decide_eq_true_eq]
  constructor
  · rintro ⟨⟨long, _⟩, ⟨⟨⟨magical, version⟩, size⟩, padding⟩, valid, rfl⟩
    refine ⟨valid, ?_⟩
    rw [fields_ofBytes magical version size padding]
    exact layout_append_drop widths (by rw [total]; omega)
  · rintro ⟨valid, rfl⟩
    have read := readLayout_front packet.fields packet.payload packet.fields_fit
    have size : (layout packet.fields).length = headerBytes := by
      rw [length_layout, widths_fields, total]
    rw [widths_fields] at read
    have rest : (layout packet.fields ++ packet.payload).drop headerBytes = packet.payload :=
      List.drop_left' size
    have same := ofBytes_eq read rest
    obtain ⟨some, few⟩ := payload_of_valid valid
    rw [same, List.length_append, size]
    refine ⟨⟨by omega, by omega⟩, ?_, valid, rfl⟩
    generalize layout packet.fields ++ packet.payload = bytes at read
    simp only [widths, fields, readLayout, List.cons.injEq, Prod.mk.injEq, true_and,
      and_true, Nat.zero_add, Nat.reduceAdd] at read
    exact ⟨⟨⟨read.1, read.2.1⟩, read.2.2.2.1⟩, read.2.2.2.2.2.2.2.2.2.2.2.2.2.2.2.2.2.2⟩

end Packet

end Encoded

end Plank.Camera
