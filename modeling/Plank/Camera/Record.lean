import Mathlib

/-!
# Camera records

The two negotiated camera envelopes carry one common record through the lane queues. A raw
(version 1) record describes a device frame, an encoded (version 2) record a hardware-encoded
one; both are written as a 64-byte header followed by the payload, and both are validated
before anything is written.
-/

namespace Plank.Camera

/-- `H264`: the four characters as a big-endian word. -/
def h264 : UInt32 := 0x48323634
/-- `MJPEG`: the four characters `MJPG` as a big-endian word. -/
def mjpeg : UInt32 := 0x4d4a5047
/-- `HEADER_BYTES`. -/
def headerBytes : Nat := 64
/-- `MAX_FRAME_BYTES`. -/
def maxFrameBytes : Nat := 4 * 1024 * 1024
/-- `KEY_FRAME`. -/
def keyFrame : UInt8 := 1
/-- `DISCONTINUITY`. -/
def discontinuity : UInt8 := 2
/-- Greatest capture time in microseconds: `i64::MAX as u64 / 1000`. -/
def maxCaptureTime : UInt64 := 9223372036854775

/-- `ensure!`: a failed condition ends the function with its message. -/
def ensure (condition : Bool) (message : String) : Except String Unit :=
  if condition then .ok () else .error message

/-- What follows a condition is reached where it holds. -/
theorem ensure_bind {Value : Type} {condition : Bool} {message : String}
    {rest : Except String Value} {value : Value} :
    (ensure condition message >>= fun _ => rest) = .ok value ↔
      condition = true ∧ rest = .ok value := by
  cases condition with
  | false => exact ⟨(nomatch ·), fun both => absurd both.1 Bool.false_ne_true⟩
  | true => exact ⟨fun reached => ⟨rfl, reached⟩, fun both => both.2⟩

/-- A condition holds where nothing is wrong. -/
theorem ensure_ok {condition : Bool} {message : String} {done : Unit} :
    ensure condition message = .ok done ↔ condition = true := by
  cases condition with
  | false => exact ⟨(nomatch ·), fun held => absurd held Bool.false_ne_true⟩
  | true => exact ⟨fun _ => rfl, fun _ => rfl⟩

/-- A value is returned where its check passes. -/
theorem checked_ok {Value : Type} {check : Except String Unit} {value result : Value} :
    (check >>= fun _ => pure value) = .ok result ↔ check = .ok () ∧ value = result := by
  cases check with
  | error message => exact ⟨(nomatch ·), (nomatch ·.1)⟩
  | ok done => exact ⟨fun same => ⟨rfl, Except.ok.inj same⟩, fun both => congrArg _ both.2⟩

/-- The low `width` bytes of a value, most significant first (`put_u8` to `put_u64`). -/
def bigEndian : Nat → Nat → List UInt8
  | 0, _ => []
  | width + 1, value => UInt8.ofNat (value / 256 ^ width) :: bigEndian width value

/-- A big-endian field has its declared width. -/
@[simp] theorem bigEndian_length (width value : Nat) : (bigEndian width value).length = width := by
  induction width with
  | zero => rfl
  | succ width ih => simp [bigEndian, ih]

namespace Native

/-- `camera::Format`: a device frame with its V4L2 colour metadata. -/
structure Format where
  /-- Four-character codec. -/
  codec : UInt32
  /-- Pixels in a row. -/
  width : UInt16
  /-- Rows. -/
  height : UInt16
  /-- V4L2 colour space. -/
  colorspace : UInt32
  /-- V4L2 transfer function. -/
  transfer : UInt32
  /-- V4L2 YCbCr encoding. -/
  ycbcr : UInt32
  /-- V4L2 quantization. -/
  quantization : UInt32
  deriving DecidableEq, Repr

/-- `camera::Format::validate`. -/
def Format.validate (format : Format) : Except String Unit := do
  ensure (format.codec == h264 || format.codec == mjpeg) "unsupported native camera codec"
  ensure ((format.width, format.height) == (1280, 720) ||
    (format.width, format.height) == (1920, 1080)) "unsupported native camera dimensions"
  ensure (format.colorspace ≤ 12 && format.transfer ≤ 7 && format.ycbcr ≤ 8 &&
    format.quantization ≤ 2) "unsupported camera color metadata"

/-- `camera::Packet`. -/
structure Packet where
  /-- Frame description. -/
  format : Format
  /-- Key and discontinuity bits. -/
  flags : UInt8
  /-- Activation the frame belongs to. -/
  generation : UInt64
  /-- Frame index within the activation. -/
  sequence : UInt64
  /-- Client monotonic capture time in microseconds. -/
  captureTimeUs : UInt64
  /-- Driver frame counter. -/
  driverSequence : UInt32
  /-- Frame bytes. -/
  payload : List UInt8
  deriving DecidableEq, Repr

/-- `camera::Packet::validate`. -/
def Packet.validate (packet : Packet) : Except String Unit := do
  packet.format.validate
  ensure (packet.generation != 0 && packet.sequence != 0xffffffffffffffff)
    "invalid camera activation"
  ensure (packet.captureTimeUs > 0 && packet.captureTimeUs ≤ maxCaptureTime)
    "invalid camera capture time"
  ensure (packet.flags &&& ~~~(keyFrame ||| discontinuity) == 0) "unsupported camera flags"
  ensure (packet.format.codec != mjpeg || packet.flags &&& keyFrame != 0)
    "JPEG camera frame must be independently decodable"
  ensure (1 ≤ packet.payload.length && packet.payload.length ≤ maxFrameBytes)
    "invalid camera payload size"

/-- The 64 header bytes of a raw record: `PCAM`, version 1. -/
def Packet.header (packet : Packet) : List UInt8 :=
  [0x50, 0x43, 0x41, 0x4d, 1, packet.flags] ++ bigEndian 2 headerBytes ++
    bigEndian 8 packet.generation.toNat ++ bigEndian 8 packet.sequence.toNat ++
    bigEndian 8 packet.captureTimeUs.toNat ++ bigEndian 4 packet.format.codec.toNat ++
    bigEndian 2 packet.format.width.toNat ++ bigEndian 2 packet.format.height.toNat ++
    bigEndian 4 packet.format.colorspace.toNat ++ bigEndian 4 packet.format.transfer.toNat ++
    bigEndian 4 packet.format.ycbcr.toNat ++ bigEndian 4 packet.format.quantization.toNat ++
    bigEndian 4 packet.driverSequence.toNat ++ bigEndian 4 0

/-- `camera::Packet::encode`. -/
def Packet.encode (packet : Packet) : Except String (List UInt8) := do
  packet.validate
  return packet.header ++ packet.payload

end Native

namespace Encoded

/-- `camera_encoded::Format`: a hardware-encoded frame with its provenance. -/
structure Format where
  /-- Four-character codec. -/
  codec : UInt32
  /-- Pixels in a row. -/
  width : UInt16
  /-- Rows. -/
  height : UInt16
  /-- Capturing platform. -/
  platform : UInt32
  /-- Encoder. -/
  encoder : UInt32
  /-- Pixel format before encoding. -/
  sourcePixelFormat : UInt32
  /-- Colour primaries. -/
  primaries : UInt8
  /-- Transfer function. -/
  transfer : UInt8
  /-- Colour matrix. -/
  matrix : UInt8
  /-- Sample range. -/
  range : UInt8
  /-- Nominal frame rate. -/
  nominalFps : UInt16
  deriving DecidableEq, Repr

/-- `camera_encoded::Format::validate`; every named constant of that file is 1. -/
def Format.validate (format : Format) : Except String Unit := do
  ensure (format.codec == h264 && (format.width, format.height) == (1280, 720))
    "unsupported encoded camera mode"
  ensure (format.platform == 1 && format.encoder == 1 && format.sourcePixelFormat == 1)
    "unsupported encoded camera provenance"
  ensure (format.primaries == 1 && format.transfer == 1 && format.matrix == 1 &&
    format.range == 1 && format.nominalFps == 30) "unsupported encoded camera color/rate"

/-- `camera_encoded::Packet`. -/
structure Packet where
  /-- Frame description. -/
  format : Format
  /-- Key and discontinuity bits. -/
  flags : UInt8
  /-- Activation the frame belongs to. -/
  generation : UInt64
  /-- Frame index within the activation. -/
  sequence : UInt64
  /-- Client monotonic capture time in microseconds. -/
  captureTimeUs : UInt64
  /-- Frame bytes. -/
  payload : List UInt8
  deriving DecidableEq, Repr

/-- `camera_encoded::Packet::validate`. -/
def Packet.validate (packet : Packet) : Except String Unit := do
  packet.format.validate
  ensure (packet.generation != 0 && packet.sequence != 0xffffffffffffffff)
    "invalid camera activation"
  ensure (packet.captureTimeUs > 0 && packet.captureTimeUs ≤ maxCaptureTime)
    "invalid camera capture time"
  ensure (packet.flags &&& ~~~(keyFrame ||| discontinuity) == 0) "unsupported camera flags"
  ensure (1 ≤ packet.payload.length && packet.payload.length ≤ maxFrameBytes)
    "invalid camera payload size"

/-- The 64 header bytes of an encoded record: `PCAM`, version 2. -/
def Packet.header (packet : Packet) : List UInt8 :=
  [0x50, 0x43, 0x41, 0x4d, 2, packet.flags] ++ bigEndian 2 headerBytes ++
    bigEndian 8 packet.generation.toNat ++ bigEndian 8 packet.sequence.toNat ++
    bigEndian 8 packet.captureTimeUs.toNat ++ bigEndian 4 packet.format.codec.toNat ++
    bigEndian 2 packet.format.width.toNat ++ bigEndian 2 packet.format.height.toNat ++
    bigEndian 4 packet.format.platform.toNat ++ bigEndian 4 packet.format.encoder.toNat ++
    bigEndian 4 packet.format.sourcePixelFormat.toNat ++
    [packet.format.primaries, packet.format.transfer, packet.format.matrix,
      packet.format.range] ++
    bigEndian 2 packet.format.nominalFps.toNat ++ bigEndian 2 0 ++ bigEndian 4 0

/-- `camera_encoded::Packet::encode`. -/
def Packet.encode (packet : Packet) : Except String (List UInt8) := do
  packet.validate
  return packet.header ++ packet.payload

end Encoded

/-- `camera_record::Format`. -/
inductive Format where
  /-- A raw (version 1) format. -/
  | native (format : Native.Format)
  /-- An encoded (version 2) format. -/
  | encoded (format : Encoded.Format)
  deriving DecidableEq, Repr

/-- `Format::codec`. -/
def Format.codec : Format → UInt32
  | .native format => format.codec
  | .encoded format => format.codec

/-- `Format::version`. -/
def Format.version : Format → UInt32
  | .native _ => 1
  | .encoded _ => 2

/-- `camera_record::Record`. -/
structure Record where
  /-- Frame description, which also selects the envelope. -/
  format : Format
  /-- Key and discontinuity bits. -/
  flags : UInt8
  /-- Activation the frame belongs to. -/
  generation : UInt64
  /-- Frame index within the activation. -/
  sequence : UInt64
  /-- Client monotonic capture time in microseconds. -/
  captureTimeUs : UInt64
  /-- Driver frame counter of a raw frame. -/
  driverSequence : Option UInt32
  /-- Frame bytes. -/
  payload : List UInt8
  deriving DecidableEq, Repr

namespace Record

/-- `Record::encode`. -/
def encode (record : Record) : Except String (List UInt8) :=
  match record.format with
  | .native format =>
    match record.driverSequence with
    | none => .error "missing native sequence"
    | some driverSequence =>
      (Native.Packet.mk format record.flags record.generation record.sequence
        record.captureTimeUs driverSequence record.payload).encode
  | .encoded format =>
    (Encoded.Packet.mk format record.flags record.generation record.sequence
      record.captureTimeUs record.payload).encode

/-- `flags & KEY_FRAME != 0`: the frame needs no other frame to be decoded. -/
def key (record : Record) : Bool := record.flags &&& keyFrame != 0

/-- `flags & DISCONTINUITY != 0`: frames were lost before this one. -/
def discontinuous (record : Record) : Bool := record.flags &&& discontinuity != 0

/-- An H.264 frame that is not a key frame: useless without the frame before it. -/
def dependent (record : Record) : Bool := record.format.codec == h264 && !record.key

/-- `flags |= DISCONTINUITY`. -/
def mark (record : Record) : Record := { record with flags := record.flags ||| discontinuity }

/-- Setting bits outside a mask is invisible through it. -/
theorem or_mask (flags bits mask : UInt8) (outside : bits &&& mask = 0) :
    (flags ||| bits) &&& mask = flags &&& mask := by
  apply UInt8.toBitVec_inj.mp
  have disjoint := congrArg UInt8.toBitVec outside
  simp only [UInt8.toBitVec_and, UInt8.toBitVec_or] at disjoint ⊢
  rw [BitVec.and_or_distrib_right, disjoint]
  simp

/-- A marked record is discontinuous. -/
@[simp] theorem mark_discontinuous (record : Record) : record.mark.discontinuous = true := by
  have marked : (record.flags ||| discontinuity) &&& discontinuity = discontinuity := by
    apply UInt8.toBitVec_inj.mp
    simp only [UInt8.toBitVec_and, UInt8.toBitVec_or]
    ext index inside
    simp only [BitVec.getElem_and, BitVec.getElem_or]
    grind
  simp only [discontinuous, mark, marked]
  rfl

/-- Marking keeps the key bit. -/
@[simp] theorem mark_key (record : Record) : record.mark.key = record.key := by
  simp only [key, mark, or_mask record.flags discontinuity keyFrame rfl]

/-- Marking keeps the dependency of a frame. -/
@[simp] theorem mark_dependent (record : Record) : record.mark.dependent = record.dependent := by
  simp [dependent, mark_key, show record.mark.format = record.format from rfl]

/-- Marking twice is marking once. -/
@[simp] theorem mark_mark (record : Record) : record.mark.mark = record.mark := by
  simp only [mark, UInt8.or_assoc, UInt8.or_self]

end Record

end Plank.Camera
