import Plank.Microphone.Lane
import Plank.Camera.Record
import Plank.Wire.BigEndian

/-!
# Microphone packets on the wire

`microphone.rs` writes a packet under one of two envelopes, with the capture time or without it. A
byte string is accepted when it is one of them, and then it is what the packet is written as.
-/

namespace Plank.Microphone

open Camera (ensure)
open Wire

/-- `FRAME_SAMPLES`. -/
def frameSamples : Nat := 480
/-- `MAX_OPUS_BYTES`. -/
def maxOpusBytes : Nat := 1275
/-- `HEADER_BYTES`. -/
def headerBytes : Nat := 24
/-- `TIMED_HEADER_BYTES`. -/
def timedHeaderBytes : Nat := 32
/-- `MAGIC`: the four characters `PMIC` as a number. -/
def magic : Nat := 0x504d4943
/-- Greatest capture time: `i64::MAX as u64 - 10_000_000`. -/
def maxCaptureTime : UInt64 := 9223372036844775807

namespace Packet

/-- `Packet::validate`. -/
def validate (packet : Packet) : Except String Unit := do
  ensure (packet.captureTimeNs ≤ maxCaptureTime) "invalid microphone capture timestamp"
  ensure (packet.generation ≠ 0) "zero microphone activation generation"
  ensure (packet.sampleTime.toNat % frameSamples = 0 &&
    packet.sampleTime.toNat + frameSamples < 2 ^ 64) "invalid microphone sample time"
  ensure (1 ≤ packet.opus.length && packet.opus.length ≤ maxOpusBytes)
    "invalid microphone packet size"

/-- What `encode` writes before the audio. -/
def header (packet : Packet) : List UInt8 :=
  layout ([(4, magic), (1, if packet.captureTimeNs = 0 then 2 else 3), (1, 2), (2, frameSamples),
    (8, packet.generation.toNat), (8, packet.sampleTime.toNat)] ++
      if packet.captureTimeNs = 0 then [] else [(8, packet.captureTimeNs.toNat)])

/-- `Packet::encode`. -/
def encode (packet : Packet) : Except String (List UInt8) := do
  packet.validate
  return packet.header ++ packet.opus

/-- `Packet::decode`. -/
def decode (bytes : List UInt8) : Except String Packet := do
  ensure (headerBytes + 1 ≤ bytes.length && bytes.length ≤ timedHeaderBytes + maxOpusBytes)
    "invalid microphone record length"
  ensure (word bytes 0 4 = magic && (word bytes 4 1 = 2 || word bytes 4 1 = 3) &&
    word bytes 5 1 = 2 && word bytes 6 2 = frameSamples) "unsupported microphone packet format"
  let header := if word bytes 4 1 = 3 then timedHeaderBytes else headerBytes
  ensure (header + 1 ≤ bytes.length && bytes.length ≤ header + maxOpusBytes)
    "invalid microphone payload length"
  ensure (word bytes 4 1 ≠ 3 || word bytes 24 8 ≠ 0) "missing microphone capture timestamp"
  let packet : Packet :=
    { generation := .ofNat (word bytes 8 8)
      sampleTime := .ofNat (word bytes 16 8)
      captureTimeNs := if word bytes 4 1 = 3 then .ofNat (word bytes 24 8) else 0
      opus := bytes.drop header }
  packet.validate
  return packet

/-- The byte strings of an envelope: what stands for a packet, with the capture time or without. -/
inductive Envelope : Bool → Packet → List UInt8 → Prop where
  /-- The magic, version 2, two channels, the samples of a frame, the generation, the sample time
  and the audio. -/
  | untimed {generation sampleTime : UInt64} {opus : List UInt8} (live : generation ≠ 0)
    (whole : 480 ∣ sampleTime.toNat) (room : sampleTime.toNat + 480 < 2 ^ 64)
    (some : 1 ≤ opus.length) (few : opus.length ≤ 1275) :
    Envelope false ⟨generation, sampleTime, 0, opus⟩
      ([0x50, 0x4d, 0x49, 0x43, 2, 2, 1, 0xe0] ++ writeBe 8 generation.toNat ++
        writeBe 8 sampleTime.toNat ++ opus)
  /-- The same with version 3, and the capture time before the audio. -/
  | timed {generation sampleTime captureTimeNs : UInt64} {opus : List UInt8}
    (live : generation ≠ 0) (whole : 480 ∣ sampleTime.toNat)
    (room : sampleTime.toNat + 480 < 2 ^ 64) (some : 1 ≤ opus.length)
    (few : opus.length ≤ 1275) (captured : captureTimeNs ≠ 0)
    (early : captureTimeNs.toNat + 10000000 < 2 ^ 63) :
    Envelope true ⟨generation, sampleTime, captureTimeNs, opus⟩
      ([0x50, 0x4d, 0x49, 0x43, 3, 2, 1, 0xe0] ++ writeBe 8 generation.toNat ++
        writeBe 8 sampleTime.toNat ++ writeBe 8 captureTimeNs.toNat ++ opus)

/-- What `validate` accepts. -/
structure Valid (packet : Packet) : Prop where
  /-- The capture time leaves room for ten milliseconds. -/
  early : packet.captureTimeNs.toNat + 10000000 < 2 ^ 63
  /-- The generation is not zero. -/
  live : packet.generation ≠ 0
  /-- The sample time is a whole number of frames. -/
  whole : 480 ∣ packet.sampleTime.toNat
  /-- A frame more does not overflow. -/
  room : packet.sampleTime.toNat + 480 < 2 ^ 64
  /-- There is audio. -/
  some : 1 ≤ packet.opus.length
  /-- There is not too much of it. -/
  few : packet.opus.length ≤ 1275

/-- `validate` accepts a valid packet. -/
theorem validate_ok (packet : Packet) : packet.validate = .ok () ↔ packet.Valid := by
  have latest : maxCaptureTime.toNat = 9223372036844775807 := rfl
  unfold validate
  rw [Camera.ensure_bind, Camera.ensure_bind, Camera.ensure_bind, Camera.ensure_ok]
  simp only [decide_eq_true_eq, Bool.and_eq_true, UInt64.le_iff_toNat_le, latest]
  constructor
  · rintro ⟨early, live, ⟨whole, room⟩, some, few⟩
    exact ⟨by omega, live, Nat.dvd_of_mod_eq_zero whole, room, some, few⟩
  · rintro ⟨early, live, whole, room, some, few⟩
    exact ⟨by omega, live, ⟨Nat.mod_eq_zero_of_dvd whole, room⟩, some, few⟩

/-- The bytes of an untimed header. -/
theorem layout_untimed (generation sampleTime : Nat) :
    layout [(4, magic), (1, 2), (1, 2), (2, 480), (8, generation), (8, sampleTime)] =
      [0x50, 0x4d, 0x49, 0x43, 2, 2, 1, 0xe0] ++ writeBe 8 generation ++ writeBe 8 sampleTime := by
  have fixed : writeBe 4 magic ++ (writeBe 1 2 ++ (writeBe 1 2 ++ writeBe 2 480)) =
      [0x50, 0x4d, 0x49, 0x43, 2, 2, 1, 0xe0] := by decide
  rw [← fixed]
  simp only [layout, List.append_assoc, List.append_nil]

/-- The bytes of a timed header. -/
theorem layout_timed (generation sampleTime captureTimeNs : Nat) :
    layout [(4, magic), (1, 3), (1, 2), (2, 480), (8, generation), (8, sampleTime),
        (8, captureTimeNs)] =
      [0x50, 0x4d, 0x49, 0x43, 3, 2, 1, 0xe0] ++ writeBe 8 generation ++ writeBe 8 sampleTime ++
        writeBe 8 captureTimeNs := by
  have fixed : writeBe 4 magic ++ (writeBe 1 3 ++ (writeBe 1 2 ++ writeBe 2 480)) =
      [0x50, 0x4d, 0x49, 0x43, 3, 2, 1, 0xe0] := by decide
  rw [← fixed]
  simp only [layout, List.append_assoc, List.append_nil]

/-- What is encoded stands for the packet, under the envelope that the capture time selects. -/
theorem encode_ok (packet : Packet) (bytes : List UInt8) :
    packet.encode = .ok bytes ↔ Envelope (packet.captureTimeNs ≠ 0) packet bytes := by
  have written : packet.encode = .ok bytes ↔
      packet.Valid ∧ packet.header ++ packet.opus = bytes := by
    rw [← validate_ok]
    exact Camera.checked_ok
  rw [written]
  obtain ⟨generation, sampleTime, captureTimeNs, opus⟩ := packet
  by_cases zero : captureTimeNs = 0
  · subst zero
    have head : header ⟨generation, sampleTime, 0, opus⟩ = [0x50, 0x4d, 0x49, 0x43, 2, 2, 1, 0xe0] ++
        writeBe 8 generation.toNat ++ writeBe 8 sampleTime.toNat :=
      layout_untimed generation.toNat sampleTime.toNat
    constructor
    · rintro ⟨valid, rfl⟩
      rw [head]
      exact .untimed valid.live valid.whole valid.room valid.some valid.few
    · intro stands
      cases stands with
      | untimed live whole room some few =>
        exact ⟨⟨(by decide : 0 + 10000000 < 2 ^ 63), live, whole, room, some, few⟩, by rw [head]⟩
  · have head : header ⟨generation, sampleTime, captureTimeNs, opus⟩ =
        [0x50, 0x4d, 0x49, 0x43, 3, 2, 1, 0xe0] ++ writeBe 8 generation.toNat ++
          writeBe 8 sampleTime.toNat ++ writeBe 8 captureTimeNs.toNat := by
      unfold header
      rw [if_neg zero, if_neg zero]
      exact layout_timed generation.toNat sampleTime.toNat captureTimeNs.toNat
    have timed : decide (captureTimeNs ≠ 0) = true := decide_eq_true zero
    show _ ↔ Envelope (decide (captureTimeNs ≠ 0)) _ _
    rw [timed]
    constructor
    · rintro ⟨valid, rfl⟩
      rw [head]
      exact .timed valid.live valid.whole valid.room valid.some valid.few zero valid.early
    · intro stands
      cases stands with
      | timed live whole room some few captured early =>
        exact ⟨⟨early, live, whole, room, some, few⟩, by rw [head]⟩

/-- The header numbers at the front of a byte string. -/
theorem untimed_front (bytes : List UInt8) (long : 24 ≤ bytes.length) :
    layout [(4, word bytes 0 4), (1, word bytes 4 1), (1, word bytes 5 1), (2, word bytes 6 2),
      (8, word bytes 8 8), (8, word bytes 16 8)] ++ bytes.drop 24 = bytes :=
  layout_append_drop [4, 1, 1, 2, 8, 8] long

/-- The same with the capture time. -/
theorem timed_front (bytes : List UInt8) (long : 32 ≤ bytes.length) :
    layout [(4, word bytes 0 4), (1, word bytes 4 1), (1, word bytes 5 1), (2, word bytes 6 2),
      (8, word bytes 8 8), (8, word bytes 16 8), (8, word bytes 24 8)] ++ bytes.drop 32 = bytes :=
  layout_append_drop [4, 1, 1, 2, 8, 8, 8] long

/-- What is decoded is what the byte string stands for. -/
theorem decode_sound {bytes : List UInt8} {packet : Packet} (decoded : decode bytes = .ok packet) :
    ∃ timed, Envelope timed packet bytes := by
  unfold decode at decoded
  rw [Camera.ensure_bind, Camera.ensure_bind] at decoded
  obtain ⟨_, front, decoded⟩ := decoded
  simp only [Bool.and_eq_true, Bool.or_eq_true, decide_eq_true_eq] at front
  obtain ⟨⟨⟨magical, version⟩, stereo⟩, frame⟩ := front
  dsimp only at decoded
  rw [Camera.ensure_bind, Camera.ensure_bind, Camera.checked_ok, validate_ok] at decoded
  obtain ⟨length, captured, valid, rfl⟩ := decoded
  simp only [Bool.and_eq_true, Bool.or_eq_true, decide_eq_true_eq] at length captured
  rcases version with two | three
  · have other : ¬ word bytes 4 1 = 3 := by omega
    simp only [if_neg other] at length valid ⊢
    have whole := untimed_front bytes (by unfold headerBytes at length; omega)
    rw [magical, two, stereo, frame, show frameSamples = 480 from rfl, layout_untimed,
      ← toNat_word64 bytes 8, ← toNat_word64 bytes 16] at whole
    have stands := Envelope.untimed valid.live valid.whole valid.room valid.some valid.few
    rw [show headerBytes = 24 from rfl, whole] at stands
    exact ⟨false, stands⟩
  · simp only [if_pos three] at length valid ⊢
    have whole := timed_front bytes (by unfold timedHeaderBytes at length; omega)
    rw [magical, three, stereo, frame, show frameSamples = 480 from rfl, layout_timed,
      ← toNat_word64 bytes 8, ← toNat_word64 bytes 16, ← toNat_word64 bytes 24] at whole
    have nonzero : UInt64.ofNat (word bytes 24 8) ≠ 0 := by
      intro zero
      have none : word bytes 24 8 = 0 := by
        rw [← toNat_word64, zero]
        rfl
      rcases captured with other | some
      · exact other three
      · exact some none
    have stands := Envelope.timed valid.live valid.whole valid.room valid.some valid.few nonzero
      valid.early
    rw [show timedHeaderBytes = 32 from rfl, whole] at stands
    exact ⟨true, stands⟩

/-- What stands for a packet is decoded to it. -/
theorem decode_complete {bytes : List UInt8} {timed : Bool} {packet : Packet}
    (stands : Envelope timed packet bytes) : decode bytes = .ok packet := by
  cases stands with
  | untimed live whole room some few =>
    next generation sampleTime opus =>
    rw [← layout_untimed]
    have read := readLayout_front [(4, magic), (1, 2), (1, 2), (2, 480), (8, generation.toNat),
      (8, sampleTime.toNat)] opus (by
        simpa using ⟨by decide, generation.toNat_lt, sampleTime.toNat_lt⟩)
    have size := length_layout [(4, magic), (1, 2), (1, 2), (2, 480), (8, generation.toNat),
      (8, sampleTime.toNat)]
    revert read size
    generalize layout _ = header
    intro read size
    simp only [List.map, readLayout, List.cons.injEq, Prod.mk.injEq, true_and, and_true,
      Nat.zero_add, Nat.reduceAdd] at read
    obtain ⟨magical, two, stereo, frame, generations, samples⟩ := read
    have long : (header ++ opus).length = 24 + opus.length := by
      rw [List.length_append, size]
      rfl
    have rest : (header ++ opus).drop 24 = opus := List.drop_left' size
    have valid : Valid ⟨generation, sampleTime, 0, opus⟩ :=
      ⟨(by decide : 0 + 10000000 < 2 ^ 63), live, whole, room, some, few⟩
    unfold decode
    rw [Camera.ensure_bind, Camera.ensure_bind]
    simp only [magical, two, stereo, frame, generations, samples, long]
    have lower : 24 + 1 ≤ 24 + opus.length := Nat.add_le_add_left some 24
    have upper : 24 + opus.length ≤ 24 + 1275 := Nat.add_le_add_left few 24
    have most : 24 + opus.length ≤ 32 + 1275 := by omega
    refine ⟨Bool.and_eq_true_iff.mpr ⟨decide_eq_true lower, decide_eq_true most⟩, by decide, ?_⟩
    rw [if_neg (by decide), if_neg (by decide), Camera.ensure_bind, Camera.ensure_bind,
      Camera.checked_ok, validate_ok, UInt64.ofNat_toNat, UInt64.ofNat_toNat,
      show headerBytes = 24 from rfl, rest]
    exact ⟨Bool.and_eq_true_iff.mpr ⟨decide_eq_true lower, decide_eq_true upper⟩, rfl, valid, rfl⟩
  | timed live whole room some few captured early =>
    next generation sampleTime captureTimeNs opus =>
    rw [← layout_timed]
    have read := readLayout_front [(4, magic), (1, 3), (1, 2), (2, 480), (8, generation.toNat),
      (8, sampleTime.toNat), (8, captureTimeNs.toNat)] opus (by
        simpa using ⟨by decide, generation.toNat_lt, sampleTime.toNat_lt, captureTimeNs.toNat_lt⟩)
    have size := length_layout [(4, magic), (1, 3), (1, 2), (2, 480), (8, generation.toNat),
      (8, sampleTime.toNat), (8, captureTimeNs.toNat)]
    revert read size
    generalize layout _ = header
    intro read size
    simp only [List.map, readLayout, List.cons.injEq, Prod.mk.injEq, true_and, and_true,
      Nat.zero_add, Nat.reduceAdd] at read
    obtain ⟨magical, three, stereo, frame, generations, samples, captures⟩ := read
    have long : (header ++ opus).length = 32 + opus.length := by
      rw [List.length_append, size]
      rfl
    have rest : (header ++ opus).drop 32 = opus := List.drop_left' size
    have valid : Valid ⟨generation, sampleTime, captureTimeNs, opus⟩ :=
      ⟨early, live, whole, room, some, few⟩
    have positive : captureTimeNs.toNat ≠ 0 := fun zero => captured (UInt64.toNat_inj.mp zero)
    unfold decode
    rw [Camera.ensure_bind, Camera.ensure_bind]
    simp only [magical, three, stereo, frame, generations, samples, captures, long]
    have lower : 32 + 1 ≤ 32 + opus.length := Nat.add_le_add_left some 32
    have least : 24 + 1 ≤ 32 + opus.length := by omega
    have upper : 32 + opus.length ≤ 32 + 1275 := Nat.add_le_add_left few 32
    refine ⟨Bool.and_eq_true_iff.mpr ⟨decide_eq_true least, decide_eq_true upper⟩, by decide, ?_⟩
    rw [if_pos trivial, if_pos trivial, Camera.ensure_bind, Camera.ensure_bind,
      Camera.checked_ok, validate_ok, UInt64.ofNat_toNat, UInt64.ofNat_toNat,
      UInt64.ofNat_toNat, show timedHeaderBytes = 32 from rfl, rest]
    exact ⟨Bool.and_eq_true_iff.mpr ⟨decide_eq_true lower, decide_eq_true upper⟩,
      by simpa using positive, valid, rfl⟩

/-- The version byte tells the envelopes apart. -/
theorem version_of_envelope {bytes : List UInt8} {timed : Bool} {packet : Packet}
    (stands : Envelope timed packet bytes) : bytes[4]? = some (if timed then 3 else 2) := by
  cases stands with
  | untimed => rfl
  | timed => rfl

/-- What is known of the two envelopes: encoding and decoding are inverse to each other and keep the
envelope, a byte string stands for a packet under one envelope at most, and exactly the byte strings
of the envelopes are accepted. -/
structure CodecLaw : Prop where
  /-- What is encoded is decoded, and stands for the packet under its envelope. -/
  encoded : ∀ packet bytes, packet.encode = .ok bytes →
    decode bytes = .ok packet ∧ Envelope (packet.captureTimeNs ≠ 0) packet bytes
  /-- A valid packet is encoded. -/
  valid : ∀ packet : Packet, packet.Valid → ∃ bytes, packet.encode = .ok bytes
  /-- What is decoded is encoded again. -/
  decoded : ∀ bytes packet, decode bytes = .ok packet → packet.encode = .ok bytes
  /-- No byte string is of both envelopes. -/
  disjoint : ∀ bytes packet other, Envelope false packet bytes → ¬ Envelope true other bytes
  /-- Exactly the byte strings of the envelopes are accepted. -/
  accepted : ∀ bytes packet, decode bytes = .ok packet ↔ ∃ timed, Envelope timed packet bytes

/-- The envelope of a packet is that of its capture time. -/
theorem timed_of_envelope {bytes : List UInt8} {timed : Bool} {packet : Packet}
    (stands : Envelope timed packet bytes) : timed = decide (packet.captureTimeNs ≠ 0) := by
  cases stands with
  | untimed => rfl
  | timed _ _ _ _ _ captured => exact (decide_eq_true captured).symm

/-- The microphone codec. -/
theorem microphone_codec : CodecLaw where
  encoded packet bytes written := by
    have stands := (encode_ok packet bytes).mp written
    exact ⟨decode_complete stands, stands⟩
  valid packet valid := ⟨_, Camera.checked_ok.mpr ⟨(validate_ok packet).mpr valid, rfl⟩⟩
  decoded bytes packet read := by
    obtain ⟨timed, stands⟩ := decode_sound read
    rw [timed_of_envelope stands] at stands
    exact (encode_ok packet bytes).mpr stands
  disjoint bytes packet other stands against := by
    have same := (version_of_envelope stands).symm.trans (version_of_envelope against)
    exact absurd same (by decide)
  accepted bytes packet := ⟨decode_sound, fun ⟨_, stands⟩ => decode_complete stands⟩

end Packet

end Plank.Microphone
