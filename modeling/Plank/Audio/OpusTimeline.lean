import Plank.Audio.OpusEncoder
import Mathlib.Tactic.Ring
import Mathlib.Data.Rat.Cast.Order

/-!
# The timeline of audio packets

What has happened says what the time and the flag of the next packet are to be: it goes on from the
last accepted one unless something is owed, and stands for the source time of the next frame less
the frames that the converter still holds.
-/

namespace Plank.Audio

open Media (CMTime)
open Transport (Status)

/-- A discontinuity is owed: the timeline was anchored again, or the encoder made again, and no
packet was accepted since. -/
def owed : List AudioEntry → Bool
  | [] => false
  | .restarted :: _ => true
  | .reanchored _ :: _ => true
  | .packet _ _ _ true :: _ => false
  | .packet _ _ _ false :: before => owed before
  | .prepared _ _ :: before => owed before
  | .provided _ :: before => owed before

/-- The time of the last packet that was accepted. -/
def lastTime : List AudioEntry → Option CMTime
  | [] => none
  | .packet time _ _ true :: _ => some time
  | .packet _ _ _ false :: before => lastTime before
  | .restarted :: before => lastTime before
  | .prepared _ _ :: before => lastTime before
  | .reanchored _ :: before => lastTime before
  | .provided _ :: before => lastTime before

/-- The time of the sample at which the timeline was anchored last. -/
def anchorTime : List AudioEntry → Option CMTime
  | [] => none
  | .prepared origin _ :: _ => some origin
  | .reanchored origin :: _ => some origin
  | .restarted :: before => anchorTime before
  | .packet _ _ _ _ :: before => anchorTime before
  | .provided _ :: before => anchorTime before

/-- The frames that went into the converter since the timeline was anchored. -/
def sinceAnchor : List AudioEntry → Int
  | [] => 0
  | .prepared _ _ :: _ => 0
  | .reanchored _ :: _ => 0
  | .provided count :: before => sinceAnchor before + count
  | .restarted :: before => sinceAnchor before
  | .packet _ _ _ _ :: before => sinceAnchor before

/-- The frames that the converter holds: those that prime it and those that went into it, less the
packets that were accepted. -/
def heldFrames : List AudioEntry → Int
  | [] => 0
  | .prepared _ priming :: _ => priming
  | .provided count :: before => heldFrames before + count
  | .packet _ _ _ true :: before => heldFrames before - opusFrames
  | .packet _ _ _ false :: before => heldFrames before
  | .reanchored _ :: before => heldFrames before
  | .restarted :: before => heldFrames before

/-- The arithmetic of media times is exact, for the seconds that a time stands for. -/
structure Exact (clock : TimeArithmetic) (seconds : CMTime → ℚ) : Prop where
  /-- A time is made of a number of parts of a second. -/
  make : ∀ value scale, seconds (clock.make value scale) = value / scale
  /-- Times are added. -/
  add : ∀ time more, seconds (clock.add time more) = seconds time + seconds more
  /-- Times are subtracted. -/
  subtract : ∀ time less, seconds (clock.subtract time less) = seconds time - seconds less

variable (clock : TimeArithmetic)

/-- A time of the next packet is the source time of the next frame that has not gone into the
converter, on the timeline anchored last, less the frames that the converter holds. -/
def Aligned (log : List AudioEntry) (time : CMTime) : Prop :=
  ∀ seconds, Exact clock seconds → ∃ origin, anchorTime log = some origin ∧
    seconds time = seconds origin + (sinceAnchor log - heldFrames log : Int) / opusRate

/-- What a packet is to be, after what has happened. -/
structure PacketLaw (before : List AudioEntry) (time : CMTime) (flagged passes : Bool) : Prop where
  /-- It passes the check of its time. -/
  checked : passes = true
  /-- It is marked where a discontinuity is owed. -/
  marked : flagged = owed before
  /-- Otherwise it goes on from the last accepted packet. -/
  follows : flagged = false → ∀ previous, lastTime before = some previous →
    time = clock.add previous clock.packet
  /-- Its time is that of the source. -/
  aligned : Aligned clock before time

/-- Every packet is as it is to be, after what has happened before it. -/
def Timeline : List AudioEntry → Prop
  | [] => True
  | .packet time flagged passes _ :: before =>
    PacketLaw clock before time flagged passes ∧ Timeline before
  | .restarted :: before => Timeline before
  | .prepared _ _ :: before => Timeline before
  | .reanchored _ :: before => Timeline before
  | .provided _ :: before => Timeline before

/-- What holds of the path of the packets. -/
structure Sent (path : AudioPath) : Prop where
  /-- The packets are as they are to be. -/
  timeline : Timeline clock path.log
  /-- The transport knows whether a packet was accepted. -/
  started : path.native.hasPTS = (lastTime path.log).isSome
  /-- It knows the time that goes on from the last one. -/
  next : ∀ previous, lastTime path.log = some previous →
    path.native.nextPTS = clock.add previous clock.packet

/-- What holds of an encoder that runs, with frames of a sample that went into the converter. -/
structure Running (path : AudioPath) (encoder : OpusEncoder) (fed : Int) : Prop where
  /-- What holds of its path. -/
  sent : Sent clock path
  /-- The next packet is marked where a discontinuity is owed. -/
  owes : (encoder.discontinuity || path.discontinuity) = owed path.log
  /-- The first packet of an encoder is marked, or the first of all. -/
  first : encoder.converter = false → owed path.log = true ∨ lastTime path.log = none
  /-- An encoder without a converter has taken no frames. -/
  unused : encoder.converter = false → encoder.inputFrames = 0
  /-- The time of the next packet is a number. -/
  numeric : encoder.converter = true → encoder.packetPTS.numeric = true
  /-- It goes on from the last accepted packet where nothing is owed. -/
  follows : encoder.converter = true → owed path.log = false → ∀ previous,
    lastTime path.log = some previous → encoder.packetPTS = clock.add previous clock.packet
  /-- The encoder knows the anchor. -/
  anchor : encoder.converter = true → anchorTime path.log = some encoder.origin
  /-- It counts the frames since. -/
  counts : encoder.converter = true → sinceAnchor path.log = encoder.inputFrames + fed
  /-- The time of the next packet is that of the source. -/
  aligned : encoder.converter = true → Aligned clock path.log encoder.packetPTS

variable {clock}

/-- Frames that go into the converter do not change the time of the next packet. -/
theorem Aligned.provided {log : List AudioEntry} {time : CMTime} (aligned : Aligned clock log time)
    (count : Nat) : Aligned clock (.provided count :: log) time := by
  intro seconds exact'
  obtain ⟨origin, anchored, same⟩ := aligned seconds exact'
  refine ⟨origin, anchored, same.trans ?_⟩
  show _ = seconds origin +
    ((sinceAnchor log + count - (heldFrames log + count) : Int) : ℚ) / opusRate
  rw [Int.add_sub_add_right]

/-- The time behind an accepted packet is that of the next one. -/
theorem Aligned.accepted {log : List AudioEntry} {time : CMTime} (aligned : Aligned clock log time)
    (flagged passes : Bool) :
    Aligned clock (.packet time flagged passes true :: log) (clock.add time clock.packet) := by
  intro seconds exact'
  obtain ⟨origin, anchored, same⟩ := aligned seconds exact'
  refine ⟨origin, anchored, ?_⟩
  show _ = seconds origin +
    ((sinceAnchor log - (heldFrames log - opusFrames) : Int) : ℚ) / opusRate
  rw [exact'.add, same, TimeArithmetic.packet, exact'.make]
  push_cast
  ring

/-- The time of the next packet moves with the anchor. -/
theorem Aligned.reanchored {log : List AudioEntry} {time origin : CMTime}
    (aligned : Aligned clock log time) (anchored : anchorTime log = some origin) (anchor : CMTime) :
    Aligned clock (.reanchored anchor :: log) (clock.add time (clock.subtract anchor
      (clock.add origin (clock.make (sinceAnchor log) opusRate)))) := by
  intro seconds exact'
  obtain ⟨origin', anchored', same⟩ := aligned seconds exact'
  obtain rfl := Option.some.inj (anchored.symm.trans anchored')
  refine ⟨anchor, rfl, ?_⟩
  show _ = seconds anchor + ((0 - heldFrames log : Int) : ℚ) / opusRate
  rw [exact'.add, exact'.subtract, exact'.add, exact'.make, same]
  push_cast
  ring

/-- The time of the first packet is that of the first sample less the frames that prime. -/
theorem Aligned.prepared (log : List AudioEntry) (origin : CMTime) (priming : Nat) :
    Aligned clock (.prepared origin priming :: log)
      (clock.subtract origin (clock.make priming opusRate)) := by
  intro seconds exact'
  refine ⟨origin, rfl, ?_⟩
  show _ = seconds origin + ((0 - priming : Int) : ℚ) / opusRate
  rw [exact'.subtract, exact'.make]
  push_cast
  ring

end Plank.Audio
