import Plank.Audio.OpusTimeline
import Mathlib.Algebra.Order.Floor.Ring
import Mathlib.Data.Rat.Floor
import Mathlib.Tactic.FieldSimp

/-!
# Every run of the audio of a capture

Whatever the source, the converter and the transport do, and however often the encoder is made
again, every packet passes the check of its time, and no jump leaves an offset behind.
-/

namespace Plank.Audio

open Media (CMTime)
open Transport (Status)

variable {clock : TimeArithmetic}

/-! ### A packet -/

/-- The transport goes on from the packet that it accepts. -/
theorem sendOpusPacket_native (native : NativeAudio) (packet : List UInt8) (time : CMTime)
    (discontinuity : Bool) (send : Send) :
    (native.sendOpusPacket clock packet time discontinuity send).2 =
      if (native.sendOpusPacket clock packet time discontinuity send).1.taken = true then
        ⟨true, clock.add time clock.packet⟩
      else native := by
  unfold NativeAudio.sendOpusPacket
  by_cases ready : (!send.ready) = true
  · rw [if_pos ready]
    rfl
  rw [if_neg ready]
  by_cases leased : (!send.leased || !send.valid) = true
  · rw [if_pos leased]
    rfl
  rw [if_neg leased]
  by_cases refused : (decide (packet.length = 0) || decide (65536 < packet.length) ||
      !time.numeric || decide (time.epoch ≠ 0) || decide (time.value < 0) ||
      !native.continuous clock time discontinuity) = true
  · rw [if_pos refused]
    rfl
  rw [if_neg refused]
  dsimp only
  by_cases ranged : (!(clock.add time clock.packet).numeric ||
      decide (clock.compare (clock.add time clock.packet) time ≤ 0) ||
      !(clock.milliseconds time).numeric || decide ((clock.milliseconds time).value < 0) ||
      decide (2 ^ 61 ≤ (clock.milliseconds time).value)) = true
  · rw [if_pos ranged]
    rfl
  rw [if_neg ranged]

/-- A packet of an encoder that runs is as it is to be. -/
theorem Running.packet {path : AudioPath} {encoder : OpusEncoder} {fed : Int}
    (same : ∀ time : CMTime, time.numeric = true → clock.compare time time = 0)
    (running : Running clock path encoder fed) (converter : encoder.converter = true) :
    PacketLaw clock path.log encoder.packetPTS (encoder.discontinuity || path.discontinuity)
      (path.native.continuous clock encoder.packetPTS
        (encoder.discontinuity || path.discontinuity)) := by
  refine ⟨?_, running.owes, fun unmarked => ?_, running.aligned converter⟩
  · unfold NativeAudio.continuous
    rw [running.owes]
    cases owes : owed path.log with
    | true => simp
    | false =>
      cases last : lastTime path.log with
      | none =>
        have started := running.sent.started
        rw [last] at started
        rw [started]
        rfl
      | some previous =>
        have next := running.sent.next previous last
        rw [next, ← running.follows converter owes previous last,
          same _ (running.numeric converter)]
        simp
  · exact running.follows converter (running.owes ▸ unmarked)

/-- A packet that is sent is noted, and the path goes on from it if it is accepted. -/
theorem Running.output {path : AudioPath} {encoder : OpusEncoder} {fed : Int}
    (same : ∀ time : CMTime, time.numeric = true → clock.compare time time = 0)
    (running : Running clock path encoder fed) (converter : encoder.converter = true)
    (packet : List UInt8) (send : Send) {taken : Bool} {after : AudioPath}
    (sends : path.output clock packet encoder.packetPTS encoder.discontinuity send =
      (taken, after)) :
    Sent clock after ∧ (taken = true → ∃ flagged passes,
      after.log = .packet encoder.packetPTS flagged passes true :: path.log ∧
        after.discontinuity = false) := by
  have law := running.packet same converter
  unfold AudioPath.output at sends
  by_cases stopping : send.stopping = true
  · rw [if_pos stopping] at sends
    obtain ⟨rfl, rfl⟩ := Prod.mk.inj sends
    exact ⟨running.sent, nofun⟩
  rw [if_neg stopping] at sends
  have native_eq := @sendOpusPacket_native clock path.native packet encoder.packetPTS
    (encoder.discontinuity || path.discontinuity) send
  dsimp only at sends
  generalize path.native.sendOpusPacket clock packet encoder.packetPTS
    (encoder.discontinuity || path.discontinuity) send = reply at sends native_eq
  obtain ⟨sent, native⟩ := reply
  dsimp only at sends native_eq
  obtain ⟨rfl, rfl⟩ := Prod.mk.inj sends
  cases taken : sent.taken with
  | true =>
    rw [taken, if_pos rfl] at native_eq
    subst native_eq
    refine ⟨⟨⟨law, running.sent.timeline⟩, rfl, ?_⟩, fun _ => ⟨_, _, rfl, ?_⟩⟩
    · rintro previous ⟨⟩
      rfl
    · simp
  | false =>
    rw [taken, if_neg Bool.false_ne_true] at native_eq
    subst native_eq
    exact ⟨⟨⟨law, running.sent.timeline⟩, running.sent.started, running.sent.next⟩, nofun⟩

/-! ### A sample -/

/-- An encoding runs while frames of its sample go into the converter. -/
structure Encodes (clock : TimeArithmetic) (encoding : Encoding) (frames : Int) : Prop where
  /-- The encoder runs. -/
  running : Running clock encoding.path encoding.encoder (frames - encoding.remaining)
  /-- It has a converter. -/
  converter : encoding.encoder.converter = true

/-- Frames that go into the converter leave the encoder running. -/
theorem Encodes.provide {encoding : Encoding} {frames : Int}
    (encodes : Encodes clock encoding frames) (count : Nat) :
    Encodes clock (encoding.provide count) frames := by
  obtain ⟨running, converter⟩ := encodes
  refine ⟨⟨⟨running.sent.timeline, running.sent.started, running.sent.next⟩, running.owes,
    running.first, running.unused, running.numeric, running.follows, running.anchor,
    fun _ => ?_, fun _ => ?_⟩, converter⟩
  · have counts := running.counts converter
    show sinceAnchor encoding.path.log + (min count encoding.remaining : Nat) =
      encoding.encoder.inputFrames +
        (frames - (encoding.remaining - min count encoding.remaining : Nat))
    omega
  · exact (running.aligned converter).provided _

/-- Frames that go into the converter, one request after another. -/
theorem Encodes.feed {encoding : Encoding} {frames : Int} (encodes : Encodes clock encoding frames)
    (requests : List Nat) : Encodes clock (requests.foldl Encoding.provide encoding) frames := by
  induction requests generalizing encoding with
  | nil => exact encodes
  | cons count requests ih => exact ih (encodes.provide count)

/-- A packet that is filled leaves the encoder running, or its path as it is to be. -/
theorem Encodes.take {encoding : Encoding} {frames : Int}
    (same : ∀ time : CMTime, time.numeric = true → clock.compare time time = 0)
    (encodes : Encodes clock encoding frames) (fill : Fill) (send : Send) {goes : Bool}
    {after : Encoding} (takes : encoding.take clock fill send = (goes, after)) :
    Sent clock after.path ∧ (goes = true → Encodes clock after frames) := by
  obtain ⟨running, converter⟩ := encodes
  unfold Encoding.take at takes
  by_cases none : fill.packets = 0
  · rw [if_pos none] at takes
    obtain ⟨rfl, rfl⟩ := Prod.mk.inj takes
    exact ⟨running.sent, fun _ => ⟨running, converter⟩⟩
  rw [if_neg none] at takes
  dsimp only at takes
  by_cases bad : (decide (fill.packets ≠ 1) || decide (fill.startOffset ≠ 0) ||
      decide (fill.bytes.length = 0) ||
      decide (encoding.encoder.maximumPacketBytes < fill.bytes.length) ||
      (decide (fill.variableFrames ≠ 0) && decide (fill.variableFrames ≠ opusFrames))) = true
  · rw [if_pos bad] at takes
    obtain ⟨rfl, rfl⟩ := Prod.mk.inj takes
    exact ⟨running.sent, nofun⟩
  rw [if_neg bad] at takes
  generalize output_eq : encoding.path.output clock fill.bytes encoding.encoder.packetPTS
    encoding.encoder.discontinuity send = reply at takes
  obtain ⟨taken, path⟩ := reply
  obtain ⟨sent, accepted⟩ := running.output same converter fill.bytes send output_eq
  dsimp only at takes
  by_cases stops : (!taken || send.stopped) = true
  · rw [if_pos stops] at takes
    obtain ⟨rfl, rfl⟩ := Prod.mk.inj takes
    exact ⟨sent, nofun⟩
  rw [if_neg stops] at takes
  obtain ⟨rfl, rfl⟩ := Prod.mk.inj takes
  simp only [Bool.or_eq_true, not_or, Bool.not_eq_true', Bool.not_eq_false] at stops
  obtain ⟨flagged, passes, log_eq, settled⟩ := accepted stops.1
  have made {Conclusion : Prop} (unmade : encoding.encoder.converter = false) : Conclusion :=
    absurd (converter.symm.trans unmade) (by decide)
  refine ⟨sent, fun numeric => ⟨⟨sent, ?_, made, made, fun _ => numeric, ?_, ?_, ?_, ?_⟩,
    converter⟩⟩
  · show (false || path.discontinuity) = owed path.log
    rw [settled, log_eq]
    rfl
  · intro _ _ previous last
    have last : lastTime path.log = some previous := last
    rw [log_eq] at last
    rw [← Option.some.inj last]
  · intro _
    show anchorTime path.log = _
    rw [log_eq]
    exact running.anchor converter
  · intro _
    show sinceAnchor path.log = _
    rw [log_eq]
    exact running.counts converter
  · intro _
    show Aligned clock path.log _
    rw [log_eq]
    exact (running.aligned converter).accepted flagged passes

/-- The buffers of a sample are encoded to its end by an encoder that runs, or the path is as it is
to be. -/
theorem Encodes.encodeBuffers {encoding : Encoding} {frames : Int}
    (same : ∀ time : CMTime, time.numeric = true → clock.compare time time = 0)
    (encodes : Encodes clock encoding frames) (answers : Nat → Fill × Send) (left : Nat)
    {done : Bool} {after : Encoding}
    (encoded : encoding.encodeBuffers clock answers left = (done, after)) :
    Sent clock after.path ∧
      (done = true → Encodes clock after frames ∧ after.remaining = 0) := by
  induction left generalizing encoding with
  | zero =>
    obtain ⟨rfl, rfl⟩ := Prod.mk.inj encoded
    exact ⟨encodes.running.sent, nofun⟩
  | succ left ih =>
    unfold Encoding.encodeBuffers at encoded
    generalize answers left = answer at encoded
    obtain ⟨fill, send⟩ := answer
    have fed := encodes.feed fill.requests
    dsimp only at encoded
    by_cases failed : fill.status = .failed
    · rw [if_pos failed] at encoded
      obtain ⟨rfl, rfl⟩ := Prod.mk.inj encoded
      exact ⟨fed.running.sent, nofun⟩
    rw [if_neg failed] at encoded
    generalize takes : (fill.requests.foldl Encoding.provide encoding).take clock fill send =
      reply at encoded
    obtain ⟨goes, next⟩ := reply
    obtain ⟨sent, kept⟩ := fed.take same fill send takes
    cases goes with
    | false =>
      obtain ⟨rfl, rfl⟩ := Prod.mk.inj encoded
      exact ⟨sent, nofun⟩
    | true =>
      dsimp only at encoded
      by_cases starved : fill.status = .starved
      · rw [if_pos starved] at encoded
        obtain ⟨rfl, rfl⟩ := Prod.mk.inj encoded
        exact ⟨sent, fun emptied => ⟨kept rfl, of_decide_eq_true emptied⟩⟩
      · rw [if_neg starved] at encoded
        exact ih (kept rfl) encoded

/-- The timeline is anchored for a sample, or the encoder refuses it. -/
theorem Running.begins {path after : AudioPath} {encoder ready : OpusEncoder}
    (running : Running clock path encoder 0) (format : PcmFormat) (time : CMTime)
    (answers : ConverterAnswers)
    (begins : encoder.begin' clock path format time answers = some (ready, after)) :
    Running clock after ready 0 ∧ ready.converter = true := by
  unfold OpusEncoder.begin' at begins
  by_cases converter : encoder.converter = true
  · rw [if_pos converter] at begins
    unfold OpusEncoder.follow at begins
    obtain ⟨-, begins⟩ := Option.ite_none_left_eq_some.mp begins
    dsimp only at begins
    obtain ⟨-, begins⟩ := Option.ite_none_left_eq_some.mp begins
    have counts := running.counts converter
    rw [Int.add_zero] at counts
    by_cases beyond : clock.beyond (clock.subtract time
        (clock.add encoder.origin (clock.make encoder.inputFrames opusRate))) = true
    · rw [if_pos beyond] at begins
      obtain ⟨ranged, begins⟩ := Option.ite_none_left_eq_some.mp begins
      obtain ⟨rfl, rfl⟩ := Prod.mk.inj (Option.some.inj begins)
      simp only [Bool.or_eq_true, not_or, Bool.not_eq_true', Bool.not_eq_false] at ranged
      refine ⟨⟨⟨running.sent.timeline, running.sent.started, running.sent.next⟩, rfl,
        fun _ => .inl rfl, fun _ => rfl, fun _ => ranged.1, fun _ settled => (nomatch settled),
        fun _ => rfl, fun _ => rfl, fun _ => ?_⟩, converter⟩
      have moved := (running.aligned converter).reanchored (running.anchor converter) time
      rw [counts] at moved
      exact moved
    · rw [if_neg beyond] at begins
      obtain ⟨rfl, rfl⟩ := Prod.mk.inj (Option.some.inj begins)
      exact ⟨running, converter⟩
  · rw [if_neg converter] at begins
    have unmade := Bool.eq_false_of_not_eq_true converter
    cases prepared : encoder.prepare clock format time answers with
    | none =>
      rw [prepared] at begins
      exact nomatch begins
    | some made =>
      rw [prepared] at begins
      obtain ⟨rfl, rfl⟩ := Prod.mk.inj (Option.some.inj begins)
      unfold OpusEncoder.prepare at prepared
      obtain ⟨-, prepared⟩ := Option.ite_none_left_eq_some.mp prepared
      match leading : answers.leadingFrames, maximal : answers.maximumPacketBytes with
      | none, _ | some _, none =>
        rw [leading, maximal] at prepared
        exact nomatch prepared
      | some priming, some maximum =>
        rw [leading, maximal] at prepared
        dsimp only at prepared
        obtain ⟨-, prepared⟩ := Option.ite_none_left_eq_some.mp prepared
        obtain ⟨ranged, prepared⟩ := Option.ite_none_right_eq_some.mp prepared
        obtain rfl := Option.some.inj prepared
        rw [Bool.and_eq_true] at ranged
        refine ⟨⟨⟨running.sent.timeline, running.sent.started, running.sent.next⟩, running.owes,
          nofun, nofun, fun _ => ranged.1, ?_, fun _ => rfl, fun _ => ?_, fun _ => ?_⟩, rfl⟩
        · intro _ settled previous last
          obtain owes | none := running.first unmade
          · exact absurd (owes.symm.trans settled) (by decide)
          · exact nomatch none.symm.trans last
        · show 0 = encoder.inputFrames + 0
          rw [running.unused unmade, Int.add_zero]
        · exact Aligned.prepared path.log time priming

/-- A sample whose description is as it has to be has frames. -/
theorem AudioSample.checked_frames (sample : AudioSample) {format : PcmFormat}
    (checked : sample.checked = some format) : 0 < sample.frames := by
  unfold AudioSample.checked at checked
  obtain ⟨-, checked⟩ := Option.ite_none_left_eq_some.mp checked
  cases described : sample.format with
  | none =>
    rw [described] at checked
    exact nomatch checked
  | some description =>
    rw [described] at checked
    obtain ⟨bad, -⟩ := Option.ite_none_left_eq_some.mp checked
    simp only [Bool.or_eq_true, not_or, decide_eq_true_eq, Int.not_le] at bad
    exact bad.1.2

/-- A sample is encoded by an encoder that runs on, or the path is as it is to be. -/
theorem Running.consume {path after : AudioPath} {encoder next : OpusEncoder}
    (same : ∀ time : CMTime, time.numeric = true → clock.compare time time = 0)
    (running : Running clock path encoder 0) (sample : AudioSample) (answers : EncodeAnswers)
    {done : Bool} (consumed : encoder.consume clock path sample answers = (done, after, next)) :
    Sent clock after ∧ (done = true → Running clock after next 0) := by
  -- What is left where the encoder gives up.
  have gives_up {path : AudioPath} {encoder : OpusEncoder} (sent : Sent clock path)
      (left : (false, path, encoder) = (done, after, next)) :
      Sent clock after ∧ (done = true → Running clock after next 0) := by
    obtain ⟨rfl, rest⟩ := Prod.mk.inj left
    obtain ⟨rfl, -⟩ := Prod.mk.inj rest
    exact ⟨sent, nofun⟩
  unfold OpusEncoder.consume at consumed
  cases checked : sample.checked with
  | none =>
    rw [checked] at consumed
    exact gives_up running.sent consumed
  | some format =>
    rw [checked] at consumed
    dsimp only at consumed
    cases begins : encoder.begin' clock path format sample.presentation answers.converter with
    | none =>
      rw [begins] at consumed
      exact gives_up running.sent consumed
    | some begun =>
      obtain ⟨ready, path⟩ := begun
      obtain ⟨kept, converter⟩ :=
        running.begins format sample.presentation answers.converter begins
      rw [begins] at consumed
      dsimp only at consumed
      cases listed : sample.buffers with
      | none =>
        rw [listed] at consumed
        exact gives_up kept.sent consumed
      | some buffers =>
        rw [listed] at consumed
        dsimp only at consumed
        by_cases valid : (decide (buffers.length = if format.planar = true then 2 else 1) &&
            buffers.all fun buffer =>
              buffer.valid format.planar sample.frames format.bytesPerFrame) = true
        · rw [if_pos valid] at consumed
          have positive : (sample.frames.toNat : Int) = sample.frames :=
            Int.toNat_of_nonneg (Int.le_of_lt (sample.checked_frames checked))
          have encodes : Encodes clock ⟨path, ready, sample.frames.toNat⟩ sample.frames := by
            refine ⟨?_, converter⟩
            show Running clock path ready (sample.frames - sample.frames.toNat)
            rw [positive, Int.sub_self]
            exact kept
          generalize encoded : Encoding.encodeBuffers clock ⟨path, ready, sample.frames.toNat⟩
            answers.steps 40 = reply at consumed
          obtain ⟨ended, behind⟩ := reply
          obtain ⟨sent, ran⟩ := encodes.encodeBuffers same answers.steps 40 encoded
          cases ended with
          | false => exact gives_up sent consumed
          | true =>
            obtain ⟨⟨running, converter⟩, emptied⟩ := ran rfl
            rw [emptied] at running
            obtain ⟨rfl, rest⟩ := Prod.mk.inj consumed
            obtain ⟨rfl, rfl⟩ := Prod.mk.inj rest
            refine ⟨sent, fun _ => ⟨sent, running.owes, running.first, fun unmade => ?_,
              running.numeric, running.follows, running.anchor, fun _ => ?_, running.aligned⟩⟩
            · exact absurd (converter.symm.trans unmade) (by decide)
            · have counts := running.counts converter
              show sinceAnchor behind.path.log = behind.encoder.inputFrames + sample.frames + 0
              omega
        · rw [if_neg valid] at consumed
          exact gives_up kept.sent consumed

/-! ### Every run -/

/-- What holds between two events. -/
structure AudioKept (clock : TimeArithmetic) (path : AudioPath) : Prop where
  /-- What holds of the path. -/
  sent : Sent clock path
  /-- Its encoder runs, if it is not stopped. -/
  running : ∀ encoder, path.encoder = some encoder → encoder.stopped = false →
    Running clock path encoder 0

/-- Another encoder of a path does not change what holds of an encoder that runs. -/
theorem Running.congr {path : AudioPath} {encoder : OpusEncoder} {fed : Int}
    (running : Running clock path encoder fed) (other : Option OpusEncoder) :
    Running clock { path with encoder := other } encoder fed :=
  ⟨⟨running.sent.timeline, running.sent.started, running.sent.next⟩, running.owes, running.first,
    running.unused, running.numeric, running.follows, running.anchor, running.counts,
    running.aligned⟩

/-- A fresh encoder runs where the first packet is marked, or the first of all. -/
theorem running_fresh {path : AudioPath} (sent : Sent clock path)
    (owes : path.discontinuity = owed path.log)
    (first : owed path.log = true ∨ lastTime path.log = none) :
    Running clock path OpusEncoder.fresh 0 :=
  ⟨sent, owes, fun _ => first, fun _ => rfl, nofun, nofun, nofun, nofun, nofun⟩

/-- The encoder that is made is a fresh one. -/
theorem fresh_of_made {made : Bool} {encoder : OpusEncoder}
    (present : (if made then some OpusEncoder.fresh else none) = some encoder) :
    encoder = OpusEncoder.fresh := by
  cases made with
  | false => exact nomatch present
  | true => exact (Option.some.inj present).symm

/-- An event keeps the invariant. -/
theorem AudioKept.perform {path : AudioPath}
    (same : ∀ time : CMTime, time.numeric = true → clock.compare time time = 0)
    (kept : AudioKept clock path) (event : AudioEvent) :
    AudioKept clock (path.perform clock event) := by
  cases event with
  | stop =>
    show AudioKept clock { path with encoder := none }
    refine ⟨⟨kept.sent.timeline, kept.sent.started, kept.sent.next⟩, fun encoder present => ?_⟩
    exact nomatch present
  | restart made =>
    show AudioKept clock
      { path with
        discontinuity := true
        encoder := if made then some OpusEncoder.fresh else none
        log := .restarted :: path.log }
    refine ⟨⟨kept.sent.timeline, kept.sent.started, kept.sent.next⟩, fun encoder present _ => ?_⟩
    rw [fresh_of_made present]
    exact running_fresh ⟨kept.sent.timeline, kept.sent.started, kept.sent.next⟩ rfl (.inl rfl)
  | sample sample answers =>
    unfold AudioPath.perform
    cases present : path.encoder with
    | none => exact ⟨kept.sent, fun encoder other => nomatch present.symm.trans other⟩
    | some encoder =>
      dsimp only
      unfold OpusEncoder.encodeSample
      by_cases stopped : encoder.stopped = true
      · rw [if_pos stopped]
        refine ⟨⟨kept.sent.timeline, kept.sent.started, kept.sent.next⟩, ?_⟩
        rintro other ⟨⟩ going
        exact absurd (stopped.symm.trans going) (by decide)
      rw [if_neg stopped]
      have running := kept.running encoder present (Bool.eq_false_of_not_eq_true stopped)
      generalize consumed : encoder.consume clock path sample answers = reply
      obtain ⟨done, after, next⟩ := reply
      obtain ⟨sent, runs⟩ := running.consume same sample answers consumed
      cases done with
      | false =>
        refine ⟨⟨sent.timeline, sent.started, sent.next⟩, ?_⟩
        rintro other ⟨⟩ going
        exact nomatch going
      | true =>
        refine ⟨⟨sent.timeline, sent.started, sent.next⟩, ?_⟩
        rintro other ⟨⟩ -
        exact (runs rfl).congr _

/-- What is known of the audio of a capture. -/
structure AudioLaw (clock : TimeArithmetic) (path : AudioPath) : Prop where
  /-- Every packet passes the check of its time, is marked where a discontinuity is owed, goes on
  from the last accepted one otherwise, and has the time of the source. -/
  timeline : Timeline clock path.log
  /-- Between samples too, the next packet of an encoder that runs has the time of the source. -/
  aligned : ∀ encoder, path.encoder = some encoder → encoder.stopped = false →
    encoder.converter = true → Aligned clock path.log encoder.packetPTS
  /-- The anchor of the timeline is that of the encoder, which counts the frames since. -/
  anchored : ∀ encoder, path.encoder = some encoder → encoder.stopped = false →
    encoder.converter = true → anchorTime path.log = some encoder.origin ∧
      sinceAnchor path.log = encoder.inputFrames

/-- The seconds of a time as a fraction. -/
def fractionSeconds (time : CMTime) : ℚ := time.value / time.timescale

/-- Media times as fractions; one with a scale of zero stands for zero seconds. -/
def fractions : TimeArithmetic where
  make value scale := ⟨value, scale, true, 0⟩
  add time more :=
    if time.timescale = 0 then more
    else if more.timescale = 0 then time
    else ⟨time.value * more.timescale + more.value * time.timescale,
      time.timescale * more.timescale, time.numeric && more.numeric, 0⟩
  subtract time less :=
    if less.timescale = 0 then time
    else if time.timescale = 0 then ⟨-less.value, less.timescale, less.numeric, 0⟩
    else ⟨time.value * less.timescale - less.value * time.timescale,
      time.timescale * less.timescale, time.numeric && less.numeric, 0⟩
  compare time other :=
    if fractionSeconds time < fractionSeconds other then -1
    else if fractionSeconds other < fractionSeconds time then 1
    else 0
  finite time := time.numeric
  beyond time := 1 / 10000000 < |fractionSeconds time|
  milliseconds time := ⟨⌊1000 * fractionSeconds time⌋, 1000, time.numeric, 0⟩

/-- The arithmetic of fractions is exact. -/
theorem fractions_exact : Exact fractions fractionSeconds where
  make value scale := rfl
  add time more := by
    unfold fractions fractionSeconds
    dsimp only
    by_cases first : time.timescale = 0
    · simp [first]
    by_cases second : more.timescale = 0
    · simp [first, second]
    have first' : (time.timescale : ℚ) ≠ 0 := Int.cast_ne_zero.mpr first
    have second' : (more.timescale : ℚ) ≠ 0 := Int.cast_ne_zero.mpr second
    rw [if_neg first, if_neg second]
    push_cast
    field_simp
  subtract time less := by
    unfold fractions fractionSeconds
    dsimp only
    by_cases second : less.timescale = 0
    · simp [second]
    by_cases first : time.timescale = 0
    · simp [first, second, neg_div]
    have first' : (time.timescale : ℚ) ≠ 0 := Int.cast_ne_zero.mpr first
    have second' : (less.timescale : ℚ) ≠ 0 := Int.cast_ne_zero.mpr second
    rw [if_neg second, if_neg first]
    push_cast
    field_simp

/-- A time is not before or after itself. -/
theorem fractions_compare (time : CMTime) : fractions.compare time time = 0 := by
  show (if fractionSeconds time < fractionSeconds time then (-1 : Int) else _) = 0
  rw [if_neg (lt_irrefl _), if_neg (lt_irrefl _)]

/-- A packet of interleaved silence at a number of frames. -/
def silence (frames : Int) : AudioSample where
  valid := true
  ready := true
  audio := some true
  format := some ⟨true, 48000, flagIsFloat, 8, 1, 8, 2, 32⟩
  presentation := ⟨frames, 48000, true, 0⟩
  frames := opusFrames
  buffers := some [⟨2, 1920, some (List.replicate 480 0)⟩]

/-- A converter that gives a packet for a sample, and a transport that accepts it. -/
def onePacket : EncodeAnswers where
  converter := ⟨true, true, some 312, some 1500⟩
  steps _ := (⟨[240, 240], .starved, 1, 0, [0], 0⟩, ⟨false, true, true, true, .ok, false⟩)

end Plank.Audio
