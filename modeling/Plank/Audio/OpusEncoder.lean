import Plank.Media.AnnexB
import Plank.Transport.Result
import Mathlib.Data.Rat.Defs

/-!
# The Opus encoder and its packets

`opus-encoder.m` encodes the samples of one source, keeps the time of the next packet, and moves it
where the source clock jumps. `screen-capture.m` makes one encoder after another and hands the
packets to `native-audio.m`, which checks that their times go on. What the frameworks and the
transport answer comes with each call.
-/

namespace Plank.Audio

open Media (CMTime)
open Transport (Status)

/-- `Rate`. -/
def opusRate : Int := 48000
/-- `PacketFrames`. -/
def opusFrames : Int := 240
/-- `MaxChunkFrames`. -/
def maxChunkFrames : Int := 8192

/-- The arithmetic of media times. -/
structure TimeArithmetic where
  /-- `CMTimeMake`. -/
  make : Int → Int → CMTime
  /-- `CMTimeAdd`. -/
  add : CMTime → CMTime → CMTime
  /-- `CMTimeSubtract`. -/
  subtract : CMTime → CMTime → CMTime
  /-- `CMTimeCompare`. -/
  compare : CMTime → CMTime → Int
  /-- `CMTimeGetSeconds` is finite. -/
  finite : CMTime → Bool
  /-- `CMTimeGetSeconds` is farther from zero than the tolerance of the source clock. -/
  beyond : CMTime → Bool
  /-- `CMTimeConvertScale` to a thousandth, rounded toward zero. -/
  milliseconds : CMTime → CMTime

/-- `CMTimeMake(240, 48000)`: the time of a packet. -/
def TimeArithmetic.packet (clock : TimeArithmetic) : CMTime := clock.make opusFrames opusRate

/-- `AudioStreamBasicDescription`. -/
structure PcmFormat where
  /-- `mFormatID` is linear PCM. -/
  linear : Bool
  /-- `mSampleRate`. -/
  sampleRate : ℚ
  /-- `mFormatFlags`. -/
  formatFlags : UInt32
  /-- `mBytesPerPacket`. -/
  bytesPerPacket : Nat
  /-- `mFramesPerPacket`. -/
  framesPerPacket : Nat
  /-- `mBytesPerFrame`. -/
  bytesPerFrame : Nat
  /-- `mChannelsPerFrame`. -/
  channelsPerFrame : Nat
  /-- `mBitsPerChannel`. -/
  bitsPerChannel : Nat

/-- `kAudioFormatFlagIsFloat`. -/
def flagIsFloat : UInt32 := 1
/-- `kAudioFormatFlagIsBigEndian`. -/
def flagIsBigEndian : UInt32 := 2
/-- `kAudioFormatFlagIsNonInterleaved`. -/
def flagIsNonInterleaved : UInt32 := 32

/-- The channels have buffers of their own. -/
def PcmFormat.planar (format : PcmFormat) : Bool := format.formatFlags &&& flagIsNonInterleaved ≠ 0

/-- A buffer of a sample. -/
structure PcmBuffer where
  /-- `mNumberChannels`. -/
  channels : Nat
  /-- `mDataByteSize`. -/
  byteSize : Nat
  /-- The floats of `mData`, if it has any. -/
  data : Option (List UInt32)

/-- A sample of audio that is there. -/
structure AudioSample where
  /-- It is valid. -/
  valid : Bool
  /-- Its data is ready. -/
  ready : Bool
  /-- Its media type is audio, if it has a format. -/
  audio : Option Bool
  /-- The description of its stream, if it has one. -/
  format : Option PcmFormat
  /-- Its presentation time. -/
  presentation : CMTime
  /-- The number of its frames. -/
  frames : Int
  /-- Its buffers, if it gives them. -/
  buffers : Option (List PcmBuffer)

/-- What is answered while a converter is made. -/
structure ConverterAnswers where
  /-- It is made. -/
  created : Bool
  /-- The bitrate is set. -/
  bitrate : Bool
  /-- `leadingFrames`, if it is known. -/
  leadingFrames : Option Nat
  /-- The maximum size of a packet, if it is known. -/
  maximumPacketBytes : Option Nat

/-- What `AudioConverterFillComplexBuffer` returns. -/
inductive FillStatus where
  /-- `noErr`. -/
  | noError
  /-- `InputStarved`. -/
  | starved
  /-- Another error. -/
  | failed
  deriving DecidableEq

/-- What one call that fills a packet does. -/
structure Fill where
  /-- The frames that each input callback asks for. -/
  requests : List Nat
  /-- The status. -/
  status : FillStatus
  /-- The number of packets. -/
  packets : Nat
  /-- `mStartOffset`. -/
  startOffset : Int
  /-- The bytes of the packet. -/
  bytes : List UInt8
  /-- `mVariableFramesInPacket`. -/
  variableFrames : Int

/-- What is answered while a packet is sent. -/
structure Send where
  /-- The capture is gone or stops. -/
  stopping : Bool
  /-- The endpoint is ready. -/
  ready : Bool
  /-- The lease of the stream is performed with. -/
  leased : Bool
  /-- `_validity()`. -/
  valid : Bool
  /-- `plank_transport_native_audio_send`. -/
  result : Status
  /-- The encoder was stopped meanwhile. -/
  stopped : Bool

/-- What has happened to the packets and their times. -/
inductive AudioEntry where
  /-- Another encoder was made for the same transport. -/
  | restarted
  /-- A converter was made, for a source that starts at a time, with frames that prime it. -/
  | prepared (origin : CMTime) (priming : Nat)
  /-- The timeline was anchored again, at the time of a sample. -/
  | reanchored (origin : CMTime)
  /-- Frames of the source went into the converter. -/
  | provided (count : Nat)
  /-- A packet with a time and a flag was sent: whether it passed the check of its time, and whether
  it was accepted. -/
  | packet (time : CMTime) (flagged passes accepted : Bool)
  deriving DecidableEq

/-- `PLANKMacNativeAudio`. -/
structure NativeAudio where
  /-- `_hasPTS`. -/
  hasPTS : Bool
  /-- `_nextPTS`. -/
  nextPTS : CMTime

/-- `PLANKMacOpusEncoder`. -/
structure OpusEncoder where
  /-- `_converter` is there. -/
  converter : Bool
  /-- `_format`. -/
  format : PcmFormat
  /-- `_stopped`. -/
  stopped : Bool
  /-- `_discontinuity`. -/
  discontinuity : Bool
  /-- `_origin`. -/
  origin : CMTime
  /-- `_packetPTS`. -/
  packetPTS : CMTime
  /-- `_inputFrames`. -/
  inputFrames : Int
  /-- `_primingFrames`. -/
  primingFrames : Nat
  /-- `_maximumPacketBytes`. -/
  maximumPacketBytes : Nat

/-- The audio of a capture: what `screen-capture.m` and `native-audio.m` keep of it. -/
structure AudioPath where
  /-- `_audio`. -/
  native : NativeAudio
  /-- `_audioDiscontinuity`. -/
  discontinuity : Bool
  /-- `_audioEncoder`. -/
  encoder : Option OpusEncoder
  /-- What has happened, the latest first. -/
  log : List AudioEntry

/-- A time of zero. -/
def zeroTime : CMTime := ⟨0, 0, false, 0⟩

/-- `-initWithOutput:`. -/
def OpusEncoder.fresh : OpusEncoder where
  converter := false
  format := ⟨false, 0, 0, 0, 0, 0, 0, 0⟩
  stopped := false
  discontinuity := false
  origin := zeroTime
  packetPTS := zeroTime
  inputFrames := 0
  primingFrames := 0
  maximumPacketBytes := 0

/-- `-stop`. -/
def OpusEncoder.stop (encoder : OpusEncoder) : OpusEncoder :=
  { encoder with stopped := true, converter := false }

/-- The samples of a buffer are the frames that are announced, all finite. -/
def PcmBuffer.valid (buffer : PcmBuffer) (planar : Bool) (frames : Int) (bytesPerFrame : Nat) :
    Bool :=
  match buffer.data with
  | none => false
  | some floats =>
    buffer.channels = (if planar then 1 else 2) &&
      (buffer.byteSize : Int) = frames * bytesPerFrame &&
      (floats.take (buffer.byteSize / 4)).all fun bits => (bits >>> 23) &&& 0xff ≠ 0xff

/-- The format of a sample whose description and count are as they have to be. -/
def AudioSample.checked (sample : AudioSample) : Option PcmFormat :=
  if !sample.valid || !sample.ready || sample.audio ≠ some true then none
  else
    match sample.format with
    | none => none
    | some format =>
      let time := sample.presentation
      if !time.numeric || time.epoch ≠ 0 || time.value < 0 || !format.linear ||
          format.sampleRate ≠ 48000 || format.channelsPerFrame ≠ 2 || format.bitsPerChannel ≠ 32 ||
          format.formatFlags &&& flagIsFloat = 0 || format.formatFlags &&& flagIsBigEndian ≠ 0 ||
          format.framesPerPacket ≠ 1 || sample.frames ≤ 0 || maxChunkFrames < sample.frames then
        none
      else if format.bytesPerFrame ≠ (if format.planar then 4 else 8) ||
          format.bytesPerPacket ≠ format.bytesPerFrame then none
      else some format

section Clocked

variable (clock : TimeArithmetic)

/-- The time of a packet goes on from the one before, or the packet is marked as a discontinuity. -/
def NativeAudio.continuous (native : NativeAudio) (time : CMTime) (discontinuity : Bool) : Bool :=
  !(native.hasPTS && !discontinuity && clock.compare time native.nextPTS ≠ 0)

/-- `-sendOpusPacket:presentationTime:discontinuity:`. -/
def NativeAudio.sendOpusPacket (native : NativeAudio) (packet : List UInt8) (time : CMTime)
    (discontinuity : Bool) (send : Send) : Status × NativeAudio :=
  if !send.ready then (.invalidState, native)
  else if !send.leased || !send.valid then (.invalidState, native)
  else if packet.length = 0 || 65536 < packet.length || !time.numeric || time.epoch ≠ 0 ||
      time.value < 0 || !native.continuous clock time discontinuity then (.invalidArgument, native)
  else
    let next := clock.add time clock.packet
    let milliseconds := clock.milliseconds time
    if !next.numeric || clock.compare next time ≤ 0 || !milliseconds.numeric ||
        milliseconds.value < 0 || 2 ^ 61 ≤ milliseconds.value then (.invalidArgument, native)
    else (send.result, if send.result.taken then ⟨true, next⟩ else native)

/-- `-prepare:pts:`. -/
def OpusEncoder.prepare (encoder : OpusEncoder) (format : PcmFormat) (time : CMTime)
    (answers : ConverterAnswers) : Option OpusEncoder :=
  if !answers.created || !answers.bitrate then none
  else
    match answers.leadingFrames, answers.maximumPacketBytes with
    | some priming, some maximum =>
      if opusRate < priming || maximum = 0 || 65536 < maximum then none
      else
        let packetPTS := clock.subtract time (clock.make priming opusRate)
        if packetPTS.numeric && 0 ≤ packetPTS.value then
          some
            { encoder with
              converter := true
              format
              origin := time
              packetPTS
              primingFrames := priming
              maximumPacketBytes := maximum }
        else none
    | _, _ => none

/-- The block of `-createAudioEncoder`: a packet of the encoder is sent. -/
def AudioPath.output (path : AudioPath) (packet : List UInt8) (time : CMTime) (discontinuity : Bool)
    (send : Send) : Bool × AudioPath :=
  if send.stopping then (false, path)
  else
    let flagged := discontinuity || path.discontinuity
    let (sent, native) := path.native.sendOpusPacket clock packet time flagged send
    let passes := path.native.continuous clock time flagged
    (sent.taken,
      { path with
        native
        discontinuity := path.discontinuity && !sent.taken
        log := .packet time flagged passes sent.taken :: path.log })

/-- An encoder while it encodes the buffers of a sample. -/
structure Encoding where
  /-- The path of its packets. -/
  path : AudioPath
  /-- The encoder. -/
  encoder : OpusEncoder
  /-- The frames that are left of the sample. -/
  remaining : Nat

/-- `provide`: the frames that an input callback asks for, as far as there are any. -/
def Encoding.provide (encoding : Encoding) (frames : Nat) : Encoding :=
  let count := min frames encoding.remaining
  { encoding with
    remaining := encoding.remaining - count
    path := { encoding.path with log := .provided count :: encoding.path.log } }

/-- A packet that a call has filled, if it has: whether the encoder goes on. -/
def Encoding.take (encoding : Encoding) (fill : Fill) (send : Send) : Bool × Encoding :=
  if fill.packets = 0 then (true, encoding)
  else
    let encoder := encoding.encoder
    if fill.packets ≠ 1 || fill.startOffset ≠ 0 || fill.bytes.length = 0 ||
        encoder.maximumPacketBytes < fill.bytes.length ||
        (fill.variableFrames ≠ 0 && fill.variableFrames ≠ opusFrames) then (false, encoding)
    else
      let (taken, path) :=
        encoding.path.output clock fill.bytes encoder.packetPTS encoder.discontinuity send
      if !taken || send.stopped then (false, { encoding with path })
      else
        let next := clock.add encoder.packetPTS clock.packet
        (next.numeric,
          { encoding with
            path
            encoder := { encoder with discontinuity := false, packetPTS := next } })

/-- `-encodeBuffers:frames:`, with a number of steps left: whether it succeeds. -/
def Encoding.encodeBuffers (encoding : Encoding) (answers : Nat → Fill × Send) :
    Nat → Bool × Encoding
  | 0 => (false, encoding)
  | left + 1 =>
    let (fill, send) := answers left
    let fed := fill.requests.foldl Encoding.provide encoding
    if fill.status = .failed then (false, fed)
    else
      match fed.take clock fill send with
      | (false, after) => (false, after)
      | (true, after) =>
        if fill.status = .starved then (after.remaining = 0, after)
        else after.encodeBuffers answers left

/-- What is answered while a sample is encoded. -/
structure EncodeAnswers where
  /-- What is answered while a converter is made. -/
  converter : ConverterAnswers
  /-- What each step that fills a packet does, by the steps that are left. -/
  steps : Nat → Fill × Send

/-- The clock of a sample in an encoder that has a converter: the timeline is anchored again where
the sample is too far from it. -/
def OpusEncoder.follow (encoder : OpusEncoder) (path : AudioPath) (format : PcmFormat)
    (time : CMTime) : Option (OpusEncoder × AudioPath) :=
  if format.formatFlags ≠ encoder.format.formatFlags ||
      format.bytesPerFrame ≠ encoder.format.bytesPerFrame ||
      2 ^ 63 - 1 - maxChunkFrames < encoder.inputFrames then none
  else
    let expected := clock.add encoder.origin (clock.make encoder.inputFrames opusRate)
    let delta := clock.subtract time expected
    if !clock.finite delta then none
    else if clock.beyond delta then
      let rebased := clock.add encoder.packetPTS delta
      if !rebased.numeric || rebased.value < 0 then none
      else
        some
          ({ encoder with
              packetPTS := rebased
              origin := time
              inputFrames := 0
              discontinuity := true },
            { path with log := .reanchored time :: path.log })
    else some (encoder, path)

/-- The encoder with a converter, and its timeline for a sample. -/
def OpusEncoder.begin' (encoder : OpusEncoder) (path : AudioPath) (format : PcmFormat)
    (time : CMTime) (answers : ConverterAnswers) : Option (OpusEncoder × AudioPath) :=
  if encoder.converter then encoder.follow clock path format time
  else
    match encoder.prepare clock format time answers with
    | none => none
    | some prepared =>
      some (prepared, { path with log := .prepared time prepared.primingFrames :: path.log })

/-- `-consume:`: whether the sample is encoded, with the path and the encoder behind it. -/
def OpusEncoder.consume (encoder : OpusEncoder) (path : AudioPath) (sample : AudioSample)
    (answers : EncodeAnswers) : Bool × AudioPath × OpusEncoder :=
  match sample.checked with
  | none => (false, path, encoder)
  | some format =>
    match encoder.begin' clock path format sample.presentation answers.converter with
    | none => (false, path, encoder)
    | some (ready, path) =>
      match sample.buffers with
      | none => (false, path, ready)
      | some buffers =>
        if buffers.length = (if format.planar then 2 else 1) &&
            buffers.all fun buffer =>
              buffer.valid format.planar sample.frames format.bytesPerFrame then
          let start : Encoding := ⟨path, ready, sample.frames.toNat⟩
          match start.encodeBuffers clock answers.steps 40 with
          | (false, after) => (false, after.path, after.encoder)
          | (true, after) =>
            let inputFrames := after.encoder.inputFrames + sample.frames
            (true, after.path, { after.encoder with inputFrames })
        else (false, path, ready)

/-- `-encodeSample:`. -/
def OpusEncoder.encodeSample (encoder : OpusEncoder) (path : AudioPath) (sample : AudioSample)
    (answers : EncodeAnswers) : Bool × AudioPath × OpusEncoder :=
  if encoder.stopped then (false, path, encoder)
  else
    match encoder.consume clock path sample answers with
    | (false, path, after) => (false, path, after.stop)
    | (true, path, after) => (true, path, after)

/-- What happens to the audio of a capture. -/
inductive AudioEvent where
  /-- A sample comes to the encoder. -/
  | sample (sample : AudioSample) (answers : EncodeAnswers)
  /-- The encoder is stopped and let go. -/
  | stop
  /-- Another encoder is made; it may fail. -/
  | restart (made : Bool)

/-- An event of the audio of a capture. -/
def AudioPath.perform (path : AudioPath) : AudioEvent → AudioPath
  | .sample sample answers =>
    match path.encoder with
    | none => path
    | some encoder =>
      let (_, after, encoder) := encoder.encodeSample clock path sample answers
      { after with encoder := some encoder }
  | .stop => { path with encoder := none }
  | .restart made =>
    { path with
      discontinuity := true
      encoder := if made then some OpusEncoder.fresh else none
      log := .restarted :: path.log }

/-- The audio of a capture at its start, with an encoder if it is made. -/
def AudioPath.start (made : Bool) : AudioPath where
  native := ⟨false, zeroTime⟩
  discontinuity := false
  encoder := if made then some OpusEncoder.fresh else none
  log := []

end Clocked

end Plank.Audio
