import Plank.Capture.Encoder
import Plank.Preview.Session

/-!
# Changes of bitrate

The bitrate of `preview-session.m` with the encoder of `screen-capture.m` behind it, from the
moment the first encoder exists. Requests are gathered while one is pending, a change is in flight
from `setBitrate` to its completion, and the completion runs where the replacement is installed.
Times are nanoseconds of the monotonic clock. An observer keeps a log, newest first.
-/

namespace Plank.Preview

open Plank.Capture (Pipeline Encoder Encode Encoded)

/-- What an observer of the bitrate sees. -/
inductive RateEvent where
  /-- A request in range was received. -/
  | requested (now bitrate : Nat)
  /-- The pending request was taken up. -/
  | taken (now bitrate : Nat)
  /-- The transport was given a target and a peak. -/
  | policy (bitrate peak : Nat)
  /-- `VIDEO_BITRATE_APPLIED` was sent; `encoder` is the one in use. -/
  | acknowledged (bitrate peak : Nat) (encoder : Option Encoder)
  /-- A replacement encoder was disposed of. -/
  | disposed
  deriving DecidableEq, Repr

/-- `NSEC_PER_MSEC`. -/
def nsecPerMsec : Nat := 1000000

/-- The instance variables of the session and its capture that a change of bitrate uses. -/
structure Stream where
  /-- `state`. -/
  state : PreviewState := .connecting
  /-- `_bitrate`. -/
  bitrate : Nat
  /-- `_pendingBitrate`. -/
  pendingBitrate : Nat := 0
  /-- `_changingBitrate`. -/
  changingBitrate : Bool := false
  /-- `_bitrateDue`. -/
  bitrateDue : Nat := 0
  /-- `_bitrateFirstRequest`. -/
  bitrateFirstRequest : Nat := 0
  /-- `_bitrateDeadline`. -/
  bitrateDeadline : Nat := 0
  /-- The bitrate the completion of `setBitrate` has captured. -/
  changeBitrate : Nat := 0
  /-- The encoder of the capture. -/
  capture : Pipeline
  /-- `_stopping` of the capture. -/
  captureStopping : Bool := false
  /-- What an observer saw, newest first. -/
  log : List RateEvent := []
  deriving DecidableEq, Repr

/-- What the calls of one step return. -/
structure RateReading where
  /-- Whether `plank_transport_native_set_video_bitrate` succeeds. -/
  policyOk : Bool := true
  /-- Whether the acknowledgement can be encoded and sent. -/
  sendOk : Bool := true
  deriving DecidableEq, Repr

/-- Everything that can happen next on the queue. -/
inductive RateLabel where
  /-- `started` of the capture. -/
  | started (reading : RateReading)
  /-- `SET_VIDEO_BITRATE` is received. -/
  | request (now bitrate : Nat)
  /-- `applyPendingBitrate` of a tick. -/
  | apply (now : Nat) (reading : RateReading)
  /-- A complete frame is captured; `failed` is whether the encoder refuses it. -/
  | frame (failed : Bool)
  /-- The encoder completes a frame. -/
  | encoded (index : Nat) (outcome : Encoded)
  /-- The replacement encoder was built, or failed. -/
  | built (succeeded : Bool) (reading : RateReading)
  /-- A key picture is asked for. -/
  | requestKeyFrame
  /-- The session stops for any other reason. -/
  | stop
  /-- The capture has drained and releases its encoder. -/
  | drained
  deriving DecidableEq, Repr

namespace Stream

/-- Write an event down. -/
def note (stream : Stream) (event : RateEvent) : Stream :=
  { stream with log := event :: stream.log }

/-- `stopOnQueueForReason` and the stop of the capture. -/
def stopOnQueue (stream : Stream) : Stream :=
  if stream.state = .stopping || stream.state = .stopped then stream
  else
    { stream with
      state := .stopping
      captureStopping := true
      capture := { stream.capture with replacementCompletion := false } }

/-- `acknowledgeBitrate`. -/
def acknowledgeBitrate (stream : Stream) (bitrate peak : Nat) (reading : RateReading) : Stream :=
  if !reading.sendOk then stream.stopOnQueue
  else stream.note (.acknowledged bitrate peak stream.capture.encoder)

/-- The block `started` of the capture. -/
def started (stream : Stream) (peak : Nat) (reading : RateReading) : Stream :=
  if stream.state ≠ .connecting then stream
  else if peak < stream.bitrate || !reading.policyOk then stream.stopOnQueue
  else { stream.note (.policy stream.bitrate peak) with state := .streaming }

/-- A request in `receiveControls`. -/
def request (stream : Stream) (now bitrate : Nat) : Stream :=
  if bitrate < 10000 || bitrate > 150000 then stream.stopOnQueue
  else
    let stream := stream.note (.requested now bitrate)
    let stream := if stream.pendingBitrate = 0 then { stream with bitrateFirstRequest := now }
      else stream
    if stream.pendingBitrate = bitrate then stream
    else
      { stream with
        pendingBitrate := bitrate
        bitrateDue := min (now + 150 * nsecPerMsec)
          (stream.bitrateFirstRequest + 500 * nsecPerMsec) }

/-- The completion block of `setBitrate`. -/
def changed (stream : Stream) (peak : Nat) (reading : RateReading) : Stream :=
  if stream.state ≠ .streaming then stream
  else
    let stream := { stream with changingBitrate := false }
    let bitrate := stream.changeBitrate
    if peak < bitrate || !reading.policyOk then stream.stopOnQueue
    else
      ({ stream with bitrate }.note (.policy bitrate peak)).acknowledgeBitrate bitrate peak reading

/-- `applyPendingBitrate`. -/
def applyPendingBitrate (stream : Stream) (now : Nat) (reading : RateReading) : Stream :=
  if stream.state ≠ .streaming then stream
  else if stream.changingBitrate then
    if now ≥ stream.bitrateDeadline then stream.stopOnQueue else stream
  else if stream.pendingBitrate = 0 || now < stream.bitrateDue then stream
  else
    let bitrate := stream.pendingBitrate
    let stream := { stream.note (.taken now bitrate) with pendingBitrate := 0 }
    if bitrate = stream.bitrate then stream.acknowledgeBitrate bitrate (bitrate * 2) reading
    else
      let (capture, refused) := stream.capture.setBitrate stream.captureStopping bitrate
      let stream := { stream with
        changingBitrate := true
        bitrateDeadline := now + 5000 * nsecPerMsec
        changeBitrate := bitrate
        capture }
      if refused then stream.changed 0 reading else stream

/-- A complete frame reaches the capture. -/
def frame (stream : Stream) (failed : Bool) : Stream :=
  if stream.captureStopping || stream.capture.skips then stream
  else
    let submitted := { stream with capture := stream.capture.submit failed }
    if failed || stream.capture.encoder.isNone then submitted.stopOnQueue else submitted

/-- The block of the encoder's completion. -/
def encoded (stream : Stream) (index : Nat) (encode : Encode) (outcome : Encoded) : Stream :=
  let stream := { stream with capture := stream.capture.complete index }
  let stream := if stream.captureStopping then stream
    else
      let (capture, failed) := stream.capture.deliver outcome
      let stream := { stream with capture }
      if failed then stream.stopOnQueue else stream
  { stream with capture := stream.capture.finish encode stream.captureStopping }

/-- The block of the replacement encoder. -/
def built (stream : Stream) (succeeded : Bool) (reading : RateReading) : Stream :=
  let stream := { stream with capture := stream.capture.built }
  if stream.captureStopping then if succeeded then stream.note .disposed else stream
  else
    let completion := stream.capture.replacementCompletion
    let peak := if succeeded then stream.capture.replacementBitrate * 2 else 0
    let stream := { stream with capture := stream.capture.install succeeded }
    if completion then stream.changed peak reading else stream

/-- The effect of one label. -/
def step (stream : Stream) : RateLabel → Option Stream
  | .started reading => some (stream.started (stream.bitrate * 2) reading)
  | .request now bitrate =>
    if stream.state = .streaming then some (stream.request now bitrate) else none
  | .apply now reading => some (stream.applyPendingBitrate now reading)
  | .frame failed => some (stream.frame failed)
  | .encoded index outcome =>
    stream.capture.encodes[index]?.map fun encode => stream.encoded index encode outcome
  | .built succeeded reading =>
    if stream.capture.builds = 0 then none else some (stream.built succeeded reading)
  | .requestKeyFrame =>
    some { stream with
      capture := { stream.capture with video := stream.capture.video.requestKeyFrame } }
  | .stop => some stream.stopOnQueue
  | .drained =>
    if stream.captureStopping && stream.capture.inFlight = 0 &&
        !stream.capture.buildingEncoder then
      some { stream with capture := { stream.capture with encoder := none } }
    else none

/-- Every run from the first encoder of a capture. -/
def system : Transition.System Stream RateLabel where
  initial stream := ∃ bitrate, stream = { bitrate, capture := ({} : Pipeline).create bitrate }
  step := step

end Stream

end Plank.Preview
