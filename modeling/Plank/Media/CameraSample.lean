import Plank.Camera.Header
import Plank.Media.CameraJpeg
import Plank.Media.CameraPayload
import Plank.Media.ReverseClock

/-!
# Samples of camera records

`native-camera-sample.m` turns the records of one activation of the camera into samples: it checks a
record against those it accepted before, and makes a sample of its payload without an encoder. What
the framework answers comes with each record.
-/

namespace Plank.Media

open Camera (h264 mjpeg keyFrame discontinuity headerBytes)
open Camera.Native (Header)

/-- `PLANKCameraParsePayload`. -/
def cameraParsePayload (header : Header) (bytes : List UInt8) :
    Option (Option CameraPayload) := do
  if !header.valid bytes.length then some none
  else if header.codec = mjpeg then
    let accepted ← cameraParseJpeg bytes header.width.toNat header.height.toNat
    some (if accepted then some ⟨[], 0, 0, true⟩ else none)
  else
    match ← cameraParseAvc bytes with
    | none => some none
    | some payload =>
      some (if payload.independent = (header.flags &&& keyFrame ≠ 0) then some payload else none)

/-- A description of a format, as what it was made from. -/
inductive FormatDescription where
  /-- Of the two parameter sets. -/
  | avc (sps pps : List UInt8)
  /-- Of images of a size. -/
  | jpeg (width height : UInt16)
  deriving DecidableEq

/-- A sample of one frame. -/
structure CameraSample where
  /-- Its data. -/
  data : List UInt8
  /-- Its format. -/
  format : FormatDescription
  /-- Its presentation time in nanoseconds. -/
  time : UInt64
  /-- It is not marked as depending on others. -/
  sync : Bool
  deriving DecidableEq

/-- What the framework answers for a record. -/
structure SampleAnswers where
  /-- A format is made. -/
  created : Bool
  /-- `width` of the dimensions of that format. -/
  width : Int
  /-- `height` of the dimensions of that format. -/
  height : Int
  /-- `CMFormatDescriptionEqual`, of the format before and that one. -/
  equal : Bool
  /-- A block is made. -/
  block : Bool
  /-- The data is written to the block. -/
  filled : Bool
  /-- A sample is made. -/
  ready : Bool
  /-- The sample has an array with attachments for its one frame. -/
  attached : Bool

/-- A record that is offered. -/
structure SampleOffer where
  /-- The record. -/
  record : List UInt8
  /-- The host time in nanoseconds. -/
  hostTime : UInt64
  /-- What the framework answers. -/
  answers : SampleAnswers

/-- `PLANKMacNativeCameraSample`. -/
structure SampleBuilder where
  /-- `_generation`. -/
  generation : UInt64
  /-- `_sequence`. -/
  sequence : UInt64 := 0
  /-- `_captureTime`. -/
  captureTime : UInt64 := 0
  /-- `_hostTime`. -/
  hostTime : UInt64 := 0
  /-- `_metadata`. -/
  metadata : Header := ⟨0, 0, 0, 0, 0, 0, 0, 0, 0, 0, 0, 0⟩
  /-- `_format`. -/
  format : Option FormatDescription := none
  /-- `_sps`. -/
  sps : Option (List UInt8) := none
  /-- `_pps`. -/
  pps : Option (List UInt8) := none
  /-- `_hasFrame`. -/
  hasFrame : Bool := false
  /-- `_needsKeyframe`. -/
  needsKeyframe : Bool := true
  deriving DecidableEq

/-- The headers have the same codec, size and colors. -/
def sameMetadata (header metadata : Header) : Bool :=
  !(header.codec ≠ metadata.codec || header.width ≠ metadata.width ||
    header.height ≠ metadata.height || header.colorspace ≠ metadata.colorspace ||
    header.transfer ≠ metadata.transfer || header.ycbcr ≠ metadata.ycbcr ||
    header.quantization ≠ metadata.quantization)

/-- The parameter set of an index in a payload, or the one from before. -/
def parameterSet (bytes : List UInt8) (payload : CameraPayload) (index : Nat)
    (held : Option (List UInt8)) : Option (Option (List UInt8)) := do
  if index < payload.nals.length then
    let nal ← payload.nals[index]?
    some (some (← span bytes nal.offset nal.size))
  else some held

/-- The data of a sample: a payload with start codes has lengths in their place. -/
def sampleData (header : Header) (bytes : List UInt8) (payload : CameraPayload) :
    Option (List UInt8) :=
  if header.codec = h264 then adaptedOf bytes payload.nals else some bytes

namespace SampleBuilder

/-- `-initWithGeneration:`, with a generation that is not zero. -/
def initWithGeneration (generation : UInt64) : SampleBuilder := { generation }

/-- `_needsKeyframe = YES`. -/
def dropped (builder : SampleBuilder) : SampleBuilder := { builder with needsKeyframe := true }

/-- The record cannot follow those before: another generation, a bad time, or not later. -/
def stale (builder : SampleBuilder) (header : Header) (hostTime : UInt64) : Bool :=
  header.generation ≠ builder.generation || hostTime = 0 ||
    ReverseMediaClock.int64Max < hostTime.toNat ||
    (builder.hasFrame && (header.sequence ≤ builder.sequence ||
      header.captureTimeUs ≤ builder.captureTime || hostTime ≤ builder.hostTime))

/-- A record was lost before this one. -/
def gap (builder : SampleBuilder) (header : Header) : Bool :=
  (builder.hasFrame && header.sequence ≠ builder.sequence + 1) ||
    header.flags &&& discontinuity ≠ 0

/-- The builder behind a record whose sample is made. -/
def accept (builder : SampleBuilder) (header : Header) (candidate : FormatDescription)
    (sps pps : Option (List UInt8)) (hostTime : UInt64) : SampleBuilder :=
  let builder :=
    if builder.format = none then
      { builder with format := some candidate, metadata := header, sps, pps }
    else builder
  { builder with
    hasFrame := true
    needsKeyframe := false
    sequence := header.sequence
    captureTime := header.captureTimeUs
    hostTime }

/-- A sample of a payload of a format, with the parameter sets that go with it. -/
def emit (builder : SampleBuilder) (header : Header) (bytes : List UInt8) (payload : CameraPayload)
    (candidate : FormatDescription) (sps pps : Option (List UInt8)) (offer : SampleOffer) :
    Option (Option CameraSample × SampleBuilder) := do
  let answers := offer.answers
  if !(answers.width = header.width.toNat && answers.height = header.height.toNat &&
      (builder.format = none || answers.equal)) then
    some (none, builder.dropped)
  else
    let data ← sampleData header bytes payload
    if !(answers.block && answers.filled && answers.ready) then some (none, builder.dropped)
    else if !answers.attached then some (none, builder.dropped)
    else
      some (some ⟨data, candidate, offer.hostTime, payload.independent⟩,
        builder.accept header candidate sps pps offer.hostTime)

/-- A sample of a payload, after the checks of its record. -/
def assemble (builder : SampleBuilder) (header : Header) (bytes : List UInt8)
    (payload : CameraPayload) (offer : SampleOffer) :
    Option (Option CameraSample × SampleBuilder) := do
  if header.codec = h264 then
    let sps ← parameterSet bytes payload payload.sps builder.sps
    let pps ← parameterSet bytes payload payload.pps builder.pps
    match sps, pps with
    | some first, some second =>
      if builder.format ≠ none ∧ (builder.sps ≠ sps ∨ builder.pps ≠ pps) then
        some (none, builder.dropped)
      else if !offer.answers.created then some (none, builder.dropped)
      else builder.emit header bytes payload (.avc first second) sps pps offer
    | _, _ => some (none, builder.dropped)
  else if !offer.answers.created then some (none, builder)
  else
    builder.emit header bytes payload (.jpeg header.width header.height) builder.sps builder.pps
      offer

/-- `-copySampleFromRecord:size:hostTimeNanos:`: the sample, if one is made, and the builder. -/
def copySample (builder : SampleBuilder) (offer : SampleOffer) :
    Option (Option CameraSample × SampleBuilder) := do
  match Header.decode offer.record with
  | none => some (none, builder)
  | some header =>
    if builder.stale header offer.hostTime then some (none, builder)
    else if builder.format ≠ none ∧ !sameMetadata header builder.metadata then
      some (none, builder.dropped)
    else
      let builder := if builder.gap header then builder.dropped else builder
      let bytes := offer.record.drop headerBytes
      match ← cameraParsePayload header bytes with
      | none => some (none, builder.dropped)
      | some payload =>
        if builder.needsKeyframe ∧ !payload.independent then some (none, builder)
        else builder.assemble header bytes payload offer

end SampleBuilder

end Plank.Media
