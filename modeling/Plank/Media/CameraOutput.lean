import Plank.Media.CameraSample

/-!
# Output of camera samples

`native-camera-output.m` hands samples of one format on: as they are, or decoded into an image by a
decoder that is made with the first sample it is needed for. It waits for a key frame at first,
after whatever goes wrong, and after each change between the two. What the framework answers comes
with each sample.
-/

namespace Plank.Media

/-- `kCVPixelFormatType_420YpCbCr8BiPlanarVideoRange`. -/
def biPlanarVideoRange : UInt32 := 0x34323076

/-- The most bytes of a sample. -/
def outputSampleBytes : Nat := 4 * 1024 * 1024

/-- An image that a decoder makes. -/
structure DecodedImage where
  /-- `CVPixelBufferGetWidth`. -/
  width : Int
  /-- `CVPixelBufferGetHeight`. -/
  height : Int
  /-- `CVPixelBufferGetPixelFormatType`. -/
  pixelFormat : UInt32
  deriving DecidableEq

/-- One call of `cameraDecoded`. -/
structure DecodeCall where
  /-- `status` is zero. -/
  decoded : Bool
  /-- `image`. -/
  image : Option DecodedImage
  /-- `kVTDecodeInfo_FrameDropped` is among the flags. -/
  dropped : Bool
  deriving DecidableEq

/-- `PLANKCameraDecoded`. -/
structure CameraDecoded where
  /-- `image`. -/
  image : Option DecodedImage := none
  /-- `callbacks`. -/
  callbacks : Nat := 0
  /-- `failed`. -/
  failed : Bool := false
  deriving DecidableEq

/-- `cameraDecoded`. -/
def cameraDecoded (result : CameraDecoded) (call : DecodeCall) : CameraDecoded :=
  if !call.decoded then { result with failed := true }
  else match call.image with
    | none => { result with failed := true }
    | some image =>
      let counted := { result with callbacks := result.callbacks + 1 }
      if result.callbacks ≠ 0 ∨ call.dropped then { counted with failed := true }
      else { counted with image := some image }

/-- What the framework answers for a sample. -/
structure OutputAnswers where
  /-- `CMSampleBufferDataIsReady`. -/
  ready : Bool
  /-- The sample has one frame. -/
  single : Bool
  /-- It has a format description. -/
  described : Bool
  /-- It has a data buffer. -/
  stored : Bool
  /-- `CMFormatDescriptionEqual`, of the format of the output and that of the sample. -/
  equal : Bool
  /-- The presentation time is numeric. -/
  numeric : Bool
  /-- The sample has an array with attachments for its one frame. -/
  attached : Bool
  /-- The attachments have a Boolean that says whether the frame is no key frame. -/
  marked : Bool
  /-- A decoder is made. -/
  created : Bool
  /-- `kVTDecompressionPropertyKey_UsingHardwareAcceleratedVideoDecoder`, when it is answered. -/
  hardware : Option Bool
  /-- `VTDecompressionSessionDecodeFrame` returns zero. -/
  decoded : Bool
  /-- `VTDecompressionSessionWaitForAsynchronousFrames` returns zero. -/
  waited : Bool
  /-- The calls of `cameraDecoded` until then. -/
  calls : List DecodeCall
  /-- A format of the image is made. -/
  formatted : Bool
  /-- A sample of the image is made. -/
  made : Bool

/-- A sample that is handed on. -/
inductive OutputSample where
  /-- As it is. -/
  | coded (sample : CameraSample)
  /-- An image with its presentation time. -/
  | pixels (image : DecodedImage) (time : UInt64)
  deriving DecidableEq

/-- `PLANKMacNativeCameraOutput`. -/
structure CameraOutput where
  /-- `_format`. -/
  format : FormatDescription
  /-- `width` of the dimensions of that format. -/
  width : Int
  /-- `height` of the dimensions of that format. -/
  height : Int
  /-- Whether there is a `_decoder`. -/
  decoder : Bool := false
  /-- `_pixels`. -/
  pixels : Bool := false
  /-- `_needsKeyframe`. -/
  needsKeyframe : Bool := true
  /-- `_hardwareDecoder`. -/
  hardwareDecoder : Bool := false
  /-- `_decodedFrames`. -/
  decodedFrames : Nat := 0
  deriving DecidableEq

namespace CameraOutput

/-- `-initWithFormat:`, with the dimensions that the framework reads of the format. -/
def initWithFormat (format : FormatDescription) (width height : Int) : Option CameraOutput :=
  if (width = 1280 ∧ height = 720) ∨ (width = 1920 ∧ height = 1080) then
    some { format, width, height }
  else none

/-- `-resetDecoder`. -/
def resetDecoder (output : CameraOutput) : CameraOutput :=
  { output with decoder := false, hardwareDecoder := false }

/-- `-setPixelOutput:`. -/
def setPixelOutput (output : CameraOutput) (pixels : Bool) : CameraOutput :=
  if pixels = output.pixels then output
  else { output.resetDecoder with pixels, needsKeyframe := true }

/-- `-discontinuity`. -/
def discontinuity (output : CameraOutput) : CameraOutput :=
  { output.resetDecoder with needsKeyframe := true }

/-- The sample can be handed on. -/
def admits (sample : CameraSample) (answers : OutputAnswers) : Bool :=
  answers.ready && answers.single && answers.described && answers.stored &&
    sample.data.length ≠ 0 && sample.data.length ≤ outputSampleBytes && answers.equal &&
    answers.numeric

/-- The image of a sample is what was asked for. -/
def shows (output : CameraOutput) (answers : OutputAnswers) (decoded : CameraDecoded) :
    Option DecodedImage :=
  match decoded.image with
  | none => none
  | some image =>
    if !answers.decoded || !answers.waited || decoded.failed || decoded.callbacks ≠ 1 ||
        image.width ≠ output.width || image.height ≠ output.height ||
        image.pixelFormat ≠ biPlanarVideoRange then none
    else some image

/-- `-copyOutputForSample:` with pixels, after the checks of the sample. -/
def decode (output : CameraOutput) (sample : CameraSample) (answers : OutputAnswers) :
    Option OutputSample × CameraOutput :=
  if !output.decoder ∧ !answers.created then (none, output.discontinuity)
  else
    let output :=
      if output.decoder then output
      else { output with
        decoder := true
        hardwareDecoder := answers.hardware.getD output.hardwareDecoder }
    match output.shows answers (answers.calls.foldl cameraDecoded {}) with
    | none => (none, output.discontinuity)
    | some image =>
      if !answers.formatted || !answers.made then (none, output.discontinuity)
      else
        (some (.pixels image sample.time),
          { output with needsKeyframe := false, decodedFrames := output.decodedFrames + 1 })

/-- `-copyOutputForSample:`: what is handed on, if anything, and the output. -/
def copyOutput (output : CameraOutput) (sample : CameraSample) (answers : OutputAnswers) :
    Option OutputSample × CameraOutput :=
  if !admits sample answers then (none, output.discontinuity)
  else if !answers.attached then (none, output.discontinuity)
  else if !answers.marked then (none, output.discontinuity)
  else if output.needsKeyframe ∧ !sample.sync then (none, output)
  else if !output.pixels then (some (.coded sample), { output with needsKeyframe := false })
  else output.decode sample answers

/-! ### What a sample comes to -/

/-- The output still waits for a key frame, or the sample is handed on and it no longer does. -/
def Yields (sample : CameraSample) (before : CameraOutput)
    (result : Option OutputSample × CameraOutput) : Prop :=
  (result.1 = none ∧ result.2.needsKeyframe = true) ∨
    ((before.needsKeyframe = true → sample.sync = true) ∧ result.1.isSome = true ∧
      result.2.needsKeyframe = false)

/-- A sample is decoded, or the output waits for a key frame. -/
theorem decode_yields (output : CameraOutput) (sample : CameraSample) (answers : OutputAnswers)
    (suited : output.needsKeyframe = true → sample.sync = true) :
    Yields sample output (output.decode sample answers) := by
  unfold decode
  by_cases bare : (!output.decoder) = true ∧ (!answers.created) = true
  · rw [if_pos bare]
    exact .inl ⟨rfl, rfl⟩
  rw [if_neg bare]
  dsimp only
  cases CameraOutput.shows _ answers _ with
  | none => exact .inl ⟨rfl, rfl⟩
  | some image =>
    dsimp only
    by_cases failed : (!answers.formatted || !answers.made) = true
    · rw [if_pos failed]
      exact .inl ⟨rfl, rfl⟩
    · rw [if_neg failed]
      exact .inr ⟨suited, rfl, rfl⟩

/-- A sample is handed on, or the output waits for a key frame; it does not wait for one any more
only behind a key frame. -/
theorem copyOutput_yields (output : CameraOutput) (sample : CameraSample)
    (answers : OutputAnswers) : Yields sample output (output.copyOutput sample answers) := by
  unfold copyOutput
  by_cases refused : (!admits sample answers) = true
  · rw [if_pos refused]
    exact .inl ⟨rfl, rfl⟩
  rw [if_neg refused]
  by_cases bare : (!answers.attached) = true
  · rw [if_pos bare]
    exact .inl ⟨rfl, rfl⟩
  rw [if_neg bare]
  by_cases unmarked : (!answers.marked) = true
  · rw [if_pos unmarked]
    exact .inl ⟨rfl, rfl⟩
  rw [if_neg unmarked]
  by_cases waiting : output.needsKeyframe = true ∧ (!sample.sync) = true
  · rw [if_pos waiting]
    exact .inl ⟨rfl, waiting.1⟩
  rw [if_neg waiting]
  have suited : output.needsKeyframe = true → sample.sync = true := by
    intro waits
    cases sync : sample.sync
    · exact absurd ⟨waits, by rw [sync]; rfl⟩ waiting
    · rfl
  by_cases coded : (!output.pixels) = true
  · rw [if_pos coded]
    exact .inr ⟨suited, rfl, rfl⟩
  · rw [if_neg coded]
    exact output.decode_yields sample answers suited

/-- A change between the two outputs only makes the output wait. -/
theorem setPixelOutput_waits (output : CameraOutput) (pixels : Bool)
    (waits : output.needsKeyframe = true) :
    (output.setPixelOutput pixels).needsKeyframe = true := by
  unfold setPixelOutput
  by_cases same : pixels = output.pixels
  · rw [if_pos same]
    exact waits
  · rw [if_neg same]

end CameraOutput

end Plank.Media
