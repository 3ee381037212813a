import Plank.Capture.Video

/-!
# The encoder and its replacement

The encoder of `screen-capture.m`: frames in flight, and the replacement that a change of bitrate
asks for. The old encoder is invalidated only when no frame is in flight, the new one is built off
the queue, and no frame is submitted in between. `stopping` is the flag of the capture.
-/

namespace Plank.Capture

/-- A compression session. -/
structure Encoder where
  /-- Identity of the session. -/
  id : Nat
  /-- Its target, in kilobits per second. -/
  bitrate : Nat
  deriving DecidableEq, Repr

/-- A frame at the encoder. -/
structure Encode where
  /-- Whether it is a forced key picture. -/
  forced : Bool
  /-- The session it was submitted to. -/
  encoder : Nat
  deriving DecidableEq, Repr

/-- The encoder of a capture with the gate behind it. -/
structure Pipeline where
  /-- `_video`. -/
  video : Video := {}
  /-- `_encoder`. -/
  encoder : Option Encoder := none
  /-- Sessions created so far. -/
  created : Nat := 0
  /-- Frames at the encoder. -/
  encodes : List Encode := []
  /-- `_inFlight`. -/
  inFlight : Nat := 0
  /-- `_changingEncoder`. -/
  changingEncoder : Bool := false
  /-- `_buildingEncoder`. -/
  buildingEncoder : Bool := false
  /-- Replacements being built off the queue. -/
  builds : Nat := 0
  /-- `_replacementBitrate`. -/
  replacementBitrate : Nat := 0
  /-- Whether `_replacementCompletion` is set. -/
  replacementCompletion : Bool := false
  deriving DecidableEq, Repr

/-- What the encoder delivers for a frame. -/
inductive Encoded where
  /-- Dropped or failed. -/
  | dropped
  /-- A sample, and what sending it reads. -/
  | sample (reading : SendReading)
  deriving DecidableEq, Repr

namespace Pipeline

/-- `createEncoder` succeeded. -/
def create (pipeline : Pipeline) (bitrate : Nat) : Pipeline :=
  { pipeline with
    encoder := some ⟨pipeline.created, bitrate⟩, created := pipeline.created + 1 }

/-- `replaceEncoderWhenDrained`. -/
def replaceEncoderWhenDrained (pipeline : Pipeline) (stopping : Bool) : Pipeline :=
  if !pipeline.changingEncoder || pipeline.buildingEncoder || pipeline.inFlight ≠ 0 || stopping then
    pipeline
  else { pipeline with buildingEncoder := true, builds := pipeline.builds + 1, encoder := none }

/-- `setBitrate`; the second component is whether the completion ran at once, with 0. -/
def setBitrate (pipeline : Pipeline) (stopping : Bool) (bitrate : Nat) : Pipeline × Bool :=
  if pipeline.encoder.isNone || stopping || pipeline.changingEncoder || bitrate < 10000 ||
      bitrate > 150000 then (pipeline, true)
  else
    ({ pipeline with
      changingEncoder := true
      replacementBitrate := bitrate
      replacementCompletion := true }.replaceEncoderWhenDrained stopping, false)

/-- The replacement was built. -/
def built (pipeline : Pipeline) : Pipeline :=
  { pipeline with
    builds := pipeline.builds - 1, buildingEncoder := false, changingEncoder := false }

/-- The replacement is installed, or there is none; its first frame must be a key picture. -/
def install (pipeline : Pipeline) (succeeded : Bool) : Pipeline :=
  let pipeline := if succeeded then pipeline.create pipeline.replacementBitrate
    else { pipeline with encoder := none }
  { pipeline with video := pipeline.video.requestKeyFrame, replacementCompletion := false }

/-- Whether a complete frame is skipped before the encoder. -/
def skips (pipeline : Pipeline) : Bool :=
  pipeline.changingEncoder || pipeline.inFlight ≥ 3

/-- A frame is submitted; `failed` is whether the call fails. -/
def submit (pipeline : Pipeline) (failed : Bool) : Pipeline :=
  let (video, forceKey) := pipeline.video.beginKeyFrameRequest
  match pipeline.encoder, failed with
  | some encoder, false =>
    { pipeline with
      video
      encodes := pipeline.encodes ++ [⟨forceKey, encoder.id⟩]
      inFlight := pipeline.inFlight + 1 }
  | _, _ => { pipeline with video := if forceKey then video.completeKeyFrameRequest else video }

/-- A frame leaves the encoder. -/
def complete (pipeline : Pipeline) (index : Nat) : Pipeline :=
  { pipeline with encodes := pipeline.encodes.eraseIdx index, inFlight := pipeline.inFlight - 1 }

/-- A frame is delivered while the capture runs; the second component is whether it failed. -/
def deliver (pipeline : Pipeline) : Encoded → Pipeline × Bool
  | .dropped =>
    ({ pipeline with video := (pipeline.video.note .encoderDropped).requestKeyFrame }, false)
  | .sample reading =>
    let (video, sent) := pipeline.video.sendSample reading
    ({ pipeline with video }, !sent.taken)

/-- The end of a frame: a forced key picture is no longer at the encoder. -/
def finish (pipeline : Pipeline) (encode : Encode) (stopping : Bool) : Pipeline :=
  ({ pipeline with
    video := if encode.forced then pipeline.video.completeKeyFrameRequest
      else pipeline.video }).replaceEncoderWhenDrained stopping

/-- A frame that is submitted is a forced key picture just when the recovery begins one. -/
theorem submit_cases (pipeline : Pipeline) (failed : Bool) :
    (∃ video, pipeline.submit failed = { pipeline with video }) ∨
      ∃ video encoder, pipeline.encoder = some encoder ∧ pipeline.submit failed = { pipeline with
        video
        encodes := pipeline.encodes ++ [⟨pipeline.video.recovery.begin.2, encoder.id⟩]
        inFlight := pipeline.inFlight + 1 } := by
  obtain ⟨video, encoder⟩ := pipeline
  cases encoder with
  | none => exact .inl ⟨_, rfl⟩
  | some encoder =>
    cases failed with
    | true => exact .inl ⟨_, rfl⟩
    | false => exact .inr ⟨_, encoder, rfl, rfl⟩

/-- The flags say what is outstanding. -/
structure Accounted (pipeline : Pipeline) : Prop where
  /-- The number of frames at the encoder. -/
  flying : pipeline.inFlight = pipeline.encodes.length
  /-- One replacement is built at a time. -/
  building : pipeline.builds = if pipeline.buildingEncoder then 1 else 0

namespace Accounted

variable {pipeline : Pipeline}

/-- A new encoder concerns nothing outstanding. -/
theorem create (accounted : Accounted pipeline) (bitrate : Nat) :
    Accounted (pipeline.create bitrate) := ⟨accounted.flying, accounted.building⟩

/-- A replacement is built when no frame is at the encoder. -/
theorem replace (accounted : Accounted pipeline) (stopping : Bool) :
    Accounted (pipeline.replaceEncoderWhenDrained stopping) := by
  unfold replaceEncoderWhenDrained
  split
  · exact accounted
  · next drained =>
    simp only [Bool.or_eq_true, not_or, Bool.not_eq_true] at drained
    have none := accounted.building
    rw [drained.1.1.2] at none
    exact ⟨accounted.flying, congrArg (· + 1) none⟩

/-- A change of bitrate. -/
theorem setBitrate (accounted : Accounted pipeline) (stopping : Bool) (bitrate : Nat) :
    Accounted (pipeline.setBitrate stopping bitrate).1 := by
  unfold Pipeline.setBitrate
  split
  · exact accounted
  · apply replace
    exact ⟨accounted.flying, accounted.building⟩

/-- A replacement was built. -/
theorem built (accounted : Accounted pipeline) : Accounted pipeline.built := by
  have one := accounted.building
  refine ⟨accounted.flying, ?_⟩
  show pipeline.builds - 1 = 0
  split at one <;> omega

/-- A replacement is installed. -/
theorem install (accounted : Accounted pipeline) (succeeded : Bool) :
    Accounted (pipeline.install succeeded) := by
  cases succeeded <;> exact ⟨accounted.flying, accounted.building⟩

/-- A frame is submitted. -/
theorem submit (accounted : Accounted pipeline) (failed : Bool) :
    Accounted (pipeline.submit failed) := by
  obtain ⟨flying, building⟩ := accounted
  rcases pipeline.submit_cases failed with ⟨video, same⟩ | ⟨video, encoder, _, submitted⟩
  · rw [same]
    exact ⟨flying, building⟩
  · rw [submitted]
    exact ⟨by simp [flying], building⟩

/-- A frame leaves the encoder. -/
theorem complete (accounted : Accounted pipeline) {index : Nat} {encode : Encode}
    (present : pipeline.encodes[index]? = some encode) : Accounted (pipeline.complete index) := by
  obtain ⟨inside, _⟩ := List.getElem?_eq_some_iff.mp present
  refine ⟨?_, accounted.building⟩
  show pipeline.inFlight - 1 = (pipeline.encodes.eraseIdx index).length
  rw [accounted.flying, List.length_eraseIdx_of_lt inside]

/-- A frame is delivered. -/
theorem deliver (accounted : Accounted pipeline) (outcome : Encoded) :
    Accounted (pipeline.deliver outcome).1 := by
  cases outcome <;> exact ⟨accounted.flying, accounted.building⟩

/-- The block of a frame ends. -/
theorem finish (accounted : Accounted pipeline) (encode : Encode) (stopping : Bool) :
    Accounted (pipeline.finish encode stopping) := by
  apply replace
  exact ⟨accounted.flying, accounted.building⟩

end Accounted

end Pipeline

end Plank.Capture
