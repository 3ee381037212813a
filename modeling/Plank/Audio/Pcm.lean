import Plank.Queue.Circular
import Plank.Transition.System

/-!
# The microphone PCM queue

`microphone-queue.h`: PCM between the lane and the device, in packets of ten milliseconds. The three
arrays of the source are one array of frames here. What an observer keeps beside the queue: every
frame that was put in, every frame that left and why, and whether every count, sample time and clock
so far fits its type, the two lifetime counters apart.
-/

namespace Plank.Audio

/-- `PLANKMicQueueFrames`. -/
def queueFrames : Nat := 2880

/-- `PLANKMicTargetFrames`. -/
def targetFrames : Nat := 960

/-- `PLANKMicPacketFrames`. -/
def packetFrames : Nat := 480

/-- `PLANK_MIC_PCM_MAX_AGE_NS`. -/
def pcmMaxAge : UInt64 := 100000000

/-- The operations of the sample type. -/
structure Pcm (Sample : Type) where
  /-- Silence. -/
  zero : Sample
  /-- `isfinite`. -/
  finite : Sample → Bool
  /-- `fminf(1, fmaxf(-1, sample))`. -/
  clamp : Sample → Sample
  /-- The two neighbours of one output frame, weighted by its place among so many frames. -/
  mix : Nat → Nat → Sample → Sample → Sample

/-- Samples that are whole numbers. -/
def wholePcm : Pcm Int := ⟨0, fun _ => true, fun sample => max (-1) (min 1 sample),
  fun _ _ left _ => left⟩

/-- A frame with its times. -/
structure PcmFrame (Sample : Type) where
  /-- `samples`, both channels. -/
  sample : Sample × Sample
  /-- `arrived`. -/
  arrived : UInt64
  /-- `captured`. -/
  captured : UInt64
  deriving DecidableEq, Repr

/-- Why a frame left. -/
inductive Fate where
  /-- A render at this clock took it. -/
  | rendered (now : UInt64)
  /-- It was too old at this clock. -/
  | aged (now : UInt64)
  /-- The clock had moved back to this. -/
  | backwards (now : UInt64)
  /-- A packet needed its place. -/
  | discarded
  /-- A flush, a clear, or a gap that was not filled. -/
  | flushed
  deriving DecidableEq, Repr

variable {Sample : Type}

/-- A cleared frame. -/
def Pcm.blank (pcm : Pcm Sample) : PcmFrame Sample := ⟨(pcm.zero, pcm.zero), 0, 0⟩

/-- `PLANKMicQueue`. -/
structure MicrophoneQueue (Sample : Type) where
  /-- `samples`, `arrived` and `captured`, with `head` and `count`. -/
  ring : Queue.Circular (PcmFrame Sample)
  /-- `nextSample`. -/
  nextSample : UInt64 := 0
  /-- `expiredFrames`. -/
  expiredFrames : UInt64 := 0
  /-- `discardedFrames`. -/
  discardedFrames : UInt64 := 0
  /-- `averageFrames256`. -/
  averageFrames256 : Int := 0
  /-- `hasSample`. -/
  hasSample : Bool := false
  /-- `primed`. -/
  primed : Bool := false
  /-- Whether everything computed so far fits its type. -/
  exact : Bool := true
  /-- Every frame put in, oldest first. -/
  accepted : List (PcmFrame Sample) := []
  /-- Every frame that left, oldest first. -/
  departed : List (PcmFrame Sample × Fate) := []

/-- What a render gives back. -/
structure PcmBlock (Sample : Type) where
  /-- The result. -/
  rendered : Bool
  /-- `output`. -/
  output : List (Sample × Sample)
  /-- `captureTime`. -/
  captureTime : UInt64
  deriving DecidableEq, Repr

namespace MicrophoneQueue

/-- The frame at this distance from the head. -/
def get (queue : MicrophoneQueue Sample) (index : Nat) : PcmFrame Sample :=
  queue.ring.get queueFrames index

/-- The live window. -/
def window (queue : MicrophoneQueue Sample) : List (PcmFrame Sample) :=
  queue.ring.window queueFrames

/-- What must hold for a computation to fit. -/
def require (queue : MicrophoneQueue Sample) (fits : Bool) : MicrophoneQueue Sample :=
  { queue with exact := queue.exact && fits }

/-- A value of type `unsigned`. -/
def fits32 (value : Nat) : Bool := value < 0x100000000

/-- A value of type `uint64_t`. -/
def fits64 (value : Nat) : Bool := value < 0x10000000000000000

/-- A value of type `int`. -/
def fitsInt (value : Int) : Bool := -0x80000000 ≤ value && value < 0x80000000

/-- `PLANKMicQueueDiscard`. -/
def discard (pcm : Pcm Sample) (queue : MicrophoneQueue Sample) (count : Nat) (fate : Fate) :
    MicrophoneQueue Sample :=
  { queue.require (fits32 (queue.ring.head + count) && count ≤ queue.ring.count) with
    ring := queue.ring.drop queueFrames pcm.blank count
    departed := queue.departed ++ (queue.window.take count).map (·, fate) }

/-- `PLANKMicQueueFlush`. -/
def flush (pcm : Pcm Sample) (queue : MicrophoneQueue Sample) (fate : Fate) :
    MicrophoneQueue Sample :=
  let queue := queue.discard pcm queue.ring.count fate
  { queue with
    ring := { queue.ring with head := 0 }
    primed := false
    averageFrames256 := 0 }

/-- `PLANKMicQueueClear`. -/
def clear (pcm : Pcm Sample) (queue : MicrophoneQueue Sample) : MicrophoneQueue Sample :=
  { queue.flush pcm .flushed with hasSample := false, nextSample := 0 }

/-- Whether a frame ends the loop of `PLANKMicQueueExpire`. -/
def fresh (now : UInt64) (frame : PcmFrame Sample) : Bool :=
  frame.arrived ≤ now && now - frame.arrived < pcmMaxAge

/-- The loop of `PLANKMicQueueExpire`; so many frames remain. -/
def expireLoop (queue : MicrophoneQueue Sample) (now : UInt64) : Nat → Nat → Nat
  | 0, expired => expired
  | remaining + 1, expired =>
    if fresh now (queue.get expired) then expired else expireLoop queue now remaining (expired + 1)

/-- `PLANKMicQueueExpire`. -/
def expire (pcm : Pcm Sample) (queue : MicrophoneQueue Sample) (now : UInt64) :
    MicrophoneQueue Sample :=
  let queue := queue.require (fits32 (queue.ring.head + queue.ring.count))
  if queue.ring.count ≠ 0 && now < (queue.get (queue.ring.count - 1)).arrived then
    { queue with
      expiredFrames := queue.expiredFrames + UInt64.ofNat queue.ring.count }.flush pcm
        (.backwards now)
  else
    let expired := queue.expireLoop now queue.ring.count 0
    if expired ≠ 0 then
      let queue := queue.discard pcm expired (.aged now)
      { queue with expiredFrames := queue.expiredFrames + UInt64.ofNat expired, primed := false }
    else queue

/-- Put frames behind the live window. -/
def append (queue : MicrophoneQueue Sample) (frames : Nat → PcmFrame Sample) (count : Nat) :
    MicrophoneQueue Sample :=
  { queue.require (fits32 (queue.ring.head + queue.ring.count + count)) with
    ring := queue.ring.putAll queueFrames frames count
    accepted := queue.accepted ++ (List.range count).map frames }

/-- The checks of `PLANKMicQueueSubmitTimed`: the samples, when all pass. -/
def submitted (pcm : Pcm Sample) (queue : MicrophoneQueue Sample)
    (samples : Option (Nat → Sample × Sample)) (count : UInt32) (sampleTime captureTime : UInt64) :
    Option (Nat → Sample × Sample) :=
  if captureTime > 0x7fffffffffffffff - 10000000 then none
  else
    match samples with
    | none => none
    | some samples =>
      if count.toNat ≠ packetFrames || sampleTime % UInt64.ofNat packetFrames ≠ 0 ||
          sampleTime > 0xffffffffffffffff - count.toUInt64 ||
          (queue.hasSample && sampleTime < queue.nextSample) then none
      else if (List.range count.toNat).all fun index =>
          pcm.finite (samples index).1 && pcm.finite (samples index).2 then some samples
      else none

/-- One frame of a gap. -/
def gapFrame (pcm : Pcm Sample) (now : UInt64) : PcmFrame Sample := ⟨(pcm.zero, pcm.zero), now, 0⟩

/-- A gap before a packet is filled with silence, or empties the queue. -/
def bridge (pcm : Pcm Sample) (queue : MicrophoneQueue Sample) (sampleTime now : UInt64) :
    MicrophoneQueue Sample :=
  if queue.hasSample && sampleTime ≠ queue.nextSample then
    let missing := sampleTime - queue.nextSample
    let queue := queue.require (queue.nextSample ≤ sampleTime)
    if missing ≤ UInt64.ofNat (2 * packetFrames) &&
        queue.ring.count + missing.toNat + packetFrames ≤ queueFrames then
      queue.append (fun _ => gapFrame pcm now) missing.toNat
    else queue.flush pcm .flushed
  else queue

/-- The capture time of one frame of a packet. -/
def captureTimeOf (captureTime : UInt64) (index : Nat) : UInt64 :=
  if captureTime ≠ 0 then captureTime + UInt64.ofNat index * 1000000000 / 48000 else 0

/-- The oldest frames make room for a packet. -/
def makeRoom (pcm : Pcm Sample) (queue : MicrophoneQueue Sample) : MicrophoneQueue Sample :=
  if queue.ring.count + packetFrames > queueFrames then
    let discarded := queue.ring.count + packetFrames - queueFrames
    let queue := queue.discard pcm discarded .discarded
    { queue with discardedFrames := queue.discardedFrames + UInt64.ofNat discarded }
  else queue

/-- The position behind a packet. -/
def advance (queue : MicrophoneQueue Sample) (sampleTime captureTime : UInt64) :
    MicrophoneQueue Sample :=
  { queue.require (fits64 (sampleTime.toNat + packetFrames) &&
      (List.range packetFrames).all fun index =>
        fits64 (captureTime.toNat + index * 1000000000 / 48000)) with
    hasSample := true
    nextSample := sampleTime + UInt64.ofNat packetFrames }

/-- One frame of a packet. -/
def packetFrame (pcm : Pcm Sample) (samples : Nat → Sample × Sample) (captureTime now : UInt64)
    (index : Nat) : PcmFrame Sample :=
  ⟨(pcm.clamp (samples index).1, pcm.clamp (samples index).2), now,
    captureTimeOf captureTime index⟩

/-- The end of `PLANKMicQueueSubmitTimed`: the packet is put in. -/
def store (pcm : Pcm Sample) (queue : MicrophoneQueue Sample) (samples : Nat → Sample × Sample)
    (captureTime now : UInt64) : MicrophoneQueue Sample :=
  (queue.makeRoom pcm).append (packetFrame pcm samples captureTime now) packetFrames

/-- `PLANKMicQueueSubmitTimed`. -/
def submit (pcm : Pcm Sample) (queue : MicrophoneQueue Sample)
    (samples : Option (Nat → Sample × Sample)) (count : UInt32)
    (sampleTime captureTime now : UInt64) : MicrophoneQueue Sample × Bool :=
  match queue.submitted pcm samples count sampleTime captureTime with
  | none => (queue, false)
  | some samples =>
    ((((queue.expire pcm now).bridge pcm sampleTime now).advance sampleTime captureTime).store pcm
      samples captureTime now, true)

/-- How many frames the next block takes, at this average. -/
def consumption (average : Int) (count : Nat) : Nat :=
  let low : Int := (targetFrames + packetFrames) * 256
  let high : Int := (targetFrames + 3 * packetFrames / 2) * 256
  let consume := if average > high then 481 else if average < low then 479 else 480
  if consume > count then count else consume

/-- One output frame, between two neighbours of the frames it is made from. -/
def blend (pcm : Pcm Sample) (frames : Nat → PcmFrame Sample) (consume index : Nat) :
    Sample × Sample :=
  let first := index * consume / packetFrames
  let second := if first + 1 < consume then first + 1 else consume - 1
  (pcm.mix index consume (frames first).sample.1 (frames second).sample.1,
    pcm.mix index consume (frames first).sample.2 (frames second).sample.2)

/-- The capture time of the first frame, unless a neighbour's does not follow. -/
def blockCaptureTime (frames : Nat → PcmFrame Sample) (consume : Nat) : UInt64 :=
  if (List.range (consume - 1)).all fun index =>
      (frames index).captured ≠ 0 && (frames index).captured < (frames (index + 1)).captured &&
        (frames (index + 1)).captured - (frames index).captured ≤ 2000000 then
    (frames 0).captured
  else 0

/-- A block of silence. -/
def silence (pcm : Pcm Sample) : PcmBlock Sample :=
  ⟨false, List.replicate packetFrames (pcm.zero, pcm.zero), 0⟩

/-- The start of playing, once enough is queued. -/
def prime (queue : MicrophoneQueue Sample) : MicrophoneQueue Sample :=
  if !queue.primed && queue.ring.count ≥ targetFrames then
    { queue.require (fitsInt (queue.ring.count * 256)) with
      primed := true
      averageFrames256 := queue.ring.count * 256 }
  else queue

/-- The average after one more block. -/
def smooth (queue : MicrophoneQueue Sample) : MicrophoneQueue Sample :=
  let difference : Int := queue.ring.count * 256 - queue.averageFrames256
  let average := queue.averageFrames256 + difference.tdiv 32
  { queue.require (fitsInt (queue.ring.count * 256) && fitsInt difference && fitsInt average) with
    averageFrames256 := average }

/-- The end of `PLANKMicQueueRenderTimed`: a block is made and its frames leave. -/
def play (pcm : Pcm Sample) (queue : MicrophoneQueue Sample) (now : UInt64) :
    MicrophoneQueue Sample × PcmBlock Sample :=
  let queue := queue.smooth
  let consume := consumption queue.averageFrames256 queue.ring.count
  (queue.discard pcm consume (.rendered now), {
    rendered := true
    output := (List.range packetFrames).map (blend pcm queue.get consume)
    captureTime := blockCaptureTime queue.get consume })

/-- `PLANKMicQueueRenderTimed`. -/
def render (pcm : Pcm Sample) (queue : MicrophoneQueue Sample) (now : UInt64) :
    MicrophoneQueue Sample × PcmBlock Sample :=
  let queue := (queue.expire pcm now).prime
  if !queue.primed || queue.ring.count < 479 then ({ queue with primed := false }, silence pcm)
  else queue.play pcm now

/-- Zeroed memory. -/
def empty (pcm : Pcm Sample) : MicrophoneQueue Sample := { ring := ⟨fun _ => pcm.blank, 0, 0⟩ }

end MicrophoneQueue

/-- The calls of the producer. -/
inductive PcmCall (Sample : Type) where
  /-- `PLANKMicQueueSubmitTimed`. -/
  | submit (samples : Option (Nat → Sample × Sample)) (count : UInt32)
    (sampleTime captureTime now : UInt64)
  /-- `PLANKMicQueueRenderTimed`. -/
  | render (now : UInt64)
  /-- `PLANKMicQueueExpire`. -/
  | expire (now : UInt64)
  /-- `PLANKMicQueueFlush`. -/
  | flush
  /-- `PLANKMicQueueClear`. -/
  | clear

namespace MicrophoneQueue

/-- The effect of one call. -/
def step (pcm : Pcm Sample) (queue : MicrophoneQueue Sample) :
    PcmCall Sample → MicrophoneQueue Sample
  | .submit samples count sampleTime captureTime now =>
    (queue.submit pcm samples count sampleTime captureTime now).1
  | .render now => (queue.render pcm now).1
  | .expire now => queue.expire pcm now
  | .flush => queue.flush pcm .flushed
  | .clear => queue.clear pcm

/-- Every sequence of calls on a fresh queue. -/
def system (pcm : Pcm Sample) :
    Transition.System (MicrophoneQueue Sample) (PcmCall Sample) where
  initial queue := queue = empty pcm
  step queue call := some (queue.step pcm call)

end MicrophoneQueue

end Plank.Audio
