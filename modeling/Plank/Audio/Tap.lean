import Plank.Transition.System

/-!
# The audio tap ring

`audio-tap-buffer.h` and the drain of `audio-tap.m`: one HAL callback pushes blocks, one owner queue
drains them. Every atomic access is a step of its own, and so is each frame that is copied or
scaled, so the two sides interleave anywhere. An observer keeps a trace, newest first; a block
carries the serial number of the push that wrote it, which no code reads.
-/

namespace Plank.Audio

/-- The operations of the sample type. -/
structure Arithmetic (Sample : Type) where
  /-- `isfinite`. -/
  finite : Sample → Bool
  /-- Multiplication. -/
  scale : Sample → Sample → Sample

/-- `PLANKTapSlots`. -/
def tapSlots : UInt32 := 16

/-- `PLANKTapMaxFrames`. -/
def tapMaxFrames : UInt32 := 8192

variable {Sample : Type}

/-- `PLANKTapBlock`. -/
structure TapBlock (Sample : Type) where
  /-- `frames`. -/
  frames : UInt32
  /-- `hostTime`. -/
  hostTime : UInt64
  /-- `callbackTime`. -/
  callbackTime : UInt64
  /-- The bits of `sampleTime`. -/
  sampleTime : UInt64
  /-- `samples`, the two of a frame together. -/
  samples : Nat → Sample × Sample
  /-- The push that wrote the block. -/
  serial : Nat

/-- The arguments of `PLANKTapPush`. -/
structure TapOffer (Sample : Type) where
  /-- `left`, none for a null pointer. -/
  left : Option (Nat → Sample)
  /-- `right`, none for interleaved samples. -/
  right : Option (Nat → Sample)
  /-- `frames`. -/
  frames : UInt32
  /-- `hostTime`. -/
  hostTime : UInt64
  /-- The bits of `sampleTime`. -/
  sampleTime : UInt64
  /-- `callbackTime`. -/
  callbackTime : UInt64

/-- A block as it was pushed, or as it was delivered. -/
structure TapRecord (Sample : Type) where
  /-- `hostTime`. -/
  hostTime : UInt64
  /-- `callbackTime`. -/
  callbackTime : UInt64
  /-- The bits of `sampleTime`. -/
  sampleTime : UInt64
  /-- The samples of its frames. -/
  samples : List (Sample × Sample)
  deriving DecidableEq, Repr

/-- The record of a block. -/
def TapBlock.record (block : TapBlock Sample) : TapRecord Sample :=
  ⟨block.hostTime, block.callbackTime, block.sampleTime,
    (List.range block.frames.toNat).map block.samples⟩

/-- The two samples of one frame, as the copying loop reads them. -/
def TapOffer.sample (offer : TapOffer Sample) (left : Nat → Sample) (frame : Nat) :
    Sample × Sample :=
  match offer.right with
  | some right => (left frame, right frame)
  | none => (left (frame * 2), left (frame * 2 + 1))

/-- The arguments `PLANKTapPush` refuses as an error; otherwise the left samples. -/
def TapOffer.accepted (offer : TapOffer Sample) : Option (Nat → Sample) :=
  if offer.frames = 0 || tapMaxFrames < offer.frames || offer.hostTime = 0 then none
  else offer.left

/-- The block an accepted offer asks for. -/
def TapOffer.record (offer : TapOffer Sample) (left : Nat → Sample) : TapRecord Sample :=
  ⟨offer.hostTime, offer.callbackTime, offer.sampleTime,
    (List.range offer.frames.toNat).map (offer.sample left)⟩

/-- Both samples of a frame times their gains. -/
def Arithmetic.amplify (arithmetic : Arithmetic Sample) (gains sample : Sample × Sample) :
    Sample × Sample :=
  (arithmetic.scale sample.1 gains.1, arithmetic.scale sample.2 gains.2)

/-- What an observer of the ring sees. -/
inductive TapEvent (Sample : Type) where
  /-- A push published its block; what the callback was given. -/
  | pushed (serial : Nat) (record : TapRecord Sample)
  /-- A push recorded an overrun. -/
  | refused
  /-- `PLANKTapDiscardOverrun` took this count. -/
  | observed (count : UInt32)
  /-- The drain delivered a block, scaled with these gains. -/
  | delivered (serial : Nat) (gains : Sample × Sample) (record : TapRecord Sample)
  deriving DecidableEq, Repr

/-- Where the HAL callback is. -/
inductive TapProducer (Sample : Type) where
  /-- Outside. -/
  | idle
  /-- The callback found the tap running; `PLANKTapPush` is about to look again. -/
  | called (offer : TapOffer Sample)
  /-- Not stopped; about to load `writeIndex`. -/
  | entered (offer : TapOffer Sample)
  /-- About to load `readIndex`. -/
  | written (offer : TapOffer Sample) (write : UInt32)
  /-- It has both. -/
  | loaded (offer : TapOffer Sample) (write read : UInt32)
  /-- Copying; this many frames are in the block. -/
  | copying (offer : TapOffer Sample) (left : Nat → Sample) (write : UInt32) (frame : Nat)
  /-- About to signal the drain. -/
  | returning

/-- Where the drain is; `handled` counts the turns of its loop. -/
inductive TapConsumer where
  /-- Outside. -/
  | idle
  /-- At the head of the loop. -/
  | looping (handled : Nat)
  /-- It took an overrun; about to load `writeIndex`. -/
  | discarding (handled : Nat)
  /-- About to drop the backlog. -/
  | dropping (handled : Nat) (write : UInt32)
  /-- About to load `readIndex` in `PLANKTapPeek`. -/
  | peeking (handled : Nat)
  /-- About to load `writeIndex` in `PLANKTapPeek`. -/
  | comparing (handled : Nat) (read : UInt32)
  /-- It holds a block; this many frames are scaled. -/
  | holding (handled : Nat) (slot : UInt32) (frame : Nat)
  /-- Delivered; about to load `readIndex` in `PLANKTapPop`. -/
  | popping (handled : Nat) (delivered : Bool)
  /-- About to store `readIndex`. -/
  | leaving (handled : Nat) (delivered : Bool) (read : UInt32)
  /-- After the loop; about to load `readIndex` for the last peek. -/
  | finishing
  /-- About to load `writeIndex` for the last peek. -/
  | closing (read : UInt32)
  deriving DecidableEq, Repr

/-- The ring with its two sides. -/
structure Tap (Sample : Type) where
  /-- `readIndex`. -/
  readIndex : UInt32 := 0
  /-- `writeIndex`. -/
  writeIndex : UInt32 := 0
  /-- `failed`. -/
  failed : Nat := 0
  /-- `overruns`. -/
  overruns : UInt32 := 0
  /-- `stopped`, and the `_stopped` of the owner queue. -/
  stopped : Bool := false
  /-- `blocks`. -/
  blocks : UInt32 → TapBlock Sample
  /-- `_leftGain` and `_rightGain`. -/
  gains : Sample × Sample
  /-- Whether the drain is signalled. -/
  ready : Bool := false
  /-- `_failureReported`. -/
  failureReported : Bool := false
  /-- The HAL callback. -/
  producer : TapProducer Sample := .idle
  /-- The drain. -/
  consumer : TapConsumer := .idle
  /-- What an observer saw, newest first. -/
  trace : List (TapEvent Sample) := []

/-- Everything that can happen next. -/
inductive TapLabel (Sample : Type) where
  /-- The HAL calls back with valid buffers. -/
  | push (offer : TapOffer Sample)
  /-- The HAL calls back with others, or a listener of the control queue fails the tap. -/
  | fail (code : Nat)
  /-- The next step of the callback. -/
  | produce
  /-- The drain is called. -/
  | drain
  /-- The next step of the drain. -/
  | consume
  /-- The block is handed over; whether that succeeded. -/
  | deliver (delivered : Bool)
  /-- New gains arrive on the owner queue. -/
  | gains (gains : Sample × Sample)
  /-- `stopWithCompletion`, on the owner queue. -/
  | stop

namespace TapEvent

/-- How many pushes a trace has. -/
def pushes : List (TapEvent Sample) → Nat
  | [] => 0
  | .pushed _ _ :: trace => pushes trace + 1
  | _ :: trace => pushes trace

/-- How many pushes recorded an overrun. -/
def refusals : List (TapEvent Sample) → Nat
  | [] => 0
  | .refused :: trace => refusals trace + 1
  | _ :: trace => refusals trace

/-- How many overruns were observed. -/
def observations : List (TapEvent Sample) → Nat
  | [] => 0
  | .observed count :: trace => observations trace + count.toNat
  | _ :: trace => observations trace

end TapEvent

namespace Tap

/-- Write an event down. -/
def note (tap : Tap Sample) (event : TapEvent Sample) : Tap Sample :=
  { tap with trace := event :: tap.trace }

/-- Replace one block. -/
def setBlock (tap : Tap Sample) (slot : UInt32) (block : TapBlock Sample) : Tap Sample :=
  { tap with blocks := fun other => if other = slot then block else tap.blocks other }

/-- The step of a callback that has both indexes: an error, an overrun, or the header. -/
def decideStep (tap : Tap Sample) (offer : TapOffer Sample) (write read : UInt32) : Tap Sample :=
  match offer.accepted with
  | none => { tap with failed := 1, producer := .returning }
  | some left =>
    if write - read ≥ tapSlots then
      { tap.note .refused with overruns := tap.overruns + 1, producer := .returning }
    else
      let slot := write % tapSlots
      { tap.setBlock slot { tap.blocks slot with
          frames := offer.frames
          hostTime := offer.hostTime
          sampleTime := offer.sampleTime
          callbackTime := offer.callbackTime
          serial := TapEvent.pushes tap.trace } with
        producer := .copying offer left write 0 }

/-- One turn of the copying loop, or the store that publishes the block. -/
def copyStep (arithmetic : Arithmetic Sample) (tap : Tap Sample) (offer : TapOffer Sample)
    (left : Nat → Sample) (write : UInt32) (frame : Nat) : Tap Sample :=
  let slot := write % tapSlots
  let block := tap.blocks slot
  if frame < offer.frames.toNat then
    let sample := offer.sample left frame
    if !arithmetic.finite sample.1 || !arithmetic.finite sample.2 then
      { tap with failed := 1, producer := .returning }
    else
      { tap.setBlock slot { block with
          samples := fun other => if other = frame then sample else block.samples other } with
        producer := .copying offer left write (frame + 1) }
  else
    { tap.note (.pushed block.serial (offer.record left)) with
      writeIndex := write + 1
      producer := .returning }

/-- The next step of the callback. -/
def produceStep (arithmetic : Arithmetic Sample) (tap : Tap Sample) : Option (Tap Sample) :=
  match tap.producer with
  | .idle => none
  | .called offer =>
    some { tap with producer := if tap.stopped then .returning else .entered offer }
  | .entered offer => some { tap with producer := .written offer tap.writeIndex }
  | .written offer write => some { tap with producer := .loaded offer write tap.readIndex }
  | .loaded offer write read => some (tap.decideStep offer write read)
  | .copying offer left write frame => some (tap.copyStep arithmetic offer left write frame)
  | .returning => some { tap with ready := true, producer := .idle }

/-- The head of the loop: its condition, and the exchange of `PLANKTapDiscardOverrun`. -/
def loopStep (tap : Tap Sample) (handled : Nat) : Tap Sample :=
  if tap.stopped || handled ≥ tapSlots.toNat then { tap with consumer := .finishing }
  else
    { tap.note (.observed tap.overruns) with
      overruns := 0
      consumer := if tap.overruns ≠ 0 then .discarding handled else .peeking handled }

/-- Scaling one frame of the block in place. -/
def scaleStep (arithmetic : Arithmetic Sample) (tap : Tap Sample) (handled : Nat) (slot : UInt32)
    (frame : Nat) : Option (Tap Sample) :=
  let block := tap.blocks slot
  if frame < block.frames.toNat then
    let scaled := arithmetic.amplify tap.gains (block.samples frame)
    some { tap.setBlock slot { block with
        samples := fun other => if other = frame then scaled else block.samples other } with
      consumer := .holding handled slot (frame + 1) }
  else none

/-- The next step of the drain. -/
def consumeStep (arithmetic : Arithmetic Sample) (tap : Tap Sample) : Option (Tap Sample) :=
  match tap.consumer with
  | .idle => none
  | .looping handled => some (tap.loopStep handled)
  | .discarding handled => some { tap with consumer := .dropping handled tap.writeIndex }
  | .dropping handled write =>
    some { tap with readIndex := write, consumer := .peeking handled }
  | .peeking handled => some { tap with consumer := .comparing handled tap.readIndex }
  | .comparing handled read =>
    some { tap with
      consumer := if read = tap.writeIndex then .finishing
        else .holding handled (read % tapSlots) 0 }
  | .holding handled slot frame => tap.scaleStep arithmetic handled slot frame
  | .popping handled delivered =>
    some { tap with consumer := .leaving handled delivered tap.readIndex }
  | .leaving handled delivered read =>
    some { tap with
      readIndex := read + 1
      failureReported := tap.failureReported || !delivered
      consumer := if delivered then .looping (handled + 1) else .idle }
  | .finishing =>
    some { tap with consumer := if tap.stopped then .idle else .closing tap.readIndex }
  | .closing read =>
    some { tap with ready := tap.ready || read ≠ tap.writeIndex, consumer := .idle }

/-- `_sample` is called with the scaled block. -/
def deliverStep (tap : Tap Sample) (delivered : Bool) : Option (Tap Sample) :=
  match tap.consumer with
  | .holding handled slot frame =>
    let block := tap.blocks slot
    if frame < block.frames.toNat then none
    else some { tap.note (.delivered block.serial tap.gains block.record) with
      consumer := .popping handled delivered }
  | _ => none

/-- The drain is called. -/
def drainStep (tap : Tap Sample) : Option (Tap Sample) :=
  if tap.ready ∧ tap.consumer = .idle then
    if tap.stopped || tap.failureReported then some { tap with ready := false }
    else if tap.failed ≠ 0 then some { tap with ready := false, failureReported := true }
    else some { tap with ready := false, consumer := .looping 0 }
  else none

/-- Whether the owner queue may run something else: between drains, or under `_sample`. -/
def yielded (tap : Tap Sample) : Bool :=
  match tap.consumer with
  | .idle | .popping _ _ => true
  | _ => false

/-- The block the drain has peeked and not yet given back. -/
def peeked (tap : Tap Sample) : Option UInt32 :=
  match tap.consumer with
  | .holding _ slot _ => some slot
  | .popping _ _ => some (tap.readIndex % tapSlots)
  | .leaving _ _ _ => some (tap.readIndex % tapSlots)
  | _ => none

/-- The effect of one label. -/
def step (arithmetic : Arithmetic Sample) (tap : Tap Sample) :
    TapLabel Sample → Option (Tap Sample)
  | .push offer =>
    match tap.producer with
    | .idle => some { tap with producer := if tap.stopped then .idle else .called offer }
    | _ => none
  | .fail code => some { tap with failed := code, ready := true }
  | .produce => tap.produceStep arithmetic
  | .drain => tap.drainStep
  | .consume => tap.consumeStep arithmetic
  | .deliver delivered => tap.deliverStep delivered
  | .gains gains => if tap.consumer = .idle then some { tap with gains } else none
  | .stop => if tap.yielded then some { tap with stopped := true } else none

/-- Every run of a ring over fresh memory. -/
def system (arithmetic : Arithmetic Sample) : Transition.System (Tap Sample) (TapLabel Sample) where
  initial tap := ∃ blocks gains, tap = { blocks, gains }
  step := step arithmetic

end Tap

end Plank.Audio
