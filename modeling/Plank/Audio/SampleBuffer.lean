import Plank.Audio.Pcm

/-!
# The microphone sample history

`microphone-buffer.h`: samples by their absolute frame, in cells that are used again every so many
frames. One writer, any number of readers; every atomic access is a step of its own. What an
observer keeps beside the memory: how many resets began and completed, the frame whose sample each
cell holds, every sample that was written, and what every read returned.
-/

namespace Plank.Audio

/-- `PLANKMicFrames`. -/
def micFrames : UInt64 := 8192

/-- `PLANKMicMaxIO`. -/
def micMaxIO : UInt32 := 8192

variable {Sample : Type}

/-- `PLANKMicSample`. -/
structure SampleCell (Sample : Type) where
  /-- `frame`. -/
  frame : UInt64
  /-- `bits`, both channels. -/
  bits : Sample × Sample

/-- The memory of `PLANKMicBuffer`. -/
structure SampleMemory (Sample : Type) where
  /-- `generation`. -/
  generation : UInt64
  /-- `firstFrame`. -/
  firstFrame : UInt64
  /-- `samples`. -/
  samples : Nat → SampleCell Sample

/-- The frame at this distance from another. -/
def positionAt (frame : UInt64) (index : Nat) : UInt64 := frame + UInt64.ofNat index

/-- The cell of a frame. -/
def cellOf (position : UInt64) : Nat := (position % micFrames).toNat

/-- Change one cell. -/
def SampleMemory.update (memory : SampleMemory Sample) (cell : Nat)
    (change : SampleCell Sample → SampleCell Sample) : SampleMemory Sample :=
  { memory with samples := fun other =>
      if other = cell then change (memory.samples other) else memory.samples other }

/-- The accesses of `PLANKMicBufferWrite`. -/
inductive WritePlace where
  /-- `firstFrame` is loaded. -/
  | check
  /-- The `frame` of the cell is cleared. -/
  | clear (index : Nat)
  /-- Its `bits` are stored. -/
  | bits (index : Nat)
  /-- Its `frame` is stored. -/
  | stamp (index : Nat)
  deriving DecidableEq, Repr

/-- The accesses of `PLANKMicBufferReset`. -/
inductive ResetPlace where
  /-- The first change of `generation`. -/
  | begin
  /-- `firstFrame` is stored. -/
  | first
  /-- The `frame` of a cell is cleared. -/
  | clear (cell : Nat)
  /-- The second change of `generation`. -/
  | finish
  deriving DecidableEq, Repr

/-- The arguments of `PLANKMicBufferWrite`. -/
structure SampleWrite (Sample : Type) where
  /-- `samples`. -/
  samples : Nat → Sample × Sample
  /-- `frame`. -/
  frame : UInt64
  /-- `count`. -/
  count : UInt32

/-- What the writer is doing. -/
inductive BufferWriter (Sample : Type) where
  /-- Nothing. -/
  | idle
  /-- A write. -/
  | writing (write : SampleWrite Sample) (place : WritePlace)
  /-- A reset. -/
  | resetting (firstFrame : UInt64) (place : ResetPlace)

/-- The arguments of `PLANKMicBufferRead`. -/
structure SampleRead where
  /-- `frame`. -/
  frame : UInt64
  /-- `count`. -/
  count : UInt32
  deriving DecidableEq, Repr

/-- The accesses of `PLANKMicBufferRead`. -/
inductive ReadPlace where
  /-- `generation` is loaded. -/
  | generation
  /-- `firstFrame` is loaded. -/
  | first
  /-- The turn of one frame. -/
  | frame (index : Nat)
  /-- The `frame` of its cell is loaded. -/
  | before (index : Nat)
  /-- Its `bits` are loaded. -/
  | bits (index : Nat)
  /-- Its `frame` is loaded again. -/
  | after (index : Nat)
  /-- `generation` is loaded again. -/
  | again
  deriving DecidableEq, Repr

/-- A read on its way. -/
structure BufferReading (Sample : Type) where
  /-- Its arguments. -/
  call : SampleRead
  /-- What comes next. -/
  place : ReadPlace
  /-- `generation`. -/
  generation : UInt64
  /-- `first`. -/
  first : UInt64
  /-- `before`. -/
  before : UInt64
  /-- `bits`. -/
  bits : Sample × Sample
  /-- `samples` so far. -/
  samples : List (Sample × Sample)
  /-- How many resets had completed when it loaded `generation`. -/
  began : Nat
  deriving DecidableEq, Repr

/-- A sample that was stored. -/
structure WrittenSample (Sample : Type) where
  /-- How many resets had completed. -/
  resets : Nat
  /-- The frame. -/
  frame : Nat
  /-- The sample. -/
  bits : Sample × Sample
  deriving DecidableEq, Repr

/-- What a read returned. -/
structure BufferResult (Sample : Type) where
  /-- Its arguments. -/
  call : SampleRead
  /-- `samples`. -/
  samples : List (Sample × Sample)
  /-- How many resets had completed when it loaded `generation`. -/
  began : Nat
  /-- How many resets had begun when it returned. -/
  opened : Nat
  deriving DecidableEq, Repr

/-- `PLANKMicBuffer`, its writer and its readers. -/
structure SampleBuffer (Sample : Type) where
  /-- The memory. -/
  memory : SampleMemory Sample
  /-- The writer. -/
  writer : BufferWriter Sample := .idle
  /-- The readers. -/
  readers : Nat → Option (BufferReading Sample) := fun _ => none
  /-- How many resets began. -/
  opened : Nat := 0
  /-- How many resets completed. -/
  completed : Nat := 0
  /-- One more than the frame whose sample each cell holds. -/
  last : Nat → Nat := fun _ => 0
  /-- Every sample that was stored, oldest first. -/
  written : List (WrittenSample Sample) := []
  /-- What every read returned, oldest first. -/
  returned : List (BufferResult Sample) := []

/-- What happens next. -/
inductive BufferLabel (Sample : Type) where
  /-- The writer calls `PLANKMicBufferWrite`. -/
  | write (samples : Option (Nat → Sample × Sample)) (frame : UInt64) (count : UInt32)
  /-- The writer calls `PLANKMicBufferReset`. -/
  | reset (firstFrame : UInt64)
  /-- The writer's next access. -/
  | store
  /-- A reader calls `PLANKMicBufferRead`, with a buffer or without. -/
  | read (reader : Nat) (given : Bool) (frame : UInt64) (count : UInt32)
  /-- A reader's next access. -/
  | load (reader : Nat)

namespace SampleBuffer

variable (pcm : Pcm Sample)

/-- Both channels of one frame that is written. -/
def clamped (write : SampleWrite Sample) (index : Nat) : Sample × Sample :=
  (pcm.clamp (write.samples index).1, pcm.clamp (write.samples index).2)

/-- Whether the samples of a write are finite. -/
def finite (write : SampleWrite Sample) : Bool :=
  (List.range write.count.toNat).all fun index =>
    pcm.finite (write.samples index).1 && pcm.finite (write.samples index).2

/-- One access of `PLANKMicBufferWrite`. -/
def writing (buffer : SampleBuffer Sample) (write : SampleWrite Sample) :
    WritePlace → SampleBuffer Sample
  | .check =>
    if buffer.memory.firstFrame ≤ write.frame && finite pcm write then
      { buffer with writer := .writing write (.clear 0) }
    else { buffer with writer := .idle }
  | .clear index =>
    { buffer with
      memory := buffer.memory.update (cellOf (positionAt write.frame index)) fun cell =>
        { cell with frame := 0 }
      writer := .writing write (.bits index) }
  | .bits index =>
    let position := positionAt write.frame index
    { buffer with
      memory := buffer.memory.update (cellOf position) fun cell =>
        { cell with bits := clamped pcm write index }
      writer := .writing write (.stamp index)
      last := fun cell => if cell = cellOf position then position.toNat + 1 else buffer.last cell
      written := buffer.written ++
        [⟨buffer.completed, position.toNat, clamped pcm write index⟩] }
  | .stamp index =>
    let position := positionAt write.frame index
    { buffer with
      memory := buffer.memory.update (cellOf position) fun cell =>
        { cell with frame := position + 1 }
      writer := if index + 1 < write.count.toNat then .writing write (.clear (index + 1))
        else .idle }

/-- One access of `PLANKMicBufferReset`. -/
def resetting (buffer : SampleBuffer Sample) (firstFrame : UInt64) :
    ResetPlace → SampleBuffer Sample
  | .begin =>
    { buffer with
      memory := { buffer.memory with generation := buffer.memory.generation + 1 }
      writer := .resetting firstFrame .first
      opened := buffer.opened + 1 }
  | .first =>
    { buffer with
      memory := { buffer.memory with firstFrame }
      writer := .resetting firstFrame (.clear 0) }
  | .clear cell =>
    { buffer with
      memory := buffer.memory.update cell fun cell => { cell with frame := 0 }
      writer := .resetting firstFrame
        (if cell + 1 < micFrames.toNat then .clear (cell + 1) else .finish)
      last := fun other => if other = cell then 0 else buffer.last other }
  | .finish =>
    { buffer with
      memory := { buffer.memory with generation := buffer.memory.generation + 1 }
      writer := .idle
      completed := buffer.completed + 1 }

/-- Change one reader. -/
def setReader (buffer : SampleBuffer Sample) (reader : Nat)
    (reading : Option (BufferReading Sample)) : SampleBuffer Sample :=
  { buffer with
    readers := fun other => if other = reader then reading else buffer.readers other }

/-- Silence. -/
def silent (call : SampleRead) : List (Sample × Sample) :=
  List.replicate call.count.toNat (pcm.zero, pcm.zero)

/-- A read returns. -/
def finish (buffer : SampleBuffer Sample) (reader : Nat) (call : SampleRead) (began : Nat)
    (samples : List (Sample × Sample)) : SampleBuffer Sample :=
  { buffer.setReader reader none with
    returned := buffer.returned ++ [⟨call, samples, began, buffer.opened⟩] }

/-- One access of `PLANKMicBufferRead`. -/
def loading (buffer : SampleBuffer Sample) (reader : Nat) (reading : BufferReading Sample) :
    SampleBuffer Sample :=
  match reading.place with
  | .generation =>
    if buffer.memory.generation % 2 = 1 then
      buffer.finish reader reading.call buffer.completed (silent pcm reading.call)
    else
      buffer.setReader reader (some { reading with
        generation := buffer.memory.generation
        began := buffer.completed
        place := .first })
  | .first =>
    buffer.setReader reader (some { reading with
      first := buffer.memory.firstFrame
      place := .frame 0 })
  | .frame index =>
    buffer.setReader reader (some
      (if index < reading.call.count.toNat then
        if positionAt reading.call.frame index < reading.first then
          { reading with
            samples := reading.samples ++ [(pcm.zero, pcm.zero)]
            place := .frame (index + 1) }
        else { reading with place := .before index }
      else { reading with place := .again }))
  | .before index =>
    buffer.setReader reader (some { reading with
      before := (buffer.memory.samples (cellOf (positionAt reading.call.frame index))).frame
      place := .bits index })
  | .bits index =>
    buffer.setReader reader (some { reading with
      bits := (buffer.memory.samples (cellOf (positionAt reading.call.frame index))).bits
      place := .after index })
  | .after index =>
    let position := positionAt reading.call.frame index
    let after := (buffer.memory.samples (cellOf position)).frame
    buffer.setReader reader (some { reading with
      samples := reading.samples ++
        [if reading.before = position + 1 && after = reading.before then reading.bits
          else (pcm.zero, pcm.zero)]
      place := .frame (index + 1) })
  | .again =>
    buffer.finish reader reading.call reading.began
      (if reading.generation ≠ buffer.memory.generation then silent pcm reading.call
        else reading.samples)

/-- One step of the writer or of a reader. -/
def step (buffer : SampleBuffer Sample) : BufferLabel Sample → Option (SampleBuffer Sample)
  | .write samples frame count =>
    match buffer.writer with
    | .idle =>
      match samples with
      | none => some buffer
      | some samples =>
        if count = 0 || micMaxIO < count || 0xffffffffffffffff - count.toUInt64 < frame then
          some buffer
        else some { buffer with writer := .writing ⟨samples, frame, count⟩ .check }
    | _ => none
  | .reset firstFrame =>
    match buffer.writer with
    | .idle => some { buffer with writer := .resetting firstFrame .begin }
    | _ => none
  | .store =>
    match buffer.writer with
    | .idle => none
    | .writing write place => some (buffer.writing pcm write place)
    | .resetting firstFrame place => some (buffer.resetting firstFrame place)
  | .read reader given frame count =>
    match buffer.readers reader with
    | some _ => none
    | none =>
      if !given || micMaxIO < count then some buffer
      else if 0xffffffffffffffff - count.toUInt64 < frame then
        some (buffer.finish reader ⟨frame, count⟩ buffer.completed (silent pcm ⟨frame, count⟩))
      else
        some (buffer.setReader reader (some
          ⟨⟨frame, count⟩, .generation, 0, 0, 0, (pcm.zero, pcm.zero), [], 0⟩))
  | .load reader => (buffer.readers reader).map (buffer.loading pcm reader)

/-- After `PLANKMicBufferInit`. -/
def fresh : SampleBuffer Sample := { memory := ⟨2, 0, fun _ => ⟨0, (pcm.zero, pcm.zero)⟩⟩ }

/-- A sample is stored in a cell only for the frame it holds or for a later one, between resets. -/
def ordered (buffer : SampleBuffer Sample) : BufferLabel Sample → Bool
  | .store =>
    match buffer.writer with
    | .writing write (.bits index) =>
      let position := positionAt write.frame index
      buffer.last (cellOf position) ≤ position.toNat + 1
    | _ => true
  | _ => true

/-- Every interleaving. -/
def everything : Transition.System (SampleBuffer Sample) (BufferLabel Sample) where
  initial buffer := buffer = fresh pcm
  step := step pcm

/-- Every interleaving whose writes keep the order of frames in each cell. -/
def system : Transition.System (SampleBuffer Sample) (BufferLabel Sample) :=
  (everything pcm).restrict ordered

end SampleBuffer

end Plank.Audio
