import Plank.Camera.Record
import Plank.Transition.System
import Plank.Wire.LittleEndian

/-!
# The shared camera memory

`camera-link.h`: one producer writes records into three slots, one consumer reads them. Every atomic
load and store is a step of its own, words of the payload included, and what comes before it in
private memory goes with it. What an observer keeps beside them: the calls that write, how many of
these returned, and what every read that returned 1 gave.
-/

namespace Plank.Camera

/-- `PLANKCameraSlots`. -/
def cameraSlots : UInt64 := 3

/-- `PLANKCameraRecordBytes`. -/
def recordBytes : Nat := headerBytes + maxFrameBytes

/-- `PLANKCameraRecordWords`. -/
def recordWords : Nat := (recordBytes + 7) / 8

/-- `PLANK_CAMERA_MAX_AGE_NS`. -/
def linkMaxAge : UInt64 := 150000000

/-- Half of `UINT64_MAX`. -/
def serialLimit : UInt64 := 0xffffffffffffffff / 2

/-- `PLANKCameraSlot`. -/
structure LinkSlot where
  /-- `stamp`. -/
  stamp : UInt64 := 0
  /-- `size`. -/
  size : UInt64 := 0
  /-- `hostTime`. -/
  hostTime : UInt64 := 0
  /-- `arrived`. -/
  arrived : UInt64 := 0
  /-- `words`. -/
  words : Nat → UInt64 := fun _ => 0

/-- `PLANKCameraLink`. -/
structure LinkMemory where
  /-- `published`. -/
  published : UInt64 := 0
  /-- `slots`. -/
  slots : Nat → LinkSlot := fun _ => {}

/-- The slot of a serial. -/
def slotOf (serial : UInt64) : Nat := ((serial - 1) % cameraSlots).toNat

/-- Change one slot. -/
def LinkMemory.update (memory : LinkMemory) (serial : UInt64) (change : LinkSlot → LinkSlot) :
    LinkMemory :=
  { memory with slots := fun slot =>
      if slot = slotOf serial then change (memory.slots slot) else memory.slots slot }

/-- The arguments of `PLANKCameraLinkWriteTimed`. -/
structure LinkFrame where
  /-- `record`. -/
  record : Nat → UInt8
  /-- `size`. -/
  size : UInt64
  /-- `hostTime`. -/
  hostTime : UInt64
  /-- `arrived`. -/
  arrived : UInt64

/-- How many bytes of the word at this index belong to a record of so many. -/
def wordLength (size index : Nat) : Nat := if size - 8 * index < 8 then size - 8 * index else 8

namespace LinkFrame

/-- The bytes of the record. -/
def bytes (frame : LinkFrame) : List UInt8 := (List.range frame.size.toNat).map frame.record

/-- The bytes of one word. -/
def wordBytes (frame : LinkFrame) (index : Nat) : List UInt8 :=
  (List.range (wordLength frame.size.toNat index)).map fun byte => frame.record (8 * index + byte)

/-- One word, whose other bytes are zero. -/
def word (frame : LinkFrame) (index : Nat) : UInt64 :=
  UInt64.ofNat (Wire.readLe (frame.wordBytes index))

/-- The checks of `PLANKCameraLinkWriteTimed`. -/
def accepted (frame : LinkFrame) (serial : UInt64) : Bool :=
  headerBytes < frame.size.toNat && frame.size.toNat ≤ recordBytes && frame.hostTime ≠ 0 &&
    frame.arrived ≠ 0 && serial < serialLimit - 1

end LinkFrame

/-- The stores of one write. -/
inductive LinkStore where
  /-- The odd `stamp`. -/
  | begin
  /-- `size`. -/
  | size
  /-- `hostTime`. -/
  | hostTime
  /-- `arrived`. -/
  | arrived
  /-- One of `words`. -/
  | word (index : Nat)
  /-- The even `stamp`. -/
  | close
  /-- `published`. -/
  | publish
  deriving DecidableEq, Repr

namespace LinkStore

/-- The store that follows, for a record of this size. -/
def next (size : Nat) : LinkStore → Option LinkStore
  | .begin => some .size
  | .size => some .hostTime
  | .hostTime => some .arrived
  | .arrived => some (if 0 < size then .word 0 else .close)
  | .word index => some (if 8 * (index + 1) < size then .word (index + 1) else .close)
  | .close => some .publish
  | .publish => none

/-- The memory after a store. -/
def apply (memory : LinkMemory) (serial : UInt64) (frame : LinkFrame) : LinkStore → LinkMemory
  | .begin => memory.update serial fun slot => { slot with stamp := serial <<< 1 ||| 1 }
  | .size => memory.update serial fun slot => { slot with size := frame.size }
  | .hostTime => memory.update serial fun slot => { slot with hostTime := frame.hostTime }
  | .arrived => memory.update serial fun slot => { slot with arrived := frame.arrived }
  | .word index => memory.update serial fun slot => { slot with
      words := fun other => if other = index then frame.word index else slot.words other }
  | .close => memory.update serial fun slot => { slot with stamp := serial <<< 1 }
  | .publish => { memory with published := serial }

end LinkStore

/-- A write on its way. -/
structure LinkWriting where
  /-- Its arguments. -/
  frame : LinkFrame
  /-- The store that comes next. -/
  place : LinkStore

/-- The arguments of `PLANKCameraLinkReadTimed`. -/
structure LinkCall where
  /-- `capacity`. -/
  capacity : UInt64
  /-- Whether `arrivalTime` is given. -/
  timed : Bool
  /-- `now`. -/
  now : UInt64
  deriving DecidableEq, Repr

/-- The loads of one read. -/
inductive LinkLoad where
  /-- `published`. -/
  | published
  /-- `stamp`. -/
  | stamp
  /-- `size`. -/
  | size
  /-- `hostTime`. -/
  | hostTime
  /-- `arrived`. -/
  | arrived
  /-- One of `words`. -/
  | word (index : Nat)
  /-- `stamp`, the second time. -/
  | again
  deriving DecidableEq, Repr

/-- What a load finds. -/
def LinkMemory.load (memory : LinkMemory) (serial : UInt64) : LinkLoad → UInt64
  | .published => memory.published
  | .stamp | .again => (memory.slots (slotOf serial)).stamp
  | .size => (memory.slots (slotOf serial)).size
  | .hostTime => (memory.slots (slotOf serial)).hostTime
  | .arrived => (memory.slots (slotOf serial)).arrived
  | .word index => (memory.slots (slotOf serial)).words index

/-- A read on its way. -/
structure LinkReading where
  /-- Its arguments. -/
  call : LinkCall
  /-- The load that comes next. -/
  place : LinkLoad := .published
  /-- `next`. -/
  next : UInt64 := 0
  /-- `count`. -/
  count : UInt64 := 0
  /-- `time`. -/
  time : UInt64 := 0
  /-- `arrived`. -/
  arrived : UInt64 := 0
  /-- What was copied into `record`. -/
  record : List UInt8 := []

/-- What a read gives. -/
inductive LinkAnswer where
  /-- 1, with what the outputs hold. -/
  | frame (record : List UInt8) (size hostTime : UInt64) (arrivalTime : Option UInt64)
  /-- 0. -/
  | empty
  /-- -1. -/
  | gap
  deriving DecidableEq, Repr

/-- What follows a load. -/
inductive LinkTurn where
  /-- Another load, with this `cursor`. -/
  | goOn (cursor : UInt64) (reading : LinkReading)
  /-- The end of the read, with this `cursor`. -/
  | done (cursor : UInt64) (answer : LinkAnswer)

namespace LinkReading

/-- The checks of a slot before its payload is copied. -/
def refused (reading : LinkReading) : Bool :=
  reading.count.toNat ≤ headerBytes || recordBytes < reading.count.toNat ||
    reading.call.capacity < reading.count || reading.time = 0 ||
    0x7fffffffffffffff < reading.time || reading.arrived = 0 ||
    reading.call.now < reading.arrived || linkMaxAge < reading.call.now - reading.arrived ||
    if reading.call.now < reading.time then 100000000 < reading.time - reading.call.now
    else linkMaxAge < reading.call.now - reading.time

/-- From one load of `PLANKCameraLinkReadTimed` to the next. -/
def turn (reading : LinkReading) (cursor value : UInt64) : LinkTurn :=
  match reading.place with
  | .published =>
    if value = cursor then .done cursor .empty
    else if value < cursor || serialLimit ≤ value then .done cursor .gap
    else if cameraSlots < value - cursor then .done (value - 1) .gap
    else .goOn (cursor + 1) { reading with next := cursor + 1, place := .stamp }
  | .stamp =>
    if value ≠ reading.next <<< 1 then .done cursor .gap
    else .goOn cursor { reading with place := .size }
  | .size => .goOn cursor { reading with count := value, place := .hostTime }
  | .hostTime => .goOn cursor { reading with time := value, place := .arrived }
  | .arrived =>
    let reading := { reading with arrived := value }
    if reading.refused then .done cursor .gap
    else .goOn cursor { reading with place := if 0 < reading.count.toNat then .word 0 else .again }
  | .word index =>
    .goOn cursor { reading with
      record := reading.record ++
        (Wire.writeLe 8 value.toNat).take (wordLength reading.count.toNat index)
      place := if 8 * (index + 1) < reading.count.toNat then .word (index + 1) else .again }
  | .again =>
    if value ≠ reading.next <<< 1 then .done cursor .gap
    else .done cursor (.frame reading.record reading.count reading.time
      (if reading.call.timed then some reading.arrived else none))

end LinkReading

/-- A read that returned 1. -/
structure LinkTaken where
  /-- Its arguments. -/
  call : LinkCall
  /-- `cursor` after it. -/
  serial : UInt64
  /-- `record`. -/
  record : List UInt8
  /-- `size`. -/
  size : UInt64
  /-- `hostTime`. -/
  hostTime : UInt64
  /-- `arrivalTime`. -/
  arrivalTime : Option UInt64
  /-- How many writes had returned when it did. -/
  completed : Nat

/-- Both ends of the link. -/
structure SharedLink where
  /-- The memory they share. -/
  memory : LinkMemory := {}
  /-- The producer's `serial`. -/
  serial : UInt64 := 0
  /-- The producer's write. -/
  writer : Option LinkWriting := none
  /-- The consumer's `cursor`. -/
  cursor : UInt64 := 0
  /-- The consumer's read. -/
  reader : Option LinkReading := none
  /-- Every write that was accepted, oldest first. -/
  writes : List LinkFrame := []
  /-- How many of them returned. -/
  completed : Nat := 0
  /-- Every read that returned 1, oldest first. -/
  taken : List LinkTaken := []

/-- What happens next. -/
inductive LinkLabel where
  /-- The producer calls `PLANKCameraLinkWriteTimed`, with its pointers or without. -/
  | write (given : Bool) (frame : LinkFrame)
  /-- Its next store. -/
  | store
  /-- The consumer calls `PLANKCameraLinkReadTimed`, with its pointers or without. -/
  | read (given : Bool) (call : LinkCall)
  /-- Its next load. -/
  | load
  /-- Anything at all happens to the memory. -/
  | tamper (memory : LinkMemory)

namespace SharedLink

/-- One store of the write. -/
def storing (link : SharedLink) (writing : LinkWriting) : SharedLink :=
  { link with
    memory := writing.place.apply link.memory link.serial writing.frame
    writer := (writing.place.next writing.frame.size.toNat).map fun place => ⟨writing.frame, place⟩
    completed := if writing.place = .publish then link.completed + 1 else link.completed }

/-- The end of a read. -/
def answered (link : SharedLink) (call : LinkCall) (cursor : UInt64) :
    LinkAnswer → SharedLink
  | .frame record size hostTime arrivalTime =>
    { link with
      cursor
      reader := none
      taken := link.taken ++
        [⟨call, cursor, record, size, hostTime, arrivalTime, link.completed⟩] }
  | .empty | .gap => { link with cursor, reader := none }

/-- One load of the read. -/
def loading (link : SharedLink) (reading : LinkReading) : SharedLink :=
  match reading.turn link.cursor (link.memory.load reading.next reading.place) with
  | .goOn cursor reading => { link with cursor, reader := some reading }
  | .done cursor answer => link.answered reading.call cursor answer

/-- One step of either end, or of a hostile one. -/
def step (link : SharedLink) : LinkLabel → Option SharedLink
  | .write given frame =>
    match link.writer with
    | some _ => none
    | none =>
      if given && frame.accepted link.serial then
        some { link with
          serial := link.serial + 1
          writer := some ⟨frame, .begin⟩
          writes := link.writes ++ [frame] }
      else some link
  | .store => link.writer.map link.storing
  | .read given call =>
    match link.reader with
    | some _ => none
    | none => if given then some { link with reader := some { call } } else some link
  | .load => link.reader.map link.loading
  | .tamper memory => some { link with memory }

/-- Every interleaving, over memory that may change at any time. -/
def hostile : Transition.System SharedLink LinkLabel where
  initial link := ∃ cursor, link = { cursor }
  step := step

/-- Only the producer writes. -/
def honest (_ : SharedLink) : LinkLabel → Bool
  | .tamper _ => false
  | _ => true

/-- Every interleaving of one producer and one consumer. -/
def system : Transition.System SharedLink LinkLabel := hostile.restrict honest

end SharedLink

end Plank.Camera
