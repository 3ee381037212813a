import Mathlib

/-!
# Input packets and the events made of them

The constants, the packets and the Quartz events of the native input mapper, and the state it keeps
between packets. A point on the screen is of any type: the mapper only passes points on, and asks
whether two of them are close. A key is named by its 8-bit identity on the wire.
-/

namespace Plank.Input

/-- There are pen buttons. -/
scoped instance penButtons_neZero : NeZero 3 := ⟨by decide⟩

/-- There are pen events. -/
scoped instance penEvents_neZero : NeZero 4 := ⟨by decide⟩

/-- There are mouse buttons. -/
scoped instance mouseButtons_neZero : NeZero 5 := ⟨by decide⟩

/-- Longest payload of a packet. -/
def maxPayloadSize : Nat := 8192

/-- Bytes of a pen payload. -/
def penSize : Nat := 32

/-- Identity of the Caps Lock key. -/
def capsLock : UInt8 := 0x14

/-- The keys that have a code on this machine. -/
def hasKeyCode (key : UInt8) : Bool :=
  (0x41 ≤ key && key ≤ 0x5a) || (0x30 ≤ key && key ≤ 0x39) || (0x60 ≤ key && key ≤ 0x69) ||
    (0x70 ≤ key && key ≤ 0x83) ||
    [0x08, 0x09, 0x0c, 0x0d, 0x14, 0x1b, 0x20, 0x21, 0x22, 0x23, 0x24, 0x25, 0x26, 0x27, 0x28, 0x2e,
      0x2f, 0x5b, 0x5c, 0x6a, 0x6b, 0x6d, 0x6e, 0x6f, 0xa0, 0xa1, 0xa2, 0xa3, 0xa4, 0xa5, 0xba, 0xbb,
      0xbc, 0xbd, 0xbe, 0xbf, 0xc0, 0xdb, 0xdc, 0xdd, 0xde, 0xe2].contains key

/-- A modifier key's mask. -/
inductive Modifier where
  /-- Shift. -/
  | shift
  /-- Control. -/
  | control
  /-- Option. -/
  | alternate
  /-- Command. -/
  | command
  deriving DecidableEq, Repr

/-- The mask of a modifier key. -/
def modifier (key : UInt8) : Option Modifier :=
  if key = 0xa0 ∨ key = 0xa1 then some .shift
  else if key = 0xa2 ∨ key = 0xa3 then some .control
  else if key = 0xa4 ∨ key = 0xa5 then some .alternate
  else if key = 0x5b ∨ key = 0x5c then some .command
  else none

/-- The flags of an event. -/
structure Flags where
  /-- The modifiers that are down. -/
  held : Modifier → Bool
  /-- The Caps Lock latch. -/
  alphaShift : Bool

/-- The modifiers a packet carries. -/
def wireFlags (value : UInt8) : Modifier → Bool
  | .shift => value &&& 1 ≠ 0
  | .control => value &&& 2 ≠ 0
  | .alternate => value &&& 4 ≠ 0
  | .command => value &&& 8 ≠ 0

/-- What became of a packet. -/
inductive InputResult where
  /-- An event was delivered. -/
  | event
  /-- The packet changes nothing. -/
  | noEvent
  /-- The packet is of a kind, or names a key, that has no event here. -/
  | unsupported
  /-- The packet is not well formed. -/
  | malformed
  /-- The mapper has stopped. -/
  | stopped
  /-- The sink refused the event. -/
  | denied
  deriving DecidableEq, Repr

/-- What becomes of an event that is about to be made. -/
inductive Answer where
  /-- It cannot be constructed. -/
  | failed
  /-- The sink refuses it. -/
  | denied
  /-- The sink takes it. -/
  | accepted
  deriving DecidableEq, Repr

/-- The kinds of mouse and tablet events. -/
inductive EventType where
  | mouseMoved
  | leftMouseDown
  | leftMouseUp
  | leftMouseDragged
  | rightMouseDown
  | rightMouseUp
  | rightMouseDragged
  | otherMouseDown
  | otherMouseUp
  | otherMouseDragged
  | tabletProximity
  deriving DecidableEq, Repr

/-- A button goes down with an event of this kind. -/
def EventType.isDown : EventType → Bool
  | .leftMouseDown | .rightMouseDown | .otherMouseDown => true
  | _ => false

/-- A button goes up with an event of this kind. -/
def EventType.isUp : EventType → Bool
  | .leftMouseUp | .rightMouseUp | .otherMouseUp => true
  | _ => false

/-- The mouse moves while a button is down. -/
def EventType.isDragged : EventType → Bool
  | .leftMouseDragged | .rightMouseDragged | .otherMouseDragged => true
  | _ => false

/-- The kind of a press or release of a mouse button. -/
def buttonType (index : Fin 5) (down : Bool) : EventType :=
  if index = 0 then if down then .leftMouseDown else .leftMouseUp
  else if index = 2 then if down then .rightMouseDown else .rightMouseUp
  else if down then .otherMouseDown else .otherMouseUp

/-- The kind of a move while a mouse button is down. -/
def dragType (index : Fin 5) : EventType :=
  if index = 0 then .leftMouseDragged
  else if index = 2 then .rightMouseDragged
  else .otherMouseDragged

/-- The number after an event number. -/
def nextMouseEventNumber (number : Nat) : Nat := if number = 2 ^ 63 - 1 then 1 else number + 1

/-- A keyboard event. -/
structure KeyEvent where
  /-- The key. -/
  key : UInt8
  /-- The key goes down, or stays down and repeats. -/
  down : Bool
  /-- The key was down already. -/
  autorepeat : Bool
  /-- The event is of the kind for changed flags. -/
  flagsChanged : Bool
  /-- The flags it carries. -/
  flags : Flags
  /-- Its time, where it has one. -/
  time : Option UInt64

/-- A mouse event. -/
structure MouseEvent (Point : Type) where
  /-- Its kind. -/
  kind : EventType
  /-- The button. -/
  index : Fin 5
  /-- The event number, where the event belongs to a press. -/
  number : Option Nat
  /-- The click count, where the event belongs to a press. -/
  clicks : Option Nat
  /-- The position before, where the event carries the way from there. -/
  origin : Option Point
  /-- The position. -/
  position : Point
  /-- The flags it carries. -/
  flags : Flags
  /-- Its time, where it has one. -/
  time : Option UInt64

/-- A scroll event. -/
structure ScrollEvent (Point : Type) where
  /-- It scrolls sideways. -/
  horizontal : Bool
  /-- How far, in 120ths of a notch. -/
  amount : Int
  /-- The position. -/
  position : Point
  /-- The flags it carries. -/
  flags : Flags
  /-- Its time. -/
  time : UInt64

/-- The pen as the mapper knows it. -/
structure PenState (Point : Type) where
  /-- The position. -/
  position : Point
  /-- The pen is near the tablet. -/
  near : Bool
  /-- The tip is down. -/
  down : Bool
  /-- The tool: 1 is the pen, 2 the eraser. -/
  tool : UInt8
  /-- The buttons that are down. -/
  buttons : BitVec 3
  /-- The pressure, as the bits of its number. -/
  pressure : UInt32
  /-- The time of the last click. -/
  clickTime : UInt64
  /-- The position of the last click. -/
  clickPosition : Point
  /-- The count of that click. -/
  clickCount : Nat

/-- A tablet event. -/
structure PenEvent (Point : Type) where
  /-- Its kind. -/
  kind : EventType
  /-- The pen it was made from. -/
  pen : PenState Point
  /-- The button it was made with. -/
  button : Nat
  /-- The pointer type, of an event of proximity. -/
  pointerType : Option Nat
  /-- The button number, where a button changed. -/
  buttonNumber : Option Nat
  /-- The event number, where the event belongs to a press. -/
  number : Option Nat
  /-- The flags it carries. -/
  flags : Flags
  /-- Its time, where it has one. -/
  time : Option UInt64

/-- An event. -/
inductive Event (Point : Type) where
  /-- A keyboard event. -/
  | keyboard (event : KeyEvent)
  /-- A mouse event. -/
  | mouse (event : MouseEvent Point)
  /-- A scroll event. -/
  | scroll (event : ScrollEvent Point)
  /-- A tablet event. -/
  | pen (event : PenEvent Point)

/-- When a key that stays down repeats, in nanoseconds. -/
structure KeyRepeatTiming where
  /-- Before the first repeat. -/
  delay : UInt64
  /-- Between repeats. -/
  interval : UInt64

/-- A timing that may be used. -/
def KeyRepeatTiming.valid (timing : KeyRepeatTiming) : Bool :=
  timing.delay ≤ 60000000000 && 1000000 ≤ timing.interval && timing.interval ≤ 60000000000

/-- A packet, with the time it arrives at and the key repeat timing read then, if it is finite. -/
structure Packet where
  /-- The type. -/
  type : UInt8
  /-- The payload. -/
  payload : List UInt8
  /-- The time on the owner's clock. -/
  time : UInt64
  /-- The key repeat timing. -/
  timing : Option KeyRepeatTiming

/-- The byte at an offset. -/
def Packet.byte (packet : Packet) (offset : Nat) : UInt8 := packet.payload.getD offset 0

/-- The 16-bit number at an offset. -/
def Packet.u16 (packet : Packet) (offset : Nat) : Nat :=
  (packet.byte offset).toNat * 256 + (packet.byte (offset + 1)).toNat

/-- The 32-bit number at an offset. -/
def Packet.u32 (packet : Packet) (offset : Nat) : UInt32 :=
  ((packet.byte offset).toUInt32 <<< 24) ||| ((packet.byte (offset + 1)).toUInt32 <<< 16) |||
    ((packet.byte (offset + 2)).toUInt32 <<< 8) ||| (packet.byte (offset + 3)).toUInt32

/-- What the mapper keeps between packets. -/
structure InputState (Point : Type) where
  /-- The position of the mouse. -/
  position : Point
  /-- The keys that are down. -/
  keys : UInt8 → Bool
  /-- The mouse buttons that are down. -/
  buttons : Fin 5 → Bool
  /-- No more packets are taken. -/
  stopped : Bool
  /-- The flags. -/
  flags : Flags
  /-- The time of the last event. -/
  lastTime : UInt64
  /-- When each button was last pressed. -/
  clickTime : Fin 5 → UInt64
  /-- Where each button was last pressed. -/
  clickPosition : Fin 5 → Point
  /-- The count of that click. -/
  clickCount : Fin 5 → Nat
  /-- The last event number given to a press. -/
  nextMouseEventNumber : Nat
  /-- The event number of the last press of each button. -/
  mouseEventNumber : Fin 5 → Nat
  /-- The event number of the last press of the tip and of each pen button. -/
  penEventNumber : Fin 4 → Nat
  /-- The key that repeats. -/
  repeatKey : UInt8
  /-- When it repeats next; zero where no key repeats. -/
  repeatDue : UInt64
  /-- The time between repeats. -/
  repeatInterval : UInt64

/-- How the mapper was set up: its initial state, and the geometry of the screen. -/
structure Setup (Point : Type) where
  /-- The initial position. -/
  position : Point
  /-- The origin of the coordinates, where unset positions lie. -/
  zero : Point
  /-- The Caps Lock latch at the start. -/
  alphaShift : Bool
  /-- The longest time between the presses of a double click. -/
  doubleClick : UInt64
  /-- The point of an absolute position, given with its maximum. -/
  absolute : Nat → Nat → Nat → Nat → Point
  /-- The point of a pen position, each coordinate from 0 to 1 and given by the bits of its
  number. -/
  normalized : UInt32 → UInt32 → Point
  /-- Two points are close enough for a double click. -/
  close : Point → Point → Bool

/-- The mapper with the events it has delivered, and with the answers that are still to come: an
event past the last answer is accepted. -/
structure Mapper (Point : Type) where
  /-- The state of keys and mouse. -/
  state : InputState Point
  /-- The state of the pen. -/
  pen : PenState Point
  /-- The answers to come. -/
  answers : List Answer
  /-- The events delivered, in order. -/
  trace : List (Event Point)

/-- The answer to the next event. -/
def Mapper.answer {Point : Type} (mapper : Mapper Point) : Answer :=
  mapper.answers.headD .accepted

variable {Point : Type}

/-- The mapper before its first packet. -/
def start (setup : Setup Point) (answers : List Answer) : Mapper Point where
  state :=
    { position := setup.position
      keys := fun _ => false
      buttons := fun _ => false
      stopped := false
      flags := ⟨fun _ => false, setup.alphaShift⟩
      lastTime := 0
      clickTime := fun _ => 0
      clickPosition := fun _ => setup.zero
      clickCount := fun _ => 0
      nextMouseEventNumber := 0
      mouseEventNumber := fun _ => 0
      penEventNumber := fun _ => 0
      repeatKey := 0
      repeatDue := 0
      repeatInterval := 0 }
  pen :=
    { position := setup.zero
      near := false
      down := false
      tool := 0
      buttons := 0
      pressure := 0
      clickTime := 0
      clickPosition := setup.zero
      clickCount := 0 }
  answers := answers
  trace := []

end Plank.Input
