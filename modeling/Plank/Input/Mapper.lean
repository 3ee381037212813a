import Plank.Input.Event
import Plank.Program.Triple
import Plank.Transition.System

/-!
# The native input mapper

From input packets to Quartz events: `createType` makes the event of a key or mouse packet with the
state after it, `consumeType` hands the event to the sink and goes back to the state before when the
sink refuses it, `consumePen` makes a series of tablet events and keeps what each accepted one
changed, and `repeatAtTime` and `stopAndCopyReleaseEvents` are the repeat of a key and the release
of everything held.
-/

namespace Plank.Input

variable {Point : Type} (setup : Setup Point)

/-! ### Key and mouse packets -/

/-- The event and the state after a move of the mouse to an absolute position. -/
def absoluteMouse (state : InputState Point) (packet : Packet) :
    Except InputResult (Event Point × InputState Point) :=
  let x := packet.u16 0
  let y := packet.u16 2
  let mx := packet.u16 4
  let my := packet.u16 6
  if packet.payload.length ≠ 8 then .error .malformed
  else if mx = 0 ∨ my = 0 ∨ x > mx ∨ y > my then .error .malformed
  else
    let target := setup.absolute x y mx my
    let index := (List.finRange 5).find? state.buttons
    .ok (.mouse
      { kind := match index with
          | some index => dragType index
          | none => .mouseMoved
        index := index.getD 0
        number := index.map state.mouseEventNumber
        clicks := index.map state.clickCount
        origin := some state.position
        position := target
        flags := state.flags
        time := some packet.time },
      { state with position := target })

/-- The click count of a press: presses in quick succession and close to each other count up. -/
def pressClicks (state : InputState Point) (index : Fin 5) (time : UInt64) : Nat :=
  let clicks := state.clickCount index
  if clicks ≠ 0 ∧ time - state.clickTime index ≤ setup.doubleClick ∧
      setup.close state.position (state.clickPosition index) = true then min (clicks + 1) 3
  else 1

/-- The event and the state after a press of a mouse button. -/
def pressButton (state : InputState Point) (index : Fin 5) (time : UInt64) :
    Event Point × InputState Point :=
  let clicks := pressClicks setup state index time
  let number := nextMouseEventNumber state.nextMouseEventNumber
  (.mouse
    { kind := buttonType index true
      index := index
      number := some number
      clicks := some clicks
      origin := none
      position := state.position
      flags := state.flags
      time := some time },
    { state with
      buttons := Function.update state.buttons index true
      nextMouseEventNumber := number
      mouseEventNumber := Function.update state.mouseEventNumber index number
      clickTime := Function.update state.clickTime index time
      clickPosition := Function.update state.clickPosition index state.position
      clickCount := Function.update state.clickCount index clicks })

/-- The event and the state after a release of a mouse button. -/
def releaseButton (state : InputState Point) (index : Fin 5) (time : UInt64) :
    Event Point × InputState Point :=
  (.mouse
    { kind := buttonType index false
      index := index
      number := some (state.mouseEventNumber index)
      clicks := some (state.clickCount index)
      origin := none
      position := state.position
      flags := state.flags
      time := some time },
    { state with buttons := Function.update state.buttons index false })

/-- The event and the state after a press or release of a mouse button. -/
def mouseButton (state : InputState Point) (packet : Packet) :
    Except InputResult (Event Point × InputState Point) :=
  if packet.payload.length ≠ 2 ∨ packet.byte 0 < 1 ∨ packet.byte 0 > 5 ∨ packet.byte 1 > 1 then
    .error .malformed
  else
    let index := Fin.ofNat 5 ((packet.byte 0).toNat - 1)
    let down : Bool := packet.byte 1 = 1
    if state.buttons index = down then .error .noEvent
    else if down then .ok (pressButton setup state index packet.time)
    else .ok (releaseButton state index packet.time)

/-- The event of a turn of the wheel; the state stays. -/
def scroll (horizontal : Bool) (state : InputState Point) (packet : Packet) :
    Except InputResult (Event Point × InputState Point) :=
  if packet.payload.length ≠ 2 then .error .malformed
  else
    let amount : Int := packet.u16 0
    let amount := if amount ≥ 32768 then amount - 65536 else amount
    if amount = 0 then .error .noEvent
    else
      .ok (.scroll
        { horizontal := horizontal
          amount := amount
          position := state.position
          flags := state.flags
          time := packet.time }, state)

/-- The keys of the wire. -/
def allKeys : List UInt8 := (List.range 256).map UInt8.ofNat

/-- Some key of the modifier, other than the given one, is down. -/
def otherHeld (keys : UInt8 → Bool) (key : UInt8) (bit : Modifier) : Bool :=
  allKeys.any fun other => other ≠ key && keys other && modifier other = some bit

/-- The flags after a key went down or up, from the flags of its packet. -/
def keyFlags (state : InputState Point) (key : UInt8) (down : Bool) (wire : UInt8) : Flags :=
  let held := match modifier key with
    | some bit => Function.update (wireFlags wire) bit (down || otherHeld state.keys key bit)
    | none => wireFlags wire
  ⟨held, if key = capsLock ∧ down then !state.flags.alphaShift else state.flags.alphaShift⟩

/-- A key with no modifier, pressed anew, takes over the repeat. -/
def armRepeat (state : InputState Point) (key : UInt8) (packet : Packet) : InputState Point :=
  match packet.timing with
  | some timing =>
    if timing.valid ∧ packet.time ≤ 18446744073709551615 - 60000000000 then
      { state with
        repeatKey := key
        repeatInterval := timing.interval
        repeatDue := packet.time + timing.delay }
    else { state with repeatDue := 0 }
  | none => { state with repeatDue := 0 }

/-- A key whose event is of the kind for changed flags: it does not repeat. -/
def changesFlags (key : UInt8) : Bool := (modifier key).isSome || key = capsLock

/-- The state after a key went down that was up. -/
def pressKey (state : InputState Point) (key : UInt8) (packet : Packet) : InputState Point :=
  let state :=
    { state with
      keys := Function.update state.keys key true
      flags := keyFlags state key true (packet.byte 3) }
  if changesFlags key then state else armRepeat state key packet

/-- The state after a key went up. -/
def releaseKey (state : InputState Point) (key : UInt8) (packet : Packet) : InputState Point :=
  { state with
    keys := Function.update state.keys key false
    flags := keyFlags state key false (packet.byte 3)
    repeatDue := if key = state.repeatKey then 0 else state.repeatDue }

/-- The state after a key that is down repeated. -/
def repeatKey (state : InputState Point) (key : UInt8) (packet : Packet) : InputState Point :=
  { state with
    keys := Function.update state.keys key true
    flags := keyFlags state key true (packet.byte 3) }

/-- The event and the state after a press, repeat or release of a key. -/
def keyboard (state : InputState Point) (packet : Packet) :
    Except InputResult (Event Point × InputState Point) :=
  if packet.payload.length ≠ 5 ∨ packet.byte 2 > 1 ∨ packet.byte 3 &&& ~~~0x0f ≠ 0 ∨
      packet.byte 4 &&& ~~~1 ≠ 0 then .error .malformed
  else if packet.byte 0 &&& 0x7f ≠ 0 then .error .malformed
  else if packet.byte 4 ≠ 0 then .error .unsupported
  else
    let key := packet.byte 1
    let down : Bool := packet.byte 2 = 1
    let held := state.keys key
    if hasKeyCode key = false then .error .unsupported
    else if down = false ∧ held = false then .error .noEvent
    else if down ∧ held ∧ changesFlags key then .error .noEvent
    else
      let next :=
        if down = false then releaseKey state key packet
        else if held then repeatKey state key packet
        else pressKey state key packet
      .ok (.keyboard
        { key := key
          down := down
          autorepeat := down && held
          flagsChanged := changesFlags key
          flags := next.flags
          time := some packet.time }, next)

/-- The event of a packet, with the state after it but for its time. -/
def createEvent (state : InputState Point) (packet : Packet) :
    Except InputResult (Event Point × InputState Point) :=
  match packet.type with
  | 1 => absoluteMouse setup state packet
  | 2 => mouseButton setup state packet
  | 3 => scroll false state packet
  | 4 => scroll true state packet
  | 5 => keyboard state packet
  | _ => .error .unsupported

/-- The event of a packet, with the state after it. -/
def createType (state : InputState Point) (packet : Packet) :
    Except InputResult (Event Point × InputState Point) :=
  if state.stopped then .error .stopped
  else if packet.payload.length = 0 ∨ packet.payload.length > maxPayloadSize ∨
      packet.time < state.lastTime then .error .malformed
  else
    match createEvent setup state packet with
    | .ok (event, next) => .ok (event, { next with lastTime := packet.time })
    | .error result => .error result

/-- A mapper that can make no more events. -/
def Mapper.halt (mapper : Mapper Point) : Mapper Point :=
  { mapper with state := { mapper.state with stopped := true }, answers := mapper.answers.tail }

/-- Hand an event to the sink; the state after it stays where the sink takes it. -/
def Mapper.offer (mapper : Mapper Point) (made : Event Point × InputState Point) :
    InputResult × Mapper Point :=
  match mapper.answer with
  | .failed => (.stopped, mapper.halt)
  -- Nothing of the packet stays, so that no release is made for a press never delivered.
  | .denied => (.denied, { mapper with answers := mapper.answers.tail })
  | .accepted =>
    (.event,
      { mapper with
        state := made.2
        answers := mapper.answers.tail
        trace := mapper.trace ++ [made.1] })

/-- A key or mouse packet. -/
def consumeKeyOrMouse (mapper : Mapper Point) (packet : Packet) : InputResult × Mapper Point :=
  match createType setup mapper.state packet with
  | .error result => (result, mapper)
  | .ok made => mapper.offer made

/-- The event and the state after the key that repeats did so. -/
def repeatEvent (state : InputState Point) (time : UInt64) : Event Point × InputState Point :=
  (.keyboard
    { key := state.repeatKey
      down := true
      autorepeat := true
      flagsChanged := false
      flags := state.flags
      time := some time },
    { state with
      lastTime := time
      -- Never replay a backlog of repeats.
      repeatDue :=
        if time ≤ 18446744073709551615 - state.repeatInterval then time + state.repeatInterval
        else 0 })

/-- The repeat of a key that stays down. -/
def repeatAtTime (mapper : Mapper Point) (time : UInt64) : InputResult × Mapper Point :=
  if mapper.state.stopped then (.stopped, mapper)
  else if time < mapper.state.lastTime then (.malformed, mapper)
  else if mapper.state.repeatDue = 0 ∨ time < mapper.state.repeatDue then (.noEvent, mapper)
  else mapper.offer (repeatEvent mapper.state time)

/-! ### Pen packets -/

/-- The mask of a pen button. -/
def penBit (index : Fin 3) : BitVec 3 := BitVec.ofNat 3 (2 ^ index.val)

/-- The kind of a press or release of a pen button. -/
def penButtonKind (index : Fin 3) (down : Bool) : EventType :=
  if index = 0 then if down then .rightMouseDown else .rightMouseUp
  else if down then .otherMouseDown else .otherMouseUp

/-- The button number of a change of the pen buttons. -/
def penButtonNumber (changed : BitVec 3) : Nat :=
  if changed = 1 then 2 else if changed = 2 then 1 else 3

/-- Where the event number of a press is kept: of the tip, or of one of the buttons. -/
def penEventIndex (kind : EventType) (sideButtons : BitVec 3) : Option (Fin 4) :=
  match kind with
  | .leftMouseDown | .leftMouseDragged | .leftMouseUp => some 0
  | .rightMouseDown | .rightMouseDragged | .rightMouseUp => some 1
  | .otherMouseDown | .otherMouseDragged | .otherMouseUp =>
    some (if sideButtons &&& 2 ≠ 0 then 2 else 3)
  | .mouseMoved | .tabletProximity => none

/-- The tablet event of a pen, before its time and the numbers of its press are set. -/
def penEvent (flags : Flags) (pen : PenState Point) (kind : EventType) : PenEvent Point where
  kind := kind
  pen := pen
  button := match kind with
    | .rightMouseDragged | .rightMouseDown | .rightMouseUp => 1
    | .otherMouseDragged => if pen.buttons &&& 2 ≠ 0 then 2 else 3
    | _ => 0
  pointerType := if kind = .tabletProximity then some (if pen.tool = 2 then 3 else 1) else none
  buttonNumber := none
  number := none
  flags := flags
  time := none

/-- A program of the mapper: it may end early with the result of the packet. -/
abbrev Mapping (Point α : Type) := Program (Mapper Point) InputResult α

/-- Where the press of a tablet event is kept: of the tip or button that changed, or of one of
those that are down. -/
def pressIndex (stored next : PenState Point) (kind : EventType) : Option (Fin 4) :=
  let changed := next.buttons ^^^ stored.buttons
  penEventIndex kind (if changed ≠ 0 then changed else next.buttons)

/-- The event number of a tablet event that belongs to a press. -/
def pressNumber (state : InputState Point) (kind : EventType) (index : Fin 4) : Nat :=
  if kind.isDown then nextMouseEventNumber state.nextMouseEventNumber
  else state.penEventNumber index

/-- The tablet event for a change of the pen. -/
def changeEvent (mapper : Mapper Point) (next : PenState Point) (kind : EventType)
    (time : UInt64) : PenEvent Point :=
  let changed := next.buttons ^^^ mapper.pen.buttons
  { penEvent mapper.state.flags next kind with
    time := some time
    buttonNumber := if changed ≠ 0 then some (penButtonNumber changed) else none
    number := (pressIndex mapper.pen next kind).map (pressNumber mapper.state kind) }

/-- The state after a change of the pen. -/
def changeState (mapper : Mapper Point) (next : PenState Point) (kind : EventType)
    (time : UInt64) : InputState Point :=
  let state := { mapper.state with position := next.position, lastTime := time }
  match pressIndex mapper.pen next kind with
  | some index =>
    if kind.isDown then
      let number := pressNumber mapper.state kind index
      { state with
        nextMouseEventNumber := number
        penEventNumber := Function.update state.penEventNumber index number }
    else state
  | none => state

/-- Deliver one tablet event, and keep the pen it was made from where it is accepted. -/
def deliverPen (next : PenState Point) (kind : EventType) (time : UInt64) : Mapping Point Bool :=
  fun mapper =>
    match mapper.answer with
    | .failed => (.ok false, mapper.halt)
    | .denied => (.ok false, { mapper with answers := mapper.answers.tail })
    | .accepted =>
      (.ok true,
        { state := changeState mapper next kind time
          pen := next
          answers := mapper.answers.tail
          trace := mapper.trace ++ [.pen (changeEvent mapper next kind time)] })

/-- Deliver one tablet event; the packet ends where it was not delivered. -/
def deliverOrEnd (next : PenState Point) (kind : EventType) (time : UInt64) :
    Mapping Point Unit := do
  let delivered ← deliverPen next kind time
  if delivered then pure ()
  else
    let mapper ← Program.read
    Program.stop (if mapper.state.stopped then .stopped else .denied)

/-- The bits of a 32-bit floating-point number from 0 to 1. -/
def unitFloat (bits : UInt32) : Bool := bits ≤ 0x3f800000 || bits = 0x80000000

/-- The packet takes the pen away. -/
def leaving (packet : Packet) : Bool :=
  packet.byte 0 = 4 || packet.byte 0 = 6 || packet.byte 0 = 7

/-- A pen payload is well formed. -/
def penWellFormed (packet : Packet) : Bool :=
  packet.byte 0 ≤ 7 && packet.byte 6 = 0 && packet.byte 7 = 0 && packet.u32 28 = 0 &&
    (leaving packet ||
      (1 ≤ packet.byte 1 && packet.byte 1 ≤ 2 && packet.byte 2 &&& ~~~7 = 0 &&
        (packet.byte 0 = 5 ||
          (unitFloat (packet.u32 8) && unitFloat (packet.u32 12) && unitFloat (packet.u32 16) &&
            unitFloat (packet.u32 20) && unitFloat (packet.u32 24) &&
            (packet.byte 3 ≤ 90 || packet.byte 3 = 255) &&
            (packet.u16 4 ≤ 359 || packet.u16 4 = 65535)))))

/-- Release one button of the pen, if it is down. -/
def releasePenButton (time : UInt64) (index : Fin 3) (next : PenState Point) :
    Mapping Point (PenState Point) :=
  if next.buttons &&& penBit index ≠ 0 then do
    let next := { next with buttons := next.buttons &&& ~~~penBit index }
    deliverOrEnd next (penButtonKind index false) time
    pure next
  else pure next

/-- Release the tip of the pen, if it is down. -/
def releaseTip (time : UInt64) (next : PenState Point) : Mapping Point (PenState Point) :=
  if next.down then do
    let next := { next with down := false, pressure := 0, buttons := 0 }
    deliverOrEnd next .leftMouseUp time
    pure next
  else pure next

/-- Take the pen away from the tablet, if it is near. -/
def leaveProximity (time : UInt64) (next : PenState Point) : Mapping Point (PenState Point) :=
  if next.near then do
    let next := { next with near := false, buttons := 0 }
    deliverOrEnd next .tabletProximity time
    pure next
  else pure next

/-- Release what the pen holds and take it away. -/
def releasePen (time : UInt64) (pen : PenState Point) : Mapping Point (PenState Point) := do
  let next ← Program.forEach (releasePenButton time) (List.finRange 3) pen
  let next ← releaseTip time next
  leaveProximity time next

/-- Bring the pen of a packet near the tablet, if it is not. -/
def enterProximity (time : UInt64) (tool : UInt8) (next : PenState Point) :
    Mapping Point (PenState Point) :=
  if next.near then pure next
  else do
    let count := if next.tool ≠ tool then 0 else next.clickCount
    let next :=
      { next with
        clickCount := count
        near := true
        tool := tool
        down := false
        pressure := 0
        buttons := 0 }
    deliverOrEnd next .tabletProximity time
    pure next

/-- The pen after its tip went down or up, or stayed as it was. -/
def movePen (packet : Packet) (stored next : PenState Point) : PenState Point :=
  let down : Bool := packet.byte 0 = 1 || packet.byte 0 = 3
  let next := { next with down := down, pressure := if down then packet.u32 16 else 0 }
  if next.down ∧ !stored.down then
    { next with
      clickCount :=
        if next.clickCount ≠ 0 ∧ packet.time - next.clickTime ≤ setup.doubleClick ∧
            setup.close next.position next.clickPosition = true then min (next.clickCount + 1) 3
        else 1
      clickTime := packet.time
      clickPosition := next.position }
  else next

/-- The kind of the event of a pen that moved. -/
def moveKind (stored next : PenState Point) : EventType :=
  if next.down ≠ stored.down then if next.down then .leftMouseDown else .leftMouseUp
  else if next.down then .leftMouseDragged
  else if next.buttons ≠ 0 then
    if next.buttons &&& 1 ≠ 0 then .rightMouseDragged else .otherMouseDragged
  else .mouseMoved

/-- Press or release one button of the pen, if the packet changes it. -/
def changePenButton (packet : Packet) (index : Fin 3) (next : PenState Point) :
    Mapping Point (PenState Point) :=
  if (next.buttons ^^^ BitVec.ofNat 3 (packet.byte 2).toNat) &&& penBit index ≠ 0 then do
    let next := { next with buttons := next.buttons ^^^ penBit index }
    deliverOrEnd next (penButtonKind index (next.buttons &&& penBit index ≠ 0)) packet.time
    pure next
  else pure next

/-- The part of a pen packet that the pen of the packet is near for. -/
def placePen (packet : Packet) : Mapping Point InputResult := do
  let mapper ← Program.read
  let next := mapper.pen
  let hovering : Bool := packet.byte 0 = 5
  let next :=
    if hovering then next
    else { next with position := setup.normalized (packet.u32 8) (packet.u32 12) }
  let next ← enterProximity packet.time (packet.byte 1) next
  let mapper ← Program.read
  if hovering then do
    let last ← Program.forEach (changePenButton packet) (List.finRange 3) next
    pure (if last.buttons ≠ next.buttons then .event else .noEvent)
  else do
    let next := movePen setup packet mapper.pen next
    deliverOrEnd next (moveKind mapper.pen next) packet.time
    let _ ← Program.forEach (changePenButton packet) (List.finRange 3) next
    pure .event

/-- A pen packet. -/
def consumePen (packet : Packet) : Mapping Point InputResult := do
  let mapper ← Program.read
  if mapper.state.stopped then Program.stop .stopped
  else if packet.payload.length ≠ penSize ∨ packet.time < mapper.state.lastTime then
    Program.stop .malformed
  else if penWellFormed packet = false then Program.stop .malformed
  else if leaving packet then do
    let _ ← releasePen packet.time mapper.pen
    pure (if mapper.pen.buttons ≠ 0 ∨ mapper.pen.down ∨ mapper.pen.near then .event else .noEvent)
  else do
    if mapper.pen.near ∧ mapper.pen.tool ≠ packet.byte 1 then
      let _ ← releasePen packet.time mapper.pen
    let released ← Program.read
    if packet.byte 0 = 5 ∧ !released.pen.near then pure .noEvent
    else placePen setup packet

/-- The result of a program of the mapper, and the mapper after it. -/
def Mapping.result (program : Mapping Point InputResult) (mapper : Mapper Point) :
    InputResult × Mapper Point :=
  match program mapper with
  | (.ok result, after) => (result, after)
  | (.error result, after) => (result, after)

/-- A packet. -/
def consumeType (mapper : Mapper Point) (packet : Packet) : InputResult × Mapper Point :=
  if packet.type = 7 then Mapping.result (consumePen setup packet) mapper
  else consumeKeyOrMouse setup mapper packet

/-! ### The release of everything held -/

/-- The events with one more, if it can be constructed; what it releases is held no more in either
case. -/
def construct (event : Event Point) (events : List (Event Point)) (released : Mapper Point) :
    Except InputResult (List (Event Point)) × Mapper Point :=
  (.ok (if released.answer = .failed then events else events ++ [event]),
    { released with answers := released.answers.tail })

/-- The release of a pen button, if it is down. -/
def stopPenButton (index : Fin 3) (events : List (Event Point)) :
    Mapping Point (List (Event Point)) := fun mapper =>
  if mapper.pen.buttons &&& penBit index ≠ 0 then
    let pen := { mapper.pen with buttons := mapper.pen.buttons &&& ~~~penBit index }
    let kind := penButtonKind index false
    let event : PenEvent Point :=
      { penEvent mapper.state.flags pen kind with
        buttonNumber := some (penButtonNumber (penBit index))
        number := (penEventIndex kind (penBit index)).map mapper.state.penEventNumber }
    construct (.pen event) events { mapper with pen := pen }
  else (.ok events, mapper)

/-- The release of the tip of the pen, if it is down. -/
def stopTip (events : List (Event Point)) : Mapping Point (List (Event Point)) := fun mapper =>
  if mapper.pen.down then
    let pen := { mapper.pen with down := false, pressure := 0, buttons := 0 }
    let event : PenEvent Point :=
      { penEvent mapper.state.flags pen .leftMouseUp with
        number := some (mapper.state.penEventNumber 0) }
    construct (.pen event) events { mapper with pen := pen }
  else (.ok events, mapper)

/-- The end of the proximity of the pen, if it is near. -/
def stopProximity (events : List (Event Point)) : Mapping Point (List (Event Point)) :=
  fun mapper =>
    if mapper.pen.near then
      let pen := { mapper.pen with near := false, buttons := 0 }
      construct (.pen (penEvent mapper.state.flags pen .tabletProximity)) events
        { mapper with pen := pen }
    else (.ok events, mapper)

/-- The flags after a key was released by the stop. -/
def stopFlags (state : InputState Point) (key : UInt8) : Flags :=
  match modifier key with
  | some bit =>
    if otherHeld state.keys key bit then state.flags
    else { state.flags with held := Function.update state.flags.held bit false }
  | none => state.flags

/-- The state after a key was released by the stop. -/
def stopKeyState (state : InputState Point) (key : UInt8) : InputState Point :=
  { state with
    keys := Function.update state.keys key false
    flags := stopFlags state key }

/-- The release of a key, if it is down. -/
def stopKey (key : UInt8) (events : List (Event Point)) : Mapping Point (List (Event Point)) :=
  fun mapper =>
    if mapper.state.keys key then
      let state := stopKeyState mapper.state key
      let event : KeyEvent :=
        { key := key
          down := false
          autorepeat := false
          flagsChanged := changesFlags key
          flags := state.flags
          time := none }
      construct (.keyboard event) events { mapper with state := state }
    else (.ok events, mapper)

/-- The release of a mouse button, if it is down. -/
def stopButton (index : Fin 5) (events : List (Event Point)) :
    Mapping Point (List (Event Point)) := fun mapper =>
  if mapper.state.buttons index then
    let event : MouseEvent Point :=
      { kind := buttonType index false
        index := index
        number := some (mapper.state.mouseEventNumber index)
        clicks := some (mapper.state.clickCount index)
        origin := none
        position := mapper.state.position
        flags := mapper.state.flags
        time := none }
    let buttons := Function.update mapper.state.buttons index false
    construct (.mouse event) events { mapper with state := { mapper.state with buttons := buttons } }
  else (.ok events, mapper)

/-- Stop, with a release of everything held. -/
def stopAndCopyReleaseEvents : Mapping Point (List (Event Point)) := do
  Program.modify fun mapper =>
    { mapper with state := { mapper.state with stopped := true, repeatDue := 0 } }
  let events ← Program.forEach stopPenButton (List.finRange 3) []
  let events ← stopTip events
  let events ← stopProximity events
  let events ← Program.forEach stopKey allKeys events
  Program.modify fun mapper =>
    { mapper with
      state :=
        { mapper.state with flags := { mapper.state.flags with held := fun _ => false } } }
  Program.forEach stopButton (List.finRange 5) events

/-! ### Runs -/

/-- A packet, or a tick of the key repeat. -/
inductive Arrival where
  /-- A packet. -/
  | packet (packet : Packet)
  /-- A tick. -/
  | tick (time : UInt64)

/-- One packet or tick. -/
def consume (mapper : Mapper Point) : Arrival → InputResult × Mapper Point
  | .packet packet => consumeType setup mapper packet
  | .tick time => repeatAtTime mapper time

/-- The mapper from its start, through packets and ticks in any order. -/
def system : Transition.System (Mapper Point) Arrival where
  initial mapper := ∃ answers, mapper = start setup answers
  step mapper arrival := some (consume setup mapper arrival).2

end Plank.Input
