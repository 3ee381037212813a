import Plank.Input.Mapper
import Plank.Trace.Press

/-!
# Keys and mouse buttons held

What the events delivered so far hold down is what the mapper has stored: each event made moves the
one as it moves the other, and a refused event moves neither. From this the presses and releases of
each key and of each button alternate, and the stop releases each held one once.
-/

namespace Plank.Input

open Trace

variable {Point : Type} {setup : Setup Point}

/-- The keys a state holds. -/
def heldKeys (state : InputState Point) : Press.Held UInt8 Unit := fun key =>
  if state.keys key then some () else none

/-- The mouse buttons a state holds, each with the event number of its press. -/
def heldButtons (state : InputState Point) : Press.Held (Fin 5) Nat := fun index =>
  if state.buttons index then some (state.mouseEventNumber index) else none

/-- The press or release of a key; a repeat is neither. -/
def keyPress : Event Point → Option (Press UInt8 Unit)
  | .keyboard event =>
    if event.down then if event.autorepeat then none else some (.down event.key ())
    else some (.up event.key ())
  | _ => none

/-- The press, drag or release of a mouse button. -/
def buttonPress : Event Point → Option (Press (Fin 5) Nat)
  | .mouse event =>
    if event.kind.isDown then some (.down event.index (event.number.getD 0))
    else if event.kind.isUp then some (.up event.index (event.number.getD 0))
    else if event.kind.isDragged then some (.hold event.index (event.number.getD 0))
    else none
  | _ => none

/-- A repeat belongs to a key that is down. -/
def Armed (state : InputState Point) : Prop :=
  state.repeatDue ≠ 0 → state.keys state.repeatKey = true

/-- What an event does to the held keys and buttons is what the state after it says. -/
structure Effect (event : Event Point) (before after : InputState Point) : Prop where
  /-- The keys move as the event says. -/
  keys : Press.Moves (keyPress event) (heldKeys before) (heldKeys after)
  /-- The buttons move as the event says. -/
  buttons : Press.Moves (buttonPress event) (heldButtons before) (heldButtons after)
  /-- A repeat still belongs to a key that is down. -/
  armed : Armed before → Armed after

/-! ### One packet -/

/-- The kind of a press or release of a button tells which it is. -/
theorem buttonType_isDown (index : Fin 5) (down : Bool) :
    (buttonType index down).isDown = down ∧ (buttonType index down).isUp = !down := by
  cases down <;> decide +revert

/-- The kind of a drag is neither a press nor a release. -/
theorem dragType_isDragged (index : Fin 5) : (dragType index).isDown = false ∧
    (dragType index).isUp = false ∧ (dragType index).isDragged = true := by
  decide +revert

/-- A button that goes down is held with its number. -/
theorem heldButtons_down {before after : InputState Point} {index : Fin 5} {number : Nat}
    (buttons : after.buttons = Function.update before.buttons index true)
    (numbers : after.mouseEventNumber = Function.update before.mouseEventNumber index number) :
    heldButtons after = Function.update (heldButtons before) index (some number) := by
  funext other
  by_cases same : other = index
  · subst same
    simp [heldButtons, buttons, numbers]
  · simp [heldButtons, buttons, numbers, same]

/-- A button that goes up is held no more. -/
theorem heldButtons_up {before after : InputState Point} {index : Fin 5}
    (buttons : after.buttons = Function.update before.buttons index false)
    (numbers : after.mouseEventNumber = before.mouseEventNumber) :
    heldButtons after = Function.update (heldButtons before) index none := by
  funext other
  by_cases same : other = index
  · subst same
    simp [heldButtons, buttons]
  · simp [heldButtons, buttons, numbers, same]

/-- A key that goes down is held. -/
theorem heldKeys_down {before after : InputState Point} {key : UInt8}
    (keys : after.keys = Function.update before.keys key true) :
    heldKeys after = Function.update (heldKeys before) key (some ()) := by
  funext other
  by_cases same : other = key
  · subst same
    simp [heldKeys, keys]
  · simp [heldKeys, keys, same]

/-- A key that goes up is held no more. -/
theorem heldKeys_up {before after : InputState Point} {key : UInt8}
    (keys : after.keys = Function.update before.keys key false) :
    heldKeys after = Function.update (heldKeys before) key none := by
  funext other
  by_cases same : other = key
  · subst same
    simp [heldKeys, keys]
  · simp [heldKeys, keys, same]

/-- A move keeps what is held, and a drag belongs to a button that is down. -/
theorem absoluteMouse_effect {state next : InputState Point} {packet : Packet}
    {event : Event Point} (made : absoluteMouse setup state packet = .ok (event, next)) :
    Effect event state next := by
  unfold absoluteMouse at made
  simp only at made
  split_ifs at made
  obtain ⟨rfl, rfl⟩ := Prod.mk.inj (Except.ok.inj made)
  refine ⟨.rest, ?_, id⟩
  cases found : (List.finRange 5).find? state.buttons with
  | none => exact .rest
  | some index =>
    obtain ⟨notDown, notUp, dragged⟩ := dragType_isDragged index
    have down : heldButtons state index = some (state.mouseEventNumber index) :=
      if_pos (List.find?_some found)
    simp only [buttonPress, notDown, notUp, dragged]
    exact .of_step (Press.step_hold down)

/-- A press of a mouse button that is up. -/
theorem pressButton_effect {state : InputState Point} {index : Fin 5} (time : UInt64)
    (free : state.buttons index = false) :
    Effect (pressButton setup state index time).1 state (pressButton setup state index time).2 := by
  refine ⟨.rest, ?_, id⟩
  have up : heldButtons state index = none := by simp [heldButtons, free]
  have next : heldButtons (pressButton setup state index time).2 = _ := heldButtons_down rfl rfl
  rw [next]
  simp only [pressButton, buttonPress, (buttonType_isDown index true).1]
  exact .of_step (Press.step_down up _)

/-- A release of a mouse button that is down. -/
theorem releaseButton_effect {state : InputState Point} {index : Fin 5} (time : UInt64)
    (held : state.buttons index = true) :
    Effect (releaseButton state index time).1 state (releaseButton state index time).2 := by
  refine ⟨.rest, ?_, id⟩
  have down : heldButtons state index = some (state.mouseEventNumber index) := if_pos held
  have next : heldButtons (releaseButton state index time).2 = _ := heldButtons_up rfl rfl
  rw [next]
  obtain ⟨notDown, up⟩ := buttonType_isDown index false
  simp only [releaseButton, buttonPress, notDown, up]
  exact .of_step (Press.step_up down)

/-- A press or release of a mouse button. -/
theorem mouseButton_effect {state next : InputState Point} {packet : Packet}
    {event : Event Point} (made : mouseButton setup state packet = .ok (event, next)) :
    Effect event state next := by
  unfold mouseButton at made
  simp only at made
  split_ifs at made with malformed same down
  · have free := Bool.eq_false_of_not_eq_true (down ▸ same)
    obtain ⟨rfl, rfl⟩ := Prod.mk.inj (Except.ok.inj made)
    exact pressButton_effect packet.time free
  · have held : state.buttons (Fin.ofNat 5 ((packet.byte 0).toNat - 1)) = true := by
      simpa [Bool.eq_false_of_not_eq_true down] using same
    obtain ⟨rfl, rfl⟩ := Prod.mk.inj (Except.ok.inj made)
    exact releaseButton_effect packet.time held

/-- A turn of the wheel holds nothing. -/
theorem scroll_effect {state next : InputState Point} {horizontal : Bool} {packet : Packet}
    {event : Event Point} (made : scroll horizontal state packet = .ok (event, next)) :
    Effect event state next := by
  unfold scroll at made
  simp only at made
  split_ifs at made
  all_goals
    obtain ⟨rfl, rfl⟩ := Prod.mk.inj (Except.ok.inj made)
    exact ⟨.rest, .rest, id⟩

/-- Taking over the repeat changes no key and no button. -/
theorem armRepeat_held (state : InputState Point) (key : UInt8) (packet : Packet) :
    (armRepeat state key packet).keys = state.keys ∧
      heldButtons (armRepeat state key packet) = heldButtons state := by
  unfold armRepeat
  split
  · split <;> exact ⟨rfl, rfl⟩
  · exact ⟨rfl, rfl⟩

/-- A key that takes over the repeat is down. -/
theorem armRepeat_armed {state : InputState Point} {key : UInt8} (packet : Packet)
    (down : state.keys key = true) : Armed (armRepeat state key packet) := by
  unfold armRepeat
  split
  · split
    · exact fun _ => down
    · exact fun due => absurd rfl due
  · exact fun due => absurd rfl due

/-- A key that goes down is held. -/
theorem pressKey_held (state : InputState Point) (key : UInt8) (packet : Packet) :
    heldKeys (pressKey state key packet) = Function.update (heldKeys state) key (some ()) ∧
      heldButtons (pressKey state key packet) = heldButtons state := by
  unfold pressKey
  simp only
  split
  · exact ⟨heldKeys_down rfl, rfl⟩
  · obtain ⟨keys, buttons⟩ := armRepeat_held
      { state with
        keys := Function.update state.keys key true
        flags := keyFlags state key true (packet.byte 3) } key packet
    exact ⟨heldKeys_down keys, buttons⟩

/-- After a key went down the key that repeats is down. -/
theorem pressKey_armed {state : InputState Point} (key : UInt8) (packet : Packet)
    (armed : Armed state) : Armed (pressKey state key packet) := by
  unfold pressKey
  simp only
  split
  · intro due
    have down := armed due
    by_cases same : state.repeatKey = key
    · simp [same]
    · simpa [same] using down
  · exact armRepeat_armed packet (by simp)

/-- A key that goes up is held no more, and repeats no more. -/
theorem releaseKey_armed {state : InputState Point} {key : UInt8} {packet : Packet}
    (armed : Armed state) : Armed (releaseKey state key packet) := by
  intro due
  by_cases same : key = state.repeatKey
  · exact absurd (if_pos same) due
  · have running : state.repeatDue ≠ 0 := by simpa [releaseKey, same] using due
    have down := armed running
    simpa [releaseKey, Ne.symm same] using down

/-- A press, repeat or release of a key, as it changes the state. -/
theorem keyboard_next {state next : InputState Point} {packet : Packet}
    {event : Event Point} (made : keyboard state packet = .ok (event, next)) :
    ∃ key, (keyPress event = some (.up key ()) ∧ state.keys key = true ∧
        next = releaseKey state key packet) ∨
      (keyPress event = none ∧ state.keys key = true ∧ next = repeatKey state key packet) ∨
      (keyPress event = some (.down key ()) ∧ state.keys key = false ∧
        next = pressKey state key packet) := by
  unfold keyboard at made
  simp only at made
  split_ifs at made with _ _ _ _ idle _ up held
  all_goals
    obtain ⟨rfl, rfl⟩ := Prod.mk.inj (Except.ok.inj made)
    refine ⟨packet.byte 1, ?_⟩
  · left
    exact ⟨by simp [keyPress, up], by simpa [up] using idle, rfl⟩
  · right; left
    exact ⟨by simp [keyPress, up, held], held, rfl⟩
  · right; right
    exact ⟨by simp [keyPress, up, held], by simpa using held, rfl⟩

/-- A press, repeat or release of a key. -/
theorem keyboard_effect {state next : InputState Point} {packet : Packet}
    {event : Event Point} (made : keyboard state packet = .ok (event, next)) :
    Effect event state next := by
  have buttons : buttonPress event = none := by
    unfold keyboard at made
    simp only at made
    split_ifs at made
    all_goals
      obtain ⟨rfl, _⟩ := Prod.mk.inj (Except.ok.inj made)
      rfl
  obtain ⟨key, ⟨press, held, rfl⟩ | ⟨press, held, rfl⟩ | ⟨press, free, rfl⟩⟩ := keyboard_next made
  · have keys : heldKeys (releaseKey state key packet) = _ := heldKeys_up rfl
    refine ⟨?_, buttons ▸ .rest, releaseKey_armed⟩
    rw [press, keys]
    exact .of_step (Press.step_up (if_pos held))
  · have same : (repeatKey state key packet).keys = state.keys := by
      funext other
      by_cases same : other = key
      · simp [repeatKey, same, held]
      · simp [repeatKey, same]
    have keys : heldKeys (repeatKey state key packet) = heldKeys state := by
      simp [funext_iff, heldKeys, same]
    refine ⟨?_, buttons ▸ .rest, fun armed due => same ▸ armed due⟩
    rw [press, keys]
    exact .rest
  · obtain ⟨keys, held⟩ := pressKey_held state key packet
    refine ⟨?_, ?_, pressKey_armed key packet⟩
    · rw [press, keys]
      exact .of_step (Press.step_down (by simp [heldKeys, free]) ())
    · rw [buttons, held]
      exact .rest

/-- A key or mouse packet whose event can be made. -/
theorem createEvent_effect {state next : InputState Point} {packet : Packet}
    {event : Event Point} (made : createEvent setup state packet = .ok (event, next)) :
    Effect event state next := by
  unfold createEvent at made
  split at made
  · exact absoluteMouse_effect made
  · exact mouseButton_effect made
  · exact scroll_effect made
  · exact scroll_effect made
  · exact keyboard_effect made
  · cases made

/-- Only a mapper that has not stopped makes the event of a packet. -/
theorem createType_effect {state next : InputState Point} {packet : Packet}
    {event : Event Point} (made : createType setup state packet = .ok (event, next)) :
    state.stopped = false ∧ Effect event state next := by
  unfold createType at made
  split_ifs at made with stopped malformed
  have running := Bool.eq_false_of_not_eq_true stopped
  split at made
  · rename_i event next created
    obtain ⟨rfl, rfl⟩ := Prod.mk.inj (Except.ok.inj made)
    have effect := createEvent_effect created
    exact ⟨running, effect.keys, effect.buttons, effect.armed⟩
  · cases made

/-! ### Runs -/

/-- What the delivered events hold down is what the mapper has stored. -/
structure Follows (mapper : Mapper Point) : Prop where
  /-- The keys. -/
  keys : Press.system.run (fun _ => none) (mapper.trace.filterMap keyPress) =
    some (heldKeys mapper.state)
  /-- The buttons, with the event numbers of their presses. -/
  buttons : Press.system.run (fun _ => none) (mapper.trace.filterMap buttonPress) =
    some (heldButtons mapper.state)
  /-- The key that repeats is down. -/
  armed : Armed mapper.state

/-- An event that is delivered with the state after it. -/
theorem Follows.deliver {mapper : Mapper Point} {event : Event Point} {next : InputState Point}
    (follows : Follows mapper) (effect : Effect event mapper.state next) {after : Mapper Point}
    (state : after.state = next) (trace : after.trace = mapper.trace ++ [event]) :
    Follows after := by
  refine ⟨?_, ?_, ?_⟩
  · rw [trace, state]
    exact effect.keys.run follows.keys
  · rw [trace, state]
    exact effect.buttons.run follows.buttons
  · rw [state]
    exact effect.armed follows.armed

/-- The sink takes an event or refuses it. -/
theorem Mapper.offer_follows {mapper : Mapper Point} {event : Event Point}
    {next : InputState Point} (follows : Follows mapper)
    (effect : Effect event mapper.state next) : Follows (mapper.offer (event, next)).2 := by
  unfold Mapper.offer
  cases mapper.answer with
  | failed => exact ⟨follows.keys, follows.buttons, follows.armed⟩
  | denied => exact ⟨follows.keys, follows.buttons, follows.armed⟩
  | accepted => exact follows.deliver effect rfl rfl

/-- A key or mouse packet. -/
theorem consumeKeyOrMouse_follows {mapper : Mapper Point} {packet : Packet}
    (follows : Follows mapper) : Follows (consumeKeyOrMouse setup mapper packet).2 := by
  unfold consumeKeyOrMouse
  split
  · exact follows
  · rename_i made created
    exact Mapper.offer_follows follows (createType_effect created).2

/-- A tick of the key repeat. -/
theorem repeatAtTime_follows {mapper : Mapper Point} (time : UInt64)
    (follows : Follows mapper) : Follows (repeatAtTime mapper time).2 := by
  unfold repeatAtTime
  split_ifs with stopped early idle
  · exact follows
  · exact follows
  · exact follows
  · obtain ⟨due, _⟩ := not_or.mp idle
    exact Mapper.offer_follows follows ⟨.rest, .rest, fun armed _ => armed due⟩

section Pen

open Program

variable {keeps : Mapper Point → Prop}

/-- The delivery that may end the packet keeps what the delivery keeps. -/
theorem deliverOrEnd_keeps {next : PenState Point} {kind : EventType} {time : UInt64}
    (delivers : Keeps keeps (deliverPen next kind time)) :
    Keeps keeps (deliverOrEnd next kind time) :=
  keeps_bind delivers fun _ =>
    keeps_ite (keeps_pure ()) (keeps_bind keeps_read fun _ => keeps_stop _)

/-- A pen packet keeps what the delivery of each tablet event keeps. -/
theorem consumePen_keeps
    (delivers : ∀ next kind time, Keeps keeps (deliverPen next kind time)) (packet : Packet) :
    Keeps keeps (consumePen setup packet) := by
  have ends (next : PenState Point) (kind : EventType) (time : UInt64) :
      Keeps keeps (deliverOrEnd next kind time) := deliverOrEnd_keeps (delivers next kind time)
  have changes (index : Fin 3) (next : PenState Point) :
      Keeps keeps (changePenButton packet index next) :=
    keeps_ite (keeps_bind (ends _ _ _) fun _ => keeps_pure _) (keeps_pure _)
  have releases (pen : PenState Point) : Keeps keeps (releasePen packet.time pen) := by
    refine keeps_bind (keeps_forEach (fun index next => ?_) _ _) fun next => ?_
    · exact keeps_ite (keeps_bind (ends _ _ _) fun _ => keeps_pure _) (keeps_pure _)
    refine keeps_bind ?_ fun next => ?_
    · exact keeps_ite (keeps_bind (ends _ _ _) fun _ => keeps_pure _) (keeps_pure _)
    · exact keeps_ite (keeps_bind (ends _ _ _) fun _ => keeps_pure _) (keeps_pure _)
  have places : Keeps keeps (placePen setup packet) := by
    refine keeps_bind keeps_read fun mapper => ?_
    refine keeps_bind ?_ fun next => keeps_bind keeps_read fun mapper => ?_
    · exact keeps_ite (keeps_pure _) (keeps_bind (ends _ _ _) fun _ => keeps_pure _)
    refine keeps_ite ?_ ?_
    · exact keeps_bind (keeps_forEach changes _ _) fun _ => keeps_pure _
    · exact keeps_bind (ends _ _ _) fun _ =>
        keeps_bind (keeps_forEach changes _ _) fun _ => keeps_pure _
  refine keeps_bind keeps_read fun mapper => ?_
  refine keeps_ite (keeps_stop _) (keeps_ite (keeps_stop _) (keeps_ite (keeps_stop _) ?_))
  refine keeps_ite (keeps_bind (releases _) fun _ => keeps_pure _) ?_
  have rest : Keeps keeps (do
      let released ← Program.read
      if packet.byte 0 = 5 ∧ !released.pen.near then pure .noEvent
      else placePen setup packet) :=
    keeps_bind keeps_read fun _ => keeps_ite (keeps_pure _) places
  exact keeps_ite (keeps_bind (releases _) fun _ => rest) rest

end Pen

/-- A change of the pen holds no key and no mouse button. -/
theorem changeState_effect (mapper : Mapper Point) (next : PenState Point) (kind : EventType)
    (time : UInt64) : Effect (.pen (changeEvent mapper next kind time)) mapper.state
      (changeState mapper next kind time) := by
  unfold changeState
  split
  · split <;> exact ⟨.rest, .rest, id⟩
  · exact ⟨.rest, .rest, id⟩

/-- The delivery of a tablet event. -/
theorem deliverPen_follows (next : PenState Point) (kind : EventType) (time : UInt64) :
    Program.Keeps Follows (deliverPen next kind time) := by
  intro mapper follows
  unfold deliverPen
  cases mapper.answer with
  | failed => exact ⟨follows.keys, follows.buttons, follows.armed⟩
  | denied => exact ⟨follows.keys, follows.buttons, follows.armed⟩
  | accepted => exact follows.deliver (changeState_effect mapper next kind time) rfl rfl

/-- What a program keeps, its result keeps. -/
theorem Mapping.result_keeps {keeps : Mapper Point → Prop}
    {program : Mapping Point InputResult} {mapper : Mapper Point} (holds : keeps mapper)
    (program_keeps : Program.Keeps keeps program) : keeps (program.result mapper).2 := by
  have ended := program_keeps mapper holds
  unfold Mapping.result
  cases outcome : program mapper with
  | mk result after =>
    rw [outcome] at ended
    cases result <;> exact ended

/-- A packet or tick. -/
theorem consume_follows {mapper : Mapper Point} (arrival : Arrival) (follows : Follows mapper) :
    Follows (consume setup mapper arrival).2 := by
  cases arrival with
  | tick time => exact repeatAtTime_follows time follows
  | packet packet =>
    show Follows (consumeType setup mapper packet).2
    unfold consumeType
    split
    · exact Mapping.result_keeps follows (consumePen_keeps deliverPen_follows packet)
    · exact consumeKeyOrMouse_follows follows

/-- In every run the delivered events hold down what the mapper has stored. -/
theorem follows {mapper : Mapper Point} (reachable : (system setup).Reachable mapper) :
    Follows mapper := by
  refine Transition.System.Preserves.reachable ?_ ?_ reachable
  · intro before arrival after follows stepped
    obtain rfl := Option.some.inj stepped
    exact consume_follows arrival follows
  · rintro state ⟨answers, rfl⟩
    exact ⟨rfl, rfl, fun due => absurd rfl due⟩

end Plank.Input
