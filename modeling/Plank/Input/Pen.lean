import Plank.Input.Tablet
import Plank.Input.Held

/-!
# The stored pen is the pen the events show

Each tablet event a packet makes is a step of the law of the trace, from the stored pen to the one
it is made from. Whichever of them the sink refuses, the pen the mapper has stored is the one the
delivered events show.
-/

namespace Plank.Input

open Trace

variable {Point : Type} {setup : Setup Point}

/-! ### One delivery -/

/-- No button is down in the empty mask. -/
theorem pressed_zero (index : Fin 3) : pressed 0 index = false := by
  decide +revert

/-- The masks of the pen buttons. -/
theorem pressed_xor_penBit (buttons : BitVec 3) (index other : Fin 3) :
    pressed (buttons ^^^ penBit index) other =
      if other = index then !pressed buttons other else pressed buttons other := by
  decide +revert

/-- The change of a button is its mask. -/
theorem xor_penBit_xor (buttons : BitVec 3) (index : Fin 3) :
    buttons ^^^ penBit index ^^^ buttons = penBit index := by
  decide +revert

/-- The mask of a button is a change. -/
theorem penBit_ne_zero (index : Fin 3) : penBit index ≠ 0 := by
  decide +revert

/-- A button that changes is down if it was up. -/
theorem xor_penBit_and (buttons : BitVec 3) (index : Fin 3) :
    decide ((buttons ^^^ penBit index) &&& penBit index ≠ 0) = !pressed buttons index := by
  decide +revert

/-- A button is down when its mask is set. -/
theorem and_penBit_ne_zero (buttons : BitVec 3) (index : Fin 3) :
    buttons &&& penBit index ≠ 0 ↔ pressed buttons index = true := by
  decide +revert

/-- To clear the mask of a button that is down is to change it. -/
theorem and_not_penBit (buttons : BitVec 3) (index : Fin 3)
    (down : pressed buttons index = true) :
    buttons &&& ~~~penBit index = buttons ^^^ penBit index := by
  decide +revert

/-- The number of a button event is kept with its button. -/
theorem penEventIndex_button (index : Fin 3) (down : Bool) :
    penEventIndex (penButtonKind index down) (penBit index) = some index.succ := by
  decide +revert

/-- A step of the pen: from the stored pen to the next one, with the kind of its event. -/
inductive PenStep (stored : PenState Point) : PenState Point → EventType → Prop where
  /-- A button changes. -/
  | button (index : Fin 3) (next : PenState Point) (near : stored.near = true)
    (same : next.near = stored.near ∧ next.tool = stored.tool ∧ next.down = stored.down)
    (buttons : next.buttons = stored.buttons ^^^ penBit index) :
    PenStep stored next (penButtonKind index (pressed next.buttons index))
  /-- The tool leaves. -/
  | leave (next : PenState Point) (near : stored.near = true) (up : stored.down = false)
    (released : stored.buttons = 0) (same : next.tool = stored.tool ∧ next.down = stored.down)
    (buttons : next.buttons = 0) (away : next.near = false) :
    PenStep stored next .tabletProximity
  /-- A tool enters. -/
  | enter (next : PenState Point) (away : stored.near = false)
    (tool : next.tool = 1 ∨ next.tool = 2) (up : next.down = false) (released : next.buttons = 0)
    (near : next.near = true) : PenStep stored next .tabletProximity
  /-- The tool moves, and its tip may go down or up. -/
  | move (next : PenState Point) (near : stored.near = true)
    (same : next.near = stored.near ∧ next.tool = stored.tool ∧ next.buttons = stored.buttons) :
    PenStep stored next (moveKind stored next)

/-- A step of the pen moves the pen its event shows as it moves the stored one. -/
def PenMoves (mapper : Mapper Point) (next : PenState Point) (kind : EventType) (time : UInt64) :
    Prop :=
  PenHeld.system.step (penHeld mapper.pen mapper.state)
      (penEventChange (changeEvent mapper next kind time)) =
    some (penHeld next (changeState mapper next kind time))

/-- The event of a button says which button went down or up. -/
theorem penEventChange_button {event : PenEvent Point} {index : Fin 3} {down : Bool}
    {number : Nat} (kind : event.kind = penButtonKind index down)
    (button : event.buttonNumber = some (penButtonNumber (penBit index)))
    (numbered : event.number = some number) :
    penEventChange event =
      .button event.pen.tool (if down then .down index number else .up index number) := by
  fin_cases index <;> cases down <;>
    simp [penEventChange, penButtonOf, kind, button, numbered, penButtonKind, penButtonNumber,
      penBit]

/-- The kind of a button event tells whether it is a press. -/
theorem penButtonKind_isDown (index : Fin 3) (down : Bool) :
    (penButtonKind index down).isDown = down := by
  decide +revert

/-- Where the pen is near, an event of one of its buttons moves the buttons. -/
theorem PenHeld.step_button {held after : PenHeld} {press : Press (Fin 3) Nat}
    (near : held.near = true)
    (moves : Press.system.step held.buttons press = some after.buttons)
    (same : after.near = held.near ∧ after.tool = held.tool ∧ after.tip = held.tip) :
    PenHeld.system.step held (.button held.tool press) = some after := by
  obtain ⟨sameNear, sameTool, sameTip⟩ := same
  show (if held.near ∧ held.tool = held.tool then _ else none) = _
  rw [if_pos ⟨near, rfl⟩, moves]
  cases after
  simp_all

/-- Where the pen is near, an event of its tip moves the tip. -/
theorem PenHeld.step_tip {held after : PenHeld} {press : Press Unit Nat}
    (near : held.near = true) (moves : Press.system.step held.tip press = some after.tip)
    (same : after.near = held.near ∧ after.tool = held.tool ∧ after.buttons = held.buttons) :
    PenHeld.system.step held (.tip held.tool press) = some after := by
  obtain ⟨sameNear, sameTool, sameButtons⟩ := same
  show (if held.near ∧ held.tool = held.tool then _ else none) = _
  rw [if_pos ⟨near, rfl⟩, moves]
  cases after
  simp_all

/-- A button changes. -/
theorem penMoves_button {mapper : Mapper Point} {next : PenState Point} {index : Fin 3}
    (time : UInt64) (near : mapper.pen.near = true) (same : next.near = mapper.pen.near ∧
      next.tool = mapper.pen.tool ∧ next.down = mapper.pen.down)
    (buttons : next.buttons = mapper.pen.buttons ^^^ penBit index) :
    PenMoves mapper next (penButtonKind index (pressed next.buttons index)) time := by
  obtain ⟨sameNear, sameTool, sameDown⟩ := same
  have changed : next.buttons ^^^ mapper.pen.buttons = penBit index := by
    rw [buttons, xor_penBit_xor]
  have kept (down : Bool) : pressIndex mapper.pen next (penButtonKind index down) =
      some index.succ := by
    unfold pressIndex
    simp only [changed, if_pos (penBit_ne_zero index)]
    exact penEventIndex_button index down
  have bit (other : Fin 3) : pressed next.buttons other = _ :=
    buttons ▸ pressed_xor_penBit mapper.pen.buttons index other
  have stored : pressed next.buttons index = !pressed mapper.pen.buttons index := by
    simpa using bit index
  have number (down : Bool) : (changeEvent mapper next (penButtonKind index down) time).number =
      some (pressNumber mapper.state (penButtonKind index down) index.succ) := by
    simp [changeEvent, kept]
  have numbered (down : Bool) : (changeEvent mapper next (penButtonKind index down)
      time).buttonNumber = some (penButtonNumber (penBit index)) := by
    unfold changeEvent
    simp only [changed, if_pos (penBit_ne_zero index)]
  unfold PenMoves
  rw [penEventChange_button rfl (numbered _) (number _)]
  have tool : (changeEvent mapper next (penButtonKind index (pressed next.buttons index))
      time).pen.tool = (penHeld mapper.pen mapper.state).tool := sameTool
  rw [tool]
  refine PenHeld.step_button near ?_ ⟨sameNear, sameTool, ?_⟩
  · cases down : pressed next.buttons index with
    | true =>
      have free : (penHeld mapper.pen mapper.state).buttons index = none := by
        simp [penHeld, show pressed mapper.pen.buttons index = false by simpa [down] using stored]
      refine (Press.step_down free _).trans (congrArg some (funext fun other => ?_))
      by_cases this : other = index
      · subst this
        simp [penHeld, down, changeState, kept, penButtonKind_isDown]
      · have differs : other.succ ≠ index.succ := fun equal => this (Fin.succ_inj.mp equal)
        simp [penHeld, bit, this, changeState, kept, penButtonKind_isDown, differs]
    | false =>
      have held : (penHeld mapper.pen mapper.state).buttons index =
          some (mapper.state.penEventNumber index.succ) := by
        simp [penHeld, show pressed mapper.pen.buttons index = true by simpa [down] using stored]
      have number : pressNumber mapper.state (penButtonKind index false) index.succ =
          mapper.state.penEventNumber index.succ := by
        simp [pressNumber, penButtonKind_isDown]
      rw [number]
      refine (Press.step_up held).trans (congrArg some (funext fun other => ?_))
      by_cases this : other = index
      · subst this
        simp [penHeld, down]
      · simp [penHeld, bit, this, changeState, kept, penButtonKind_isDown]
  · funext
    have differs : (0 : Fin 4) ≠ index.succ := (Fin.succ_ne_zero index).symm
    cases down : pressed next.buttons index <;>
      simp [penHeld, sameDown, changeState, kept, penButtonKind_isDown, differs]

/-- A proximity event names the tool it was made from. -/
theorem toolOf_pointerType {tool : UInt8} (known : tool = 1 ∨ tool = 2) :
    toolOf (some (if tool = 2 then 3 else 1)) = tool := by
  obtain rfl | rfl := known <;> decide

/-- Where nothing is down, the shown pen has nothing down. -/
theorem penHeld_released {pen : PenState Point} {state : InputState Point}
    (up : pen.down = false) (released : pen.buttons = 0) : (penHeld pen state).Released := by
  exact ⟨by simp [penHeld, up], fun index => by simp only [penHeld, released, pressed_zero]; rfl⟩

/-- The tool leaves. -/
theorem penMoves_leave {mapper : Mapper Point} {next : PenState Point} (time : UInt64)
    (follows : PenFollows mapper) (near : mapper.pen.near = true) (up : mapper.pen.down = false)
    (released : mapper.pen.buttons = 0)
    (same : next.tool = mapper.pen.tool ∧ next.down = mapper.pen.down) (buttons : next.buttons = 0)
    (away : next.near = false) : PenMoves mapper next .tabletProximity time := by
  obtain ⟨sameTool, sameDown⟩ := same
  have known := toolOf_pointerType (sameTool ▸ follows.tool near)
  have change : penEventChange (changeEvent mapper next .tabletProximity time) =
      .leave next.tool := by
    show (if next.near then _ else PenChange.leave (toolOf (some (if next.tool = 2 then 3 else 1))))
      = _
    rw [if_neg (by simp [away]), known]
  unfold PenMoves
  rw [change]
  show (if _ ∧ _ ∧ _ then some _ else none) = some _
  rw [if_pos ⟨near, sameTool.symm, penHeld_released up released⟩]
  simp only [penHeld, away, sameTool, sameDown, up, released, buttons]
  rfl

/-- A tool enters. -/
theorem penMoves_enter {mapper : Mapper Point} {next : PenState Point} (time : UInt64)
    (follows : PenFollows mapper) (away : mapper.pen.near = false)
    (tool : next.tool = 1 ∨ next.tool = 2) (up : next.down = false) (released : next.buttons = 0)
    (near : next.near = true) : PenMoves mapper next .tabletProximity time := by
  obtain ⟨wasUp, wasReleased⟩ := follows.away away
  have known := toolOf_pointerType tool
  have change : penEventChange (changeEvent mapper next .tabletProximity time) =
      .enter next.tool := by
    show (if next.near then PenChange.enter (toolOf (some (if next.tool = 2 then 3 else 1))) else _)
      = _
    rw [if_pos near, known]
  unfold PenMoves
  rw [change]
  show (if (penHeld mapper.pen mapper.state).near then none else if _ then some _ else none) =
    some _
  rw [if_neg (by simp [penHeld, away]), if_pos (penHeld_released wasUp wasReleased)]
  simp only [penHeld, near, up, wasUp, released, wasReleased]
  rfl

/-- A step of the pen that keeps its tool and its buttons shows the tip as the press says. -/
theorem penMoves_tip {mapper : Mapper Point} {next : PenState Point} {kind : EventType}
    {press : Press Unit Nat} {time : UInt64} (near : mapper.pen.near = true)
    (same : next.near = mapper.pen.near ∧ next.tool = mapper.pen.tool ∧
      next.buttons = mapper.pen.buttons)
    (change : penEventChange (changeEvent mapper next kind time) = .tip next.tool press)
    (numbers : ∀ index : Fin 3, (changeState mapper next kind time).penEventNumber index.succ =
      mapper.state.penEventNumber index.succ)
    (moves : Press.system.step (penHeld mapper.pen mapper.state).tip press =
      some (penHeld next (changeState mapper next kind time)).tip) :
    PenMoves mapper next kind time := by
  obtain ⟨sameNear, sameTool, sameButtons⟩ := same
  have tool : next.tool = (penHeld mapper.pen mapper.state).tool := sameTool
  unfold PenMoves
  rw [change, tool]
  refine PenHeld.step_tip near moves ⟨sameNear, sameTool, ?_⟩
  funext index
  simp [penHeld, sameButtons, numbers]

/-- The tip goes down. -/
theorem penMoves_down {mapper : Mapper Point} {next : PenState Point} (time : UInt64)
    (near : mapper.pen.near = true) (same : next.near = mapper.pen.near ∧
      next.tool = mapper.pen.tool ∧ next.buttons = mapper.pen.buttons)
    (up : mapper.pen.down = false) (down : next.down = true) :
    PenMoves mapper next .leftMouseDown time := by
  refine penMoves_tip near same rfl (fun index => ?_) ?_
  · have differs : index.succ ≠ 0 := Fin.succ_ne_zero index
    simp [changeState, pressIndex, penEventIndex, EventType.isDown, differs]
  · have free : (penHeld mapper.pen mapper.state).tip () = none := by simp [penHeld, up]
    refine (Press.step_down free _).trans (congrArg some (funext fun _ => ?_))
    simp [penHeld, down, changeState, pressIndex, penEventIndex, EventType.isDown, changeEvent]

/-- The tip goes up. -/
theorem penMoves_up {mapper : Mapper Point} {next : PenState Point} (time : UInt64)
    (near : mapper.pen.near = true) (same : next.near = mapper.pen.near ∧
      next.tool = mapper.pen.tool ∧ next.buttons = mapper.pen.buttons)
    (down : mapper.pen.down = true) (up : next.down = false) :
    PenMoves mapper next .leftMouseUp time := by
  refine penMoves_tip near same rfl (fun _ => rfl) ?_
  have held : (penHeld mapper.pen mapper.state).tip () =
      some (mapper.state.penEventNumber 0) := by simp [penHeld, down]
  refine (Press.step_up held).trans (congrArg some (funext fun _ => ?_))
  simp [penHeld, up]

/-- The tip moves while it is down. -/
theorem penMoves_drag {mapper : Mapper Point} {next : PenState Point} (time : UInt64)
    (near : mapper.pen.near = true) (same : next.near = mapper.pen.near ∧
      next.tool = mapper.pen.tool ∧ next.buttons = mapper.pen.buttons)
    (was : mapper.pen.down = true) (down : next.down = true) :
    PenMoves mapper next .leftMouseDragged time := by
  refine penMoves_tip near same rfl (fun _ => rfl) ?_
  have held : (penHeld mapper.pen mapper.state).tip () =
      some (mapper.state.penEventNumber 0) := by simp [penHeld, was]
  refine (Press.step_hold held).trans (congrArg some (funext fun _ => ?_))
  simp only [penHeld, was, down]
  rfl

/-- The kind of a drag of the pen buttons, and the button it is of: the first that is down. -/
theorem buttonDrag {buttons : BitVec 3} (some_down : buttons ≠ 0) : ∃ index : Fin 3,
    pressed buttons index = true ∧
      penEventIndex (if buttons &&& 1 ≠ 0 then .rightMouseDragged else .otherMouseDragged) buttons =
        some index.succ ∧
      (index = if buttons &&& 1 ≠ 0 then 0 else if buttons &&& 2 ≠ 0 then 1 else 2) := by
  decide +revert

/-- The kind of such a drag is no press. -/
theorem buttonDrag_isDown (buttons : BitVec 3) :
    (if buttons &&& 1 ≠ 0 then EventType.rightMouseDragged else .otherMouseDragged).isDown =
      false := by
  split <;> rfl

/-- The event of such a drag says which button is down. -/
theorem penEventChange_buttonDrag {event : PenEvent Point} {buttons : BitVec 3} {number : Nat}
    (kind : event.kind =
      if buttons &&& 1 ≠ 0 then .rightMouseDragged else .otherMouseDragged)
    (button : buttons &&& 1 = 0 → event.button = if buttons &&& 2 ≠ 0 then 2 else 3)
    (numbered : event.number = some number) : penEventChange event = .button event.pen.tool
      (.hold (if buttons &&& 1 ≠ 0 then 0 else if buttons &&& 2 ≠ 0 then 1 else 2) number) := by
  by_cases first : buttons &&& 1 = 0
  · have kind : event.kind = .otherMouseDragged := by rw [kind, if_neg (not_not.mpr first)]
    have made := button first
    rw [if_neg (not_not.mpr first)]
    by_cases second : buttons &&& 2 = 0
    · rw [if_neg (not_not.mpr second)] at made ⊢
      simp [penEventChange, penButtonOf, kind, made, numbered]
    · rw [if_pos second] at made ⊢
      simp [penEventChange, penButtonOf, kind, made, numbered]
  · have kind : event.kind = .rightMouseDragged := by rw [kind, if_pos first]
    rw [if_pos first]
    simp [penEventChange, penButtonOf, kind, numbered]

/-- The pen moves with its tip up while a button is down. -/
theorem penMoves_buttonDrag {mapper : Mapper Point} {next : PenState Point} (time : UInt64)
    (near : mapper.pen.near = true) (same : next.near = mapper.pen.near ∧
      next.tool = mapper.pen.tool ∧ next.buttons = mapper.pen.buttons)
    (was : mapper.pen.down = false) (up : next.down = false) (some_down : next.buttons ≠ 0) :
    PenMoves mapper next
      (if next.buttons &&& 1 ≠ 0 then .rightMouseDragged else .otherMouseDragged) time := by
  obtain ⟨sameNear, sameTool, sameButtons⟩ := same
  obtain ⟨index, down, kept, first⟩ := buttonDrag some_down
  have notDown := buttonDrag_isDown next.buttons
  generalize kind :
    (if next.buttons &&& 1 ≠ 0 then EventType.rightMouseDragged else .otherMouseDragged) = type
    at kept notDown ⊢
  have press : pressIndex mapper.pen next type = some index.succ := by
    have unchanged : next.buttons ^^^ mapper.pen.buttons = 0 := by
      rw [sameButtons, BitVec.xor_self]
      rfl
    unfold pressIndex
    rw [unchanged]
    exact kept
  have state : (changeState mapper next type time).penEventNumber =
      mapper.state.penEventNumber := by
    simp [changeState, press, notDown]
  have change : penEventChange (changeEvent mapper next type time) = .button next.tool
      (.hold index (mapper.state.penEventNumber index.succ)) := by
    rw [first]
    refine penEventChange_buttonDrag kind.symm (fun none => ?_) ?_
    · have other : type = .otherMouseDragged := by
        rw [← kind, if_neg (not_not.mpr none)]
      rw [other]
      rfl
    · rw [← first]
      simp [changeEvent, press, pressNumber, notDown]
  have tool : next.tool = (penHeld mapper.pen mapper.state).tool := sameTool
  unfold PenMoves
  rw [change, tool]
  refine PenHeld.step_button near ?_ ⟨sameNear, sameTool, ?_⟩
  · have held : (penHeld mapper.pen mapper.state).buttons index =
        some (mapper.state.penEventNumber index.succ) := by
      simp [penHeld, ← sameButtons, down]
    refine (Press.step_hold held).trans (congrArg some ?_)
    simp only [penHeld, state, sameButtons]
  · simp only [penHeld, state, was, up]

/-- The pen moves with nothing down. -/
theorem penMoves_hover {mapper : Mapper Point} {next : PenState Point} (time : UInt64)
    (near : mapper.pen.near = true) (same : next.near = mapper.pen.near ∧
      next.tool = mapper.pen.tool ∧ next.buttons = mapper.pen.buttons)
    (was : mapper.pen.down = false) (up : next.down = false) :
    PenMoves mapper next .mouseMoved time := by
  obtain ⟨sameNear, sameTool, sameButtons⟩ := same
  unfold PenMoves
  show (if _ ∧ _ then some _ else none) = some _
  rw [if_pos ⟨near, sameTool.symm⟩]
  simp only [penHeld, sameNear, sameTool, sameButtons, was, up]
  rfl

/-- The tool moves, and its tip may go down or up. -/
theorem penMoves_move {mapper : Mapper Point} {next : PenState Point} (time : UInt64)
    (near : mapper.pen.near = true) (same : next.near = mapper.pen.near ∧
      next.tool = mapper.pen.tool ∧ next.buttons = mapper.pen.buttons) :
    PenMoves mapper next (moveKind mapper.pen next) time := by
  unfold moveKind
  by_cases changed : next.down ≠ mapper.pen.down
  · rw [if_pos changed]
    cases down : next.down with
    | true => exact penMoves_down time near same (by simpa [down] using changed.symm) down
    | false => exact penMoves_up time near same (by simpa [down] using changed.symm) down
  · have kept : next.down = mapper.pen.down := not_not.mp changed
    rw [if_neg changed]
    cases down : next.down with
    | true => exact penMoves_drag time near same (kept ▸ down) down
    | false =>
      by_cases some_down : next.buttons ≠ 0
      · simp only [Bool.false_eq_true, if_false, if_pos some_down]
        exact penMoves_buttonDrag time near same (kept ▸ down) down some_down
      · simp only [Bool.false_eq_true, if_false, if_neg some_down]
        exact penMoves_hover time near same (kept ▸ down) down

/-- Every step of the pen is one of the law of the trace. -/
theorem PenStep.moves {mapper : Mapper Point} {next : PenState Point} {kind : EventType}
    (step : PenStep mapper.pen next kind) (follows : PenFollows mapper) (time : UInt64) :
    PenMoves mapper next kind time := by
  cases step with
  | button index next near same buttons => exact penMoves_button time near same buttons
  | leave next near up released same buttons away =>
    exact penMoves_leave time follows near up released same buttons away
  | enter next away tool up released near =>
    exact penMoves_enter time follows away tool up released near
  | move next near same => exact penMoves_move time near same

/-- After a step of the pen its tool is one of the two. -/
theorem PenStep.known {stored next : PenState Point} {kind : EventType}
    (step : PenStep stored next kind) (known : stored.near = true → stored.tool = 1 ∨ stored.tool = 2)
    (near : next.near = true) : next.tool = 1 ∨ next.tool = 2 := by
  cases step with
  | button index next was same buttons => exact same.2.1 ▸ known was
  | leave next was up released same buttons away => simp [away] at near
  | enter next away tool up released near => exact tool
  | move next was same => exact same.2.1 ▸ known was

/-- After a step of the pen one that is away holds nothing. -/
theorem PenStep.away {stored next : PenState Point} {kind : EventType}
    (step : PenStep stored next kind) (away : next.near = false) :
    next.down = false ∧ next.buttons = 0 := by
  cases step with
  | button index next near same buttons => simp [same.1, near] at away
  | leave next near up released same buttons away => exact ⟨same.2 ▸ up, buttons⟩
  | enter next was tool up released near => exact ⟨up, released⟩
  | move next near same => simp [same.1, near] at away

/-- An event that says nothing of the pen. -/
theorem PenFollows.other {mapper after : Mapper Point} {event : Event Point}
    (follows : PenFollows mapper) (none : penChange event = none)
    (trace : after.trace = mapper.trace ++ [event]) (pen : after.pen = mapper.pen)
    (numbers : after.state.penEventNumber = mapper.state.penEventNumber) : PenFollows after := by
  refine ⟨?_, pen ▸ follows.tool, pen ▸ follows.away⟩
  have same : after.trace.filterMap penChange = mapper.trace.filterMap penChange := by
    simp [trace, none]
  rw [same, follows.trace]
  simp only [penHeld, pen, numbers]

/-- The stored pen agrees with the pen a packet is about to change, but for its position and its
clicks. -/
structure At (next : PenState Point) (mapper : Mapper Point) : Prop where
  /-- The events show the stored pen. -/
  follows : PenFollows mapper
  /-- Near or away. -/
  near : mapper.pen.near = next.near
  /-- The tool. -/
  tool : mapper.pen.tool = next.tool
  /-- The tip. -/
  down : mapper.pen.down = next.down
  /-- The buttons. -/
  buttons : mapper.pen.buttons = next.buttons

/-- The delivery of a step of the pen, whatever becomes of its event. -/
theorem deliverPen_triple (next : PenState Point) (kind : EventType) (time : UInt64) :
    Program.Triple (fun mapper => PenFollows mapper ∧ PenStep mapper.pen next kind)
      (deliverPen next kind time)
      (fun delivered mapper => if delivered then At next mapper else PenFollows mapper)
      (fun _ _ => False) := by
  rintro mapper ⟨follows, step⟩
  unfold deliverPen
  cases mapper.answer with
  | failed => exact ⟨follows.trace, follows.tool, follows.away⟩
  | denied => exact ⟨follows.trace, follows.tool, follows.away⟩
  | accepted =>
    refine ⟨⟨?_, step.known follows.tool, step.away⟩, rfl, rfl, rfl, rfl⟩
    have moves : PenHeld.system.step (penHeld mapper.pen mapper.state) _ = some _ :=
      step.moves follows time
    have split : (mapper.trace ++ [Event.pen (changeEvent mapper next kind time)]).filterMap
        penChange = mapper.trace.filterMap penChange ++
          [penEventChange (changeEvent mapper next kind time)] := by
      simp [penChange]
    rw [split, Transition.System.run_append, follows.trace]
    show (PenHeld.system.step _ _).bind some = _
    rw [moves]
    rfl

/-- The delivery of a step of the pen; where it fails the packet ends. -/
theorem deliverOrEnd_triple (next : PenState Point) (kind : EventType) (time : UInt64) :
    Program.Triple (fun mapper => PenFollows mapper ∧ PenStep mapper.pen next kind)
      (deliverOrEnd next kind time) (fun _ => At next) (fun _ => PenFollows) := by
  refine Program.triple_bind (fun delivered mapper =>
    if delivered then At next mapper else PenFollows mapper) ?_ fun delivered => ?_
  · exact (deliverPen_triple next kind time).imp (fun _ holds => holds) (fun _ _ holds => holds)
      fun _ _ fails => fails.elim
  · cases delivered with
    | true => exact Program.triple_pure fun _ holds => holds
    | false =>
      refine Program.triple_bind (fun _ => PenFollows) (Program.triple_read fun _ holds => ?_)
        fun _ => Program.triple_stop fun _ follows => follows
      exact holds

/-! ### A pen packet -/

section Packet

open Program

/-- Of the buttons still to come at most those that are down are released. -/
structure Releasing (rest : List (Fin 3)) (next : PenState Point) (mapper : Mapper Point) :
    Prop where
  /-- The pen is the stored one. -/
  agrees : At next mapper
  /-- A button that is down is still to come. -/
  buttons : ∀ index, pressed next.buttons index = true → index ∈ rest

/-- A pen with something down is near. -/
theorem At.near_of_pressed {next : PenState Point} {mapper : Mapper Point} (agrees : At next mapper)
    (index : Fin 3) (down : pressed next.buttons index = true) : mapper.pen.near = true := by
  by_contra away
  obtain ⟨_, released⟩ := agrees.follows.away (Bool.eq_false_of_not_eq_true away)
  rw [← agrees.buttons, released, pressed_zero] at down
  cases down

/-- A pen that is delivered and then passed on. -/
theorem deliver_triple {pre : Mapper Point → Prop} {post : PenState Point → Mapper Point → Prop}
    {next : PenState Point} {kind : EventType} {time : UInt64}
    (steps : ∀ mapper, pre mapper → PenFollows mapper ∧ PenStep mapper.pen next kind ∧
      ∀ after, At next after → post next after) :
    Triple pre (do deliverOrEnd next kind time; pure next) post (fun _ => PenFollows) := by
  intro mapper holds
  obtain ⟨follows, step, ends⟩ := steps mapper holds
  exact triple_bind _ (deliverOrEnd_triple next kind time) (fun _ => triple_pure ends) mapper
    ⟨follows, step⟩

/-- A button of the pen changes. -/
theorem At.button {next : PenState Point} {mapper : Mapper Point} (agrees : At next mapper)
    (near : next.near = true) (index : Fin 3) {down : Bool}
    (was : pressed next.buttons index = !down) :
    PenStep mapper.pen { next with buttons := next.buttons ^^^ penBit index }
      (penButtonKind index down) := by
  have becomes : pressed (next.buttons ^^^ penBit index) index = down := by
    rw [pressed_xor_penBit, if_pos rfl, was, Bool.not_not]
  have step := PenStep.button index { next with buttons := next.buttons ^^^ penBit index }
    (agrees.near.trans near)
    ⟨agrees.near.symm, agrees.tool.symm, agrees.down.symm⟩ (by rw [agrees.buttons])
  rwa [becomes] at step

/-- The release of one button. -/
theorem releasePenButton_triple (time : UInt64) (index : Fin 3) (rest : List (Fin 3))
    (next : PenState Point) :
    Triple (Releasing (index :: rest) next) (releasePenButton time index next)
      (fun next => Releasing rest next) (fun _ => PenFollows) := by
  unfold releasePenButton
  refine triple_ite (fun held => ?_) fun up => ?_
  · have down := (and_penBit_ne_zero _ _).mp held
    rw [and_not_penBit _ _ down]
    refine deliver_triple fun mapper releasing => ?_
    have near := releasing.agrees.near ▸ releasing.agrees.near_of_pressed index down
    refine ⟨releasing.agrees.follows, releasing.agrees.button near index down, ?_⟩
    intro after agrees
    refine ⟨agrees, fun other held => ?_⟩
    rw [pressed_xor_penBit] at held
    by_cases same : other = index
    · rw [if_pos same, same, down] at held
      cases held
    · rw [if_neg same] at held
      exact (List.mem_cons.mp (releasing.buttons other held)).resolve_left same
  · refine triple_pure fun mapper releasing => ⟨releasing.agrees, fun other held => ?_⟩
    have differs : other ≠ index := by
      rintro rfl
      exact up ((and_penBit_ne_zero _ _).mpr held)
    exact (List.mem_cons.mp (releasing.buttons other held)).resolve_left differs

/-- A pen none of whose buttons is down. -/
theorem buttons_eq_zero {buttons : BitVec 3} (up : ∀ index, pressed buttons index = false) :
    buttons = 0 := by
  decide +revert

/-- The release of the tip. -/
theorem releaseTip_triple (time : UInt64) (next : PenState Point) :
    Triple (Releasing [] next) (releaseTip time next)
      (fun next mapper => At next mapper ∧ next.down = false ∧ next.buttons = 0)
      (fun _ => PenFollows) := by
  have released {mapper : Mapper Point} (releasing : Releasing [] next mapper) :
      next.buttons = 0 := buttons_eq_zero fun index =>
    Bool.eq_false_of_not_eq_true fun down => List.not_mem_nil (releasing.buttons index down)
  unfold releaseTip
  refine triple_ite (fun down => ?_) fun up => ?_
  · refine deliver_triple fun mapper releasing => ?_
    obtain ⟨follows, near, tool, sameDown, buttons⟩ := releasing.agrees
    have isNear : mapper.pen.near = true := by
      by_contra away
      have up := (follows.away (Bool.eq_false_of_not_eq_true away)).1
      simp [sameDown, down] at up
    have step := PenStep.move
      { next with down := false, pressure := 0, buttons := 0 } isNear
      ⟨near.symm, tool.symm, by rw [buttons, released releasing]⟩
    have kind : moveKind mapper.pen { next with down := false, pressure := 0, buttons := 0 } =
        .leftMouseUp := by simp [moveKind, sameDown, down]
    exact ⟨follows, kind ▸ step, fun after agrees => ⟨agrees, rfl, rfl⟩⟩
  · exact triple_pure fun mapper releasing =>
      ⟨releasing.agrees, Bool.eq_false_of_not_eq_true up, released releasing⟩

/-- The end of the proximity. -/
theorem leaveProximity_triple (time : UInt64) (next : PenState Point) :
    Triple (fun mapper => At next mapper ∧ next.down = false ∧ next.buttons = 0)
      (leaveProximity time next) (fun next mapper => At next mapper ∧ next.near = false)
      (fun _ => PenFollows) := by
  unfold leaveProximity
  refine triple_ite (fun near => ?_) fun away => ?_
  · refine deliver_triple fun mapper ⟨agrees, up, released⟩ => ?_
    obtain ⟨follows, sameNear, tool, sameDown, buttons⟩ := agrees
    have step := PenStep.leave
      { next with near := false, buttons := 0 } (sameNear.trans near) (sameDown.trans up)
      (buttons.trans released) ⟨tool.symm, sameDown.symm⟩ rfl rfl
    exact ⟨follows, step, fun after agrees => ⟨agrees, rfl⟩⟩
  · exact triple_pure fun mapper holds => ⟨holds.1, Bool.eq_false_of_not_eq_true away⟩

/-- The release of everything the pen holds. -/
theorem releasePen_triple (time : UInt64) (pen : PenState Point) :
    Triple (fun mapper => PenFollows mapper ∧ mapper.pen = pen) (releasePen time pen)
      (fun _ mapper => PenFollows mapper ∧ mapper.pen.near = false) (fun _ => PenFollows) := by
  refine triple_bind (fun next => Releasing [] next) ?_ fun next => ?_
  · have loop := triple_forEach (fun rest next => Releasing rest next)
      (fun index rest next => releasePenButton_triple time index rest next) (List.finRange 3) pen
    refine loop.imp ?_ (fun _ _ holds => holds) fun _ _ follows => follows
    rintro mapper ⟨follows, rfl⟩
    exact ⟨⟨follows, rfl, rfl, rfl, rfl⟩, fun index _ => List.mem_finRange index⟩
  refine triple_bind _ (releaseTip_triple time next) fun next => ?_
  exact (leaveProximity_triple time next).imp (fun _ holds => holds)
    (fun _ _ ends => ⟨ends.1.follows, ends.1.near.trans ends.2⟩) fun _ _ follows => follows

/-- The tool of the packet is near, or none is. -/
structure Placing (tool : UInt8) (next : PenState Point) (mapper : Mapper Point) : Prop where
  /-- The pen is the stored one. -/
  agrees : At next mapper
  /-- It is near with the tool of the packet. -/
  tool : next.near = true → next.tool = tool

/-- A tool comes near. -/
theorem enterProximity_triple (time : UInt64) {tool : UInt8} (known : tool = 1 ∨ tool = 2)
    (next : PenState Point) :
    Triple (Placing tool next) (enterProximity time tool next)
      (fun next mapper => At next mapper ∧ next.near = true) (fun _ => PenFollows) := by
  unfold enterProximity
  refine triple_ite (fun near => ?_) fun away => ?_
  · exact triple_pure fun mapper placing => ⟨placing.agrees, near⟩
  · refine deliver_triple fun mapper placing => ?_
    have wasAway := placing.agrees.near.trans (Bool.eq_false_of_not_eq_true away)
    exact ⟨placing.agrees.follows, .enter _ wasAway known rfl rfl rfl,
      fun after agrees => ⟨agrees, rfl⟩⟩

/-- A button of the pen changes as the packet says. -/
theorem changePenButton_triple (packet : Packet) (index : Fin 3) (next : PenState Point) :
    Triple (fun mapper => At next mapper ∧ next.near = true) (changePenButton packet index next)
      (fun next mapper => At next mapper ∧ next.near = true) (fun _ => PenFollows) := by
  unfold changePenButton
  refine triple_ite (fun changed => ?_) fun same => triple_pure fun _ holds => holds
  refine deliver_triple fun mapper ⟨agrees, near⟩ => ?_
  have becomes := xor_penBit_and next.buttons index
  have step := agrees.button near index (Bool.not_not _).symm
  exact ⟨agrees.follows, becomes ▸ step, fun after agrees => ⟨agrees, near⟩⟩

/-- The buttons of the pen change as the packet says. -/
theorem changePenButtons_triple (packet : Packet) (next : PenState Point) :
    Triple (fun mapper => At next mapper ∧ next.near = true)
      (forEach (changePenButton packet) (List.finRange 3) next)
      (fun next mapper => At next mapper ∧ next.near = true) (fun _ => PenFollows) :=
  triple_forEach (fun _ next mapper => At next mapper ∧ next.near = true)
    (fun index _ next => changePenButton_triple packet index next) _ _

/-- The move of a pen changes neither its tool nor its buttons. -/
theorem movePen_same (packet : Packet) (stored next : PenState Point) :
    (movePen setup packet stored next).near = next.near ∧
      (movePen setup packet stored next).tool = next.tool ∧
      (movePen setup packet stored next).buttons = next.buttons := by
  unfold movePen
  simp only
  split_ifs <;> exact ⟨rfl, rfl, rfl⟩

/-- The part of a packet that the pen is near for. -/
theorem placePen_triple (packet : Packet) (known : packet.byte 1 = 1 ∨ packet.byte 1 = 2) :
    Triple (fun mapper => PenFollows mapper ∧
        (mapper.pen.near = true → mapper.pen.tool = packet.byte 1))
      (placePen setup packet) (fun _ => PenFollows) (fun _ => PenFollows) := by
  refine triple_bind (fun stored mapper => PenFollows mapper ∧ mapper.pen = stored.pen ∧
    (stored.pen.near = true → stored.pen.tool = packet.byte 1)) ?_ fun stored => ?_
  · exact triple_read fun mapper ⟨follows, tool⟩ => ⟨follows, rfl, tool⟩
  refine triple_bind (fun next mapper => At next mapper ∧ next.near = true) ?_ fun next => ?_
  · refine (enterProximity_triple packet.time known _).imp ?_ (fun _ _ holds => holds)
      fun _ _ follows => follows
    rintro mapper ⟨follows, same, tool⟩
    split
    · exact ⟨⟨follows, by rw [same], by rw [same], by rw [same], by rw [same]⟩, tool⟩
    · exact ⟨⟨follows, by rw [same], by rw [same], by rw [same], by rw [same]⟩, tool⟩
  refine triple_bind (fun stored mapper => At next mapper ∧ next.near = true ∧
    mapper.pen = stored.pen) ?_ fun stored => ?_
  · exact triple_read fun mapper ⟨agrees, near⟩ => ⟨agrees, near, rfl⟩
  refine triple_ite (fun _ => ?_) fun _ => ?_
  · refine triple_bind (fun next mapper => At next mapper ∧ next.near = true) ?_ fun last => ?_
    · exact (changePenButtons_triple packet next).imp (fun _ holds => ⟨holds.1, holds.2.1⟩)
        (fun _ _ holds => holds) fun _ _ follows => follows
    · exact triple_pure fun _ holds => holds.1.follows
  · have same : (movePen setup packet stored.pen next).near = next.near ∧
        (movePen setup packet stored.pen next).tool = next.tool ∧
          (movePen setup packet stored.pen next).buttons = next.buttons :=
      movePen_same packet stored.pen next
    obtain ⟨sameNear, sameTool, sameButtons⟩ := same
    refine triple_bind (fun _ mapper => At (movePen setup packet stored.pen next) mapper ∧
      (movePen setup packet stored.pen next).near = true) ?_ fun _ => ?_
    · intro mapper ⟨agrees, near, same⟩
      have step := PenStep.move (movePen setup packet stored.pen next) (agrees.near.trans near)
        ⟨sameNear.trans agrees.near.symm, sameTool.trans agrees.tool.symm,
          sameButtons.trans agrees.buttons.symm⟩
      rw [congrArg (moveKind · (movePen setup packet stored.pen next)) same] at step
      exact ((deliverOrEnd_triple _ _ packet.time).imp (fun _ holds => holds)
        (fun _ after agrees => ⟨agrees, sameNear.trans near⟩) fun _ _ follows => follows) mapper
          ⟨agrees.follows, step⟩
    · refine triple_bind _ (changePenButtons_triple packet _) fun _ => ?_
      exact triple_pure fun _ holds => holds.1.follows

/-- A well-formed packet that does not take the pen away names one of the two tools. -/
theorem tool_known {packet : Packet} (formed : penWellFormed packet = true)
    (stays : leaving packet = false) : packet.byte 1 = 1 ∨ packet.byte 1 = 2 := by
  simp only [penWellFormed, stays, Bool.false_or, Bool.and_eq_true, decide_eq_true_eq] at formed
  obtain ⟨_, ⟨⟨least, most⟩, _⟩, _⟩ := formed
  have low := UInt8.le_iff_toNat_le.mp least
  have high := UInt8.le_iff_toNat_le.mp most
  have one_or_two : (packet.byte 1).toNat = 1 ∨ (packet.byte 1).toNat = 2 := by
    change 1 ≤ _ at low
    change _ ≤ 2 at high
    omega
  exact one_or_two.imp UInt8.toNat_inj.mp UInt8.toNat_inj.mp

/-- A pen packet. -/
theorem consumePen_triple (packet : Packet) :
    Triple PenFollows (consumePen setup packet) (fun _ => PenFollows) (fun _ => PenFollows) := by
  refine triple_bind (fun stored mapper => PenFollows mapper ∧ mapper = stored) ?_ fun stored => ?_
  · exact triple_read fun mapper follows => ⟨follows, rfl⟩
  refine triple_ite (fun _ => triple_stop fun _ holds => holds.1) fun _ => ?_
  refine triple_ite (fun _ => triple_stop fun _ holds => holds.1) fun _ => ?_
  refine triple_ite (fun _ => triple_stop fun _ holds => holds.1) fun formed => ?_
  have released : Triple (fun mapper => PenFollows mapper ∧ mapper = stored)
      (releasePen packet.time stored.pen)
      (fun _ mapper => PenFollows mapper ∧ mapper.pen.near = false) (fun _ => PenFollows) :=
    (releasePen_triple packet.time stored.pen).imp (fun _ holds => ⟨holds.1, holds.2 ▸ rfl⟩)
      (fun _ _ holds => holds) fun _ _ follows => follows
  refine triple_ite (fun _ => ?_) fun stays => ?_
  · exact triple_bind _ released fun _ => triple_pure fun _ holds => holds.1
  have known := tool_known (Bool.eq_true_of_not_eq_false formed) (Bool.eq_false_of_not_eq_true stays)
  have rest : Triple (fun mapper => PenFollows mapper ∧
        (mapper.pen.near = true → mapper.pen.tool = packet.byte 1))
      (do
        let released ← Program.read
        if packet.byte 0 = 5 ∧ !released.pen.near then pure .noEvent
        else placePen setup packet) (fun _ => PenFollows) (fun _ => PenFollows) := by
    refine triple_bind (fun _ mapper => PenFollows mapper ∧
        (mapper.pen.near = true → mapper.pen.tool = packet.byte 1))
      (triple_read fun _ holds => holds) fun stored => ?_
    exact triple_ite (fun _ => triple_pure fun _ holds => holds.1)
      fun _ => placePen_triple packet known
  refine triple_ite (fun _ => ?_) fun same => ?_
  · refine triple_bind _ released fun _ => rest.imp ?_ (fun _ _ holds => holds)
      fun _ _ follows => follows
    exact fun mapper holds => ⟨holds.1, fun near => by simp [holds.2] at near⟩
  · refine rest.imp ?_ (fun _ _ holds => holds) fun _ _ follows => follows
    rintro mapper ⟨follows, rfl⟩
    exact ⟨follows, fun near => by_contra fun differs => same ⟨near, differs⟩⟩

end Packet

/-! ### Runs -/

/-- An event of a key or of the mouse says nothing of the pen. -/
structure Penless (event : Event Point) (before after : InputState Point) : Prop where
  /-- It is no tablet event. -/
  event : penChange event = none
  /-- The event numbers of the pen stay. -/
  numbers : after.penEventNumber = before.penEventNumber

/-- Taking over the repeat changes no event number. -/
theorem armRepeat_penEventNumber (state : InputState Point) (key : UInt8) (packet : Packet) :
    (armRepeat state key packet).penEventNumber = state.penEventNumber := by
  unfold armRepeat
  split
  · split <;> rfl
  · rfl

/-- A key packet. -/
theorem keyboard_penless {state next : InputState Point} {packet : Packet} {event : Event Point}
    (made : keyboard state packet = .ok (event, next)) : Penless event state next := by
  have none : penChange event = none := by
    unfold keyboard at made
    simp only at made
    split_ifs at made
    all_goals
      obtain ⟨rfl, _⟩ := Prod.mk.inj (Except.ok.inj made)
      rfl
  obtain ⟨key, ⟨_, _, rfl⟩ | ⟨_, _, rfl⟩ | ⟨_, _, rfl⟩⟩ := keyboard_next made
  · exact ⟨none, rfl⟩
  · exact ⟨none, rfl⟩
  · refine ⟨none, ?_⟩
    unfold pressKey
    simp only
    split
    · rfl
    · exact armRepeat_penEventNumber _ key packet

/-- A key or mouse packet whose event can be made. -/
theorem createEvent_penless {state next : InputState Point} {packet : Packet}
    {event : Event Point} (made : createEvent setup state packet = .ok (event, next)) :
    Penless event state next := by
  unfold createEvent at made
  split at made
  · unfold absoluteMouse at made
    simp only at made
    split_ifs at made
    obtain ⟨rfl, rfl⟩ := Prod.mk.inj (Except.ok.inj made)
    exact ⟨rfl, rfl⟩
  · unfold mouseButton at made
    simp only at made
    split_ifs at made
    all_goals
      obtain ⟨rfl, rfl⟩ := Prod.mk.inj (Except.ok.inj made)
      exact ⟨rfl, rfl⟩
  · unfold scroll at made
    simp only at made
    split_ifs at made
    all_goals
      obtain ⟨rfl, rfl⟩ := Prod.mk.inj (Except.ok.inj made)
      exact ⟨rfl, rfl⟩
  · unfold scroll at made
    simp only at made
    split_ifs at made
    all_goals
      obtain ⟨rfl, rfl⟩ := Prod.mk.inj (Except.ok.inj made)
      exact ⟨rfl, rfl⟩
  · exact keyboard_penless made
  · cases made

/-- A key or mouse packet, with the time of its event. -/
theorem createType_penless {state next : InputState Point} {packet : Packet}
    {event : Event Point} (made : createType setup state packet = .ok (event, next)) :
    Penless event state next := by
  unfold createType at made
  split_ifs at made
  split at made
  · rename_i event next created
    obtain ⟨rfl, rfl⟩ := Prod.mk.inj (Except.ok.inj made)
    have penless := createEvent_penless created
    exact ⟨penless.event, penless.numbers⟩
  · cases made

/-- The sink takes an event of a key or of the mouse, or refuses it. -/
theorem Mapper.offer_penFollows {mapper : Mapper Point} {event : Event Point}
    {next : InputState Point} (follows : PenFollows mapper)
    (penless : Penless event mapper.state next) : PenFollows (mapper.offer (event, next)).2 := by
  unfold Mapper.offer
  cases mapper.answer with
  | failed => exact ⟨follows.trace, follows.tool, follows.away⟩
  | denied => exact ⟨follows.trace, follows.tool, follows.away⟩
  | accepted => exact follows.other penless.event rfl rfl penless.numbers

/-- A packet or tick. -/
theorem consume_penFollows {mapper : Mapper Point} (arrival : Arrival)
    (follows : PenFollows mapper) : PenFollows (consume setup mapper arrival).2 := by
  cases arrival with
  | tick time =>
    show PenFollows (repeatAtTime mapper time).2
    unfold repeatAtTime
    split_ifs
    · exact follows
    · exact follows
    · exact follows
    · exact Mapper.offer_penFollows follows ⟨rfl, rfl⟩
  | packet data =>
    show PenFollows (consumeType setup mapper data).2
    unfold consumeType consumeKeyOrMouse
    split_ifs
    · exact Mapping.result_keeps follows (consumePen_triple data)
    · split
      · exact follows
      · rename_i made created
        exact Mapper.offer_penFollows follows (createType_penless created)

/-- In every run the delivered events show the pen the mapper has stored. -/
theorem penFollows {mapper : Mapper Point} (reachable : (system setup).Reachable mapper) :
    PenFollows mapper := by
  refine Transition.System.Preserves.reachable ?_ ?_ reachable
  · intro before arrival after follows stepped
    obtain rfl := Option.some.inj stepped
    exact consume_penFollows arrival follows
  · rintro state ⟨answers, rfl⟩
    have away : penHeld (start setup answers).pen (start setup answers).state = .away := by
      simp only [penHeld, start, pressed_zero]
      rfl
    exact ⟨congrArg some away.symm, fun near => Bool.noConfusion near, fun _ => ⟨rfl, rfl⟩⟩

end Plank.Input
