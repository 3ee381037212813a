import Plank.Input.Mapper
import Plank.Trace.Press

/-!
# The pen as its events show it

What the delivered tablet events say of the pen: near or away, its tool, its tip and its buttons.
The law of the trace is a system of its own: a tool enters, its tip and its buttons go down and up,
and it leaves with nothing down.
-/

namespace Plank.Input

open Trace

variable {Point : Type}

/-! ### The law of the trace -/

/-- What a tablet event says of the pen. -/
inductive PenChange where
  /-- A tool comes near. -/
  | enter (tool : UInt8)
  /-- The tool leaves. -/
  | leave (tool : UInt8)
  /-- The tip of the tool goes down, moves while it is down or goes up. -/
  | tip (tool : UInt8) (press : Press Unit Nat)
  /-- A button of the tool goes down, the pen moves while it is down, or it goes up. -/
  | button (tool : UInt8) (press : Press (Fin 3) Nat)
  /-- The tool moves with its tip up. -/
  | hover (tool : UInt8)
  deriving DecidableEq

/-- The pen that tablet events show. -/
structure PenHeld where
  /-- A tool is near. -/
  near : Bool
  /-- The tool that came near last. -/
  tool : UInt8
  /-- The event number of the press of the tip, while it is down. -/
  tip : Press.Held Unit Nat
  /-- The event number of the press of each button that is down. -/
  buttons : Press.Held (Fin 3) Nat

namespace PenHeld

/-- No tool has come near. -/
def away : PenHeld := ⟨false, 0, fun _ => none, fun _ => none⟩

/-- Nothing of the pen is down. -/
def Released (held : PenHeld) : Prop := held.tip () = none ∧ ∀ index, held.buttons index = none

instance (held : PenHeld) : Decidable held.Released :=
  inferInstanceAs (Decidable (held.tip () = none ∧ ∀ index, held.buttons index = none))

/-- A tool enters when none is near and leaves with everything released; between the two, each tip
and button event is of the tool that is near, and goes by the law of presses. -/
def system : Transition.System PenHeld PenChange where
  initial held := held = away
  step held
    | .enter tool =>
      if held.near then none
      else if held.Released then some { held with near := true, tool := tool } else none
    | .leave tool =>
      if held.near ∧ held.tool = tool ∧ held.Released then some { held with near := false }
      else none
    | .tip tool press =>
      if held.near ∧ held.tool = tool then
        (Press.system.step held.tip press).map fun tip => { held with tip := tip }
      else none
    | .button tool press =>
      if held.near ∧ held.tool = tool then
        (Press.system.step held.buttons press).map fun buttons => { held with buttons := buttons }
      else none
    | .hover tool => if held.near ∧ held.tool = tool then some held else none

end PenHeld

/-- The press of the tip a change of the pen is. -/
def PenChange.tipPress : PenChange → Option (Press Unit Nat)
  | .tip _ press => some press
  | _ => none

/-- The press of a button a change of the pen is. -/
def PenChange.buttonPress : PenChange → Option (Press (Fin 3) Nat)
  | .button _ press => some press
  | _ => none

/-- Each change moves the tip and the buttons by the law of presses. -/
theorem PenHeld.step_presses {before after : PenHeld} {change : PenChange}
    (stepped : PenHeld.system.step before change = some after) :
    Press.Moves change.tipPress before.tip after.tip ∧
      Press.Moves change.buttonPress before.buttons after.buttons := by
  cases change with
  | tip tool press =>
    obtain ⟨_, stepped⟩ := Option.ite_none_right_eq_some.mp stepped
    obtain ⟨tip, moved, rfl⟩ := Option.map_eq_some_iff.mp stepped
    exact ⟨.of_step moved, .rest⟩
  | button tool press =>
    obtain ⟨_, stepped⟩ := Option.ite_none_right_eq_some.mp stepped
    obtain ⟨buttons, moved, rfl⟩ := Option.map_eq_some_iff.mp stepped
    exact ⟨.rest, .of_step moved⟩
  | enter tool =>
    obtain ⟨_, stepped⟩ := Option.ite_none_left_eq_some.mp stepped
    obtain ⟨_, stepped⟩ := Option.ite_none_right_eq_some.mp stepped
    obtain rfl := Option.some.inj stepped
    exact ⟨.rest, .rest⟩
  | leave tool =>
    obtain ⟨_, stepped⟩ := Option.ite_none_right_eq_some.mp stepped
    obtain rfl := Option.some.inj stepped
    exact ⟨.rest, .rest⟩
  | hover tool =>
    obtain ⟨_, stepped⟩ := Option.ite_none_right_eq_some.mp stepped
    obtain rfl := Option.some.inj stepped
    exact ⟨.rest, .rest⟩

/-- The tool a change of the pen is of. -/
def PenChange.tool : PenChange → UInt8
  | .enter tool | .leave tool | .tip tool _ | .button tool _ | .hover tool => tool

/-- Only an entry and a leave change whether a tool is near, and which. -/
theorem PenHeld.step_near {before after : PenHeld} {change : PenChange}
    (stepped : PenHeld.system.step before change = some after) (near : after.near = true) :
    change = .enter after.tool ∨
      (∀ tool, change ≠ .leave tool) ∧ before.near = true ∧ before.tool = after.tool := by
  cases change with
  | tip tool press =>
    obtain ⟨⟨was, _⟩, stepped⟩ := Option.ite_none_right_eq_some.mp stepped
    obtain ⟨tip, moved, rfl⟩ := Option.map_eq_some_iff.mp stepped
    exact .inr ⟨nofun, was, rfl⟩
  | button tool press =>
    obtain ⟨⟨was, _⟩, stepped⟩ := Option.ite_none_right_eq_some.mp stepped
    obtain ⟨buttons, moved, rfl⟩ := Option.map_eq_some_iff.mp stepped
    exact .inr ⟨nofun, was, rfl⟩
  | enter tool =>
    obtain ⟨_, stepped⟩ := Option.ite_none_left_eq_some.mp stepped
    obtain ⟨_, stepped⟩ := Option.ite_none_right_eq_some.mp stepped
    obtain rfl := Option.some.inj stepped
    exact .inl rfl
  | leave tool =>
    obtain ⟨_, stepped⟩ := Option.ite_none_right_eq_some.mp stepped
    obtain rfl := Option.some.inj stepped
    cases near
  | hover tool =>
    obtain ⟨⟨was, _⟩, stepped⟩ := Option.ite_none_right_eq_some.mp stepped
    obtain rfl := Option.some.inj stepped
    exact .inr ⟨nofun, was, rfl⟩

/-- A tool that is near has entered, and none has left since. -/
theorem PenHeld.run_entered {changes : List PenChange} {held : PenHeld}
    (run : PenHeld.system.run .away changes = some held) (near : held.near = true) :
    ∃ earlier later, changes = earlier ++ .enter held.tool :: later ∧
      ∀ tool, .leave tool ∉ later := by
  induction changes using List.reverseRecOn generalizing held with
  | nil =>
    obtain rfl := Option.some.inj run
    cases near
  | append_singleton rest change ih =>
    rw [Transition.System.run_append] at run
    obtain ⟨middle, running, last⟩ := Option.bind_eq_some_iff.mp run
    obtain ⟨final, stepped, ended⟩ := Option.bind_eq_some_iff.mp last
    obtain rfl := Option.some.inj ended
    obtain rfl | ⟨stays, was, same⟩ := PenHeld.step_near stepped near
    · exact ⟨rest, [], rfl, fun _ => List.not_mem_nil⟩
    · obtain ⟨earlier, later, rfl, none⟩ := ih running was
      refine ⟨earlier, later ++ [change], by simp [same], fun tool member => ?_⟩
      obtain member | member := List.mem_append.mp member
      · exact none tool member
      · exact stays tool (List.mem_singleton.mp member).symm

/-- Every change but an entry is of the tool that is near. -/
theorem PenHeld.step_tool {before after : PenHeld} {change : PenChange}
    (stepped : PenHeld.system.step before change = some after)
    (other : ∀ tool, change ≠ .enter tool) :
    before.near = true ∧ before.tool = change.tool := by
  cases change with
  | enter tool => exact absurd rfl (other tool)
  | leave tool =>
    obtain ⟨⟨near, tool, _⟩, _⟩ := Option.ite_none_right_eq_some.mp stepped
    exact ⟨near, tool⟩
  | tip tool press => exact (Option.ite_none_right_eq_some.mp stepped).1
  | button tool press => exact (Option.ite_none_right_eq_some.mp stepped).1
  | hover tool => exact (Option.ite_none_right_eq_some.mp stepped).1

/-! ### Reading the events -/

/-- The tool a proximity event names. -/
def toolOf (pointerType : Option Nat) : UInt8 := if pointerType = some 3 then 2 else 1

/-- The button a tablet event is of: by its kind, and by the number of the button that changed or,
where none did, of the button it was made with. -/
def penButtonOf (event : PenEvent Point) : Fin 3 :=
  match event.kind with
  | .otherMouseDown | .otherMouseUp => if event.buttonNumber = some 1 then 1 else 2
  | .otherMouseDragged => if event.button = 2 then 1 else 2
  | _ => 0

/-- What a tablet event says of the pen. -/
def penEventChange (event : PenEvent Point) : PenChange :=
  let number := event.number.getD 0
  match event.kind with
  | .tabletProximity =>
    if event.pen.near then .enter (toolOf event.pointerType)
    else .leave (toolOf event.pointerType)
  | .leftMouseDown => .tip event.pen.tool (.down () number)
  | .leftMouseUp => .tip event.pen.tool (.up () number)
  | .leftMouseDragged => .tip event.pen.tool (.hold () number)
  | .rightMouseDown | .otherMouseDown =>
    .button event.pen.tool (.down (penButtonOf event) number)
  | .rightMouseUp | .otherMouseUp => .button event.pen.tool (.up (penButtonOf event) number)
  | .rightMouseDragged | .otherMouseDragged =>
    .button event.pen.tool (.hold (penButtonOf event) number)
  | .mouseMoved => .hover event.pen.tool

/-- What an event says of the pen, if it is a tablet event. -/
def penChange : Event Point → Option PenChange
  | .pen event => some (penEventChange event)
  | _ => none

/-- A button of the pen is down. -/
def pressed (buttons : BitVec 3) (index : Fin 3) : Bool := buttons.getLsbD index

/-- The pen the mapper has stored. -/
def penHeld (pen : PenState Point) (state : InputState Point) : PenHeld where
  near := pen.near
  tool := pen.tool
  tip _ := if pen.down then some (state.penEventNumber 0) else none
  buttons index :=
    if pressed pen.buttons index then some (state.penEventNumber index.succ) else none

/-- The delivered events show the pen the mapper has stored. -/
structure PenFollows (mapper : Mapper Point) : Prop where
  /-- By the law of the trace. -/
  trace : PenHeld.system.run .away (mapper.trace.filterMap penChange) =
    some (penHeld mapper.pen mapper.state)
  /-- The tool that is near is one of the two. -/
  tool : mapper.pen.near = true → mapper.pen.tool = 1 ∨ mapper.pen.tool = 2
  /-- A pen that is away holds nothing. -/
  away : mapper.pen.near = false → mapper.pen.down = false ∧ mapper.pen.buttons = 0

end Plank.Input
