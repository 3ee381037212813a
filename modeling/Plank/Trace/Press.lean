import Plank.Transition.System

/-!
# Traces of presses and releases

A trace over keys that are pressed, held and released, each press with a tag. The trace is well
formed when it is a run of the system below: a key that is down is not pressed again, and a hold or
a release carries the tag of its press. The last state of the run is what the trace still holds.
-/

namespace Plank.Trace

open Transition (System)

/-- What happens to a key. -/
inductive Press (Key Tag : Type) where
  /-- It goes down. -/
  | down (key : Key) (tag : Tag)
  /-- It is used while it is down. -/
  | hold (key : Key) (tag : Tag)
  /-- It goes up. -/
  | up (key : Key) (tag : Tag)
  deriving DecidableEq, Repr

namespace Press

variable {Key Tag : Type} [DecidableEq Key] [DecidableEq Tag]

/-- The keys that are down, each with the tag of its press. -/
abbrev Held (Key Tag : Type) := Key → Option Tag

/-- Presses and releases in turn. -/
def system : System (Held Key Tag) (Press Key Tag) where
  initial held := held = fun _ => none
  step held
    | .down key tag =>
      if held key = none then some (Function.update held key (some tag)) else none
    | .hold key tag => if held key = some tag then some held else none
    | .up key tag =>
      if held key = some tag then some (Function.update held key none) else none

/-- The presses and releases of one key: whether it goes down, and the tag. -/
def edge (key : Key) : Press Key Tag → Option (Bool × Tag)
  | .down other tag => if other = key then some (true, tag) else none
  | .hold _ _ => none
  | .up other tag => if other = key then some (false, tag) else none

/-- A press with its release. -/
def pair (tag : Tag) : List (Bool × Tag) := [(true, tag), (false, tag)]

/-- The press of a key that is still down. -/
def pending (held : Option Tag) : List (Bool × Tag) := held.toList.map fun tag => (true, tag)

/-- What is held moves as the press says, and stays where nothing was pressed. -/
def Moves (press : Option (Press Key Tag)) (before after : Held Key Tag) : Prop :=
  system.run before press.toList = some after

/-- Nothing pressed, nothing moved. -/
theorem Moves.rest {held : Held Key Tag} : Moves none held held := rfl

/-- A key that is up goes down. -/
theorem step_down {held : Held Key Tag} {key : Key} (free : held key = none) (tag : Tag) :
    system.step held (.down key tag) = some (Function.update held key (some tag)) := if_pos free

/-- A key that is down is used. -/
theorem step_hold {held : Held Key Tag} {key : Key} {tag : Tag} (down : held key = some tag) :
    system.step held (.hold key tag) = some held := if_pos down

/-- A key that is down goes up. -/
theorem step_up {held : Held Key Tag} {key : Key} {tag : Tag} (down : held key = some tag) :
    system.step held (.up key tag) = some (Function.update held key none) := if_pos down

/-- A press that moves what is held. -/
theorem Moves.of_step {press : Press Key Tag} {before after : Held Key Tag}
    (stepped : system.step before press = some after) : Moves (some press) before after :=
  Option.bind_eq_some_iff.mpr ⟨after, stepped, rfl⟩

omit [DecidableEq Key] [DecidableEq Tag] in
/-- One more event of a trace adds what it presses. -/
theorem filterMap_snoc {Event : Type} (press : Event → Option (Press Key Tag))
    (trace : List Event) (event : Event) :
    (trace ++ [event]).filterMap press = trace.filterMap press ++ (press event).toList := by
  cases made : press event <;> simp [made]

/-- One more event of a trace. -/
theorem Moves.run {Event : Type} {press : Event → Option (Press Key Tag)} {trace : List Event}
    {event : Event} {before after : Held Key Tag}
    (run : system.run (fun _ => none) (trace.filterMap press) = some before)
    (moves : Moves (press event) before after) :
    system.run (fun _ => none) ((trace ++ [event]).filterMap press) = some after := by
  rw [filterMap_snoc, System.run_append, run]
  exact moves

/-- In a system each of whose steps moves what is held as its label says, so does each run. -/
theorem Moves.project {State Action : Type} {whole : System State Action}
    {held : State → Held Key Tag} {press : Action → Option (Press Key Tag)}
    (steps : ∀ before action after, whole.step before action = some after →
      Moves (press action) (held before) (held after)) {before after : State}
    {actions : List Action} (run : whole.run before actions = some after) :
    system.run (held before) (actions.filterMap press) = some (held after) := by
  induction actions generalizing before with
  | nil =>
    obtain rfl := Option.some.inj run
    rfl
  | cons action rest ih =>
    obtain ⟨middle, stepped, remaining⟩ := Option.bind_eq_some_iff.mp run
    have split : (action :: rest).filterMap press =
        (press action).toList ++ rest.filterMap press := by
      cases made : press action <;> simp [made]
    have moves : system.run (held before) (press action).toList = some (held middle) :=
      steps before action middle stepped
    rw [split, System.run_append, moves]
    exact ih remaining

/-- Each step adds the edge it makes. -/
theorem step_edges {before after : Held Key Tag} {press : Press Key Tag}
    (stepped : system.step before press = some after) (key : Key) : ∃ tags : List Tag,
      pending (before key) ++ (press.edge key).toList =
        tags.flatMap pair ++ pending (after key) := by
  cases press with
  | down other tag =>
    obtain ⟨free, stepped⟩ := Option.ite_none_right_eq_some.mp stepped
    obtain rfl := Option.some.inj stepped
    by_cases same : other = key
    · subst same
      exact ⟨[], by simp [free, edge, pending]⟩
    · exact ⟨[], by simp [edge, same, Function.update_of_ne (Ne.symm same)]⟩
  | hold other tag =>
    obtain ⟨_, stepped⟩ := Option.ite_none_right_eq_some.mp stepped
    obtain rfl := Option.some.inj stepped
    exact ⟨[], by simp [edge]⟩
  | up other tag =>
    obtain ⟨held, stepped⟩ := Option.ite_none_right_eq_some.mp stepped
    obtain rfl := Option.some.inj stepped
    by_cases same : other = key
    · subst same
      exact ⟨[tag], by simp [held, edge, pending, pair]⟩
    · exact ⟨[], by simp [edge, same, Function.update_of_ne (Ne.symm same)]⟩

/-- In a well-formed trace the presses and releases of a key alternate, each release with the tag of
its press; a press that is left over is of a key still down. -/
theorem run_edges {before after : Held Key Tag} {trace : List (Press Key Tag)}
    (run : system.run before trace = some after) (key : Key) : ∃ tags : List Tag,
      pending (before key) ++ trace.filterMap (edge key) =
        tags.flatMap pair ++ pending (after key) := by
  induction trace generalizing before with
  | nil =>
    obtain rfl := Option.some.inj run
    exact ⟨[], by simp⟩
  | cons press rest ih =>
    obtain ⟨middle, stepped, remaining⟩ := Option.bind_eq_some_iff.mp run
    obtain ⟨first, one⟩ := step_edges stepped key
    obtain ⟨tags, more⟩ := ih remaining
    refine ⟨first ++ tags, ?_⟩
    have split : (press :: rest).filterMap (edge key) =
        (press.edge key).toList ++ rest.filterMap (edge key) := by
      cases made : edge key press <;> simp [made]
    calc pending (before key) ++ (press :: rest).filterMap (edge key)
        = (pending (before key) ++ (press.edge key).toList) ++ rest.filterMap (edge key) := by
          rw [split, List.append_assoc]
      _ = first.flatMap pair ++ (pending (middle key) ++ rest.filterMap (edge key)) := by
          rw [one, List.append_assoc]
      _ = (first ++ tags).flatMap pair ++ pending (after key) := by
          rw [more, List.flatMap_append, List.append_assoc]

end Press

end Plank.Trace
