import Mathlib

/-!
# Labelled transition systems

A system has initial states and a partial step function: the label carries every choice the
environment makes, so a finite run is a list of labels and can be evaluated. Reachability,
the invariant rule and the simulation rule are stated once here for every model of the
development; none of them names a concrete system.
-/

namespace Plank.Transition

/-- Initial states and the partial effect of each label. -/
structure System (State Action : Type*) where
  /-- States a run may begin in. -/
  initial : State → Prop
  /-- Effect of one label; `none` where the label is not enabled. -/
  step : State → Action → Option State

namespace System

variable {State Action Spec : Type*} (system : System State Action)

/-- Some label leads from the first state to the second. -/
def Next (before after : State) : Prop := ∃ action, system.step before action = some after

/-- Finitely many steps lead from the first state to the second. -/
def Reaches : State → State → Prop := Relation.ReflTransGen system.Next

/-- Some run from an initial state ends here. -/
def Reachable (state : State) : Prop := ∃ first, system.initial first ∧ system.Reaches first state

/-- Effect of a list of labels, in order. -/
def run : State → List Action → Option State
  | state, [] => some state
  | state, action :: rest => (system.step state action).bind fun next => run next rest

/-- The same system with the labels a guard refuses removed. -/
def restrict (guard : State → Action → Bool) : System State Action where
  initial := system.initial
  step state action := if guard state action then system.step state action else none

/-- Every step from a state with the property leads to a state with the property. -/
def Preserves (property : State → Prop) : Prop :=
  ∀ before action after, property before → system.step before action = some after → property after

variable {system}

/-- An evaluated run is a sequence of steps. -/
theorem reaches_of_run {first last : State} {actions : List Action}
    (evaluated : system.run first actions = some last) : system.Reaches first last := by
  induction actions generalizing first with
  | nil =>
    obtain rfl := Option.some.inj evaluated
    exact .refl
  | cons action rest ih =>
    obtain ⟨next, stepped, remaining⟩ := Option.bind_eq_some_iff.mp evaluated
    exact .head ⟨action, stepped⟩ (ih remaining)

/-- Two runs in order are one run of the joined labels. -/
theorem run_append (first : State) (left right : List Action) :
    system.run first (left ++ right) =
      (system.run first left).bind fun middle => system.run middle right := by
  induction left generalizing first with
  | nil => rfl
  | cons action rest ih =>
    simp only [List.cons_append, run, Option.bind_assoc]
    congr 1
    funext next
    exact ih next

/-- An evaluated run from an initial state ends in a reachable state. -/
theorem reachable_of_run {first last : State} {actions : List Action}
    (start : system.initial first) (evaluated : system.run first actions = some last) :
    system.Reachable last := ⟨first, start, reaches_of_run evaluated⟩

/-- What follows a reachable state is reachable. -/
theorem Reachable.trans {before after : State} (reachable : system.Reachable before)
    (reaches : system.Reaches before after) : system.Reachable after := by
  obtain ⟨first, start, path⟩ := reachable
  exact ⟨first, start, Relation.ReflTransGen.trans path reaches⟩

/-- One more step from a reachable state. -/
theorem Reachable.step {before after : State} {action : Action}
    (reachable : system.Reachable before) (stepped : system.step before action = some after) :
    system.Reachable after := reachable.trans (.single ⟨action, stepped⟩)

/-- A preserved property holds along every run that begins with it. -/
theorem Preserves.reaches {property : State → Prop} (preserves : system.Preserves property)
    {before after : State} (holds : property before) (reaches : system.Reaches before after) :
    property after := by
  induction reaches with
  | refl => exact holds
  | tail _ next ih =>
    obtain ⟨action, stepped⟩ := next
    exact preserves _ action _ ih stepped

/-- A preserved property of the initial states holds in every reachable state. -/
theorem Preserves.reachable {property : State → Prop} (preserves : system.Preserves property)
    (start : ∀ state, system.initial state → property state) {state : State}
    (reachable : system.Reachable state) : property state := by
  obtain ⟨first, initial, path⟩ := reachable
  exact preserves.reaches (start first initial) path

/-- A property that every step from a reachable state keeps holds in every reachable state. -/
theorem Reachable.keeps {property : State → Prop}
    (steps : ∀ before action after, system.Reachable before → property before →
      system.step before action = some after → property after)
    (start : ∀ state, system.initial state → property state) {state : State}
    (reachable : system.Reachable state) : property state := by
  obtain ⟨first, initial, path⟩ := reachable
  induction path with
  | refl => exact start first initial
  | tail path next ih =>
    obtain ⟨action, stepped⟩ := next
    exact steps _ action _ ⟨first, initial, path⟩ ih stepped

/-- The same extension when a step respects the relation only from reachable states. -/
theorem Reachable.relation {relation : State → State → Prop} (refl : ∀ state, relation state state)
    (trans : ∀ a b c, relation a b → relation b c → relation a c)
    (steps : ∀ before action after, system.Reachable before →
      system.step before action = some after → relation before after) {before after : State}
    (reachable : system.Reachable before) (reaches : system.Reaches before after) :
    relation before after := by
  induction reaches with
  | refl => exact refl _
  | tail path next ih =>
    obtain ⟨action, stepped⟩ := next
    exact trans _ _ _ ih (steps _ action _ (reachable.trans path) stepped)

/-- A reachable state of a restricted system is reachable in the system itself. -/
theorem Reachable.of_restrict {guard : State → Action → Bool} {state : State}
    (reachable : (system.restrict guard).Reachable state) : system.Reachable state := by
  obtain ⟨first, start, path⟩ := reachable
  refine ⟨first, start, Relation.ReflTransGen.mono ?_ _ _ path⟩
  rintro before after ⟨action, stepped⟩
  simp only [restrict, Option.ite_none_right_eq_some] at stepped
  exact ⟨action, stepped.2⟩

/-- Forward simulation: a relation that holds initially and that every concrete step
re-establishes after finitely many abstract steps relates each reachable concrete state to an
abstract state the specification reaches. -/
theorem simulation {related : State → Spec → Prop} {specInitial : Spec → Prop}
    {specNext : Spec → Spec → Prop}
    (start : ∀ state, system.initial state → ∃ spec, specInitial spec ∧ related state spec)
    (steps : ∀ before action after spec, related before spec →
      system.step before action = some after →
      ∃ next, Relation.ReflTransGen specNext spec next ∧ related after next)
    {state : State} (reachable : system.Reachable state) :
    ∃ first spec, specInitial first ∧ Relation.ReflTransGen specNext first spec ∧
      related state spec := by
  obtain ⟨begin, initial, path⟩ := reachable
  obtain ⟨first, specStart, begun⟩ := start begin initial
  induction path with
  | refl => exact ⟨first, first, specStart, .refl, begun⟩
  | tail _ next ih =>
    obtain ⟨action, stepped⟩ := next
    obtain ⟨first, spec, specStart, reached, holds⟩ := ih
    obtain ⟨final, further, again⟩ := steps _ action _ spec holds stepped
    exact ⟨first, final, specStart, reached.trans further, again⟩

end System

end Plank.Transition
