import Mathlib

/-!
# Programs that may stop early

A program reads and changes a state, and ends with a result or stops early with an error, in either
case with the state it left behind. A triple says that from each state with its first property the
program leaves a state with the second when it ends, and with the third when it stops early.
-/

namespace Plank

/-- A program over a state, with an early way out. -/
def Program (State Error α : Type) : Type := State → Except Error α × State

namespace Program

variable {State Error α β ι : Type}

instance : Monad (Program State Error) where
  pure value state := (.ok value, state)
  bind program next state :=
    match program state with
    | (.ok value, after) => next value after
    | (.error error, after) => (.error error, after)

/-- The state. -/
def read : Program State Error State := fun state => (.ok state, state)

/-- Change the state. -/
def modify (change : State → State) : Program State Error Unit := fun state =>
  (.ok (), change state)

/-- Stop early. -/
def stop (error : Error) : Program State Error α := fun state => (.error error, state)

/-- The state a program leaves, whether it ends or stops early. -/
def after (program : Program State Error α) (state : State) : State := (program state).2

/-- Run a program as a method: its caller goes on also when it stops early. -/
def method (program : Program State Error α) : Program State Error Unit := modify program.after

/-- Run a program for each element in order, each from the value the one before it returned. -/
def forEach (body : ι → β → Program State Error β) : List ι → β → Program State Error β
  | [], value => pure value
  | element :: rest, value => do
    let next ← body element value
    forEach body rest next

/-- A program that begins with a reading of the state. -/
theorem read_bind (next : State → Program State Error α) (state : State) :
    (read >>= next) state = next state state := rfl

/-- From a state with the first property, the program ends with the second or stops early with the
third. -/
def Triple (pre : State → Prop) (program : Program State Error α) (post : α → State → Prop)
    (fail : Error → State → Prop) : Prop :=
  ∀ state, pre state →
    match program state with
    | (.ok value, after) => post value after
    | (.error error, after) => fail error after

variable {pre : State → Prop} {post : α → State → Prop} {fail : Error → State → Prop}

/-- A value is returned at once. -/
theorem triple_pure {value : α} (holds : ∀ state, pre state → post value state) :
    Triple pre (pure value : Program State Error α) post fail := holds

/-- The state is returned as it is. -/
theorem triple_read {post : State → State → Prop}
    (holds : ∀ state, pre state → post state state) :
    Triple pre (read : Program State Error State) post fail := holds

/-- The state is changed. -/
theorem triple_modify {change : State → State} {post : Unit → State → Prop}
    (holds : ∀ state, pre state → post () (change state)) :
    Triple pre (modify change : Program State Error Unit) post fail := holds

/-- A program begins with a reading of the state: the rest runs from there. -/
theorem triple_fetch {next : State → Program State Error α}
    (holds : ∀ state, pre state → Triple (fun current => current = state) (next state) post fail) :
    Triple pre (read >>= next) post fail := fun state first => holds state first state rfl

/-- The state is changed before the rest. -/
theorem triple_change {change : State → State} {next : Program State Error α}
    (middle : State → Prop) (holds : ∀ state, pre state → middle (change state))
    (rest : Triple middle next post fail) :
    Triple pre (modify change >>= fun _ => next) post fail :=
  fun state first => rest (change state) (holds state first)

/-- A program that stops at once leaves the state alone. -/
theorem triple_stop {error : Error} (holds : ∀ state, pre state → fail error state) :
    Triple pre (stop error : Program State Error α) post fail := holds

/-- Two programs in order. -/
theorem triple_bind {program : Program State Error α} {next : α → Program State Error β}
    (middle : α → State → Prop) {post : β → State → Prop}
    (first : Triple pre program middle fail)
    (second : ∀ value, Triple (middle value) (next value) post fail) :
    Triple pre (program >>= next) post fail := by
  intro state holds
  have ended := first state holds
  show match (match program state with
    | (.ok value, after) => next value after
    | (.error error, after) => (.error error, after)) with
    | (.ok value, after) => post value after
    | (.error error, after) => fail error after
  cases outcome : program state with
  | mk result after =>
    rw [outcome] at ended
    cases result with
    | error error => exact ended
    | ok value => exact second value after ended

/-- A stronger property before, a weaker one after. -/
theorem Triple.imp {program : Program State Error α} {before : State → Prop}
    {after : α → State → Prop} {failed : Error → State → Prop}
    (triple : Triple pre program post fail) (first : ∀ state, before state → pre state)
    (last : ∀ value state, post value state → after value state)
    (early : ∀ error state, fail error state → failed error state) :
    Triple before program after failed := by
  intro state holds
  have ended := triple state (first state holds)
  cases outcome : program state with
  | mk result after =>
    rw [outcome] at ended
    cases result with
    | error error => exact early error after ended
    | ok value => exact last value after ended

/-- What holds after a program, whether it ends or stops early. -/
theorem Triple.after {program : Program State Error α} (triple : Triple pre program post fail)
    {last : State → Prop} (ended : ∀ value state, post value state → last state)
    (stopped : ∀ error state, fail error state → last state) {state : State} (holds : pre state) :
    last (program.after state) := by
  have outcome := triple state holds
  unfold Program.after
  cases reached : program state with
  | mk result final =>
    rw [reached] at outcome
    cases result with
    | error error => exact stopped error final outcome
    | ok value => exact ended value final outcome

/-- A fact beside the property before. -/
theorem triple_given {given : Prop} {program : Program State Error α}
    (holds : given → Triple pre program post fail) :
    Triple (fun state => given ∧ pre state) program post fail :=
  fun state ⟨fact, first⟩ => holds fact state first

/-- A choice between two programs. -/
theorem triple_ite {condition : Prop} [Decidable condition]
    {left right : Program State Error α}
    (holds : condition → Triple pre left post fail)
    (fails : ¬condition → Triple pre right post fail) :
    Triple pre (if condition then left else right) post fail := by
  by_cases taken : condition
  · rw [if_pos taken]
    exact holds taken
  · rw [if_neg taken]
    exact fails taken

/-- A loop keeps what each of its rounds keeps, from the elements still to come. -/
theorem triple_forEach {body : ι → β → Program State Error β}
    (invariant : List ι → β → State → Prop)
    (round : ∀ element rest value,
      Triple (invariant (element :: rest) value) (body element value)
        (fun next => invariant rest next) fail) (elements : List ι) (value : β) :
    Triple (invariant elements value) (forEach body elements value)
      (fun last => invariant [] last) fail := by
  induction elements generalizing value with
  | nil => exact triple_pure fun _ holds => holds
  | cons element rest ih => exact triple_bind _ (round element rest value) ih

/-- The program keeps a property, whether it ends or stops early. -/
def Keeps (keeps : State → Prop) (program : Program State Error α) : Prop :=
  Triple keeps program (fun _ => keeps) (fun _ => keeps)

variable {keeps : State → Prop}

/-- What a program keeps holds after it. -/
theorem Keeps.after {program : Program State Error α} (kept : Keeps keeps program) {state : State}
    (holds : keeps state) : keeps (program.after state) :=
  Triple.after kept (fun _ _ => id) (fun _ _ => id) holds

/-- A method keeps what its program keeps. -/
theorem keeps_method {program : Program State Error α} (kept : Keeps keeps program) :
    Keeps keeps (method program) := triple_modify fun _ holds => kept.after holds

/-- A value changes nothing. -/
theorem keeps_pure (value : α) : Keeps keeps (pure value : Program State Error α) :=
  triple_pure fun _ holds => holds

/-- Reading changes nothing. -/
theorem keeps_read : Keeps keeps (read : Program State Error State) :=
  triple_read fun _ holds => holds

/-- Stopping changes nothing. -/
theorem keeps_stop (error : Error) : Keeps keeps (stop error : Program State Error α) :=
  triple_stop fun _ holds => holds

/-- Two programs in order. -/
theorem keeps_bind {program : Program State Error α} {next : α → Program State Error β}
    (first : Keeps keeps program) (second : ∀ value, Keeps keeps (next value)) :
    Keeps keeps (program >>= next) := triple_bind _ first second

/-- A choice between two programs. -/
theorem keeps_ite {condition : Prop} [Decidable condition] {left right : Program State Error α}
    (holds : Keeps keeps left) (fails : Keeps keeps right) :
    Keeps keeps (if condition then left else right) :=
  triple_ite (fun _ => holds) fun _ => fails

/-- A loop. -/
theorem keeps_forEach {body : ι → β → Program State Error β}
    (round : ∀ element value, Keeps keeps (body element value)) (elements : List ι) (value : β) :
    Keeps keeps (forEach body elements value) :=
  triple_forEach (fun _ _ => keeps) (fun element _ value => round element value) elements value

end Program

end Plank
