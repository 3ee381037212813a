/-!
# Loops with checked turns

A loop takes turns until one of them leaves it. A turn that cannot go on, such as one that reads
outside its buffer, ends the loop without a result, and so does running out of turns: a loop that
has a result did neither.
-/

namespace Plank

/-- What a turn of a loop comes to. -/
inductive Turn (State Result : Type) where
  /-- The loop goes on from a state. -/
  | next (state : State)
  /-- The loop is left with a result. -/
  | leave (result : Result)
  deriving DecidableEq

variable {State Result : Type}

/-- A loop of at most a number of turns. -/
def loop (turn : State → Option (Turn State Result)) : Nat → State → Option Result
  | 0, _ => none
  | turns + 1, state =>
    match turn state with
    | some (.next after) => loop turn turns after
    | some (.leave result) => some result
    | none => none

/-- A loop whose turns keep an invariant and come nearer to its end leaves with a result that the
turns leave with. -/
theorem loop_ends {turn : State → Option (Turn State Result)} (keeps : State → Prop)
    (left : State → Nat) (proper : Result → Prop)
    (step : ∀ state, keeps state →
      (∃ result, turn state = some (.leave result) ∧ proper result) ∨
        ∃ after, turn state = some (.next after) ∧ keeps after ∧ left after < left state)
    {turns : Nat} {state : State} (start : keeps state) (enough : left state < turns) :
    ∃ result, loop turn turns state = some result ∧ proper result := by
  induction turns generalizing state with
  | zero => omega
  | succ turns ih =>
    obtain ⟨result, leaves, good⟩ | ⟨after, goes, kept, nearer⟩ := step state start
    · exact ⟨result, by simp only [loop, leaves], good⟩
    · obtain ⟨result, ends, good⟩ := ih kept (by omega)
      exact ⟨result, by simp only [loop, goes, ends], good⟩

/-- A loop whose turns keep what is still to be computed computes it. -/
theorem loop_eq {turn : State → Option (Turn State Result)} (keeps : State → Prop)
    (left : State → Nat) (value : State → Result)
    (step : ∀ state, keeps state →
      turn state = some (.leave (value state)) ∨
        ∃ after, turn state = some (.next after) ∧ keeps after ∧ left after < left state ∧
          value after = value state)
    {turns : Nat} {state : State} (start : keeps state) (enough : left state < turns) :
    loop turn turns state = some (value state) := by
  have computed : ∃ result, loop turn turns state = some result ∧ result = value state := by
    apply loop_ends (fun other => keeps other ∧ value other = value state) left _ _ ⟨start, rfl⟩
      enough
    rintro other ⟨kept, same⟩
    obtain leaves | ⟨after, goes, kept_after, nearer, same_after⟩ := step other kept
    · exact .inl ⟨value other, leaves, same⟩
    · exact .inr ⟨after, goes, ⟨kept_after, same_after.trans same⟩, nearer⟩
  obtain ⟨result, ends, rfl⟩ := computed
  exact ends

end Plank
