import Mathlib.Data.List.Basic

/-!
# Checked reading and writing of a buffer

Reading a run of elements of a buffer, and writing one over it in place: nothing comes of what is
not inside the buffer.
-/

namespace Plank

variable {α : Type}

/-- A number of elements from an offset on. -/
def span (buffer : List α) (offset count : Nat) : Option (List α) :=
  if offset + count ≤ buffer.length then some ((buffer.drop offset).take count) else none

/-- A buffer with elements written over it from an offset on. -/
def overwrite (buffer : List α) (offset : Nat) (written : List α) : Option (List α) :=
  if offset + written.length ≤ buffer.length then
    some (buffer.take offset ++ (written ++ buffer.drop (offset + written.length)))
  else none

/-- The difference of two sizes, if it has not wrapped. -/
def difference (more less : Nat) : Option Nat := if less ≤ more then some (more - less) else none

/-- What stands after a front is read there. -/
theorem span_append (front middle back : List α) {offset count : Nat}
    (starts : offset = front.length) (counts : count = middle.length) :
    span (front ++ (middle ++ back)) offset count = some middle := by
  subst starts counts
  unfold span
  rw [if_pos (by simp only [List.length_append]; omega), List.drop_left, List.take_left]

/-- What stands after a front is written over. -/
theorem overwrite_append (front middle back written : List α) {offset : Nat}
    (starts : offset = front.length) (same : written.length = middle.length) :
    overwrite (front ++ (middle ++ back)) offset written = some (front ++ (written ++ back)) := by
  subst starts
  unfold overwrite
  rw [if_pos (by simp only [List.length_append]; omega), List.take_left, ← List.drop_drop,
    List.drop_left, same, List.drop_left]

/-- A difference is taken where it does not wrap. -/
theorem difference_eq {more less : Nat} (ordered : less ≤ more) :
    difference more less = some (more - less) := if_pos ordered

end Plank
