import Mathlib

/-!
# Optimistic reads

A cell passes through versions in order. A reader that copies from it without a lock looks at the
version before and after: what it copied is good for the first version as long as the cell is still
there, and a cell that has left a version does not come back to it.
-/

namespace Plank.Queue

variable {Version : Type*} [PartialOrder Version] {current later version : Version}
  {fact further : Prop}

/-- What is known of a copy taken at a version, now that the cell is at another. -/
def Seen (current version : Version) (fact : Prop) : Prop :=
  version ≤ current ∧ (current = version → fact)

namespace Seen

/-- The cell moves on. -/
theorem advance (seen : Seen current version fact) (moves : current ≤ later) :
    Seen later version fact :=
  ⟨le_trans seen.1 moves, fun same =>
    seen.2 (le_antisymm (le_of_le_of_eq moves same) seen.1)⟩

/-- More is copied. -/
theorem copy (seen : Seen current version fact) (copied : current = version → fact → further) :
    Seen current version further :=
  ⟨seen.1, fun same => copied same (seen.2 same)⟩

/-- The second look finds the same version. -/
theorem valid (seen : Seen version version fact) : fact := seen.2 rfl

end Seen

/-- Stamps in the order a cell takes them: a version in progress is stamped one above its double,
and comes before the same version complete. -/
def stampOrder (stamp : Nat) : Nat := if stamp % 2 = 1 then stamp - 2 else stamp

/-- A complete version has its own place. -/
theorem stampOrder_eq {stamp version : Nat} (positive : 0 < version) :
    stampOrder stamp = 2 * version ↔ stamp = 2 * version := by
  unfold stampOrder
  split <;> omega

/-- A version in progress comes right before the complete one. -/
theorem stampOrder_open (version : Nat) : stampOrder (2 * version + 1) = 2 * version - 1 := by
  unfold stampOrder
  split <;> omega

end Plank.Queue
