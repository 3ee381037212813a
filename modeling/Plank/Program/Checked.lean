import Mathlib

/-!
# Checked arithmetic

A result of a 64-bit operation as the exact integer it stands for, where the operation does not
leave the range of its type: a computation with a result has not overflowed anywhere.
-/

namespace Plank

/-- A result without a sign, if it has not wrapped. -/
def unsigned (value : Int) : Option Int :=
  if 0 ≤ value ∧ value < 2 ^ 64 then some value else none

/-- A result with a sign, if it has not overflowed. -/
def signed (value : Int) : Option Int :=
  if -2 ^ 63 ≤ value ∧ value < 2 ^ 63 then some value else none

/-- A result in the range of the type without a sign is exact. -/
theorem unsigned_eq {value : Int} (low : 0 ≤ value) (high : value < 2 ^ 64) :
    unsigned value = some value := if_pos ⟨low, high⟩

/-- A result in the range of the type with a sign is exact. -/
theorem signed_eq {value : Int} (low : -2 ^ 63 ≤ value) (high : value < 2 ^ 63) :
    signed value = some value := if_pos ⟨low, high⟩

end Plank
