import Mathlib

/-!
# Parsed JSON

What a JSON parser gives: numbers apart from Booleans although they compare as 0 and 1, arrays, and
objects whose fields are looked up by name. A number comes with what it rounds to as a double.
-/

namespace Plank.Wire

/-- A parsed number. -/
structure JsonNumber where
  /-- Its value. -/
  value : ℚ
  /-- What it rounds to as a double, if that is finite. -/
  double : Option ℚ
  deriving DecidableEq

/-- A parsed value. -/
inductive Json where
  /-- `null`. -/
  | null
  /-- A Boolean. -/
  | bool (value : Bool)
  /-- A number. -/
  | number (value : JsonNumber)
  /-- A string. -/
  | string (value : String)
  /-- An array. -/
  | array (values : List Json)
  /-- An object. -/
  | object (fields : List (String × Json))

/-- The fields of an object. -/
abbrev JsonFields := List (String × Json)

namespace Json

/-- A whole number. -/
def int (value : Nat) : Json := .number ⟨value, some value⟩

/-- Whether a value is a number or a Boolean. -/
def isNumeric : Json → Bool
  | .number _ | .bool _ => true
  | _ => false

/-- Whether a value is a Boolean. -/
def isBool : Json → Bool
  | .bool _ => true
  | _ => false

mutual

/-- Equality of parsed values: a Boolean is equal to 0 or 1. -/
def isEqual : Json → Json → Bool
  | .null, .null => true
  | .bool left, .bool right => left == right
  | .bool left, .number right => right.value == if left then 1 else 0
  | .number left, .bool right => left.value == if right then 1 else 0
  | .number left, .number right => left.value == right.value
  | .string left, .string right => left == right
  | .array left, .array right => isEqualAll left right
  | .object left, .object right => left.length == right.length && isEqualFields left right
  | _, _ => false

/-- Equality of arrays. -/
def isEqualAll : List Json → List Json → Bool
  | [], [] => true
  | left :: lefts, right :: rights => isEqual left right && isEqualAll lefts rights
  | _, _ => false

/-- Whether each of these fields is equal in an object. -/
def isEqualFields : List (String × Json) → List (String × Json) → Bool
  | [], _ => true
  | (name, left) :: lefts, other =>
    (match other.lookup name with
      | none => false
      | some right => isEqual left right) && isEqualFields lefts other

end

/-- Only the same string is equal to a string. -/
theorem isEqual_string {value : Json} {text : String} :
    isEqual value (.string text) = true ↔ value = .string text := by
  cases value with
  | string other => simp [isEqual]
  | _ => simp [isEqual]

/-- A number equal to a number has its value. -/
theorem isEqual_number {left right : JsonNumber} :
    isEqual (.number left) (.number right) = true ↔ left.value = right.value := by
  simp [isEqual]

/-- A field is looked up before or after the values are changed. -/
theorem lookup_map (change : String → Json → Json) (fields : JsonFields) (name : String) :
    (fields.map fun field => (field.1, change field.1 field.2)).lookup name =
      (fields.lookup name).map (change name) := by
  induction fields with
  | nil => rfl
  | cons field fields ih =>
    obtain ⟨key, value⟩ := field
    rw [List.map_cons, List.lookup_cons, List.lookup_cons, ih]
    cases same : name == key with
    | false => rfl
    | true => rw [beq_iff_eq.mp same]; rfl

end Json

end Plank.Wire
