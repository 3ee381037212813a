import Mathlib.Data.List.Basic

/-!
# Messages between processes

A dictionary is a list of named values, and a value has the type that its sender gave it: a reader
finds a value under a name only when the type is the one it asks for.
-/

namespace Plank.Wire

/-- A value of a message. -/
inductive XpcValue where
  /-- A number of 64 bits. -/
  | uint64 (value : UInt64)
  /-- A Boolean. -/
  | bool (value : Bool)
  /-- A value of another type. -/
  | other
  deriving DecidableEq, Repr

/-- The values of a dictionary. -/
abbrev XpcFields := List (String × XpcValue)

namespace XpcFields

/-- The number under a name. -/
def number (fields : XpcFields) (name : String) : Option UInt64 :=
  match fields.lookup name with
  | some (.uint64 value) => some value
  | _ => none

/-- The Boolean under a name. -/
def boolean (fields : XpcFields) (name : String) : Option Bool :=
  match fields.lookup name with
  | some (.bool value) => some value
  | _ => none

end XpcFields

end Plank.Wire
