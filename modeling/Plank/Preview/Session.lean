import Plank.Transition.System

/-!
# The preview session
-/

namespace Plank.Preview

/-- `PLANKMacPreviewState`. -/
inductive PreviewState where
  /-- The endpoint exists. -/
  | prepared
  /-- The endpoint was started. -/
  | connecting
  /-- The capture has started. -/
  | streaming
  /-- A stop has begun. -/
  | stopping
  /-- Everything is released. -/
  | stopped
  deriving DecidableEq, Repr

end Plank.Preview
