import Mathlib

/-!
# Searching for a pattern

The first place of a pattern in a list, and the pieces of a list between the places of a separator.
A place that was found stays the first one when more follows.
-/

namespace Plank.Wire

variable {α : Type}

/-- Puts an element in front of the first piece. -/
def onto (head : α) : List (List α) → List (List α)
  | [] => [[head]]
  | piece :: pieces => (head :: piece) :: pieces

/-- The pieces with a separator between each two. -/
def join (separator : List α) : List (List α) → List α
  | [] => []
  | [piece] => piece
  | piece :: second :: pieces => piece ++ (separator ++ join separator (second :: pieces))

/-- An element in front of the first piece is in front of the joined pieces. -/
theorem join_onto (separator : List α) (head : α) (pieces : List (List α)) :
    join separator (onto head pieces) = head :: join separator pieces := by
  match pieces with
  | [] => rfl
  | [_] => rfl
  | _ :: _ :: _ => rfl

variable [DecidableEq α]

/-- The first place where a pattern occurs. -/
def search (pattern : List α) : List α → Option Nat
  | [] => if pattern = [] then some 0 else none
  | head :: rest =>
    if pattern.isPrefixOf (head :: rest) then some 0 else (search pattern rest).map (· + 1)

/-- The pieces between the places of a separator, after the rest of a separator is passed over. -/
def componentsAfter (separator : List α) : Nat → List α → List (List α)
  | _, [] => [[]]
  | skip + 1, _ :: rest => componentsAfter separator skip rest
  | 0, head :: rest =>
    if separator.isPrefixOf (head :: rest) then
      [] :: componentsAfter separator (separator.length - 1) rest
    else onto head (componentsAfter separator 0 rest)

/-- The pieces between the places of a separator. -/
def components (separator text : List α) : List (List α) := componentsAfter separator 0 text

/-- A found pattern occurs at its place. -/
theorem search_occurs {pattern text : List α} {place : Nat}
    (found : search pattern text = some place) : pattern <+: text.drop place := by
  induction text generalizing place with
  | nil =>
    unfold search at found
    split at found
    case isTrue empty => exact empty ▸ List.nil_prefix
    case isFalse => cases found
  | cons head rest ih =>
    unfold search at found
    split at found
    case isTrue here =>
      obtain rfl := Option.some.inj found
      exact List.isPrefixOf_iff_prefix.mp here
    case isFalse =>
      obtain ⟨later, foundLater, rfl⟩ := Option.map_eq_some_iff.mp found
      exact ih foundLater

/-- A found pattern ends inside the text. -/
theorem search_inside {pattern text : List α} {place : Nat}
    (found : search pattern text = some place) : place + pattern.length ≤ text.length := by
  have short := (search_occurs found).length_le
  rw [List.length_drop] at short
  suffices place ≤ text.length by omega
  clear short
  induction text generalizing place with
  | nil =>
    unfold search at found
    split at found
    · obtain rfl := Option.some.inj found
      exact Nat.le_refl 0
    · cases found
  | cons head rest ih =>
    unfold search at found
    split at found
    · obtain rfl := Option.some.inj found
      exact Nat.zero_le _
    · obtain ⟨later, foundLater, rfl⟩ := Option.map_eq_some_iff.mp found
      exact Nat.succ_le_succ (ih foundLater)

/-- A pattern that was found is found at the same place when more follows. -/
theorem search_append {pattern text : List α} {place : Nat} (more : List α)
    (found : search pattern text = some place) : search pattern (text ++ more) = some place := by
  induction text generalizing place with
  | nil =>
    unfold search at found
    split at found
    case isTrue empty =>
      obtain rfl := Option.some.inj found
      subst empty
      cases more <;> rfl
    case isFalse => cases found
  | cons head rest ih =>
    have inside := search_inside found
    unfold search at found
    rw [List.cons_append]
    unfold search
    split at found
    case isTrue here =>
      obtain rfl := Option.some.inj found
      have longer : pattern <+: head :: (rest ++ more) :=
        (List.isPrefixOf_iff_prefix.mp here).trans (List.prefix_append (head :: rest) more)
      rw [if_pos (List.isPrefixOf_iff_prefix.mpr longer)]
    case isFalse here =>
      obtain ⟨later, foundLater, rfl⟩ := Option.map_eq_some_iff.mp found
      have elsewhere : ¬ pattern.isPrefixOf (head :: (rest ++ more)) = true := by
        intro longer
        apply here
        -- The pattern ends inside the text, so what follows cannot complete it.
        exact List.isPrefixOf_iff_prefix.mpr (List.prefix_of_prefix_length_le
          (List.isPrefixOf_iff_prefix.mp longer) (List.prefix_append (head :: rest) more)
          (by omega))
      rw [if_neg elsewhere, ih foundLater]
      rfl

/-- A text has a piece, also when it is empty. -/
theorem componentsAfter_ne_nil (separator : List α) (skip : Nat) (text : List α) :
    componentsAfter separator skip text ≠ [] := by
  induction text generalizing skip with
  | nil =>
    unfold componentsAfter
    exact List.cons_ne_nil _ _
  | cons head rest ih =>
    cases skip with
    | succ skip => exact ih skip
    | zero =>
      unfold componentsAfter
      split
      · exact List.cons_ne_nil _ _
      · unfold onto
        split <;> exact List.cons_ne_nil _ _

/-- The pieces of a text with the separator between them are the text. -/
theorem join_componentsAfter {separator : List α} (nonempty : separator ≠ []) (skip : Nat)
    (text : List α) : join separator (componentsAfter separator skip text) = text.drop skip := by
  induction text generalizing skip with
  | nil =>
    unfold componentsAfter
    rw [List.drop_nil]
    rfl
  | cons head rest ih =>
    cases skip with
    | succ skip => exact ih skip
    | zero =>
      unfold componentsAfter
      split
      case isTrue here =>
        obtain ⟨after, whole⟩ := List.isPrefixOf_iff_prefix.mp here
        have tail := ih (separator.length - 1)
        have rest_eq : rest.drop (separator.length - 1) = after := by
          have long : separator.length = separator.length - 1 + 1 :=
            (Nat.succ_pred_eq_of_pos (List.length_pos_iff.mpr nonempty)).symm
          calc
            rest.drop (separator.length - 1) = (head :: rest).drop separator.length := by
              rw [long, List.drop_succ_cons, ← long]
            _ = after := by rw [← whole, List.drop_left]
        rw [rest_eq] at tail
        obtain ⟨piece, pieces, some_⟩ :=
          List.exists_cons_of_ne_nil (componentsAfter_ne_nil separator (separator.length - 1) rest)
        rw [some_] at tail ⊢
        show [] ++ (separator ++ join separator (piece :: pieces)) = head :: rest
        rw [tail, List.nil_append, whole]
      case isFalse =>
        rw [join_onto, ih 0]
        rfl

end Plank.Wire
