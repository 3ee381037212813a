import Mathlib

/-!
# A circular buffer that leaves nothing behind

Cells of an array hold a window that begins at a head and wraps at the end. Appending writes the
cell behind the window; dropping blanks the cells it passes. A tidy buffer is blank outside its
window, and its window behaves as a list.
-/

namespace Plank.Queue

/-- An array with the window it holds. -/
structure Circular (α : Type) where
  /-- The cells. -/
  cells : Nat → α
  /-- Where the window begins. -/
  head : Nat := 0
  /-- How long it is. -/
  count : Nat := 0

namespace Circular

variable {α : Type} (size : Nat) (blank : α)

/-- The cell at this distance from the head. -/
def slot (ring : Circular α) (index : Nat) : Nat := (ring.head + index) % size

/-- The element at this distance from the head. -/
def get (ring : Circular α) (index : Nat) : α := ring.cells (ring.slot size index)

/-- The window, first element first. -/
def window (ring : Circular α) : List α := (List.range ring.count).map (ring.get size)

/-- Write one cell. -/
def set (ring : Circular α) (cell : Nat) (value : α) : Circular α :=
  { ring with cells := fun other => if other = cell then value else ring.cells other }

/-- Write the cell behind the window. -/
def put (ring : Circular α) (value : α) : Circular α :=
  { ring.set (ring.slot size ring.count) value with count := ring.count + 1 }

/-- Write so many cells behind the window. -/
def putAll (ring : Circular α) (values : Nat → α) : Nat → Circular α
  | 0 => ring
  | index + 1 => (putAll ring values index).put size (values index)

/-- Blank the first cells of the window. -/
def wipe (ring : Circular α) : Nat → Circular α
  | 0 => ring
  | index + 1 => (wipe ring index).set (ring.slot size index) blank

/-- Blank the first cells of the window and move past them. -/
def drop (ring : Circular α) (count : Nat) : Circular α :=
  { ring.wipe size blank count with
    head := (ring.head + count) % size
    count := ring.count - count }

/-- The window fits, and everything else is blank. -/
structure Tidy (ring : Circular α) : Prop where
  /-- The head is a cell. -/
  head : ring.head < size
  /-- The window fits. -/
  count : ring.count ≤ size
  /-- Everything else is blank. -/
  blank : ∀ cell < size, (∀ index < ring.count, ring.slot size index ≠ cell) →
    ring.cells cell = blank

variable {size : Nat} {blank : α} {ring : Circular α}

/-- Two places of the window have different cells. -/
theorem slot_ne {left right : Nat} (order : left < right) (near : right < left + size) :
    ring.slot size left ≠ ring.slot size right := by
  intro same
  have congruent : ring.head + left ≡ ring.head + right [MOD size] := same
  have distance := (Nat.modEq_iff_dvd' (by omega)).mp congruent
  have large := Nat.le_of_dvd (by omega) distance
  omega

/-- Nothing is held in a fresh array. -/
theorem Tidy.fresh (positive : 0 < size) : Tidy size blank ⟨fun _ => blank, 0, 0⟩ :=
  ⟨positive, Nat.zero_le _, fun _ _ _ => rfl⟩

/-- The window has as many elements as it counts. -/
@[simp] theorem length_window (ring : Circular α) : (ring.window size).length = ring.count := by
  simp [window]

/-- The elements of the window by their place. -/
theorem getElem_window {index : Nat} (inside : index < (ring.window size).length) :
    (ring.window size)[index] = ring.get size index := by
  simp [window]

/-- Appending adds one element to the window. -/
theorem window_put (room : ring.count < size) (value : α) :
    (ring.put size value).window size = ring.window size ++ [value] := by
  apply List.ext_getElem
  · simp [put]
  · intro index left right
    have inside : index < ring.count + 1 := by simpa [put] using left
    rw [getElem_window]
    rcases Nat.lt_succ_iff_lt_or_eq.mp inside with earlier | rfl
    · rw [List.getElem_append_left (by simpa using earlier), getElem_window]
      exact if_neg (slot_ne earlier (by omega))
    · rw [List.getElem_append_right (by simp)]
      simp only [length_window, Nat.sub_self, List.getElem_cons_zero]
      exact if_pos rfl

/-- Appending keeps a buffer tidy while there is room. -/
theorem Tidy.put (tidy : Tidy size blank ring) (room : ring.count < size) (value : α) :
    Tidy size blank (ring.put size value) where
  head := tidy.head
  count := room
  blank cell inside outside := by
    have last := outside ring.count (Nat.lt_succ_self _)
    have other : cell ≠ ring.slot size ring.count := fun same => last same.symm
    show (if cell = ring.slot size ring.count then value else ring.cells cell) = blank
    rw [if_neg other]
    exact tidy.blank cell inside fun index earlier => outside index (Nat.lt_succ_of_lt earlier)

/-- How much is held after appending. -/
theorem count_putAll (values : Nat → α) (added : Nat) :
    (ring.putAll size values added).count = ring.count + added := by
  induction added with
  | zero => rfl
  | succ added ih =>
    show (ring.putAll size values added).count + 1 = ring.count + (added + 1)
    rw [ih]
    rfl

/-- Appending while there is room. -/
theorem Tidy.putAll (tidy : Tidy size blank ring) (values : Nat → α) {added : Nat}
    (room : ring.count + added ≤ size) :
    Tidy size blank (ring.putAll size values added) ∧
      (ring.putAll size values added).window size =
        ring.window size ++ (List.range added).map values := by
  induction added with
  | zero => exact ⟨tidy, by simp [Circular.putAll]⟩
  | succ added ih =>
    obtain ⟨before, window⟩ := ih (by omega)
    have less : (ring.putAll size values added).count < size := by
      rw [count_putAll]
      omega
    refine ⟨before.put less _, ?_⟩
    show ((ring.putAll size values added).put size (values added)).window size = _
    rw [window_put less, window, List.range_succ, List.map_append, List.append_assoc]
    rfl

/-- What a cell holds after blanking. -/
theorem cells_wipe (wiped cell : Nat) : (ring.wipe size blank wiped).cells cell =
    if ∃ index < wiped, ring.slot size index = cell then blank else ring.cells cell := by
  induction wiped with
  | zero => simp [wipe]
  | succ wiped ih =>
    show (if cell = ring.slot size wiped then blank else
      (ring.wipe size blank wiped).cells cell) = _
    rw [ih]
    by_cases last : cell = ring.slot size wiped
    · rw [if_pos last, if_pos ⟨wiped, Nat.lt_succ_self _, last.symm⟩]
    · rw [if_neg last]
      refine if_congr ⟨?_, ?_⟩ rfl rfl
      · rintro ⟨index, less, same⟩
        exact ⟨index, Nat.lt_succ_of_lt less, same⟩
      · rintro ⟨index, less, same⟩
        rcases Nat.lt_succ_iff_lt_or_eq.mp less with earlier | rfl
        · exact ⟨index, earlier, same⟩
        · exact absurd same.symm last

/-- The places behind what is dropped. -/
theorem slot_drop (dropped index : Nat) :
    (ring.drop size blank dropped).slot size index = ring.slot size (dropped + index) := by
  simp [slot, drop, Nat.add_assoc]

/-- Dropping takes the first elements off the window. -/
theorem Tidy.window_drop (tidy : Tidy size blank ring) {dropped : Nat}
    (available : dropped ≤ ring.count) :
    (ring.drop size blank dropped).window size = (ring.window size).drop dropped := by
  have room := tidy.count
  apply List.ext_getElem
  · simp [drop]
  · intro index left right
    have inside : index < ring.count - dropped := by simpa [drop] using left
    rw [getElem_window, List.getElem_drop, getElem_window]
    unfold get
    rw [slot_drop]
    show (ring.wipe size blank dropped).cells _ = _
    rw [cells_wipe, if_neg]
    rintro ⟨other, less, same⟩
    exact absurd same (slot_ne (by omega) (by omega))

/-- Dropping leaves a tidy buffer. -/
theorem Tidy.drop (tidy : Tidy size blank ring) {dropped : Nat} (available : dropped ≤ ring.count) :
    Tidy size blank (ring.drop size blank dropped) where
  head := Nat.mod_lt _ (Nat.lt_of_le_of_lt (Nat.zero_le _) tidy.head)
  count := Nat.le_trans (Nat.sub_le _ _) tidy.count
  blank cell inside outside := by
    show (ring.wipe size blank dropped).cells cell = blank
    rw [cells_wipe]
    split
    · rfl
    · next kept =>
      refine tidy.blank cell inside fun index less same => ?_
      by_cases first : index < dropped
      · exact kept ⟨index, first, same⟩
      · have left : index - dropped < ring.count - dropped := by omega
        refine outside (index - dropped) left ?_
        rw [slot_drop, Nat.add_sub_cancel' (Nat.le_of_not_lt first)]
        exact same

/-- An empty tidy buffer may begin anywhere. -/
theorem Tidy.rewind (tidy : Tidy size blank ring) (empty : ring.count = 0) :
    Tidy size blank { ring with head := 0 } where
  head := Nat.lt_of_le_of_lt (Nat.zero_le _) tidy.head
  count := tidy.count
  blank cell inside _ := tidy.blank cell inside fun index less =>
    absurd less (by rw [empty]; exact Nat.not_lt_zero _)

end Circular

end Plank.Queue
