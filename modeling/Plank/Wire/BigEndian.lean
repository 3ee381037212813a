import Mathlib

/-!
# Big-endian numbers and headers

Reading and writing a number of a fixed count of bytes, most significant first. A header is a list of
numbers with their widths, one after the other; it is read by the offsets of its numbers.
-/

namespace Plank.Wire

/-- A number in a count of bytes, most significant first. -/
def writeBe : Nat → Nat → List UInt8
  | 0, _ => []
  | count + 1, value => UInt8.ofNat (value / 256 ^ count) :: writeBe count value

/-- The number in a byte list, most significant byte first. -/
def readBe : List UInt8 → Nat
  | [] => 0
  | byte :: rest => byte.toNat * 256 ^ rest.length + readBe rest

/-- The number in a count of bytes at an offset. -/
def word (bytes : List UInt8) (offset count : Nat) : Nat := readBe ((bytes.drop offset).take count)

/-- The bytes of a header: each number in its width. -/
def layout : List (Nat × Nat) → List UInt8
  | [] => []
  | (width, value) :: rest => writeBe width value ++ layout rest

/-- The numbers of a header of some widths that starts at an offset. -/
def readLayout (bytes : List UInt8) : Nat → List Nat → List (Nat × Nat)
  | _, [] => []
  | offset, width :: rest =>
    (width, word bytes offset width) :: readLayout bytes (offset + width) rest

/-- A number takes its count of bytes. -/
@[simp] theorem length_writeBe (count value : Nat) : (writeBe count value).length = count := by
  induction count with
  | zero => rfl
  | succ count ih => simp [writeBe, ih]

/-- A number is below the bound of its bytes. -/
theorem readBe_lt (bytes : List UInt8) : readBe bytes < 256 ^ bytes.length := by
  induction bytes with
  | nil => decide
  | cons byte rest ih =>
    have small : byte.toNat + 1 ≤ 256 := byte.toNat_lt
    rw [List.length_cons, pow_succ]
    show byte.toNat * 256 ^ rest.length + readBe rest < _
    calc
      byte.toNat * 256 ^ rest.length + readBe rest < byte.toNat * 256 ^ rest.length +
          256 ^ rest.length := Nat.add_lt_add_left ih _
      _ = (byte.toNat + 1) * 256 ^ rest.length := by ring
      _ ≤ 256 ^ rest.length * 256 := by
        rw [Nat.mul_comm]
        exact Nat.mul_le_mul_left _ small

/-- A number at an offset is below the bound of its width. -/
theorem word_lt (bytes : List UInt8) (offset count : Nat) : word bytes offset count < 256 ^ count :=
  Nat.lt_of_lt_of_le (readBe_lt _)
    (Nat.pow_le_pow_right (by decide) (by rw [List.length_take]; exact Nat.min_le_left _ _))

/-- Only the low bytes of a number are written. -/
theorem readBe_writeBe_mod (count value : Nat) :
    readBe (writeBe count value) = value % 256 ^ count := by
  induction count with
  | zero => simp [writeBe, readBe, Nat.mod_one]
  | succ count ih =>
    show (UInt8.ofNat (value / 256 ^ count)).toNat * 256 ^ (writeBe count value).length +
      readBe (writeBe count value) = _
    have parts : value % 256 ^ (count + 1) =
        value % 256 ^ count + 256 ^ count * (value / 256 ^ count % 256) := by
      rw [pow_succ]
      exact Nat.mod_mul
    rw [ih, length_writeBe, UInt8.toNat_ofNat', parts, Nat.mul_comm, Nat.add_comm]

/-- A number that fits is read as it was written. -/
theorem readBe_writeBe {count value : Nat} (fits : value < 256 ^ count) :
    readBe (writeBe count value) = value := by
  rw [readBe_writeBe_mod, Nat.mod_eq_of_lt fits]

/-- Bytes above the written ones are not written. -/
theorem writeBe_add (count high value : Nat) :
    writeBe count (high * 256 ^ count + value) = writeBe count value := by
  induction count generalizing high with
  | zero => rfl
  | succ count ih =>
    have split : high * 256 ^ (count + 1) + value = high * 256 * 256 ^ count + value := by
      rw [pow_succ]
      ring
    have top : UInt8.ofNat ((high * 256 * 256 ^ count + value) / 256 ^ count) =
        UInt8.ofNat (value / 256 ^ count) := by
      have positive : 0 < 256 ^ count := Nat.pow_pos (by decide)
      rw [Nat.add_comm, Nat.add_mul_div_right _ _ positive]
      apply UInt8.toNat.inj
      rw [UInt8.toNat_ofNat', UInt8.toNat_ofNat']
      omega
    rw [split]
    show UInt8.ofNat _ :: writeBe count _ = UInt8.ofNat _ :: writeBe count value
    rw [top, ih]

/-- Bytes are written as they were read. -/
theorem writeBe_readBe (bytes : List UInt8) : writeBe bytes.length (readBe bytes) = bytes := by
  induction bytes with
  | nil => rfl
  | cons byte rest ih =>
    have positive : 0 < 256 ^ rest.length := Nat.pow_pos (by decide)
    have top : (byte.toNat * 256 ^ rest.length + readBe rest) / 256 ^ rest.length = byte.toNat := by
      rw [Nat.add_comm, Nat.add_mul_div_right _ _ positive,
        Nat.div_eq_of_lt (readBe_lt rest), Nat.zero_add]
    show UInt8.ofNat ((byte.toNat * 256 ^ rest.length + readBe rest) / 256 ^ rest.length) ::
      writeBe rest.length (byte.toNat * 256 ^ rest.length + readBe rest) = byte :: rest
    rw [top, writeBe_add, ih, UInt8.ofNat_toNat]

/-- A header is as long as its widths. -/
theorem length_layout (fields : List (Nat × Nat)) :
    (layout fields).length = (fields.map Prod.fst).sum := by
  induction fields with
  | nil => rfl
  | cons field rest ih =>
    obtain ⟨width, value⟩ := field
    show (writeBe width value ++ layout rest).length = width + (rest.map Prod.fst).sum
    rw [List.length_append, length_writeBe, ih]

/-- A header that fits is read as it was written. -/
theorem readLayout_layout (fields : List (Nat × Nat)) (before after : List UInt8)
    (fits : ∀ field ∈ fields, field.2 < 256 ^ field.1) :
    readLayout (before ++ (layout fields ++ after)) before.length (fields.map Prod.fst) = fields := by
  induction fields generalizing before with
  | nil => rfl
  | cons field rest ih =>
    obtain ⟨width, value⟩ := field
    have here : word (before ++ (writeBe width value ++ layout rest ++ after)) before.length width =
        value := by
      rw [word, List.drop_left, List.append_assoc, List.take_left' (length_writeBe width value)]
      exact readBe_writeBe (fits (width, value) List.mem_cons_self)
    have later := ih (before ++ writeBe width value)
      fun field member => fits field (List.mem_cons_of_mem _ member)
    rw [List.length_append, length_writeBe, List.append_assoc] at later
    show (width, word _ before.length width) :: readLayout _ (before.length + width) _ = _
    rw [show layout ((width, value) :: rest) = writeBe width value ++ layout rest from rfl, here,
      List.append_assoc, later]

/-- A header is written as it was read. -/
theorem layout_readLayout (bytes : List UInt8) (offset : Nat) (widths : List Nat)
    (inside : offset + widths.sum ≤ bytes.length) :
    layout (readLayout bytes offset widths) = (bytes.drop offset).take widths.sum := by
  induction widths generalizing offset with
  | nil => simp [readLayout, layout]
  | cons width rest ih =>
    rw [List.sum_cons] at inside
    have whole : ((bytes.drop offset).take width).length = width := by
      rw [List.length_take, List.length_drop]
      omega
    have here : writeBe width (word bytes offset width) = (bytes.drop offset).take width := by
      have read := writeBe_readBe ((bytes.drop offset).take width)
      rwa [whole] at read
    show writeBe width (word bytes offset width) ++ layout (readLayout bytes (offset + width) rest) =
      _
    rw [here, ih (offset + width) (by omega), ← List.drop_drop, List.sum_cons, List.take_add]

/-- A list is its header and what follows. -/
theorem layout_append_drop {bytes : List UInt8} (widths : List Nat)
    (inside : widths.sum ≤ bytes.length) :
    layout (readLayout bytes 0 widths) ++ bytes.drop widths.sum = bytes := by
  rw [layout_readLayout bytes 0 widths (by omega), List.drop_zero, List.take_append_drop]

/-- A header at the front is read as it was written. -/
theorem readLayout_front (fields : List (Nat × Nat)) (after : List UInt8)
    (fits : ∀ field ∈ fields, field.2 < 256 ^ field.1) :
    readLayout (layout fields ++ after) 0 (fields.map Prod.fst) = fields :=
  readLayout_layout fields [] after fits

/-- A number is the numbers of its parts. -/
theorem word_add (bytes : List UInt8) (offset high low : Nat)
    (inside : offset + high + low ≤ bytes.length) :
    word bytes offset (high + low) =
      word bytes offset high * 256 ^ low + word bytes (offset + high) low := by
  have joined (front back : List UInt8) :
      readBe (front ++ back) = readBe front * 256 ^ back.length + readBe back := by
    induction front with
    | nil => simp [readBe]
    | cons byte rest ih =>
      show byte.toNat * 256 ^ (rest ++ back).length + readBe (rest ++ back) =
        (byte.toNat * 256 ^ rest.length + readBe rest) * 256 ^ back.length + readBe back
      rw [ih, List.length_append, pow_add]
      ring
  have size : ((bytes.drop (offset + high)).take low).length = low := by
    rw [List.length_take, List.length_drop]
    omega
  rw [word, List.take_add, joined, List.drop_drop, size]
  rfl

/-- A byte is read whole. -/
theorem toNat_word8 (bytes : List UInt8) (offset : Nat) :
    (UInt8.ofNat (word bytes offset 1)).toNat = word bytes offset 1 := by
  rw [UInt8.toNat_ofNat', Nat.mod_eq_of_lt]
  exact word_lt bytes offset 1

/-- A number of two bytes is read whole. -/
theorem toNat_word16 (bytes : List UInt8) (offset : Nat) :
    (UInt16.ofNat (word bytes offset 2)).toNat = word bytes offset 2 := by
  rw [UInt16.toNat_ofNat', Nat.mod_eq_of_lt]
  exact word_lt bytes offset 2

/-- A number of four bytes is read whole. -/
theorem toNat_word32 (bytes : List UInt8) (offset : Nat) :
    (UInt32.ofNat (word bytes offset 4)).toNat = word bytes offset 4 := by
  rw [UInt32.toNat_ofNat', Nat.mod_eq_of_lt]
  exact word_lt bytes offset 4

/-- A number of eight bytes is read whole. -/
theorem toNat_word64 (bytes : List UInt8) (offset : Nat) :
    (UInt64.ofNat (word bytes offset 8)).toNat = word bytes offset 8 := by
  rw [UInt64.toNat_ofNat', Nat.mod_eq_of_lt]
  exact word_lt bytes offset 8

end Plank.Wire
