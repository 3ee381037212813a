import Mathlib

/-!
# Little-endian numbers in byte lists

Reading and writing a number of a fixed count of bytes, least significant first, and the fields of a
byte list at fixed offsets.
-/

namespace Plank.Wire

/-- A number in a count of bytes, least significant first. -/
def writeLe : Nat → Nat → List UInt8
  | 0, _ => []
  | count + 1, value => UInt8.ofNat value :: writeLe count (value / 256)

/-- The number in a byte list, least significant byte first. -/
def readLe : List UInt8 → Nat
  | [] => 0
  | byte :: rest => byte.toNat + 256 * readLe rest

/-- The number in a count of bytes at an offset. -/
def field (bytes : List UInt8) (offset count : Nat) : Nat := readLe ((bytes.drop offset).take count)

/-- A number takes its count of bytes. -/
@[simp] theorem length_writeLe (count value : Nat) : (writeLe count value).length = count := by
  induction count generalizing value with
  | zero => rfl
  | succ count ih => simp [writeLe, ih]

/-- A number that fits is read as it was written. -/
theorem readLe_writeLe {count value : Nat} (fits : value < 256 ^ count) :
    readLe (writeLe count value) = value := by
  induction count generalizing value with
  | zero =>
    rw [pow_zero] at fits
    show 0 = value
    omega
  | succ count ih =>
    have quotient : value / 256 < 256 ^ count := by
      rw [pow_succ] at fits
      exact Nat.div_lt_of_lt_mul (by omega)
    show (UInt8.ofNat value).toNat + 256 * readLe (writeLe count (value / 256)) = value
    rw [ih quotient, UInt8.toNat_ofNat']
    omega

/-- The first bytes are the number in fewer bytes. -/
theorem take_writeLe {short count : Nat} (fewer : short ≤ count) (value : Nat) :
    (writeLe count value).take short = writeLe short value := by
  induction count generalizing short value with
  | zero =>
    obtain rfl : short = 0 := by omega
    rfl
  | succ count ih =>
    cases short with
    | zero => rfl
    | succ short =>
      show UInt8.ofNat value :: (writeLe count (value / 256)).take short = _
      rw [ih (by omega)]
      rfl

/-- Bytes are written as they were read. -/
theorem writeLe_readLe (bytes : List UInt8) : writeLe bytes.length (readLe bytes) = bytes := by
  induction bytes with
  | nil => rfl
  | cons byte rest ih =>
    have small := byte.toNat_lt
    have quotient : (byte.toNat + 256 * readLe rest) / 256 = readLe rest := by omega
    have first : UInt8.ofNat (byte.toNat + 256 * readLe rest) = byte := by
      apply UInt8.toNat.inj
      rw [UInt8.toNat_ofNat']
      omega
    show UInt8.ofNat (byte.toNat + 256 * readLe rest) ::
      writeLe rest.length ((byte.toNat + 256 * readLe rest) / 256) = byte :: rest
    rw [quotient, first, ih]

/-- A number is below the bound of its bytes. -/
theorem readLe_lt (bytes : List UInt8) : readLe bytes < 256 ^ bytes.length := by
  induction bytes with
  | nil => decide
  | cons byte rest ih =>
    have small := byte.toNat_lt
    rw [List.length_cons, pow_succ]
    show byte.toNat + 256 * readLe rest < _
    omega

/-- The first field. -/
theorem field_here {count value : Nat} (fits : value < 256 ^ count) (rest : List UInt8) :
    field (writeLe count value ++ rest) 0 count = value := by
  rw [field, List.drop_zero, List.take_left' (length_writeLe count value), readLe_writeLe fits]

/-- A field past another one. -/
theorem field_skip {width offset : Nat} (skips : width ≤ offset) (value count : Nat)
    (rest : List UInt8) :
    field (writeLe width value ++ rest) offset count = field rest (offset - width) count := by
  rw [field, List.drop_append, length_writeLe, List.drop_of_length_le (by simpa using skips),
    List.nil_append, field]

end Plank.Wire
