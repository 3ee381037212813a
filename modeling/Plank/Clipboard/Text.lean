import Plank.Clipboard.Wire

/-!
# The text check accepts UTF-8 only

A byte list that passes the check is the encoding of a list of Unicode scalar values, none of which
is NUL: no overlong form, no surrogate and nothing above U+10FFFF gets through.
-/

namespace Plank.Clipboard

/-- A byte list that encodes one character other than NUL. -/
def Encodes (bytes : List UInt8) : Prop :=
  ∃ character : Char, String.utf8EncodeChar character = bytes ∧ character.toNat ≠ 0

/-- A continuing byte carries six bits. -/
theorem continues_range {byte : UInt8} (check : continues byte = true) :
    0x80 ≤ byte.toNat ∧ byte.toNat < 0xc0 := by
  have all : ∀ bits : BitVec 8, bits &&& 0xc0#8 = 0x80#8 → 0x80 ≤ bits.toNat ∧ bits.toNat < 0xc0 := by
    decide
  have same : byte &&& 0xc0 = 0x80 := by simpa [continues] using check
  exact all byte.toBitVec (congrArg UInt8.toBitVec same)

/-- What the check of the second byte leaves. -/
theorem second_range {lead byte : UInt8} (check : second lead byte = true) :
    (lead.toNat = 0xe0 → 0xa0 ≤ byte.toNat) ∧ (lead.toNat = 0xed → byte.toNat ≤ 0x9f) ∧
      (lead.toNat = 0xf0 → 0x90 ≤ byte.toNat) ∧ (lead.toNat = 0xf4 → byte.toNat ≤ 0x8f) := by
  have same {number : UInt8} (equal : lead.toNat = number.toNat) : lead = number :=
    UInt8.toNat_inj.mp equal
  simp only [second, Bool.not_eq_true', Bool.or_eq_false_iff, Bool.and_eq_false_iff,
    decide_eq_false_iff_not, UInt8.not_lt, gt_iff_lt] at check
  obtain ⟨⟨⟨first, second⟩, third⟩, fourth⟩ := check
  refine ⟨fun equal => ?_, fun equal => ?_, fun equal => ?_, fun equal => ?_⟩
  · exact UInt8.le_iff_toNat_le.mp (first.resolve_left (not_not.mpr (same equal)))
  · exact UInt8.le_iff_toNat_le.mp (second.resolve_left (not_not.mpr (same equal)))
  · exact UInt8.le_iff_toNat_le.mp (third.resolve_left (not_not.mpr (same equal)))
  · exact UInt8.le_iff_toNat_le.mp (fourth.resolve_left (not_not.mpr (same equal)))

/-- A scalar value with its number. -/
theorem char_of_valid {value : Nat} (valid : value.isValidChar) :
    ∃ character : Char, character.toNat = value ∧ character.val.toNat = value := by
  refine ⟨Char.ofNatAux value valid, ?_, ?_⟩ <;> rfl

/-- A byte below 0x80 is a character by itself. -/
theorem encodes_one {lead : UInt8} (zero : lead ≠ 0) (small : lead < 0x80) : Encodes [lead] := by
  have range : lead.toNat < 0x80 := UInt8.lt_iff_toNat_lt.mp small
  have positive : lead.toNat ≠ 0 := fun none => zero (UInt8.toNat_inj.mp none)
  have valid : lead.toNat.isValidChar := .inl (by omega)
  obtain ⟨character, number, value⟩ := char_of_valid valid
  refine ⟨character, ?_, by omega⟩
  unfold String.utf8EncodeChar
  simp only [value]
  rw [if_pos (by omega)]
  simp

/-- Two bytes that are a character. -/
theorem encodes_two {lead a : UInt8} (low : 0xc2 ≤ lead.toNat) (high : lead.toNat ≤ 0xdf)
    (next : continues a = true) : Encodes [lead, a] := by
  obtain ⟨least, most⟩ := continues_range next
  generalize number_eq : (lead.toNat - 0xc0) * 64 + (a.toNat - 0x80) = number
  have valid : number.isValidChar := .inl (by omega)
  obtain ⟨character, number_same, value⟩ := char_of_valid valid
  refine ⟨character, ?_, by omega⟩
  unfold String.utf8EncodeChar
  simp only [value]
  rw [if_neg (by omega), if_pos (by omega)]
  have first : number / 64 % 0x20 + 0xc0 = lead.toNat := by omega
  have last : number % 0x40 + 0x80 = a.toNat := by omega
  rw [first, last]
  simp

/-- Three bytes that are a character. -/
theorem encodes_three {lead a b : UInt8} (low : 0xe0 ≤ lead.toNat) (high : lead.toNat ≤ 0xef)
    (range : second lead a = true) (next : continues a = true) (last : continues b = true) :
    Encodes [lead, a, b] := by
  obtain ⟨least, most⟩ := continues_range next
  obtain ⟨least', most'⟩ := continues_range last
  obtain ⟨overlong, surrogate, _, _⟩ := second_range range
  generalize number_eq :
    (lead.toNat - 0xe0) * 4096 + (a.toNat - 0x80) * 64 + (b.toNat - 0x80) = number
  have valid : number.isValidChar := by
    show number < 0xd800 ∨ 0xdfff < number ∧ number < 0x110000
    omega
  obtain ⟨character, number_same, value⟩ := char_of_valid valid
  refine ⟨character, ?_, by omega⟩
  unfold String.utf8EncodeChar
  simp only [value]
  rw [if_neg (by omega), if_neg (by omega), if_pos (by omega)]
  have first : number / 4096 % 0x10 + 0xe0 = lead.toNat := by omega
  have middle : number / 64 % 0x40 + 0x80 = a.toNat := by omega
  have lowest : number % 0x40 + 0x80 = b.toNat := by omega
  rw [first, middle, lowest]
  simp

/-- Four bytes that are a character. -/
theorem encodes_four {lead a b c : UInt8} (low : 0xf0 ≤ lead.toNat) (high : lead.toNat ≤ 0xf4)
    (range : second lead a = true) (next : continues a = true) (third : continues b = true)
    (last : continues c = true) : Encodes [lead, a, b, c] := by
  obtain ⟨least, most⟩ := continues_range next
  obtain ⟨least', most'⟩ := continues_range third
  obtain ⟨least'', most''⟩ := continues_range last
  obtain ⟨_, _, overlong, large⟩ := second_range range
  generalize number_eq : (lead.toNat - 0xf0) * 262144 + (a.toNat - 0x80) * 4096 +
    (b.toNat - 0x80) * 64 + (c.toNat - 0x80) = number
  have valid : number.isValidChar := by
    show number < 0xd800 ∨ 0xdfff < number ∧ number < 0x110000
    omega
  obtain ⟨character, number_same, value⟩ := char_of_valid valid
  refine ⟨character, ?_, by omega⟩
  unfold String.utf8EncodeChar
  simp only [value]
  rw [if_neg (by omega), if_neg (by omega), if_neg (by omega)]
  have first : number / 262144 % 0x08 + 0xf0 = lead.toNat := by omega
  have second : number / 4096 % 0x40 + 0x80 = a.toNat := by omega
  have middle : number / 64 % 0x40 + 0x80 = b.toNat := by omega
  have lowest : number % 0x40 + 0x80 = c.toNat := by omega
  rw [first, second, middle, lowest]
  simp

/-- The count of bytes that follow tells the range of the first. -/
theorem extra_range (lead : UInt8) :
    (extra lead = 1 → 0xc2 ≤ lead.toNat ∧ lead.toNat ≤ 0xdf) ∧
      (extra lead = 2 → 0xe0 ≤ lead.toNat ∧ lead.toNat ≤ 0xef) ∧
      (extra lead = 3 → 0xf0 ≤ lead.toNat ∧ lead.toNat ≤ 0xf4) := by
  unfold extra
  split_ifs with two three four
  · exact ⟨fun _ => ⟨UInt8.le_iff_toNat_le.mp two.1, UInt8.le_iff_toNat_le.mp two.2⟩, nofun, nofun⟩
  · exact ⟨nofun, fun _ => ⟨UInt8.le_iff_toNat_le.mp three.1, UInt8.le_iff_toNat_le.mp three.2⟩,
      nofun⟩
  · exact ⟨nofun, nofun, fun _ => ⟨UInt8.le_iff_toNat_le.mp four.1, UInt8.le_iff_toNat_le.mp four.2⟩⟩
  · exact ⟨nofun, nofun, nofun⟩

/-- A byte list that encodes a text of scalar values, none of which is NUL. -/
def Utf8 (bytes : List UInt8) : Prop :=
  ∃ text : List Char, text.flatMap String.utf8EncodeChar = bytes ∧
    ∀ character ∈ text, character.toNat ≠ 0

/-- Characters one after the other are the encoding of a text. -/
theorem characters_encode {bytes : List UInt8} (check : characters bytes = true) : Utf8 bytes := by
  have more {front rest : List UInt8} (encodes : Encodes front) (remaining : Utf8 rest) :
      Utf8 (front ++ rest) := by
    obtain ⟨character, encoded, nonzero⟩ := encodes
    obtain ⟨text, rest_encoded, none⟩ := remaining
    refine ⟨character :: text, by rw [List.flatMap_cons, encoded, rest_encoded], ?_⟩
    exact fun other member => (List.mem_cons.mp member).elim (fun same => same ▸ nonzero) (none other)
  induction bytes using characters.induct with
  | case1 => exact ⟨[], rfl, fun _ member => absurd member List.not_mem_nil⟩
  | case2 rest =>
    unfold characters at check
    rw [if_pos rfl] at check
    cases check
  | case3 lead rest nonzero small ih =>
    unfold characters at check
    rw [if_neg nonzero, if_pos small] at check
    exact more (encodes_one nonzero small) (ih check)
  | case4 lead nonzero large a rest two ih =>
    unfold characters at check
    rw [if_neg nonzero, if_neg large, two] at check
    obtain ⟨next, remaining⟩ := Bool.and_eq_true_iff.mp check
    obtain ⟨low, high⟩ := (extra_range lead).1 two
    exact more (encodes_two low high next) (ih remaining)
  | case5 lead nonzero large a b rest three ih =>
    unfold characters at check
    rw [if_neg nonzero, if_neg large, three] at check
    simp only [Bool.and_eq_true] at check
    obtain ⟨⟨⟨range, next⟩, last⟩, remaining⟩ := check
    obtain ⟨low, high⟩ := (extra_range lead).2.1 three
    exact more (encodes_three low high range next last) (ih remaining)
  | case6 lead nonzero large a b c rest four ih =>
    unfold characters at check
    rw [if_neg nonzero, if_neg large, four] at check
    simp only [Bool.and_eq_true] at check
    obtain ⟨⟨⟨⟨range, next⟩, third⟩, last⟩, remaining⟩ := check
    obtain ⟨low, high⟩ := (extra_range lead).2.2 four
    exact more (encodes_four low high range next third last) (ih remaining)
  | case7 lead rest nonzero large noTwo noThree noFour =>
    unfold characters at check
    rw [if_neg nonzero, if_neg large] at check
    split at check
    · exact (noTwo _ _ ‹_› rfl).elim
    · exact (noThree _ _ _ ‹_› rfl).elim
    · exact (noFour _ _ _ _ ‹_› rfl).elim
    · cases check

/-- A text that may be offered is UTF-8. -/
theorem utf8_of_validText {text : List UInt8} (valid : validText text = true) : Utf8 text := by
  simp only [validText, Bool.and_eq_true] at valid
  exact characters_encode valid.2

end Plank.Clipboard
