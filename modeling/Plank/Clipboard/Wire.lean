import Plank.Wire.LittleEndian

/-!
# Clipboard frames

The framing of clipboard chunks and the check of their text: `header` writes the header of a chunk,
`decode` reads a frame and checks it before anything of it is used, and `validText` accepts
scalar-valid UTF-8 with no NUL.
-/

namespace Plank.Clipboard

open Wire

/-- Most bytes of one text. -/
def textLimit : Nat := 512 * 1024

/-- Bytes of a header. -/
def headerBytes : Nat := 32

/-- Most text bytes of a chunk on the input lane, from client to host. -/
def inputBytes : Nat := 8160

/-- Most text bytes of a chunk on the event lane, from host to client. -/
def eventBytes : Nat := 48 * 1024

/-- The first four bytes of a frame. -/
def magic : Nat := 0x504c4342

/-- A chunk of a text. -/
structure Chunk where
  /-- The generation of the text. -/
  generation : Nat
  /-- The bytes of the whole text. -/
  total : Nat
  /-- Where in the text the chunk starts. -/
  offset : Nat
  /-- It is the first of its text. -/
  first : Bool
  /-- It is the last of its text. -/
  last : Bool
  /-- The bytes of the chunk. -/
  bytes : List UInt8
  deriving DecidableEq

/-- The flags of a chunk at an offset. -/
def flags (total offset size : Nat) : Nat :=
  (if offset = 0 then 1 else 0) + (if offset + size = total then 2 else 0)

/-- The header of a chunk. -/
def header (generation total offset size : Nat) : List UInt8 :=
  writeLe 4 magic ++ (writeLe 2 1 ++ (writeLe 2 0 ++ (writeLe 4 (flags total offset size) ++
    (writeLe 8 generation ++ (writeLe 4 total ++ (writeLe 4 offset ++ writeLe 4 size))))))

/-- The chunk of a frame whose header passes every check, for a lane with a limit on chunks. -/
def decode (limit : Nat) (frame : List UInt8) : Option Chunk :=
  let flags := field frame 8 4
  let generation := field frame 12 8
  let total := field frame 20 4
  let offset := field frame 24 4
  let size := field frame 28 4
  let first : Bool := flags % 2 = 1
  let last : Bool := flags / 2 % 2 = 1
  if frame.length < headerBytes then none
  else if field frame 0 4 ≠ magic ∨ field frame 4 2 ≠ 1 ∨ field frame 6 2 ≠ 0 then none
  else if generation = 0 ∨ flags > 3 ∨ total = 0 ∨ total > textLimit then none
  else if size = 0 ∨ size > limit ∨ offset > total ∨ size > total - offset then none
  else if frame.length ≠ headerBytes + size then none
  else if first ∧ offset ≠ 0 then none
  else if last ≠ decide (offset + size = total) then none
  else some ⟨generation, total, offset, first, last, frame.drop headerBytes⟩

/-- The bytes that follow the first byte of a character: none where it is not one. -/
def extra (lead : UInt8) : Nat :=
  if 0xc2 ≤ lead ∧ lead ≤ 0xdf then 1
  else if 0xe0 ≤ lead ∧ lead ≤ 0xef then 2
  else if 0xf0 ≤ lead ∧ lead ≤ 0xf4 then 3
  else 0

/-- A byte that continues a character. -/
def continues (byte : UInt8) : Bool := byte &&& 0xc0 = 0x80

/-- The second byte of a character that is neither overlong, nor a surrogate, nor too large. -/
def second (lead byte : UInt8) : Bool :=
  !((lead = 0xe0 && byte < 0xa0) || (lead = 0xed && byte > 0x9f) || (lead = 0xf0 && byte < 0x90) ||
    (lead = 0xf4 && byte > 0x8f))

/-- Characters one after the other. -/
def characters : List UInt8 → Bool
  | [] => true
  | lead :: rest =>
    if lead = 0 then false
    else if lead < 0x80 then characters rest
    else
      match extra lead, rest with
      | 1, a :: rest => continues a && characters rest
      | 2, a :: b :: rest => second lead a && continues a && continues b && characters rest
      | 3, a :: b :: c :: rest =>
        second lead a && continues a && continues b && continues c && characters rest
      | _, _ => false

/-- A text that may be offered. -/
def validText (text : List UInt8) : Bool :=
  text ≠ [] && text.length ≤ textLimit && characters text

/-! ### Frames that are sent -/

/-- The header has its length. -/
theorem length_header (generation total offset size : Nat) :
    (header generation total offset size).length = headerBytes := by
  simp [header, headerBytes]

/-- The flags of a chunk are read as they were written. -/
theorem flags_first (total offset size : Nat) :
    flags total offset size ≤ 3 ∧ decide (flags total offset size % 2 = 1) = decide (offset = 0) ∧
      decide (flags total offset size / 2 % 2 = 1) = decide (offset + size = total) := by
  unfold flags
  by_cases first : offset = 0
  · by_cases last : offset + size = total
    · rw [if_pos first, if_pos last]
      exact ⟨by omega, decide_eq_decide.mpr (by omega), decide_eq_decide.mpr (by omega)⟩
    · rw [if_pos first, if_neg last]
      exact ⟨by omega, decide_eq_decide.mpr (by omega), decide_eq_decide.mpr (by omega)⟩
  · by_cases last : offset + size = total
    · rw [if_neg first, if_pos last]
      exact ⟨by omega, decide_eq_decide.mpr (by omega), decide_eq_decide.mpr (by omega)⟩
    · rw [if_neg first, if_neg last]
      exact ⟨by omega, decide_eq_decide.mpr (by omega), decide_eq_decide.mpr (by omega)⟩

/-- A frame is read as the chunk it was made of. -/
theorem decode_frame {limit generation total offset : Nat} {bytes : List UInt8}
    (generation_pos : 0 < generation) (generation_fits : generation < 2 ^ 64)
    (total_fits : total ≤ textLimit) (size_pos : 0 < bytes.length)
    (size_fits : bytes.length ≤ limit) (inside : offset + bytes.length ≤ total) :
    decode limit (header generation total offset bytes.length ++ bytes) =
      some ⟨generation, total, offset, offset = 0, offset + bytes.length = total, bytes⟩ := by
  have limit_small : textLimit < 256 ^ 4 := by decide
  obtain ⟨flags_fit, first, last⟩ := flags_first total offset bytes.length
  have fits_magic : magic < 256 ^ 4 := by decide
  have fits_flags : flags total offset bytes.length < 256 ^ 4 := by omega
  have fits_generation : generation < 256 ^ 8 := by omega
  have fits_total : total < 256 ^ 4 := by omega
  have fits_offset : offset < 256 ^ 4 := by omega
  have fits_size : bytes.length < 256 ^ 4 := by omega
  have length : (header generation total offset bytes.length ++ bytes).length =
      headerBytes + bytes.length := by rw [List.length_append, length_header]
  have text : (header generation total offset bytes.length ++ bytes).drop headerBytes = bytes :=
    List.drop_left' (length_header _ _ _ _)
  generalize frame_eq : header generation total offset bytes.length ++ bytes = frame at *
  have at_magic : field frame 0 4 = magic := by
    simp [← frame_eq, header, field_here fits_magic]
  have at_version : field frame 4 2 = 1 := by
    simp [← frame_eq, header, field_skip, field_here (show 1 < 256 ^ 2 by decide)]
  have at_reserved : field frame 6 2 = 0 := by
    simp [← frame_eq, header, field_skip, field_here (show 0 < 256 ^ 2 by decide)]
  have at_flags : field frame 8 4 = flags total offset bytes.length := by
    simp [← frame_eq, header, field_skip, field_here fits_flags]
  have at_generation : field frame 12 8 = generation := by
    simp [← frame_eq, header, field_skip, field_here fits_generation]
  have at_total : field frame 20 4 = total := by
    simp [← frame_eq, header, field_skip, field_here fits_total]
  have at_offset : field frame 24 4 = offset := by
    simp [← frame_eq, header, field_skip, field_here fits_offset]
  have at_size : field frame 28 4 = bytes.length := by
    simp [← frame_eq, header, field_skip, field_here fits_size]
  unfold decode
  simp only [at_magic, at_version, at_reserved, at_flags, at_generation, at_total, at_offset,
    at_size, length, text, first, last]
  rw [if_neg (by omega), if_neg (by simp), if_neg (by omega), if_neg (by omega), if_neg (by omega),
    if_neg (by simp), if_neg (by simp)]

/-- What a chunk that passes every check satisfies. -/
structure Chunk.Checked (chunk : Chunk) (limit : Nat) : Prop where
  /-- It has a generation. -/
  generation : chunk.generation ≠ 0
  /-- The whole text is of a size that may be offered. -/
  total : 0 < chunk.total ∧ chunk.total ≤ textLimit
  /-- It is not empty, nor too long for its lane. -/
  size : 0 < chunk.bytes.length ∧ chunk.bytes.length ≤ limit
  /-- It lies in the text. -/
  inside : chunk.offset + chunk.bytes.length ≤ chunk.total
  /-- A first chunk starts the text. -/
  first : chunk.first = true → chunk.offset = 0
  /-- A last chunk is the one that ends it. -/
  last : chunk.last = true ↔ chunk.offset + chunk.bytes.length = chunk.total

/-- Only a chunk that passes every check is read. -/
theorem decode_checked {limit : Nat} {frame : List UInt8} {chunk : Chunk}
    (decoded : decode limit frame = some chunk) : chunk.Checked limit := by
  unfold decode at decoded
  simp only at decoded
  split_ifs at decoded with short head generation size length first last
  obtain rfl := Option.some.inj decoded
  have size_eq : (frame.drop headerBytes).length = field frame 28 4 := by
    rw [List.length_drop]
    omega
  constructor
  · exact fun zero => generation (.inl zero)
  · simp only
    omega
  · simp only [size_eq]
    omega
  · simp only [size_eq]
    omega
  · intro flag
    by_contra moved
    exact first ⟨flag, moved⟩
  · simp only [size_eq]
    rw [not_ne_iff] at last
    simp only [last, decide_eq_true_eq]

end Plank.Clipboard
