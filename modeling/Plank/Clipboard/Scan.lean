import Plank.Clipboard.Text
import Plank.Program.Loop

/-!
# The text check as it reads its buffer

The check walks an index over a buffer of a given size. Every read of the model is checked against
the size, so a scan with a result never read beyond it. The scan accepts the encodings of nonempty
texts of scalar values other than NUL, up to the limit, and nothing else.
-/

namespace Plank.Clipboard

/-- The bytes that continue a character are there, read from an index on. -/
def tails (text : List UInt8) : Nat → Nat → Option Bool
  | 0, _ => some true
  | count + 1, index => do
    let byte ← text[index]?
    if continues byte then tails text count (index + 1) else some false

/-- A turn of the scan, from the index of a first byte. -/
def scanTurn (text : List UInt8) (index : Nat) : Option (Turn Nat Bool) :=
  if text.length ≤ index then some (.leave true)
  else do
    let lead ← text[index]?
    if lead = 0 then some (.leave false)
    else if lead < 0x80 then some (.next (index + 1))
    else if extra lead = 0 ∨ text.length - (index + 1) < extra lead then some (.leave false)
    else
      -- The check of the range and the loop after it both start with this byte.
      let byte ← text[index + 1]?
      if !second lead byte then some (.leave false)
      else
        let continued ← tails text (extra lead) (index + 1)
        some (if continued then .next (index + 1 + extra lead) else .leave false)

/-- The check of a text in a buffer: no result is a read outside the buffer. -/
def scanText (text : List UInt8) : Option Bool :=
  if text = [] ∨ textLimit < text.length then some false
  else loop (scanTurn text) (text.length + 1) 0

/-- From an index on, the list has its byte there first. -/
theorem drop_cons {text : List UInt8} {index : Nat} {lead : UInt8} {rest : List UInt8}
    (here : text.drop index = lead :: rest) :
    text[index]? = some lead ∧ text.drop (index + 1) = rest ∧
      text.length - (index + 1) = rest.length ∧ index < text.length := by
  have length := congrArg List.length here
  simp only [List.length_drop, List.length_cons] at length
  refine ⟨?_, ?_, by omega, by omega⟩
  · have first := congrArg (fun list => list[0]?) here
    simpa using first
  · rw [← List.drop_drop, here]
    rfl

/-- The loop over the bytes that continue a character looks at as many of them as it counts. -/
theorem tails_eq {text : List UInt8} {count index : Nat} (inside : index + count ≤ text.length) :
    tails text count index = some (((text.drop index).take count).all continues) := by
  induction count generalizing index with
  | zero => simp [tails]
  | succ count ih =>
    obtain ⟨byte, rest, here⟩ : ∃ byte rest, text.drop index = byte :: rest :=
      List.exists_cons_of_length_pos (by rw [List.length_drop]; omega)
    obtain ⟨read, next, -, -⟩ := drop_cons here
    have more := @ih (index + 1) (by omega)
    rw [next] at more
    rw [here, List.take_succ_cons, List.all_cons]
    simp only [tails, read, Option.bind_eq_bind, Option.bind_some]
    cases check : continues byte with
    | true => rw [if_pos rfl, more, Bool.true_and]
    | false => rw [if_neg Bool.false_ne_true, Bool.false_and]

/-- A lead byte is followed by at most three bytes, and only some leads restrict the second one. -/
theorem extra_cases (lead : UInt8) :
    extra lead = 0 ∨ (extra lead = 1 ∧ ∀ byte, second lead byte = true) ∨ extra lead = 2 ∨
      extra lead = 3 := by
  have free (low : 0xc2 ≤ lead.toNat) (high : lead.toNat ≤ 0xdf) (byte : UInt8) :
      second lead byte = true := by
    have apart (number : UInt8) (above : 0xdf < number.toNat) : lead ≠ number := by
      rintro rfl
      omega
    simp [second, apart 0xe0 (by decide), apart 0xed (by decide),
      apart 0xf0 (by decide), apart 0xf4 (by decide)]
  by_cases one : extra lead = 1
  · obtain ⟨low, high⟩ := (extra_range lead).1 one
    exact .inr (.inl ⟨one, free low high⟩)
  · unfold extra at one ⊢
    split_ifs at one ⊢ <;> simp_all

/-- The check of a text that starts with a byte of 0x80 or more. -/
theorem characters_lead {lead : UInt8} {rest : List UInt8} (nonzero : lead ≠ 0)
    (large : ¬lead < 0x80) :
    characters (lead :: rest) =
      (decide (extra lead ≠ 0 ∧ extra lead ≤ rest.length) && second lead (rest.headD 0) &&
        (rest.take (extra lead)).all continues && characters (rest.drop (extra lead))) := by
  rw [characters.eq_def]
  dsimp only
  rw [if_neg nonzero, if_neg large]
  obtain none | ⟨one, free⟩ | two | three := extra_cases lead
  · rw [none]
    rfl
  · cases rest with
    | nil => simp [one]
    | cons a rest =>
      rw [one, free]
      simp [Bool.and_comm]
  · rcases rest with _ | ⟨a, _ | ⟨b, rest⟩⟩
    · simp [two]
    · simp [two]
    · rw [two]
      simp [Bool.and_assoc]
  · rcases rest with _ | ⟨a, _ | ⟨b, _ | ⟨c, rest⟩⟩⟩
    · simp [three]
    · simp [three]
    · simp [three]
    · rw [three]
      simp [Bool.and_assoc]

/-- A turn of the scan decides as the check of the rest does, or goes on to what decides it. -/
theorem scanTurn_eq (text : List UInt8) (index : Nat) :
    scanTurn text index = some (.leave (characters (text.drop index))) ∨
      ∃ after, scanTurn text index = some (.next after) ∧
        text.length - after < text.length - index ∧
        characters (text.drop after) = characters (text.drop index) := by
  unfold scanTurn
  by_cases done : text.length ≤ index
  · rw [if_pos done, List.drop_eq_nil_of_le done]
    exact .inl rfl
  obtain ⟨lead, rest, here⟩ : ∃ lead rest, text.drop index = lead :: rest :=
    List.exists_cons_of_length_pos (by rw [List.length_drop]; omega)
  obtain ⟨read, next, length, below⟩ := drop_cons here
  rw [if_neg done, here]
  simp only [read, Option.bind_eq_bind, Option.bind_some]
  by_cases zero : lead = 0
  · rw [if_pos zero, characters.eq_def]
    exact .inl (by simp [zero])
  by_cases small : lead < 0x80
  · have goes : characters (lead :: rest) = characters rest := by
      rw [characters.eq_def]
      simp [zero, small]
    rw [if_neg zero, if_pos small, goes]
    exact .inr ⟨index + 1, rfl, by omega, by rw [next]⟩
  rw [if_neg zero, if_neg small, length, characters_lead zero small]
  by_cases bad : extra lead = 0 ∨ rest.length < extra lead
  · have refused : ¬(extra lead ≠ 0 ∧ extra lead ≤ rest.length) := by omega
    rw [if_pos bad, decide_eq_false refused]
    exact .inl rfl
  have good : extra lead ≠ 0 ∧ extra lead ≤ rest.length := by omega
  obtain ⟨byte, more, following⟩ : ∃ byte more, rest = byte :: more :=
    List.exists_cons_of_length_pos (by omega)
  obtain ⟨read_next, -, -, -⟩ := drop_cons (next.trans following)
  have first : rest.headD 0 = byte := by rw [following]; rfl
  have continued := @tails_eq text (extra lead) (index + 1) (by omega)
  rw [if_neg bad, decide_eq_true good, Bool.true_and, first]
  simp only [read_next, Option.bind_some]
  rw [next] at continued
  cases range : second lead byte with
  | false => exact .inl rfl
  | true =>
    simp only [Bool.not_true, Bool.false_eq_true, if_false, continued, Option.bind_some,
      Bool.true_and]
    cases (rest.take (extra lead)).all continues with
    | false => exact .inl rfl
    | true =>
      refine .inr ⟨index + 1 + extra lead, rfl, by omega, ?_⟩
      rw [← List.drop_drop, next, Bool.true_and]

/-- The scan reads inside its buffer and checks the text. -/
theorem scanText_eq (text : List UInt8) : scanText text = some (validText text) := by
  unfold scanText validText
  by_cases refused : text = [] ∨ textLimit < text.length
  · rw [if_pos refused]
    obtain rfl | long := refused
    · rfl
    · have short : decide (text.length ≤ textLimit) = false := decide_eq_false (by omega)
      rw [short, Bool.and_false, Bool.false_and]
  · have some_text : text ≠ [] := fun none => refused (.inl none)
    have short : text.length ≤ textLimit := Nat.le_of_not_lt fun long => refused (.inr long)
    have checked : loop (scanTurn text) (text.length + 1) 0 =
        some (characters (text.drop 0)) := by
      apply loop_eq (fun _ => True) (fun index => text.length - index)
        (fun index => characters (text.drop index)) _ trivial (by omega)
      intro index _
      obtain leaves | ⟨after, goes, nearer, same⟩ := scanTurn_eq text index
      · exact .inl leaves
      · exact .inr ⟨after, goes, trivial, nearer, same⟩
    rw [if_neg refused, checked, List.drop_zero, decide_eq_true short]
    simp [some_text]

/-! ### Every encoding is accepted -/

/-- A byte of the range continues a character. -/
theorem continues_of_range {value : Nat} (low : 0x80 ≤ value) (high : value < 0xc0) :
    continues (UInt8.ofNat value) = true := by
  have all : ∀ bits : BitVec 8,
      0x80 ≤ bits.toNat → bits.toNat < 0xc0 → bits &&& 0xc0#8 = 0x80#8 := by
    decide
  have number : (UInt8.ofNat value).toBitVec.toNat = value := by
    show value % 2 ^ 8 = value
    omega
  have same := all (UInt8.ofNat value).toBitVec (by omega) (by omega)
  exact decide_eq_true (UInt8.toBitVec_inj.mp same)

/-- The second byte of a shortest form that is neither a surrogate nor too large. -/
theorem second_of_range {lead byte : Nat} (lead_fits : lead < 256) (byte_fits : byte < 256)
    (overlong : lead = 0xe0 → 0xa0 ≤ byte) (surrogate : lead = 0xed → byte ≤ 0x9f)
    (short : lead = 0xf0 → 0x90 ≤ byte) (large : lead = 0xf4 → byte ≤ 0x8f) :
    second (UInt8.ofNat lead) (UInt8.ofNat byte) = true := by
  have lead_number : (UInt8.ofNat lead).toNat = lead := Nat.mod_eq_of_lt lead_fits
  have byte_number : (UInt8.ofNat byte).toNat = byte := Nat.mod_eq_of_lt byte_fits
  simp only [second, Bool.not_eq_true', Bool.or_eq_false_iff, Bool.and_eq_false_iff,
    decide_eq_false_iff_not, ← UInt8.toNat_inj, UInt8.lt_iff_toNat_lt, gt_iff_lt, lead_number,
    byte_number]
  refine ⟨⟨⟨?_, ?_⟩, ?_⟩, ?_⟩
  · by_cases same : lead = 0xe0
    · exact .inr (Nat.not_lt.mpr (overlong same))
    · exact .inl same
  · by_cases same : lead = 0xed
    · exact .inr (Nat.not_lt.mpr (surrogate same))
    · exact .inl same
  · by_cases same : lead = 0xf0
    · exact .inr (Nat.not_lt.mpr (short same))
    · exact .inl same
  · by_cases same : lead = 0xf4
    · exact .inr (Nat.not_lt.mpr (large same))
    · exact .inl same

/-- The count of the bytes that follow a first byte, from its number. -/
theorem extra_of_range {lead : Nat} (fits : lead < 256) :
    extra (UInt8.ofNat lead) =
      if 0xc2 ≤ lead ∧ lead ≤ 0xdf then 1
      else if 0xe0 ≤ lead ∧ lead ≤ 0xef then 2
      else if 0xf0 ≤ lead ∧ lead ≤ 0xf4 then 3
      else 0 := by
  have number : (UInt8.ofNat lead).toNat = lead := Nat.mod_eq_of_lt fits
  simp only [extra, UInt8.le_iff_toNat_le, number]
  rfl

/-- A character of two bytes or more is passed over. -/
theorem characters_longer {lead : Nat} {more rest : List UInt8} (large : 0x80 ≤ lead)
    (fits : lead < 256) (counted : extra (UInt8.ofNat lead) = more.length) (some_more : more ≠ [])
    (range : second (UInt8.ofNat lead) (more.headD 0) = true)
    (continued : more.all continues = true) :
    characters (UInt8.ofNat lead :: (more ++ rest)) = characters rest := by
  have number : (UInt8.ofNat lead).toNat = lead := Nat.mod_eq_of_lt fits
  have nonzero : UInt8.ofNat lead ≠ 0 := by
    intro zero
    have none := congrArg UInt8.toNat zero
    rw [number] at none
    exact absurd none (by show lead ≠ 0; omega)
  have not_small : ¬UInt8.ofNat lead < 0x80 := by
    rw [UInt8.lt_iff_toNat_lt, number]
    exact Nat.not_lt.mpr large
  have first : (more ++ rest).headD 0 = more.headD 0 := by
    obtain ⟨byte, others, rfl⟩ := List.exists_cons_of_ne_nil some_more
    rfl
  have counts : extra (UInt8.ofNat lead) ≠ 0 ∧
      extra (UInt8.ofNat lead) ≤ (more ++ rest).length := by
    rw [counted, List.length_append]
    exact ⟨fun none => some_more (List.length_eq_zero_iff.mp none), Nat.le_add_right _ _⟩
  rw [characters_lead nonzero not_small, decide_eq_true counts, first, range, counted,
    List.take_left, List.drop_left, continued]
  rfl

/-- The encoding of a character other than NUL is passed over. -/
theorem characters_char (character : Char) (nonzero : character.toNat ≠ 0) (rest : List UInt8) :
    characters (String.utf8EncodeChar character ++ rest) = characters rest := by
  have valid : character.val.toNat < 0xd800 ∨
      0xdfff < character.val.toNat ∧ character.val.toNat < 0x110000 := character.valid
  have positive : character.val.toNat ≠ 0 := nonzero
  unfold String.utf8EncodeChar
  generalize character.val.toNat = value at valid positive ⊢
  dsimp only
  by_cases one : value ≤ 0x7f
  · have number : (UInt8.ofNat value).toNat = value := Nat.mod_eq_of_lt (by omega)
    have not_nul : UInt8.ofNat value ≠ 0 := by
      intro zero
      have none := congrArg UInt8.toNat zero
      rw [number] at none
      exact positive none
    have small : UInt8.ofNat value < 0x80 := by
      rw [UInt8.lt_iff_toNat_lt, number]
      exact Nat.lt_succ_of_le one
    rw [if_pos one, List.singleton_append, characters.eq_def]
    dsimp only
    rw [if_neg not_nul, if_pos small]
  by_cases two : value ≤ 0x7ff
  · rw [if_neg one, if_pos two]
    apply characters_longer (by omega) (by omega)
    · rw [extra_of_range (by omega), if_pos (by omega)]
      rfl
    · exact List.cons_ne_nil _ _
    · exact second_of_range (by omega) (by omega) (by omega) (by omega) (by omega) (by omega)
    · rw [List.all_cons, List.all_nil, Bool.and_true]
      exact continues_of_range (by omega) (by omega)
  by_cases three : value ≤ 0xffff
  · rw [if_neg one, if_neg two, if_pos three]
    apply characters_longer (by omega) (by omega)
    · rw [extra_of_range (by omega), if_neg (by omega), if_pos (by omega)]
      rfl
    · exact List.cons_ne_nil _ _
    · exact second_of_range (by omega) (by omega) (by omega) (by omega) (by omega) (by omega)
    · simp only [List.all_cons, List.all_nil, Bool.and_true, Bool.and_eq_true]
      exact ⟨continues_of_range (by omega) (by omega), continues_of_range (by omega) (by omega)⟩
  · rw [if_neg one, if_neg two, if_neg three]
    apply characters_longer (by omega) (by omega)
    · rw [extra_of_range (by omega), if_neg (by omega), if_neg (by omega), if_pos (by omega)]
      rfl
    · exact List.cons_ne_nil _ _
    · exact second_of_range (by omega) (by omega) (by omega) (by omega) (by omega) (by omega)
    · simp only [List.all_cons, List.all_nil, Bool.and_true, Bool.and_eq_true]
      exact ⟨continues_of_range (by omega) (by omega), continues_of_range (by omega) (by omega),
        continues_of_range (by omega) (by omega)⟩

/-- The encoding of a text without NUL is accepted. -/
theorem characters_of_utf8 {bytes : List UInt8} (encoded : Utf8 bytes) :
    characters bytes = true := by
  obtain ⟨text, rfl, nonzero⟩ := encoded
  induction text with
  | nil => rfl
  | cons character text ih =>
    rw [List.flatMap_cons, characters_char character (nonzero character List.mem_cons_self)]
    exact ih fun other member => nonzero other (List.mem_cons_of_mem _ member)

/-- For every byte string, the scan reads nothing beyond it and accepts it if and only if it has 1
byte to 512 KiB and is the encoding of a nonempty text of scalar values, none of which is NUL. -/
theorem scan_accepts_utf8 (text : List UInt8) :
    ∃ accepted, scanText text = some accepted ∧
      (accepted = true ↔ (1 ≤ text.length ∧ text.length ≤ 512 * 1024) ∧
        ∃ characters : List Char, characters ≠ [] ∧
          (∀ character ∈ characters, character.toNat ≠ 0) ∧
          text = characters.flatMap String.utf8EncodeChar) := by
  refine ⟨validText text, scanText_eq text, ?_⟩
  simp only [validText, Bool.and_eq_true, decide_eq_true_eq]
  constructor
  · rintro ⟨⟨some_text, short⟩, checked⟩
    obtain ⟨characters, encoded, nonzero⟩ := characters_encode checked
    refine ⟨⟨List.length_pos_iff.mpr some_text, short⟩, characters, ?_, nonzero, encoded.symm⟩
    rintro rfl
    exact some_text encoded.symm
  · rintro ⟨⟨some_text, short⟩, characters, -, nonzero, rfl⟩
    exact ⟨⟨List.length_pos_iff.mp some_text, short⟩, characters_of_utf8 ⟨characters, rfl, nonzero⟩⟩

end Plank.Clipboard
