import Plank.Media.CameraPayload
import Mathlib.Data.List.DropRight

/-!
# Pieces of a byte stream with start codes

A stream is cut at its start codes into pieces: a start code of three or four bytes, a unit, and
zero bytes behind it. A scan finds the units of every stream that is a list of such pieces.
-/

namespace Plank.Media

/-- The size of the start code at the front, or zero. -/
def codeOf : List UInt8 → Nat
  | first :: second :: third :: rest =>
    if first ≠ 0 ∨ second ≠ 0 then 0
    else if third = 1 then 3
    else if third = 0 ∧ rest.head? = some 1 then 4
    else 0
  | _ => 0

/-- The bytes before the next start code. -/
def rawOf : List UInt8 → List UInt8
  | [] => []
  | byte :: rest => if codeOf (byte :: rest) ≠ 0 then [] else byte :: rawOf rest

/-- The bytes without the zeros at their end. -/
def trimmedOf (bytes : List UInt8) : List UInt8 := bytes.rdropWhile (· = 0)

/-! ### The scan finds what the list has -/

/-- The bytes at the front of what is left at an offset. -/
theorem getElem?_left (bytes : List UInt8) (index more : Nat) :
    bytes[index + more]? = (bytes.drop index)[more]? := List.getElem?_drop.symm

/-- A start code is looked for inside the bytes. -/
theorem cameraStartCode_eq (bytes : List UInt8) (index : Nat) :
    cameraStartCode bytes index = some (codeOf (bytes.drop index)) := by
  unfold cameraStartCode
  by_cases beyond : bytes.length < index
  · rw [if_pos beyond, List.drop_eq_nil_of_le (Nat.le_of_lt beyond)]
    rfl
  have left : bytes.length - index = (bytes.drop index).length := List.length_drop.symm
  rw [if_neg beyond, difference_eq (Nat.le_of_not_lt beyond), left, ← Nat.add_zero index,
    getElem?_left bytes (index + 0) 1, getElem?_left bytes (index + 0) 2,
    getElem?_left bytes (index + 0) 3, getElem?_left bytes index 0, Nat.add_zero]
  simp only [Option.bind_eq_bind, Option.bind_some]
  match bytes.drop index with
  | [] => rfl
  | [_] => rfl
  | [_, _] => rfl
  | first :: second :: third :: rest =>
    have long : ¬(first :: second :: third :: rest).length < 3 := by
      simp only [List.length_cons]
      omega
    unfold codeOf
    rw [if_neg long]
    simp only [List.getElem?_cons_zero, List.getElem?_cons_succ, Option.bind_some]
    by_cases one : first = 0
    · by_cases two : second = 0
      · have zeros : ¬(first ≠ 0 ∨ second ≠ 0) := by simp [one, two]
        rw [if_neg (not_not.mpr one), if_neg (not_not.mpr two), if_neg zeros]
        by_cases three : third = 1
        · rw [if_pos three, if_pos three]
        rw [if_neg three, if_neg three]
        cases rest with
        | nil => simp
        | cons fourth rest =>
          by_cases zero : third = 0
          · simp [zero]
          · simp [zero]
      · rw [if_neg (not_not.mpr one), if_pos two, if_pos (.inr two)]
    · rw [if_pos one, if_pos (.inl one)]

/-- The raw bytes of a unit and what is after them are all of the bytes. -/
theorem rawOf_append (bytes : List UInt8) :
    rawOf bytes ++ bytes.drop (rawOf bytes).length = bytes := by
  induction bytes with
  | nil => rfl
  | cons byte rest ih =>
    unfold rawOf
    by_cases code : codeOf (byte :: rest) ≠ 0
    · rw [if_pos code]
      rfl
    · rw [if_neg code, List.length_cons, List.drop_succ_cons, List.cons_append, ih]

/-- The raw bytes of a unit are at most all of the bytes. -/
theorem rawOf_length_le (bytes : List UInt8) : (rawOf bytes).length ≤ bytes.length := by
  have whole := congrArg List.length (rawOf_append bytes)
  rw [List.length_append] at whole
  omega

/-- The search for the end of a unit stays inside the bytes and ends at the next start code. -/
theorem endLoop_eq {bytes : List UInt8} {begin' : Nat} (inside : begin' ≤ bytes.length) :
    loop (endTurn bytes) (bytes.length + 1) begin' =
      some (begin' + (rawOf (bytes.drop begin')).length) := by
  apply loop_eq (fun stop => stop ≤ bytes.length) (fun stop => bytes.length - stop)
    (fun stop => stop + (rawOf (bytes.drop stop)).length) _ inside (by omega)
  intro stop within
  unfold endTurn
  by_cases done : bytes.length ≤ stop
  · rw [if_pos done, List.drop_eq_nil_of_le done]
    exact .inl rfl
  obtain ⟨byte, rest, here⟩ : ∃ byte rest, bytes.drop stop = byte :: rest :=
    List.exists_cons_of_length_pos (by rw [List.length_drop]; omega)
  have next : bytes.drop (stop + 1) = rest := by
    rw [← List.drop_drop, here]
    rfl
  rw [if_neg done, cameraStartCode_eq, here]
  simp only [Option.bind_eq_bind, Option.bind_some]
  by_cases code : codeOf (byte :: rest) ≠ 0
  · refine .inl ?_
    rw [if_pos code]
    unfold rawOf
    rw [if_pos code]
    rfl
  · refine .inr ⟨stop + 1, if_neg code, by omega, by omega, ?_⟩
    rw [next, rawOf, if_neg code, List.length_cons]
    omega

/-- A last byte is trimmed if it is zero. -/
theorem trimmedOf_concat (bytes : List UInt8) (last : UInt8) :
    trimmedOf (bytes ++ [last]) = if last = 0 then trimmedOf bytes else bytes ++ [last] := by
  unfold trimmedOf
  rw [List.rdropWhile_concat]
  simp only [decide_eq_true_eq]

/-- Trimming keeps at most all of the bytes. -/
theorem trimmedOf_length_le (bytes : List UInt8) : (trimmedOf bytes).length ≤ bytes.length :=
  (List.rdropWhile_prefix _ _).length_le

/-- The search for the last byte that is not zero stays inside the unit and ends behind it. -/
theorem trimLoop_eq {bytes : List UInt8} {begin' stop : Nat} (ordered : begin' ≤ stop)
    (inside : stop ≤ bytes.length) :
    loop (trimTurn bytes begin') (bytes.length + 1) stop =
      some (begin' + (trimmedOf ((bytes.drop begin').take (stop - begin'))).length) := by
  apply loop_eq (fun stop => begin' ≤ stop ∧ stop ≤ bytes.length) (fun stop => stop)
    (fun stop => begin' + (trimmedOf ((bytes.drop begin').take (stop - begin'))).length) _
    ⟨ordered, inside⟩ (by omega)
  rintro stop ⟨ordered, inside⟩
  unfold trimTurn
  by_cases done : stop ≤ begin'
  · refine .inl ?_
    rw [if_pos done, Nat.sub_eq_zero_of_le done, List.take_zero]
    exact congrArg (fun place => some (Turn.leave place)) (Nat.le_antisymm done ordered)
  obtain ⟨last, read⟩ : ∃ last, bytes[stop - 1]? = some last :=
    ⟨bytes[stop - 1], List.getElem?_eq_getElem (by omega)⟩
  have taken : (bytes.drop begin').take (stop - begin') =
      (bytes.drop begin').take (stop - 1 - begin') ++ [last] := by
    have index : stop - begin' = stop - 1 - begin' + 1 := by omega
    have found : (bytes.drop begin')[stop - 1 - begin']? = some last := by
      rw [List.getElem?_drop, ← read]
      exact congrArg (fun place => bytes[place]?) (by omega)
    rw [index, List.take_add_one, found]
    rfl
  rw [if_neg done, read]
  simp only [Option.bind_eq_bind, Option.bind_some]
  by_cases zero : last = 0
  · refine .inr ⟨stop - 1, if_pos zero, ⟨by omega, by omega⟩, by omega, ?_⟩
    rw [taken, trimmedOf_concat, if_pos zero]
  · refine .inl ?_
    rw [if_neg zero, taken, trimmedOf_concat, if_neg zero, List.length_append, List.length_take,
      List.length_drop]
    exact congrArg (fun place => some (Turn.leave place)) (by rw [List.length_singleton]; omega)

/-! ### Pieces -/

/-- A piece of a stream. -/
structure Piece where
  /-- Its start code has four bytes. -/
  long : Bool
  /-- Its unit. -/
  unit : List UInt8
  /-- The zero bytes behind its unit. -/
  padding : Nat

/-- The start code of a piece. -/
def Piece.code (piece : Piece) : List UInt8 := if piece.long then [0, 0, 0, 1] else [0, 0, 1]

/-- The bytes of a piece. -/
def Piece.bytes (piece : Piece) : List UInt8 :=
  piece.code ++ (piece.unit ++ List.replicate piece.padding 0)

/-- Bytes that do not end with zero and have no start code among them. -/
structure Clean (unit : List UInt8) : Prop where
  /-- The last byte is not zero. -/
  last : unit.getLast? ≠ some 0
  /-- There is no start code. -/
  free : ¬[0, 0, 1] <:+: unit

/-- A piece whose unit is not empty and can be told from what is around it. -/
structure Piece.Good (piece : Piece) : Prop where
  /-- There is a unit. -/
  nonempty : piece.unit ≠ []
  /-- It is clean. -/
  clean : Clean piece.unit

/-- The bytes after the first of clean bytes are clean. -/
theorem Clean.tail {byte : UInt8} {rest : List UInt8} (clean : Clean (byte :: rest)) :
    Clean rest := by
  refine ⟨fun last => clean.last ?_, fun code => clean.free ?_⟩
  · rw [List.getLast?_cons, last]
    rfl
  · exact code.trans (List.suffix_cons byte rest).isInfix

/-- Clean bytes are in front of no start code that is not after them. -/
theorem Clean.codeOf_eq {byte : UInt8} {rest : List UInt8} (clean : Clean (byte :: rest))
    (after : List UInt8) : codeOf (byte :: rest ++ after) = 0 := by
  have last := clean.last
  have free {front back : List UInt8} (same : byte :: rest = front ++ [0, 0, 1] ++ back) : False :=
    clean.free ⟨front, back, same.symm⟩
  match rest with
  | [] =>
    have first : byte ≠ 0 := fun zero => last (by rw [zero]; rfl)
    match after with
    | [] => rfl
    | [_] => rfl
    | second :: third :: after => exact if_pos (.inl first)
  | [second] =>
    have nonzero : second ≠ 0 := fun zero => last (by rw [zero]; rfl)
    match after with
    | [] => rfl
    | third :: after => exact if_pos (.inr nonzero)
  | second :: third :: rest =>
    show (if byte ≠ 0 ∨ second ≠ 0 then 0 else _) = 0
    by_cases nonzero : byte ≠ 0 ∨ second ≠ 0
    · exact if_pos nonzero
    rw [if_neg nonzero]
    rw [not_or, not_not, not_not] at nonzero
    obtain ⟨rfl, rfl⟩ := nonzero
    rw [if_neg fun one => @free [] rest (by rw [one]; rfl)]
    refine if_neg fun four => ?_
    obtain ⟨rfl, one⟩ := four
    match rest with
    | [] => exact last rfl
    | fourth :: rest =>
      obtain rfl : fourth = 1 := Option.some.inj one
      exact @free [0] rest rfl

/-- Clean bytes are raw bytes of a unit, with those after them. -/
theorem rawOf_clean {unit : List UInt8} (clean : Clean unit) (after : List UInt8) :
    rawOf (unit ++ after) = unit ++ rawOf after := by
  induction unit with
  | nil => rfl
  | cons byte rest ih =>
    rw [List.cons_append, rawOf, ← List.cons_append, clean.codeOf_eq after,
      if_neg (not_not.mpr rfl), ih clean.tail, List.cons_append]

/-- Zero bytes at the end are raw bytes of a unit. -/
theorem rawOf_zeros (count : Nat) :
    rawOf (List.replicate count 0) = List.replicate count 0 := by
  induction count with
  | zero => rfl
  | succ count ih =>
    have none : codeOf (List.replicate (count + 1) 0) = 0 := by
      match count with
      | 0 => rfl
      | 1 => rfl
      | 2 => rfl
      | count + 3 => rfl
    rw [List.replicate_succ] at none ⊢
    rw [rawOf, if_neg (not_not.mpr none), ih]

/-- The zero bytes in front of a start code are raw bytes of a unit, but for the last three. -/
theorem rawOf_zeros_one (count : Nat) (after : List UInt8) :
    rawOf (List.replicate (count + 3) 0 ++ 1 :: after) = List.replicate count 0 := by
  induction count with
  | zero => rfl
  | succ count ih =>
    have none : codeOf (List.replicate (count + 1 + 3) 0 ++ 1 :: after) = 0 := by
      match count with
      | 0 => rfl
      | count + 1 => rfl
    have front : List.replicate (count + 1 + 3) (0 : UInt8) ++ 1 :: after =
        0 :: (List.replicate (count + 3) 0 ++ 1 :: after) := rfl
    rw [front] at none ⊢
    rw [rawOf, if_neg (not_not.mpr none), ih]
    rfl

/-- Zero bytes behind clean bytes are trimmed. -/
theorem trimmedOf_zeros {unit : List UInt8} (clean : Clean unit) (count : Nat) :
    trimmedOf (unit ++ List.replicate count 0) = unit := by
  induction count with
  | zero =>
    rw [List.replicate_zero, List.append_nil]
    apply List.rdropWhile_eq_self_iff.mpr
    intro nonempty zero
    apply clean.last
    rw [List.getLast?_eq_some_getLast nonempty]
    exact congrArg some (by simpa using zero)
  | succ count ih =>
    rw [List.replicate_succ', ← List.append_assoc, trimmedOf_concat, if_pos rfl, ih]

/-- The unit at the front of a stream. -/
def unitOf (bytes : List UInt8) : List UInt8 := trimmedOf (rawOf (bytes.drop (codeOf bytes)))

/-- What is after the unit at the front of a stream. -/
def restOf (bytes : List UInt8) : List UInt8 :=
  (bytes.drop (codeOf bytes)).drop (rawOf (bytes.drop (codeOf bytes))).length

/-- The start code of a piece is found. -/
theorem codeOf_piece (piece : Piece) (after : List UInt8) :
    codeOf (piece.bytes ++ after) = piece.code.length := by
  unfold Piece.bytes Piece.code
  cases piece.long <;> rfl

/-- No start code is among the raw bytes of a unit. -/
theorem rawOf_free {bytes : List UInt8} {index : Nat} (inside : index < (rawOf bytes).length) :
    codeOf (bytes.drop index) = 0 := by
  induction bytes generalizing index with
  | nil => exact absurd inside (Nat.not_lt_zero _)
  | cons byte rest ih =>
    unfold rawOf at inside
    by_cases code : codeOf (byte :: rest) ≠ 0
    · rw [if_pos code] at inside
      exact absurd inside (Nat.not_lt_zero _)
    · rw [if_neg code] at inside
      cases index with
      | zero => exact not_not.mp code
      | succ index => exact ih (Nat.lt_of_succ_lt_succ inside)

/-- A front start code is one of the two. -/
theorem code_front {bytes : List UInt8} (coded : codeOf bytes ≠ 0) :
    ∃ long : Bool, bytes = (if long then [0, 0, 0, 1] else [0, 0, 1]) ++ bytes.drop (codeOf bytes) ∧
      codeOf bytes = (if long then [(0 : UInt8), 0, 0, 1] else [0, 0, 1]).length := by
  match bytes with
  | [] => exact absurd rfl coded
  | [_] => exact absurd rfl coded
  | [_, _] => exact absurd rfl coded
  | first :: second :: third :: rest =>
    have unfolded : codeOf (first :: second :: third :: rest) =
        if first ≠ 0 ∨ second ≠ 0 then 0
        else if third = 1 then 3
        else if third = 0 ∧ rest.head? = some 1 then 4
        else 0 := rfl
    rw [unfolded] at coded ⊢
    by_cases nonzero : first ≠ 0 ∨ second ≠ 0
    · rw [if_pos nonzero] at coded
      exact absurd rfl coded
    rw [if_neg nonzero] at coded ⊢
    rw [not_or, not_not, not_not] at nonzero
    obtain ⟨rfl, rfl⟩ := nonzero
    by_cases one : third = 1
    · rw [if_pos one, one]
      exact ⟨false, rfl, rfl⟩
    rw [if_neg one] at coded ⊢
    by_cases four : third = 0 ∧ rest.head? = some 1
    · rw [if_pos four]
      obtain ⟨rfl, head⟩ := four
      cases rest with
      | nil => cases head
      | cons fourth rest =>
        obtain rfl : fourth = 1 := Option.some.inj head
        exact ⟨true, rfl, rfl⟩
    · rw [if_neg four] at coded
      exact absurd rfl coded

/-- Trimmed bytes of a unit and zeros are its raw bytes, and they are clean. -/
theorem trimmedOf_rawOf (bytes : List UInt8) :
    ∃ count, rawOf bytes = trimmedOf (rawOf bytes) ++ List.replicate count 0 ∧
      Clean (trimmedOf (rawOf bytes)) := by
  have split : trimmedOf (rawOf bytes) ++ (rawOf bytes).rtakeWhile (· = 0) = rawOf bytes :=
    List.rdropWhile_append_rtakeWhile
  have zeros : (rawOf bytes).rtakeWhile (· = 0) =
      List.replicate ((rawOf bytes).rtakeWhile (· = 0)).length 0 :=
    List.eq_replicate_of_mem fun byte member => by simpa using List.mem_rtakeWhile_imp member
  refine ⟨((rawOf bytes).rtakeWhile (· = 0)).length, by rw [← zeros, split], ?_, ?_⟩
  · intro last
    have nonempty : trimmedOf (rawOf bytes) ≠ [] := by
      intro none
      rw [none] at last
      cases last
    rw [List.getLast?_eq_some_getLast nonempty] at last
    have nonzero := List.rdropWhile_last_not (fun byte : UInt8 => decide (byte = 0)) _ nonempty
    exact nonzero (decide_eq_true (Option.some.inj last))
  · rintro ⟨front, back, code⟩
    have whole := rawOf_append bytes
    rw [← split, ← code] at whole
    have shorter : front.length < (rawOf bytes).length := by
      rw [← split, ← code]
      simp only [List.length_append, List.length_cons]
      omega
    have none := rawOf_free shorter
    rw [← whole] at none
    simp only [List.append_assoc, List.drop_left] at none
    cases none

/-- Bytes that start with a code and a unit are a piece and what is after it. -/
theorem piece_front {bytes : List UInt8} (coded : codeOf bytes ≠ 0) (nonempty : unitOf bytes ≠ []) :
    ∃ piece : Piece, piece.Good ∧ piece.unit = unitOf bytes ∧
      piece.code.length = codeOf bytes ∧ bytes = piece.bytes ++ restOf bytes := by
  obtain ⟨long, front, size⟩ := code_front coded
  obtain ⟨count, raw, clean⟩ := trimmedOf_rawOf (bytes.drop (codeOf bytes))
  refine ⟨⟨long, unitOf bytes, count⟩, ⟨nonempty, clean⟩, rfl, size.symm, ?_⟩
  have body : unitOf bytes ++ List.replicate count 0 ++ restOf bytes =
      bytes.drop (codeOf bytes) := by
    rw [show unitOf bytes ++ List.replicate count 0 = rawOf (bytes.drop (codeOf bytes)) from
      raw.symm]
    exact rawOf_append _
  show bytes = (if long then [0, 0, 0, 1] else [0, 0, 1]) ++
    (unitOf bytes ++ List.replicate count 0) ++ restOf bytes
  rw [List.append_assoc, body]
  exact front

/-- A list of good pieces. -/
def AllGood (pieces : List Piece) : Prop := ∀ piece ∈ pieces, piece.Good

/-- The bytes of pieces in order. -/
def bytesOf (pieces : List Piece) : List UInt8 := pieces.flatMap Piece.bytes

/-- The zero bytes in front of a start code are a piece's padding, or part of a start code. -/
theorem rest_zeros (count : Nat) {pieces : List Piece} (good : AllGood pieces) :
    ∃ (padding : Nat) (others : List Piece), AllGood others ∧
      others.map Piece.unit = pieces.map Piece.unit ∧
        rawOf (List.replicate count 0 ++ bytesOf pieces) = List.replicate padding 0 ∧
        (List.replicate count 0 ++ bytesOf pieces).drop padding = bytesOf others := by
  cases pieces with
  | nil =>
    refine ⟨count, [], nofun, rfl, ?_, ?_⟩
    · exact (congrArg rawOf (List.append_nil _)).trans (rawOf_zeros count)
    · show (List.replicate count (0 : UInt8) ++ []).drop count = []
      rw [List.append_nil, List.drop_of_length_le (by rw [List.length_replicate])]
  | cons piece pieces =>
    -- All of the zeros that are in front of the one of the start code.
    obtain ⟨zeros, more, same⟩ : ∃ zeros, 2 ≤ zeros ∧
        List.replicate count 0 ++ bytesOf (piece :: pieces) =
          List.replicate zeros 0 ++
            1 :: (piece.unit ++ List.replicate piece.padding 0 ++ bytesOf pieces) := by
      have bytes : bytesOf (piece :: pieces) =
          piece.code ++ (piece.unit ++ List.replicate piece.padding 0) ++ bytesOf pieces := rfl
      cases long : piece.long with
      | true =>
        refine ⟨count + 3, by omega, ?_⟩
        rw [bytes, Piece.code, long, List.replicate_add]
        simp
      | false =>
        refine ⟨count + 2, by omega, ?_⟩
        rw [bytes, Piece.code, long, List.replicate_add]
        simp
    have good_like (other : Piece) (unit : other.unit = piece.unit) :
        AllGood (other :: pieces) := by
      intro member present
      obtain rfl | later := List.mem_cons.mp present
      · have known := good piece List.mem_cons_self
        exact ⟨unit ▸ known.nonempty, unit ▸ known.clean⟩
      · exact good member (List.mem_cons_of_mem _ later)
    rw [same]
    by_cases two : zeros = 2
    · subst two
      refine ⟨0, { piece with long := false } :: pieces, good_like _ rfl, rfl, rfl, ?_⟩
      simp [bytesOf, Piece.bytes, Piece.code]
    · obtain ⟨padding, rfl⟩ : ∃ padding, zeros = padding + 3 := ⟨zeros - 3, by omega⟩
      refine ⟨padding, { piece with long := true } :: pieces, good_like _ rfl, rfl,
        rawOf_zeros_one padding _, ?_⟩
      rw [List.replicate_add, List.append_assoc, List.drop_left' (List.length_replicate)]
      simp [bytesOf, Piece.bytes, Piece.code]

/-- The unit of the first of good pieces is found, and the units of the others are left. -/
theorem unit_of_piece {piece : Piece} {pieces : List Piece} (good : piece.Good)
    (others_good : AllGood pieces) :
    unitOf (bytesOf (piece :: pieces)) = piece.unit ∧
      ∃ others, AllGood others ∧ others.map Piece.unit = pieces.map Piece.unit ∧
        restOf (bytesOf (piece :: pieces)) = bytesOf others := by
  have whole : bytesOf (piece :: pieces) = piece.bytes ++ bytesOf pieces := rfl
  have body : (bytesOf (piece :: pieces)).drop (codeOf (bytesOf (piece :: pieces))) =
      piece.unit ++ (List.replicate piece.padding 0 ++ bytesOf pieces) := by
    rw [whole, codeOf_piece]
    unfold Piece.bytes
    rw [List.append_assoc, List.drop_left, List.append_assoc]
  obtain ⟨padding, others, all_good, units, raw, left⟩ := rest_zeros piece.padding others_good
  have found : rawOf (piece.unit ++ (List.replicate piece.padding 0 ++ bytesOf pieces)) =
      piece.unit ++ List.replicate padding 0 := by
    rw [rawOf_clean good.clean, raw]
  refine ⟨?_, others, all_good, units, ?_⟩
  · unfold unitOf
    rw [body, found, trimmedOf_zeros good.clean]
  · unfold restOf
    rw [body, found, List.length_append, List.length_replicate, ← List.drop_drop, List.drop_left,
      left]

end Plank.Media
