import Plank.Media.JpegGrammar
import Mathlib.Data.Nat.Bitwise

/-!
# The parts of a camera image

What the walk reads at one place of an image is what the grammar has there: the bytes that fill up
to a marker, the components of a frame, the entries of a scan and entropy-coded data.
-/

namespace Plank.Media

open Transport Wire

/-- A number of two bytes is the one that is written with them. -/
theorem jpegWord_iff {high low : UInt8} {value : Nat} :
    jpegWord high low = value ↔ value < 65536 ∧ writeBe 2 value = [high, low] := by
  have bytes : jpegWord high low = readBe [high, low] := by
    have below := low.toNat_lt
    unfold jpegWord
    rw [Nat.shiftLeft_eq, or_shifted 8 (by omega)]
    simp only [readBe, List.length_cons, List.length_nil]
    omega
  rw [bytes]
  constructor
  · rintro rfl
    have fits := readBe_lt [high, low]
    simp only [List.length_cons, List.length_nil] at fits
    exact ⟨by omega, writeBe_readBe [high, low]⟩
  · rintro ⟨fits, written⟩
    rw [← written, readBe_writeBe fits]

/-! ### Bytes that fill up -/

/-- The search for the end of the bytes that fill up stays inside the bytes. -/
theorem fillLoop_eq {bytes : List UInt8} {start : Nat} (inside : start ≤ bytes.length) :
    loop (fillTurn bytes) (bytes.length + 1) start =
      some (start + ((bytes.drop start).takeWhile (· = 0xff)).length) := by
  apply loop_eq (fun index => index ≤ bytes.length) (fun index => bytes.length - index)
    (fun index => index + ((bytes.drop index).takeWhile (· = 0xff)).length) _ inside (by omega)
  intro index within
  unfold fillTurn
  by_cases done : bytes.length ≤ index
  · rw [if_pos done, List.drop_eq_nil_of_le done]
    exact .inl rfl
  have here : index < bytes.length := by omega
  rw [if_neg done, List.getElem?_eq_getElem here, List.drop_eq_getElem_cons here]
  simp only [Option.bind_eq_bind, Option.bind_some]
  by_cases fills : bytes[index] = 0xff
  · refine .inr ⟨index + 1, if_pos fills, here, by omega, ?_⟩
    rw [List.takeWhile_cons_of_pos (by simpa using fills), List.length_cons]
    omega
  · refine .inl ?_
    rw [if_neg fills, List.takeWhile_cons_of_neg (by simpa using fills)]
    rfl

/-- A list is bytes that fill up and a list that does not start with one. -/
theorem fill_split (bytes : List UInt8) :
    ∃ fill tail, bytes = List.replicate fill 0xff ++ tail ∧
      (bytes.takeWhile (· = 0xff)).length = fill ∧ tail.head? ≠ some 0xff := by
  refine ⟨_, bytes.dropWhile (· = 0xff), ?_, rfl, fun starts => ?_⟩
  · have filled : bytes.takeWhile (· = 0xff) =
        List.replicate (bytes.takeWhile (· = 0xff)).length 0xff :=
      List.eq_replicate_of_mem fun byte member => by
        simpa using List.mem_takeWhile_imp member
    rw [← filled, List.takeWhile_append_dropWhile]
  · have last := List.head?_dropWhile_not (· = 0xff) bytes
    rw [starts] at last
    simp at last

/-! ### The frame -/

/-- The components of a frame are read where they fill the rest of the payload. -/
theorem frameComponents_spec {payload : List UInt8} {count index : Nat} {ids : List UInt8}
    (distinct : ids.Nodup) (size : (payload.drop (6 + 3 * index)).length = 3 * count) :
    ∃ result, frameComponents payload count index ids = some result ∧
      ∀ ids', result = some ids' ↔ ∃ components : List JpegComponent,
        payload.drop (6 + 3 * index) = components.flatMap JpegComponent.bytes ∧
        components.length = count ∧
        (∀ component ∈ components,
          validSampling component.sampling = true ∧ component.table ≤ 3) ∧
        (ids ++ components.map JpegComponent.id).Nodup ∧
        ids' = ids ++ components.map JpegComponent.id := by
  induction count generalizing index ids with
  | zero =>
    refine ⟨some ids, rfl, fun ids' => ⟨?_, ?_⟩⟩
    · rintro ⟨⟩
      exact ⟨[], List.eq_nil_of_length_eq_zero size, rfl, by simp, by simpa, by simp⟩
    · rintro ⟨components, -, none, -, -, rfl⟩
      rw [List.eq_nil_of_length_eq_zero none, List.map_nil, List.append_nil]
  | succ count ih =>
    obtain ⟨id, sampling, table, rest, here⟩ : ∃ id sampling table rest,
        payload.drop (6 + 3 * index) = id :: sampling :: table :: rest := by
      match cut : payload.drop (6 + 3 * index) with
      | [] | [_] | [_, _] =>
        rw [cut] at size
        simp only [List.length_cons, List.length_nil] at size
        omega
      | id :: sampling :: table :: rest => exact ⟨id, sampling, table, rest, rfl⟩
    have first : payload[6 + 3 * index]? = some id := by
      rw [← Nat.add_zero (6 + 3 * index), ← List.getElem?_drop, here]
      rfl
    have second : payload[7 + 3 * index]? = some sampling := by
      rw [show 7 + 3 * index = 6 + 3 * index + 1 by omega, ← List.getElem?_drop, here]
      rfl
    have third : payload[8 + 3 * index]? = some table := by
      rw [show 8 + 3 * index = 6 + 3 * index + 2 by omega, ← List.getElem?_drop, here]
      rfl
    have next : payload.drop (6 + 3 * (index + 1)) = rest := by
      rw [show 6 + 3 * (index + 1) = 6 + 3 * index + 3 by omega, ← List.drop_drop, here]
      rfl
    -- What the grammar has here starts with the component that is read.
    have front (components : List JpegComponent)
        (same : payload.drop (6 + 3 * index) = components.flatMap JpegComponent.bytes)
        (counted : components.length = count + 1) :
        ∃ more, components = ⟨id, sampling, table⟩ :: more ∧
          rest = more.flatMap JpegComponent.bytes ∧ more.length = count := by
      obtain _ | ⟨⟨id', sampling', table'⟩, more⟩ := components
      · exact absurd counted (by simp)
      · rw [here, List.flatMap_cons] at same
        obtain ⟨rfl, rfl, rfl, rests⟩ : id = id' ∧ sampling = sampling' ∧ table = table' ∧
            rest = more.flatMap JpegComponent.bytes := by
          simpa [JpegComponent.bytes] using same
        exact ⟨more, rfl, rests, by simpa using counted⟩
    unfold frameComponents
    rw [first, second, third]
    simp only [Option.bind_eq_bind, Option.bind_some]
    by_cases sampled : validSampling sampling = true
    case neg =>
      refine ⟨none, if_pos (by simpa using sampled), fun ids' => ⟨nofun, ?_⟩⟩
      rintro ⟨components, same, counted, valid, -⟩
      obtain ⟨more, rfl, -⟩ := front components same counted
      exact absurd (valid _ List.mem_cons_self).1 sampled
    rw [if_neg (by simpa using sampled)]
    by_cases tabled : table > 3
    · refine ⟨none, if_pos tabled, fun ids' => ⟨nofun, ?_⟩⟩
      rintro ⟨components, same, counted, valid, -⟩
      obtain ⟨more, rfl, -⟩ := front components same counted
      exact absurd (valid _ List.mem_cons_self).2 (UInt8.not_le.mpr tabled)
    rw [if_neg tabled]
    by_cases twice : id ∈ ids
    · refine ⟨none, if_pos twice, fun ids' => ⟨nofun, ?_⟩⟩
      rintro ⟨components, same, counted, -, different, -⟩
      obtain ⟨more, rfl, -⟩ := front components same counted
      exact absurd rfl ((List.nodup_append.mp different).2.2 id twice id List.mem_cons_self)
    rw [if_neg twice]
    have distinct_after : (ids ++ [id]).Nodup :=
      List.nodup_append.mpr ⟨distinct, List.nodup_singleton id, fun other member _ same => by
        rw [List.mem_singleton] at same
        rintro rfl
        exact twice (same ▸ member)⟩
    obtain ⟨result, reads, spec⟩ := ih distinct_after
      (by rw [next]; rw [here] at size; simp only [List.length_cons] at size; omega)
    refine ⟨result, reads, fun ids' => (spec ids').trans ⟨?_, ?_⟩⟩
    · rintro ⟨components, same, counted, valid, different, rfl⟩
      refine ⟨⟨id, sampling, table⟩ :: components, ?_, ?_, ?_, ?_, ?_⟩
      · rw [here, ← next, same]
        rfl
      · rw [List.length_cons, counted]
      · rintro component (_ | ⟨_, member⟩)
        · exact ⟨sampled, UInt8.not_lt.mp tabled⟩
        · exact valid component member
      · simpa using different
      · simp
    · rintro ⟨components, same, counted, valid, different, rfl⟩
      obtain ⟨more, rfl, rests, counts⟩ := front components same counted
      exact ⟨more, next.trans rests, counts,
        fun component member => valid component (List.mem_cons_of_mem _ member),
        by simpa using different, by simp⟩

/-- The payload of a frame, from its first bytes on. -/
theorem frame_front {width height : Nat} {payload : List UInt8} {components : List JpegComponent}
    (is_frame : JpegFrame width height payload components) :
    ∃ first second third fourth, writeBe 2 height = [first, second] ∧
      writeBe 2 width = [third, fourth] ∧ payload = 8 :: first :: second :: third :: fourth ::
        UInt8.ofNat components.length :: components.flatMap JpegComponent.bytes :=
  ⟨_, _, _, _, rfl, rfl, is_frame.bytes⟩

/-- The bytes of components. -/
theorem length_components (components : List JpegComponent) :
    (components.flatMap JpegComponent.bytes).length = 3 * components.length := by
  rw [List.length_flatMap]
  simp [JpegComponent.bytes, Nat.mul_comm]

/-- The components of a frame are read, and nothing where the payload is not that of one. -/
theorem frameIds_spec (payload : List UInt8) (width height : Nat) :
    ∃ result, frameIds payload width height = some result ∧
      ∀ ids, result = some ids ↔ ∃ components, JpegFrame width height payload components ∧
        ids = components.map JpegComponent.id := by
  -- What makes the check refuse the payload is that of no frame.
  have refused (absurd : ∀ components, ¬JpegFrame width height payload components) (ids) :
      none = some ids ↔ ∃ components, JpegFrame width height payload components ∧
        ids = components.map JpegComponent.id :=
    ⟨nofun, fun ⟨components, is_frame, _⟩ => (absurd components is_frame).elim⟩
  unfold frameIds
  by_cases short : payload.length < 6
  · refine ⟨none, if_pos short, refused fun components is_frame => ?_⟩
    obtain ⟨first, second, third, fourth, -, -, rfl⟩ := frame_front is_frame
    simp only [List.length_cons] at short
    omega
  rw [if_neg short]
  obtain ⟨bits, first, second, third, fourth, count, rest, rfl⟩ : ∃ bits first second third fourth
      count rest, payload = bits :: first :: second :: third :: fourth :: count :: rest := by
    match payload, short with
    | [], short | [_], short | [_, _], short | [_, _, _], short | [_, _, _, _], short
    | [_, _, _, _, _], short => exact absurd (by simp) short
    | bits :: first :: second :: third :: fourth :: count :: rest, _ =>
      exact ⟨bits, first, second, third, fourth, count, rest, rfl⟩
  simp only [List.getElem?_cons_zero, List.getElem?_cons_succ, Option.bind_eq_bind,
    Option.bind_some]
  -- The bytes of a frame with this payload, one by one.
  have front {components : List JpegComponent}
      (is_frame : JpegFrame width height
        (bits :: first :: second :: third :: fourth :: count :: rest) components) :
      bits = 8 ∧ jpegWord first second = height ∧ jpegWord third fourth = width ∧
        count = UInt8.ofNat components.length ∧
        rest = components.flatMap JpegComponent.bytes := by
    obtain ⟨_, _, _, _, heights, widths, same⟩ := frame_front is_frame
    simp only [List.cons.injEq] at same
    obtain ⟨rfl, rfl, rfl, rfl, rfl, rfl, rfl⟩ := same
    exact ⟨rfl, jpegWord_iff.mpr ⟨is_frame.size.2, heights⟩,
      jpegWord_iff.mpr ⟨is_frame.size.1, widths⟩, rfl, rfl⟩
  by_cases eight : bits ≠ 8
  · exact ⟨none, if_pos eight, refused fun components is_frame => eight (front is_frame).1⟩
  rw [if_neg eight]
  by_cases tall : jpegWord first second ≠ height
  · exact ⟨none, if_pos tall, refused fun components is_frame => tall (front is_frame).2.1⟩
  rw [if_neg tall]
  by_cases wide : jpegWord third fourth ≠ width
  · exact ⟨none, if_pos wide, refused fun components is_frame => wide (front is_frame).2.2.1⟩
  rw [if_neg wide]
  by_cases counts : (count.toNat ≠ 1 ∧ count.toNat ≠ 3) ∨
      (bits :: first :: second :: third :: fourth :: count :: rest).length ≠ 6 + 3 * count.toNat
  · refine ⟨none, if_pos counts, refused fun components is_frame => ?_⟩
    obtain ⟨-, -, -, rfl, rfl⟩ := front is_frame
    have number : (UInt8.ofNat components.length).toNat = components.length := by
      rw [UInt8.toNat_ofNat', Nat.mod_eq_of_lt]
      obtain one | three := is_frame.count <;> omega
    rw [number] at counts
    simp only [List.length_cons, length_components] at counts
    obtain one | three := is_frame.count <;> omega
  rw [if_neg counts]
  simp only [List.length_cons] at counts
  obtain ⟨result, reads, spec⟩ := @frameComponents_spec
    (bits :: first :: second :: third :: fourth :: count :: rest) count.toNat 0 []
    List.nodup_nil (show rest.length = _ by omega)
  refine ⟨result, reads, fun ids => (spec ids).trans ⟨?_, ?_⟩⟩
  · rintro ⟨components, same, counted, valid, distinct, rfl⟩
    obtain ⟨tall_fits, heights⟩ := jpegWord_iff.mp (not_not.mp tall)
    obtain ⟨wide_fits, widths⟩ := jpegWord_iff.mp (not_not.mp wide)
    refine ⟨components, ⟨?_, ⟨wide_fits, tall_fits⟩, by omega, valid, distinct⟩, rfl⟩
    rw [not_not.mp eight, heights, widths, counted, UInt8.ofNat_toNat, ← same]
    rfl
  · rintro ⟨components, is_frame, rfl⟩
    obtain ⟨-, -, -, rfl, rfl⟩ := front is_frame
    refine ⟨components, rfl, ?_, is_frame.valid, is_frame.distinct, rfl⟩
    rw [length_components] at counts
    omega

end Plank.Media
