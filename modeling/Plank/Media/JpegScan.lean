import Plank.Media.JpegParts

/-!
# The scan of a camera image

The entries of a scan are those of the components of the frame, each once, which the walk tells from
a set of bits. The entropy-coded data behind them ends at the first marker, in one way only.
-/

namespace Plank.Media

open Wire

/-! ### The entries -/

/-- A component of a frame has a place there, and nothing else has. -/
theorem componentIndex_spec (ids : List UInt8) (id : UInt8) :
    (componentIndex ids id = ids.length ∧ id ∉ ids) ∨
      (componentIndex ids id < ids.length ∧ ids[componentIndex ids id]? = some id) := by
  have found (start : Nat) :
      (ids.zipIdx.foldl (fun found entry => if entry.1 = id then entry.2 else found) start = start ∧
        id ∉ ids) ∨
      ids[ids.zipIdx.foldl (fun found entry => if entry.1 = id then entry.2 else found) start]? =
        some id := by
    induction ids using List.reverseRecOn with
    | nil => exact .inl ⟨rfl, List.not_mem_nil⟩
    | append_singleton ids last ih =>
      rw [List.zipIdx_append, List.foldl_append]
      simp only [List.zipIdx_singleton, List.foldl_cons, List.foldl_nil, Nat.zero_add]
      by_cases here : last = id
      · rw [if_pos here, List.getElem?_concat_length, here]
        exact .inr rfl
      rw [if_neg here]
      obtain ⟨same, absent⟩ | present := ih
      · exact .inl ⟨same, by simp [absent, Ne.symm here]⟩
      · refine .inr ?_
        rw [List.getElem?_append_left (List.getElem?_eq_some_iff.mp present).1, present]
  obtain none | here := found ids.length
  · exact .inl none
  · exact .inr ⟨(List.getElem?_eq_some_iff.mp here).1, here⟩

/-- Components of a frame are told apart by their places. -/
theorem componentIndex_inj {ids : List UInt8} {id other : UInt8} (known : id ∈ ids)
    (same : componentIndex ids id = componentIndex ids other) : id = other := by
  obtain ⟨-, absent⟩ | ⟨inside, here⟩ := componentIndex_spec ids id
  · exact absurd known absent
  obtain ⟨outside, -⟩ | ⟨-, there⟩ := componentIndex_spec ids other
  · omega
  · rw [same, there] at here
    exact (Option.some.inj here).symm

/-- A place is in a set with one more if it was there or is the new one. -/
theorem testBit_seen (seen found place : Nat) :
    (seen ||| (1 <<< found)).testBit place = true ↔ seen.testBit place = true ∨ found = place := by
  rw [Nat.testBit_or, Nat.one_shiftLeft, Nat.testBit_two_pow, Bool.or_eq_true, decide_eq_true_eq]

/-- The check of a set of places is that for membership. -/
theorem seen_iff (seen found : Nat) :
    seen &&& (1 <<< found) ≠ 0 ↔ seen.testBit found = true := by
  rw [Nat.one_shiftLeft, Nat.and_two_pow]
  cases seen.testBit found
  · simp
  · simp

/-- The entries of a scan are read where they stand before its limits. -/
theorem scanComponents_spec {payload ids tail limits : List UInt8} {count index seen : Nat}
    (here : payload.drop (1 + 2 * index) = tail ++ limits) (size : tail.length = 2 * count) :
    ∃ accepted, scanComponents payload ids count index seen = some accepted ∧
      (accepted = true ↔ ∃ entries : List JpegScanEntry,
        tail = entries.flatMap JpegScanEntry.bytes ∧ entries.length = count ∧
        (∀ entry ∈ entries, entry.id ∈ ids) ∧ (entries.map JpegScanEntry.id).Nodup ∧
        (∀ entry ∈ entries, entry.tables >>> 4 ≤ 3 ∧ entry.tables &&& 15 ≤ 3) ∧
        ∀ entry ∈ entries, ¬seen.testBit (componentIndex ids entry.id) = true) := by
  induction count generalizing index seen tail with
  | zero =>
    refine ⟨true, rfl, fun _ => ⟨[], List.eq_nil_of_length_eq_zero size, rfl, ?_⟩, fun _ => rfl⟩
    simp
  | succ count ih =>
    obtain ⟨id, tables, rest, rfl⟩ : ∃ id tables rest, tail = id :: tables :: rest := by
      match tail, size with
      | [], size | [_], size =>
        simp only [List.length_cons, List.length_nil] at size
        omega
      | id :: tables :: rest, _ => exact ⟨id, tables, rest, rfl⟩
    have first : payload[1 + 2 * index]? = some id := by
      rw [← Nat.add_zero (1 + 2 * index), ← List.getElem?_drop, here]
      rfl
    have second : payload[2 + 2 * index]? = some tables := by
      rw [show 2 + 2 * index = 1 + 2 * index + 1 by omega, ← List.getElem?_drop, here]
      rfl
    have next : payload.drop (1 + 2 * (index + 1)) = rest ++ limits := by
      rw [show 1 + 2 * (index + 1) = 1 + 2 * index + 2 by omega, ← List.drop_drop, here]
      rfl
    -- What the grammar has here starts with the entry that is read.
    have front (entries : List JpegScanEntry)
        (same : id :: tables :: rest = entries.flatMap JpegScanEntry.bytes)
        (counted : entries.length = count + 1) :
        ∃ more, entries = ⟨id, tables⟩ :: more ∧ rest = more.flatMap JpegScanEntry.bytes ∧
          more.length = count := by
      obtain _ | ⟨⟨id', tables'⟩, more⟩ := entries
      · exact absurd counted (by simp)
      · rw [List.flatMap_cons] at same
        obtain ⟨rfl, rfl, rests⟩ : id = id' ∧ tables = tables' ∧
            rest = more.flatMap JpegScanEntry.bytes := by
          simpa [JpegScanEntry.bytes] using same
        exact ⟨more, rfl, rests, by simpa using counted⟩
    have unknown : componentIndex ids id = ids.length ↔ id ∉ ids := by
      obtain ⟨outside, absent⟩ | ⟨inside, there⟩ := componentIndex_spec ids id
      · exact ⟨fun _ => absent, fun _ => outside⟩
      · exact ⟨fun outside => by omega,
          fun absent => absurd (List.mem_of_getElem? there) absent⟩
    unfold scanComponents
    rw [first, second]
    simp only [Option.bind_eq_bind, Option.bind_some, unknown, seen_iff, gt_iff_lt]
    by_cases bad : id ∉ ids ∨ seen.testBit (componentIndex ids id) = true ∨
        (3 : UInt8) < tables >>> 4 ∨ (3 : UInt8) < tables &&& 15
    · refine ⟨false, if_pos bad, nofun, ?_⟩
      rintro ⟨entries, same, counted, known, -, ranged, fresh⟩
      obtain ⟨more, rfl, -⟩ := front entries same counted
      obtain absent | seen | high | low := bad
      · exact absurd (known _ List.mem_cons_self) absent
      · exact absurd seen (fresh _ List.mem_cons_self)
      · exact absurd (ranged _ List.mem_cons_self).1 (UInt8.not_le.mpr high)
      · exact absurd (ranged _ List.mem_cons_self).2 (UInt8.not_le.mpr low)
    rw [if_neg bad]
    simp only [not_or, not_not, UInt8.not_lt] at bad
    obtain ⟨present, unseen, high, low⟩ := bad
    obtain ⟨accepted, reads, spec⟩ := @ih rest (index + 1) (seen ||| (1 <<< componentIndex ids id))
      next (by simp only [List.length_cons] at size; omega)
    refine ⟨accepted, reads, spec.trans ⟨?_, ?_⟩⟩
    · rintro ⟨entries, rfl, rfl, known, distinct, ranged, fresh⟩
      have apart (entry) (member : entry ∈ entries) : entry.id ≠ id := fun same =>
        fresh entry member ((testBit_seen _ _ _).mpr (.inr (by rw [same])))
      refine ⟨⟨id, tables⟩ :: entries, rfl, rfl, ?_, ?_, ?_, ?_⟩
      · exact List.forall_mem_cons.mpr ⟨present, known⟩
      · refine List.nodup_cons.mpr ⟨fun member => ?_, distinct⟩
        obtain ⟨entry, inside, same⟩ := List.mem_map.mp member
        exact apart entry inside same
      · exact List.forall_mem_cons.mpr ⟨⟨high, low⟩, ranged⟩
      · exact List.forall_mem_cons.mpr ⟨unseen, fun entry member seen =>
          fresh entry member ((testBit_seen _ _ _).mpr (.inl seen))⟩
    · rintro ⟨entries, same, counted, known, distinct, ranged, fresh⟩
      obtain ⟨more, rfl, rests, counts⟩ := front entries same counted
      obtain ⟨apart, distinct⟩ := List.nodup_cons.mp distinct
      refine ⟨more, rests, counts, fun entry member => known entry (List.mem_cons_of_mem _ member),
        distinct, fun entry member => ranged entry (List.mem_cons_of_mem _ member),
        fun entry member seen => ?_⟩
      obtain before | same := (testBit_seen _ _ _).mp seen
      · exact fresh entry (List.mem_cons_of_mem _ member) before
      · have same_id : id = entry.id := componentIndex_inj present same
        exact apart (List.mem_map.mpr ⟨entry, member, same_id.symm⟩)

/-- The bytes of entries. -/
theorem length_entries (entries : List JpegScanEntry) :
    (entries.flatMap JpegScanEntry.bytes).length = 2 * entries.length := by
  rw [List.length_flatMap]
  simp [JpegScanEntry.bytes, Nat.mul_comm]

/-- A list is a front, three bytes and nothing more. -/
theorem last_three {bytes : List UInt8} {count : Nat} (size : bytes.length = count + 3) :
    ∃ tail first second third, bytes = tail ++ [first, second, third] ∧ tail.length = count := by
  obtain ⟨first, second, third, rest⟩ : ∃ first second third,
      bytes.drop count = [first, second, third] :=
    List.length_eq_three.mp (by rw [List.length_drop]; omega)
  refine ⟨bytes.take count, first, second, third, ?_, by rw [List.length_take]; omega⟩
  rw [← rest, List.take_append_drop]

/-- The header of a scan over the components of a frame is accepted, and no other. -/
theorem scanHeader_spec {ids : List UInt8} (payload : List UInt8) (few : ids.length < 256)
    (framed : ids ≠ []) :
    ∃ accepted, scanHeader payload ids = some accepted ∧
      (accepted = true ↔ ∃ entries, JpegScan ids payload entries) := by
  have positive : ids.length ≠ 0 := by simpa using framed
  unfold scanHeader
  by_cases sized : ids.length = 0 ∨ payload.length ≠ 4 + 2 * ids.length
  · refine ⟨false, if_pos sized, nofun, ?_⟩
    rintro ⟨entries, scan⟩
    have size := congrArg List.length scan.bytes
    simp only [List.length_cons, List.length_append, length_entries, List.length_nil,
      scan.count] at size
    omega
  rw [if_neg sized]
  simp only [not_or, not_not] at sized
  obtain _ | ⟨first, body⟩ := payload
  · simp only [List.length_nil] at sized
    omega
  rw [List.length_cons] at sized
  obtain ⟨tail, second, third, fourth, rfl, counts⟩ :=
    @last_three body (2 * ids.length) (by omega)
  have limit (place : Nat) (below : place < 3) :
      (first :: (tail ++ [second, third, fourth]))[2 * ids.length + 1 + place]? =
        [second, third, fourth][place]? := by
    rw [Nat.add_right_comm, List.getElem?_cons_succ,
      List.getElem?_append_right (by omega), counts, Nat.add_sub_cancel_left]
  have size : (first :: (tail ++ [second, third, fourth])).length = 2 * ids.length + 4 := by
    simp only [List.length_cons, List.length_append, List.length_nil]
    omega
  -- The bytes of the header of a scan with this payload, one by one.
  have front {entries : List JpegScanEntry}
      (scan : JpegScan ids (first :: (tail ++ [second, third, fourth])) entries) :
      first.toNat = ids.length ∧ tail = entries.flatMap JpegScanEntry.bytes ∧
        second = 0 ∧ third = 63 ∧ fourth = 0 := by
    obtain ⟨firsts, bodies⟩ := List.cons.inj scan.bytes
    obtain ⟨tails, limits⟩ := List.append_inj bodies (by rw [length_entries, scan.count, counts])
    simp only [List.cons.injEq, and_true] at limits
    refine ⟨?_, tails, limits⟩
    rw [firsts, UInt8.toNat_ofNat', scan.count, Nat.mod_eq_of_lt few]
  rw [size, show 2 * ids.length + 4 - 3 = 2 * ids.length + 1 + 0 by omega,
    show 2 * ids.length + 4 - 2 = 2 * ids.length + 1 + 1 by omega,
    show 2 * ids.length + 4 - 1 = 2 * ids.length + 1 + 2 by omega, limit 0 (by omega),
    limit 1 (by omega), limit 2 (by omega)]
  simp only [List.getElem?_cons_zero, List.getElem?_cons_succ, Option.bind_eq_bind,
    Option.bind_some]
  by_cases number : first.toNat ≠ ids.length
  · exact ⟨false, if_pos number, nofun, fun ⟨_, scan⟩ => absurd (front scan).1 number⟩
  rw [if_neg number]
  by_cases start : second ≠ 0
  · exact ⟨false, if_pos start, nofun, fun ⟨_, scan⟩ => absurd (front scan).2.2.1 start⟩
  rw [if_neg start]
  by_cases stop : third ≠ 63
  · exact ⟨false, if_pos stop, nofun, fun ⟨_, scan⟩ => absurd (front scan).2.2.2.1 stop⟩
  rw [if_neg stop]
  by_cases precision : fourth ≠ 0
  · exact ⟨false, if_pos precision, nofun, fun ⟨_, scan⟩ => absurd (front scan).2.2.2.2 precision⟩
  rw [if_neg precision]
  obtain ⟨accepted, reads, spec⟩ := @scanComponents_spec
    (first :: (tail ++ [second, third, fourth])) ids tail [second, third, fourth] ids.length 0 0
    rfl counts
  refine ⟨accepted, reads, spec.trans ⟨?_, ?_⟩⟩
  · rintro ⟨entries, rfl, counted, known, distinct, tables, -⟩
    refine ⟨entries, ?_, counted, known, distinct, tables⟩
    rw [counted, ← not_not.mp number, UInt8.ofNat_toNat, not_not.mp start, not_not.mp stop,
      not_not.mp precision]
  · rintro ⟨entries, scan⟩
    exact ⟨entries, (front scan).2.1, scan.count, scan.known, scan.distinct, scan.tables,
      fun entry _ => by simp⟩

/-! ### Entropy-coded data -/

/-- What can stand behind entropy-coded data: nothing, a byte 0xff alone, or a marker. -/
def Terminal (bytes : List UInt8) : Prop :=
  bytes = [] ∨ bytes = [0xff] ∨ ∃ marker rest, bytes = 0xff :: marker :: rest ∧
    stuffing marker = false

/-- Entropy-coded data and more of it. -/
theorem Entropy.append {data more : List UInt8} (coded : Entropy data) (coded' : Entropy more) :
    Entropy (data ++ more) := by
  induction coded with
  | nil => exact coded'
  | plain other _ ih => exact .plain other ih
  | stuffed stuffs _ ih => exact .stuffed stuffs ih

/-- What can stand behind the data is not at the front of data. -/
theorem Terminal.not_coded {data bytes ending : List UInt8} (ends : Terminal bytes)
    (coded : Entropy data) (same : bytes = data ++ ending) : data = [] := by
  cases coded with
  | nil => rfl
  | plain other more =>
    rw [List.cons_append] at same
    obtain rfl | rfl | ⟨marker, rest, rfl, -⟩ := ends
    · exact absurd same (by simp)
    · exact absurd (List.cons.inj same).1.symm other
    · exact absurd (List.cons.inj same).1.symm other
  | stuffed stuffs more =>
    rw [List.cons_append, List.cons_append] at same
    obtain rfl | rfl | ⟨marker, rest, rfl, not⟩ := ends
    · exact absurd same (by simp)
    · exact absurd (List.cons.inj same).2 (by simp)
    · obtain ⟨rfl, -⟩ := List.cons.inj (List.cons.inj same).2
      exact absurd stuffs (by rw [not]; decide)

/-- Entropy-coded data ends in one way only. -/
theorem entropy_unique {data data' ending ending' : List UInt8} (coded : Entropy data)
    (coded' : Entropy data') (ends : Terminal ending) (ends' : Terminal ending')
    (same : data ++ ending = data' ++ ending') : data = data' ∧ ending = ending' := by
  induction coded generalizing data' with
  | nil =>
    obtain rfl := ends.not_coded coded' same
    exact ⟨rfl, same⟩
  | plain other _ ih =>
    cases coded' with
    | nil => exact absurd (ends'.not_coded (.plain other ‹_›) same.symm) (by simp)
    | plain other' more' =>
      obtain ⟨rfl, rest⟩ := List.cons.inj same
      obtain ⟨rfl, endings⟩ := ih more' rest
      exact ⟨rfl, endings⟩
    | stuffed stuffs' more' => exact absurd (List.cons.inj same).1 other
  | stuffed stuffs _ ih =>
    cases coded' with
    | nil => exact absurd (ends'.not_coded (.stuffed stuffs ‹_›) same.symm) (by simp)
    | plain other' more' => exact absurd (List.cons.inj same).1.symm other'
    | stuffed stuffs' more' =>
      obtain ⟨rfl, rest⟩ := List.cons.inj (List.cons.inj same).2
      obtain ⟨rfl, endings⟩ := ih more' rest
      exact ⟨rfl, endings⟩

/-- The search for the end of the data stays inside the bytes and ends where the data does. -/
theorem entropyLoop_spec {bytes : List UInt8} {start : Nat} (inside : start ≤ bytes.length) :
    ∃ result, loop (entropyTurn bytes) (bytes.length + 1) start = some result ∧
      ∃ data ending, bytes.drop start = data ++ ending ∧ Entropy data ∧ Terminal ending ∧
        result = if ending = [0xff] then none else some (start + data.length) := by
  apply loop_ends (fun index => index ≤ bytes.length ∧ ∃ data,
      bytes.drop start = data ++ bytes.drop index ∧ Entropy data ∧ index = start + data.length)
    (fun index => bytes.length - index) _ _ ⟨inside, [], rfl, .nil, rfl⟩ (by omega)
  rintro index ⟨within, data, behind, coded, place⟩
  -- The loop goes on behind more data.
  have goes {more : List UInt8} (coded_more : Entropy more) (nonempty : more ≠ [])
      (here : bytes.drop index = more ++ bytes.drop (index + more.length))
      (turns : entropyTurn bytes index = some (.next (index + more.length))) :
      ∃ after, entropyTurn bytes index = some (.next after) ∧
        (after ≤ bytes.length ∧ ∃ data, bytes.drop start = data ++ bytes.drop after ∧
          Entropy data ∧ after = start + data.length) ∧
        bytes.length - after < bytes.length - index := by
    have positive := List.length_pos_iff.mpr nonempty
    have size := congrArg List.length here
    rw [List.length_append, List.length_drop, List.length_drop] at size
    refine ⟨_, turns, ⟨by omega, data ++ more, ?_, coded.append coded_more, ?_⟩, by omega⟩
    · rw [List.append_assoc, ← here, behind]
    · rw [List.length_append]
      omega
  unfold entropyTurn at goes ⊢
  by_cases done : bytes.length ≤ index
  · refine .inl ⟨_, if_pos done, data, [], ?_, coded, .inl rfl, ?_⟩
    · rw [behind, List.drop_eq_nil_of_le done]
    · rw [if_neg (by simp), place]
  have here : index < bytes.length := by omega
  have split := List.drop_eq_getElem_cons here
  rw [if_neg done, List.getElem?_eq_getElem here] at goes ⊢
  rw [difference_eq within] at goes ⊢
  simp only [Option.bind_eq_bind, Option.bind_some] at goes ⊢
  by_cases plain : bytes[index] ≠ 0xff
  · exact .inr (@goes [bytes[index]] (.plain plain .nil) (by simp) split (if_pos plain))
  rw [if_neg plain] at goes ⊢
  rw [not_not.mp plain] at split
  by_cases last : bytes.length - index < 2
  · refine .inl ⟨none, if_pos last, data, [0xff], ?_, coded, .inr (.inl rfl), ?_⟩
    · rw [behind, split, List.drop_eq_nil_of_le (by omega)]
    · rw [if_pos rfl]
  have next : index + 1 < bytes.length := by omega
  have split_next := List.drop_eq_getElem_cons next
  rw [if_neg last, List.getElem?_eq_getElem next, Option.bind_some] at goes ⊢
  by_cases stuffs : stuffing bytes[index + 1] = true
  · refine .inr (@goes [0xff, bytes[index + 1]] (.stuffed stuffs .nil) (by simp) ?_ (if_pos stuffs))
    rw [split, split_next]
    rfl
  · have ends : bytes.drop index = 0xff :: bytes[index + 1] :: bytes.drop (index + 1 + 1) := by
      rw [split, split_next]
    refine .inl ⟨_, if_neg stuffs, data, bytes.drop index, behind, coded, ?_, ?_⟩
    · exact .inr (.inr ⟨_, _, ends, Bool.eq_false_of_not_eq_true stuffs⟩)
    · have longer : ¬bytes.drop index = [0xff] := fun single => by
        have size := congrArg List.length single
        rw [List.length_drop, List.length_singleton] at size
        omega
      rw [if_neg longer, place]

end Plank.Media
