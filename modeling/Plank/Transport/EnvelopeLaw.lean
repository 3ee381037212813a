import Plank.Transport.Envelope

/-!
# What the envelopes keep

What is encoded is decoded again, what is decoded is encoded to the same bytes, a refused packet is
not written, and no length that is used has wrapped. A setup or control packet has at most its
declared maximum; an event has, as long as its payload leaves room for the header.
-/

namespace Plank.Transport

open Wire

/-- What an encoder owes its caller, for the fields that its decoder reads again. -/
structure Meets {Fields : Type} (decode : Span → Bool → Option Fields) (fields : Fields)
    (header payload : Nat) (most : UInt64) (output : Storage) (written : Written) : Prop where
  /-- An accepted packet is written whole and inside the storage, and is decoded to the fields. -/
  accepted : written.done = true → ∃ held packet, output.bytes = some held ∧
    written.bytes = some (packet ++ held.drop packet.length) ∧
    written.length = some (.ofNat packet.length) ∧ packet.length = header + payload ∧
    packet.length ≤ output.capacity.toNat ∧
    ∀ span : Span, span.bytes = some packet → decode span true = some fields
  /-- It has at most its declared maximum. -/
  bounded : written.done = true → header + payload ≤ most.toNat
  /-- Of a refused packet nothing is written. -/
  refused : written.done = false → written.bytes = output.bytes ∧ written.length = output.length

/-- A refusal writes nothing. -/
theorem meets_refuse {Fields : Type} {decode : Span → Bool → Option Fields} {fields : Fields}
    {header payload : Nat} {most : UInt64} (output : Storage) :
    Meets decode fields header payload most output output.refuse where
  accepted done := absurd done Bool.false_ne_true
  bounded done := absurd done Bool.false_ne_true
  refused _ := ⟨rfl, rfl⟩

/-- A packet that is written. -/
theorem meets_fill {Fields : Type} {decode : Span → Bool → Option Fields} {fields : Fields}
    {header payload : Nat} {most : UInt64} {output : Storage} {packet : List UInt8}
    {length : UInt64} (memory : output.bytes.isNone = false) (place : output.length.isNone = false)
    (size : packet.length = header + payload) (exact_ : length.toNat = header + payload)
    (room : length ≤ output.capacity)
    (decodes : ∀ span : Span, span.bytes = some packet → decode span true = some fields) :
    Meets decode fields header payload most output (output.fill packet length) ↔
      header + payload ≤ most.toNat := by
  obtain ⟨held, here⟩ := Option.isSome_iff_exists.mp (Option.isNone_eq_false_iff.mp memory)
  obtain ⟨old, there⟩ := Option.isSome_iff_exists.mp (Option.isNone_eq_false_iff.mp place)
  constructor
  · exact fun meets => meets.bounded rfl
  · intro fits
    refine ⟨fun _ => ⟨held, packet, here, ?_, ?_, size, ?_, decodes⟩, fun _ => fits, nofun⟩
    · unfold Storage.fill
      rw [here]
      rfl
    · unfold Storage.fill
      rw [there, size, ← exact_, UInt64.ofNat_toNat]
      rfl
    · rw [size, ← exact_]
      exact UInt64.le_iff_toNat_le.mp room

/-- A sum of two lengths that are not too long is exact. -/
theorem toNat_add_small (left right : UInt64) (small : left.toNat + right.toNat < 2 ^ 64) :
    (left + right).toNat = left.toNat + right.toNat := by
  rw [UInt64.toNat_add, Nat.mod_eq_of_lt small]

/-- A word of the header is a number. -/
theorem word32_eq (bytes : List UInt8) (offset : Nat) (value : UInt32) :
    UInt32.ofNat (word bytes offset 4) = value ↔ word bytes offset 4 = value.toNat := by
  rw [← UInt32.toNat_inj, toNat_word32]

/-- A half word of the header is a number. -/
theorem word16_eq (bytes : List UInt8) (offset : Nat) (value : UInt16) :
    UInt16.ofNat (word bytes offset 2) = value ↔ word bytes offset 2 = value.toNat := by
  rw [← UInt16.toNat_inj, toNat_word16]

/-- What is decoded is encoded to the same bytes, where the decoder tells bytes apart. -/
theorem Meets.again {Fields : Type} {decode : Span → Bool → Option Fields} {fields : Fields}
    {header payload : Nat} {most : UInt64} {output : Storage} {written : Written}
    (meets : Meets decode fields header payload most output written)
    (apart : ∀ span other : Span, decode span true = some fields →
      decode other true = some fields → span.bytes = other.bytes)
    {span : Span} (decoded : decode span true = some fields) (done : written.done = true) :
    ∃ held bytes, span.bytes = some bytes ∧ output.bytes = some held ∧
      written.bytes = some (bytes ++ held.drop bytes.length) := by
  obtain ⟨held, packet, here, filled, _, _, room, decodes⟩ := meets.accepted done
  have size : packet.length = (UInt64.ofNat packet.length).toNat := by
    rw [UInt64.toNat_ofNat', Nat.mod_eq_of_lt]
    exact Nat.lt_of_le_of_lt room output.capacity.toNat_lt
  have same := apart span ⟨.ofNat packet.length, some packet, by
    intro bytes member
    rw [← Option.some.inj member]
    exact size⟩ decoded (decodes _ rfl)
  exact ⟨held, packet, same, here, filled⟩

/-- The bytes that are copied are those of the span. -/
theorem Span.length_copied {span : Span}
    (readable : (!decide (span.size = 0)) = true → span.bytes.isNone = false) :
    span.copied.length = span.size.toNat := by
  unfold Span.copied
  cases held : span.bytes with
  | some bytes => exact span.readable bytes held
  | none =>
    have zero : span.size = 0 := by
      by_contra some
      have there := readable (by simpa using some)
      rw [held] at there
      exact absurd there (by simp)
    rw [zero]
    rfl

namespace Setup

namespace Packet

/-- The numbers of the header. -/
def fields (packet : Packet) : List (Nat × Nat) :=
  [(4, magic.toNat), (2, version.toNat), (2, packet.type.toNat), (2, packet.flags.toNat),
    (2, packet.status.toNat), (4, packet.requestId.toNat), (4, packet.payload.length)]

/-- What the encoder admits. -/
structure Valid (packet : Packet) : Prop where
  /-- There is a type. -/
  type : packet.type ≠ 0
  /-- There is an identifier. -/
  requestId : packet.requestId ≠ 0
  /-- The flags are known. -/
  flags : packet.flags &&& ~~~knownFlags = 0
  /-- The payload leaves room for the header. -/
  payload : packet.payload.length ≤ 65516

end Packet

/-- The widths of the header. -/
def widths : List Nat := [4, 2, 2, 2, 2, 4, 4]

/-- What a packet of any bytes reads as. -/
def ofBytes (bytes : List UInt8) : Packet :=
  ⟨.ofNat (word bytes 6 2), .ofNat (word bytes 8 2), .ofNat (word bytes 10 2),
    .ofNat (word bytes 12 4), bytes.drop 20⟩

/-- A span is decoded when its header and its length are right. -/
theorem decode_some {span : Span} {bytes : List UInt8} (held : span.bytes = some bytes)
    (packet : Packet) :
    decode span true = some packet ↔ 20 ≤ bytes.length ∧ bytes.length ≤ 65536 ∧
      word bytes 0 4 = magic.toNat ∧ word bytes 4 2 = version.toNat ∧
      (ofBytes bytes).type ≠ 0 ∧ (ofBytes bytes).requestId ≠ 0 ∧
      (ofBytes bytes).flags &&& ~~~knownFlags = 0 ∧ word bytes 16 4 + 20 = bytes.length ∧
      ofBytes bytes = packet := by
  have size := span.readable bytes held
  have least : headerSize.toNat = 20 := rfl
  have most : maxPacketSize.toNat = 65536 := rfl
  have room : maxPayloadSize.toNat = 65516 := rfl
  unfold decode
  rw [held]
  dsimp only
  rw [Option.ite_none_left_eq_some, Option.ite_none_left_eq_some, Option.ite_none_left_eq_some]
  simp only [Bool.not_true, Bool.false_or, Bool.or_eq_true, not_or, decide_eq_true_eq, ne_eq,
    not_not, UInt64.lt_iff_toNat_lt, UInt64.toNat_inj.symm, least, most, room, ← size, Nat.not_lt,
    and_assoc, Option.some.injEq, UInt32.toNat_toUInt64]
  by_cases long : 20 ≤ bytes.length
  · rw [readU32_eq (show 0 + 4 ≤ bytes.length by omega), readU16_eq (show 4 + 2 ≤ bytes.length by omega),
      readU16_eq (show 6 + 2 ≤ bytes.length by omega), readU32_eq (show 12 + 4 ≤ bytes.length by omega),
      readU16_eq (show 8 + 2 ≤ bytes.length by omega), readU32_eq (show 16 + 4 ≤ bytes.length by omega),
      readU16_eq (show 10 + 2 ≤ bytes.length by omega), word32_eq, word16_eq, UInt32.toNat_add, toNat_word32]
    have bound := word_lt bytes 16 4
    have twenty : (20 : UInt32).toNat = 20 := rfl
    rw [twenty]
    constructor
    · rintro ⟨_, few, magical, versioned, type, request, flags, _, sum, same⟩
      exact ⟨long, few, magical, versioned, type, request, flags, by omega, same⟩
    · rintro ⟨_, few, magical, versioned, type, request, flags, sum, same⟩
      exact ⟨long, few, magical, versioned, type, request, flags, by omega, by omega, same⟩
  · exact ⟨fun both => absurd both.1 long, fun both => absurd both.1 long⟩

/-- The numbers of the header fit. -/
theorem Packet.fields_fit {packet : Packet} (valid : packet.Valid) :
    ∀ field ∈ packet.fields, field.2 < 256 ^ field.1 := by
  have type := packet.type.toNat_lt
  have flags := packet.flags.toNat_lt
  have status := packet.status.toNat_lt
  have request := packet.requestId.toNat_lt
  have payload := valid.payload
  have magical := magic.toNat_lt
  have versioned := version.toNat_lt
  simp only [Packet.fields, List.mem_cons, List.not_mem_nil, or_false, forall_eq_or_imp, forall_eq]
  norm_num
  omega

/-- A span is decoded to a packet when it holds the encoding of it. -/
theorem decode_iff {span : Span} {bytes : List UInt8} (held : span.bytes = some bytes)
    (packet : Packet) :
    decode span true = some packet ↔
      packet.Valid ∧ layout packet.fields ++ packet.payload = bytes := by
  have total : widths.sum = 20 := rfl
  have names (packet : Packet) : packet.fields.map Prod.fst = widths := rfl
  rw [decode_some held]
  constructor
  · rintro ⟨long, few, magical, versioned, type, request, flags, sum, rfl⟩
    have payload : (ofBytes bytes).payload.length = word bytes 16 4 := by
      rw [ofBytes, List.length_drop]
      omega
    refine ⟨⟨type, request, flags, by rw [payload]; omega⟩, ?_⟩
    have whole := layout_append_drop widths (by rw [total]; exact long : widths.sum ≤ bytes.length)
    have same : (ofBytes bytes).fields = readLayout bytes 0 widths := by
      unfold Packet.fields
      rw [payload]
      simp only [ofBytes, toNat_word16, toNat_word32, widths, readLayout, Nat.zero_add,
        Nat.reduceAdd, magical, versioned]
    rw [same]
    exact whole
  · rintro ⟨valid, rfl⟩
    have read := readLayout_front packet.fields packet.payload (Packet.fields_fit valid)
    have size : (layout packet.fields).length = 20 := by rw [length_layout, names, total]
    have rest : (layout packet.fields ++ packet.payload).drop 20 = packet.payload :=
      List.drop_left' size
    have few := valid.payload
    rw [names] at read
    rw [List.length_append, size]
    generalize layout packet.fields ++ packet.payload = bytes at read rest
    simp only [widths, Packet.fields, readLayout, List.cons.injEq, Prod.mk.injEq, true_and,
      and_true, Nat.zero_add, Nat.reduceAdd] at read
    obtain ⟨magical, versioned, type, flags, status, request, length⟩ := read
    have same : ofBytes bytes = packet := by
      unfold ofBytes
      rw [type, flags, status, request, rest]
      simp only [UInt16.ofNat_toNat, UInt32.ofNat_toNat]
    rw [same, magical, versioned, length]
    exact ⟨by omega, by omega, rfl, rfl, valid.type, valid.requestId, valid.flags, by omega, rfl⟩

/-- What an accepted packet is written as. -/
theorem encode_meets (type flags status : UInt16) (requestId : UInt32) (payload : Span)
    (output : Storage) :
    Meets decode ⟨type, flags, status, requestId, payload.copied⟩ 20 payload.size.toNat
      maxPacketSize output (encode type flags status requestId payload output) := by
  unfold encode
  dsimp only
  split
  · exact meets_refuse output
  · next checks =>
    simp only [Bool.or_eq_true, not_or, decide_eq_true_eq, Bool.not_eq_true, Bool.and_eq_false_imp,
      ne_eq, not_not, UInt64.lt_iff_toNat_lt, Nat.not_lt] at checks
    obtain ⟨⟨⟨⟨⟨⟨⟨type_, request⟩, memory⟩, place⟩, flags_⟩, readable⟩, small⟩, room⟩ := checks
    have limit : maxPayloadSize.toNat = 65516 := rfl
    have header : headerSize.toNat = 20 := rfl
    have copied := Span.length_copied fun some => readable (by simpa using some)
    have valid : Packet.Valid ⟨type, flags, status, requestId, payload.copied⟩ :=
      ⟨type_, request, flags_, by rw [copied]; omega⟩
    have size : payload.size.toUInt32.toNat = payload.copied.length := by
      rw [UInt64.toNat_toUInt32, copied]
      omega
    have written : List.flatten [writeU32 magic, writeU16 version, writeU16 type, writeU16 flags,
        writeU16 status, writeU32 requestId, writeU32 payload.size.toUInt32, payload.copied] =
        layout (Packet.fields ⟨type, flags, status, requestId, payload.copied⟩) ++
          payload.copied := by
      simp only [writeU32_eq, writeU16_eq, size, Packet.fields, layout, List.flatten_cons,
        List.flatten_nil, List.append_assoc, List.append_nil]
    have exact_ : (headerSize + payload.size).toNat = 20 + payload.size.toNat :=
      toNat_add_small _ _ (by omega)
    rw [written]
    refine (meets_fill memory place ?_ exact_ (UInt64.le_iff_toNat_le.mpr room) ?_).mpr ?_
    · rw [List.length_append, length_layout, copied]
      rfl
    · intro span held
      exact (decode_iff held _).mpr ⟨valid, rfl⟩
    · show 20 + payload.size.toNat ≤ 65536
      omega

/-- Two spans that are decoded to one packet hold the same bytes. -/
theorem decode_apart (packet : Packet) (span other : Span) (here : decode span true = some packet)
    (there : decode other true = some packet) : span.bytes = other.bytes := by
  have held {span : Span} (read : decode span true = some packet) :
      span.bytes = some (layout packet.fields ++ packet.payload) := by
    cases bytes : span.bytes with
    | none =>
      unfold decode at read
      rw [bytes] at read
      exact nomatch read
    | some bytes' => rw [((decode_iff bytes packet).mp read).2]
  rw [held here, held there]

end Setup

namespace ShortPacket

/-- The numbers of the header. -/
def fields (magic : UInt32) (packet : ShortPacket) : List (Nat × Nat) :=
  [(4, magic.toNat), (2, packet.type.toNat), (2, packet.payload.length)]

/-- The numbers of the header fit. -/
theorem fields_fit (magic : UInt32) {packet : ShortPacket} (few : packet.payload.length ≤ 65535) :
    ∀ field ∈ packet.fields magic, field.2 < 256 ^ field.1 := by
  have type := packet.type.toNat_lt
  have magical := magic.toNat_lt
  simp only [fields, List.mem_cons, List.not_mem_nil, or_false, forall_eq_or_imp, forall_eq]
  norm_num
  omega

end ShortPacket

/-- The widths of the short header. -/
def shortWidths : List Nat := [4, 2, 2]

/-- A span is decoded when its header and its length are right. -/
theorem decodeShort_some {span : Span} {bytes : List UInt8} (held : span.bytes = some bytes)
    (magic : UInt32) (packet : ShortPacket) :
    decodeShort magic span true = some packet ↔ 8 ≤ bytes.length ∧
      word bytes 0 4 = magic.toNat ∧ word bytes 6 2 + 8 = bytes.length ∧
      ⟨.ofNat (word bytes 4 2), bytes.drop 8⟩ = packet := by
  have size := span.readable bytes held
  have least : (8 : UInt64).toNat = 8 := rfl
  unfold decodeShort
  rw [held]
  dsimp only
  rw [Option.ite_none_left_eq_some, Option.ite_none_left_eq_some]
  simp only [Bool.not_true, Bool.false_or, Bool.or_eq_true, not_or, decide_eq_true_eq, ne_eq,
    not_not, UInt64.lt_iff_toNat_lt, UInt64.toNat_inj.symm, least, ← size, Nat.not_lt,
    and_assoc, Option.some.injEq, UInt32.toNat_toUInt64, UInt32.toNat_add, UInt16.toNat_toUInt32]
  by_cases long : 8 ≤ bytes.length
  · rw [readU32_eq (show 0 + 4 ≤ bytes.length by omega),
      readU16_eq (show 6 + 2 ≤ bytes.length by omega),
      readU16_eq (show 4 + 2 ≤ bytes.length by omega), word32_eq, toNat_word16]
    have bound := word_lt bytes 6 2
    have eight : (8 : UInt32).toNat = 8 := rfl
    rw [eight]
    constructor
    · rintro ⟨_, magical, sum, same⟩
      exact ⟨long, magical, by omega, same⟩
    · rintro ⟨_, magical, sum, same⟩
      exact ⟨long, magical, by omega, same⟩
  · exact ⟨fun both => absurd both.1 long, fun both => absurd both.1 long⟩

/-- A span is decoded to a packet when it holds the encoding of it. -/
theorem decodeShort_iff {span : Span} {bytes : List UInt8} (held : span.bytes = some bytes)
    (magic : UInt32) (packet : ShortPacket) :
    decodeShort magic span true = some packet ↔
      packet.payload.length ≤ 65535 ∧ layout (packet.fields magic) ++ packet.payload = bytes := by
  have total : shortWidths.sum = 8 := rfl
  have names (packet : ShortPacket) : (packet.fields magic).map Prod.fst = shortWidths := rfl
  rw [decodeShort_some held]
  constructor
  · rintro ⟨long, magical, sum, rfl⟩
    have bound : word bytes 6 2 < 65536 := word_lt bytes 6 2
    have payload : (bytes.drop 8).length = word bytes 6 2 := by
      rw [List.length_drop]
      omega
    refine ⟨by rw [payload]; omega, ?_⟩
    have whole := layout_append_drop shortWidths
      (by rw [total]; exact long : shortWidths.sum ≤ bytes.length)
    have same : ShortPacket.fields magic ⟨.ofNat (word bytes 4 2), bytes.drop 8⟩ =
        readLayout bytes 0 shortWidths := by
      unfold ShortPacket.fields
      rw [payload]
      simp only [toNat_word16, shortWidths, readLayout, Nat.zero_add, Nat.reduceAdd, magical]
    rw [same]
    exact whole
  · rintro ⟨few, rfl⟩
    have read := readLayout_front (packet.fields magic) packet.payload
      (ShortPacket.fields_fit magic few)
    have size : (layout (packet.fields magic)).length = 8 := by rw [length_layout, names, total]
    have rest : (layout (packet.fields magic) ++ packet.payload).drop 8 = packet.payload :=
      List.drop_left' size
    rw [names] at read
    rw [List.length_append, size]
    generalize layout (packet.fields magic) ++ packet.payload = bytes at read rest
    simp only [shortWidths, ShortPacket.fields, readLayout, List.cons.injEq, Prod.mk.injEq,
      true_and, and_true, Nat.zero_add, Nat.reduceAdd] at read
    obtain ⟨magical, type, length⟩ := read
    rw [type, magical, length, rest, UInt16.ofNat_toNat]
    exact ⟨by omega, rfl, by omega, rfl⟩

/-- Two spans that are decoded to one packet hold the same bytes. -/
theorem decodeShort_apart (magic : UInt32) (packet : ShortPacket) (span other : Span)
    (here : decodeShort magic span true = some packet)
    (there : decodeShort magic other true = some packet) : span.bytes = other.bytes := by
  have held {span : Span} (read : decodeShort magic span true = some packet) :
      span.bytes = some (layout (packet.fields magic) ++ packet.payload) := by
    cases bytes : span.bytes with
    | none =>
      unfold decodeShort at read
      rw [bytes] at read
      exact nomatch read
    | some bytes' => rw [((decodeShort_iff bytes magic packet).mp read).2]
  rw [held here, held there]

namespace Event

/-- Calls that are refused: a pointer is null, the payload is longer than its length field can say,
or the storage is too small. -/
def Refused (payload : Span) (output : Storage) : Prop :=
  output.bytes = none ∨ output.length = none ∨ (payload.size ≠ 0 ∧ payload.bytes = none) ∨
    65535 < payload.size.toNat ∨ output.capacity.toNat < 8 + payload.size.toNat

/-- Calls whose payload leaves room for the header in the declared maximum, or that are refused. -/
def Bounded (payload : Span) (output : Storage) : Prop :=
  payload.size.toNat ≤ 65527 ∨ Refused payload output

/-- What an accepted packet is written as, and when it stays below a maximum. -/
theorem encode_most (most : UInt64) (type : UInt16) (payload : Span) (output : Storage) :
    Meets decode ⟨type, payload.copied⟩ 8 payload.size.toNat most output
      (encode type payload output) ↔ 8 + payload.size.toNat ≤ most.toNat ∨
        Refused payload output := by
  have header : headerSize.toNat = 8 := rfl
  have limit : (65535 : UInt64).toNat = 65535 := rfl
  unfold encode
  dsimp only
  split
  · next checks =>
    refine ⟨fun _ => ?_, fun _ => meets_refuse output⟩
    simp only [Bool.or_eq_true, decide_eq_true_eq, Bool.and_eq_true, ne_eq, Option.isNone_iff_eq_none,
      UInt64.lt_iff_toNat_lt, limit] at checks
    rcases checks with (((memory | place) | unreadable) | long) | small
    · exact .inr (.inl memory)
    · exact .inr (.inr (.inl place))
    · exact .inr (.inr (.inr (.inl unreadable)))
    · exact .inr (.inr (.inr (.inr (.inl long))))
    · by_cases long : 65535 < payload.size.toNat
      · exact .inr (.inr (.inr (.inr (.inl long))))
      · rw [toNat_add_small _ _ (by omega), header] at small
        exact .inr (.inr (.inr (.inr (.inr small))))
  · next checks =>
    simp only [Bool.or_eq_true, not_or, decide_eq_true_eq, Bool.not_eq_true, Bool.and_eq_false_imp,
      UInt64.lt_iff_toNat_lt, Nat.not_lt, limit] at checks
    obtain ⟨⟨⟨⟨memory, place⟩, readable⟩, small⟩, room⟩ := checks
    have copied := Span.length_copied fun some => readable (by simpa using some)
    have size : payload.size.toUInt16.toNat = payload.copied.length := by
      rw [UInt64.toNat_toUInt16, copied]
      omega
    have written : List.flatten [writeU32 magic, writeU16 type, writeU16 payload.size.toUInt16,
        payload.copied] = layout (ShortPacket.fields magic ⟨type, payload.copied⟩) ++
          payload.copied := by
      simp only [writeU32_eq, writeU16_eq, size, ShortPacket.fields, layout, List.flatten_cons,
        List.flatten_nil, List.append_assoc, List.append_nil]
    have exact_ : (headerSize + payload.size).toNat = 8 + payload.size.toNat :=
      toNat_add_small _ _ (by omega)
    rw [written, meets_fill memory place _ exact_ (UInt64.le_iff_toNat_le.mpr room)]
    · rw [exact_] at room
      refine ⟨.inl, ?_⟩
      rintro (fits | none | none | ⟨some, none⟩ | long | small')
      · exact fits
      · rw [none] at memory
        exact absurd memory (by simp)
      · rw [none] at place
        exact absurd place (by simp)
      · have there := readable (by simpa using some)
        rw [none] at there
        exact absurd there (by simp)
      · omega
      · omega
    · intro span held
      exact (decodeShort_iff held magic _).mpr ⟨by rw [copied]; omega, rfl⟩
    · rw [List.length_append, length_layout, copied]
      rfl

/-- What an accepted packet is written as, and when it keeps the declared maximum. -/
theorem encode_meets (type : UInt16) (payload : Span) (output : Storage) :
    Meets decode ⟨type, payload.copied⟩ 8 payload.size.toNat maxPacketSize output
      (encode type payload output) ↔ Bounded payload output := by
  rw [encode_most, show maxPacketSize.toNat = 65535 from rfl]
  unfold Bounded
  exact or_congr_left (by omega)

/-- What is decoded is encoded to the same bytes, also past the declared maximum. -/
theorem encode_again {span : Span} {packet : ShortPacket} {payload : Span} {output : Storage}
    (decoded : decode span true = some packet) (same : payload.copied = packet.payload)
    (done : (encode packet.type payload output).done = true) :
    ∃ held bytes, span.bytes = some bytes ∧ output.bytes = some held ∧
      (encode packet.type payload output).bytes = some (bytes ++ held.drop bytes.length) := by
  have bounded : 8 + payload.size.toNat ≤ (70000 : UInt64).toNat ∨ Refused payload output := by
    rw [show (70000 : UInt64).toNat = 70000 from rfl]
    by_cases long : 65535 < payload.size.toNat
    · exact .inr (.inr (.inr (.inr (.inl long))))
    · exact .inl (by omega)
  have meets := (encode_most 70000 packet.type payload output).mpr bounded
  rw [same] at meets
  exact meets.again (decodeShort_apart magic packet) decoded done

end Event

namespace Control

/-- The bytes of the words that are written. -/
def Words.copied (words : Words) : List UInt8 := (words.values.getD []).flatMap writeU32

/-- The words that are written are those of the pointer. -/
theorem Words.length_copied {words : Words}
    (readable : (!decide (words.count = 0)) = true → words.values.isNone = false) :
    words.copied.length = words.count.toNat * 4 := by
  have each (values : List UInt32) : (values.flatMap writeU32).length = values.length * 4 := by
    induction values with
    | nil => rfl
    | cons value rest ih =>
      rw [List.flatMap_cons, List.length_append, ih, List.length_cons]
      show 4 + rest.length * 4 = _
      omega
  unfold Words.copied
  cases held : words.values with
  | some values =>
    rw [Option.getD_some, each, words.readable values held]
  | none =>
    have zero : words.count = 0 := by
      by_contra some
      have there := readable (by simpa using some)
      rw [held] at there
      exact absurd there (by simp)
    rw [zero]
    rfl

/-- What an accepted packet is written as. -/
theorem encode_meets (type : UInt16) (words : Words) (output : Storage) :
    Meets decode ⟨type, words.copied⟩ 8 (words.count.toNat * 4) maxPacketSize output
      (encode type words output) := by
  have header : headerSize.toNat = 8 := rfl
  unfold encode
  split
  · exact meets_refuse output
  · next checks =>
    simp only [Bool.or_eq_true, not_or, decide_eq_true_eq, Bool.not_eq_true, Bool.and_eq_false_imp,
      UInt64.lt_iff_toNat_lt, Nat.not_lt] at checks
    obtain ⟨⟨⟨memory, place⟩, few⟩, readable⟩ := checks
    have three : (3 : UInt64).toNat = 3 := rfl
    rw [three] at few
    have copied := Words.length_copied fun some => readable (by simpa using some)
    have product : (words.count * 4).toNat = words.count.toNat * 4 := by
      rw [UInt64.toNat_mul, show (4 : UInt64).toNat = 4 from rfl]
      omega
    dsimp only
    split
    · exact meets_refuse output
    · next small =>
      have room := Nat.not_lt.mp fun less => small (UInt64.lt_iff_toNat_lt.mpr less)
      have size : (words.count * 4).toUInt16.toNat = words.copied.length := by
        rw [UInt64.toNat_toUInt16, copied, product]
        omega
      have written : List.flatten [writeU32 magic, writeU16 type,
          writeU16 (words.count * 4).toUInt16, (words.values.getD []).flatMap writeU32] =
          layout (ShortPacket.fields magic ⟨type, words.copied⟩) ++ words.copied := by
        simp only [writeU32_eq, writeU16_eq, size, ShortPacket.fields, layout, Words.copied,
          List.flatten_cons, List.flatten_nil, List.append_assoc, List.append_nil]
      have exact_ : (headerSize + words.count * 4).toNat = 8 + words.count.toNat * 4 := by
        rw [toNat_add_small _ _ (by omega), header, product]
      rw [written]
      refine (meets_fill memory place ?_ exact_ (UInt64.le_iff_toNat_le.mpr room) ?_).mpr ?_
      · rw [List.length_append, length_layout, copied]
        rfl
      · intro span held
        exact (decodeShort_iff held magic _).mpr ⟨by rw [copied]; omega, rfl⟩
      · show 8 + words.count.toNat * 4 ≤ 20
        omega

end Control

/-- What is asked of the three envelopes: of the first two for all packets, and of the last for one
event, its payload and its storage. -/
structure EnvelopeLaw (type : UInt16) (payload : Span) (output : Storage) : Prop where
  /-- A setup packet is encoded within its maximum and decoded again, or refused untouched. -/
  setup : ∀ type flags status requestId payload output,
    Meets Setup.decode ⟨type, flags, status, requestId, payload.copied⟩ 20 payload.size.toNat
      Setup.maxPacketSize output (Setup.encode type flags status requestId payload output)
  /-- What is decoded is encoded to the same bytes. -/
  setupAgain : ∀ span (packet : Setup.Packet) payload output,
    Setup.decode span true = some packet → payload.copied = packet.payload →
      (Setup.encode packet.type packet.flags packet.status packet.requestId payload output).done =
        true → ∃ held bytes, span.bytes = some bytes ∧ output.bytes = some held ∧
          (Setup.encode packet.type packet.flags packet.status packet.requestId payload
            output).bytes = some (bytes ++ held.drop bytes.length)
  /-- A control packet is encoded within its maximum and decoded again, or refused untouched. -/
  control : ∀ type words output, Meets Control.decode ⟨type, words.copied⟩ 8
    (words.count.toNat * 4) Control.maxPacketSize output (Control.encode type words output)
  /-- What is decoded is encoded to the same bytes. -/
  controlAgain : ∀ span (packet : ShortPacket) words output,
    Control.decode span true = some packet → words.copied = packet.payload →
      (Control.encode packet.type words output).done = true →
        ∃ held bytes, span.bytes = some bytes ∧ output.bytes = some held ∧
          (Control.encode packet.type words output).bytes = some (bytes ++ held.drop bytes.length)
  /-- The event is encoded within its maximum and decoded again, or refused untouched. -/
  event : Meets Event.decode ⟨type, payload.copied⟩ 8 payload.size.toNat Event.maxPacketSize output
    (Event.encode type payload output)
  /-- What is decoded is encoded to the same bytes. -/
  eventAgain : ∀ span (packet : ShortPacket),
    Event.decode span true = some packet → payload.copied = packet.payload →
      (Event.encode packet.type payload output).done = true →
        ∃ held bytes, span.bytes = some bytes ∧ output.bytes = some held ∧
          (Event.encode packet.type payload output).bytes = some (bytes ++ held.drop bytes.length)
  /-- The length that a setup packet declares is added without a wrap once it is checked. -/
  setupLength : ∀ payloadSize : UInt32, ¬ Setup.maxPayloadSize < payloadSize.toUInt64 →
    (20 + payloadSize).toUInt64.toNat = 20 + payloadSize.toNat
  /-- The length that a control packet or an event declares is added without a wrap. -/
  shortLength : ∀ payloadSize : UInt16,
    (8 + payloadSize.toUInt32).toUInt64.toNat = 8 + payloadSize.toNat

/-- The envelopes are right when, and only when, the event leaves room for its header in the
declared maximum or is refused. -/
theorem envelopes_meet (type : UInt16) (payload : Span) (output : Storage) :
    EnvelopeLaw type payload output ↔ Event.Bounded payload output := by
  constructor
  · intro law
    exact (Event.encode_meets type payload output).mp law.event
  · intro bounded
    exact {
      setup := Setup.encode_meets
      setupAgain := fun span packet payload output decoded same done => by
        have meets := Setup.encode_meets packet.type packet.flags packet.status packet.requestId
          payload output
        rw [same] at meets
        exact meets.again (Setup.decode_apart packet) decoded done
      control := Control.encode_meets
      controlAgain := fun span packet words output decoded same done => by
        have meets := Control.encode_meets packet.type words output
        rw [same] at meets
        exact meets.again (decodeShort_apart Control.magic packet) decoded done
      event := (Event.encode_meets type payload output).mpr bounded
      eventAgain := fun span packet decoded same done => Event.encode_again decoded same done
      setupLength := fun payloadSize small => by
        have limit : Setup.maxPayloadSize.toNat = 65516 := rfl
        rw [UInt64.lt_iff_toNat_lt, limit, UInt32.toNat_toUInt64] at small
        rw [UInt32.toNat_toUInt64, UInt32.toNat_add, show (20 : UInt32).toNat = 20 from rfl]
        omega
      shortLength := fun payloadSize => by
        have bound := payloadSize.toNat_lt
        rw [UInt32.toNat_toUInt64, UInt32.toNat_add, UInt16.toNat_toUInt32,
          show (8 : UInt32).toNat = 8 from rfl]
        omega }

/-- An event of 65528 bytes and storage for it. -/
def oversizePayload : Span where
  size := 65528
  bytes := some (List.replicate 65528 0)
  readable held member := by
    obtain rfl := Option.some.inj member
    rw [List.length_replicate]
    rfl

/-- Storage for 65536 bytes. -/
def oversizeStorage : Storage where
  bytes := some (List.replicate 65536 0)
  length := some 0
  capacity := 65536
  writable held member := by
    obtain rfl := Option.some.inj member
    rw [List.length_replicate]
    exact Nat.le_refl 65536

/-- The event of 65528 bytes is encoded, as a packet of 65536 bytes; the declared maximum is 65535. -/
theorem oversize_event : (Event.encode 5 oversizePayload oversizeStorage).done = true ∧
    (Event.encode 5 oversizePayload oversizeStorage).length = some 65536 ∧
    Event.maxPacketSize = 65535 ∧ ¬ EnvelopeLaw 5 oversizePayload oversizeStorage := by
  have done : (Event.encode 5 oversizePayload oversizeStorage).done = true := rfl
  refine ⟨done, rfl, rfl, fun law => ?_⟩
  have bounded := law.event.bounded done
  exact absurd bounded (by decide)

end Plank.Transport
