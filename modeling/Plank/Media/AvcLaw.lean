import Plank.Media.AnnexBLaw
import Plank.Media.StartCode

/-!
# What is an access unit

A scan of a payload stays inside it and accepts exactly the access units: streams of good pieces
whose units obey the rules. The ranges it gives are those of the pieces, and the units behind their
lengths fit in a frame.
-/

namespace Plank.Media

open Wire

/-- The type of a unit, in its first byte. -/
def avcType (unit : List UInt8) : UInt8 := nalType (unit.headD 0)

/-- A unit is a parameter set. -/
def isParameterSet (unit : List UInt8) : Prop := avcType unit = 7 ∨ avcType unit = 8

/-- A unit is a slice of a picture. -/
def isSlice (unit : List UInt8) : Prop := avcType unit = 1 ∨ avcType unit = 5

/-- What a unit has to be by itself. -/
structure UnitRules (unit : List UInt8) : Prop where
  /-- Its forbidden bit is clear. -/
  forbidden : unit.headD 0 &&& 0x80 = 0
  /-- Its type is one of an ordinary access unit. -/
  ordinary : avcType unit = 1 ∨ avcType unit = 5 ∨ (6 ≤ avcType unit ∧ avcType unit ≤ 12)
  /-- A slice and a parameter set have a payload. -/
  payload : isSlice unit ∨ isParameterSet unit → 2 ≤ unit.length
  /-- A parameter set is small. -/
  small : isParameterSet unit → unit.length ≤ cameraMaxParameterBytes

/-- The bytes of units behind their lengths. -/
def adaptedBytes (units : List (List UInt8)) : Nat := (units.map (4 + ·.length)).sum

/-- What units have to be for a scan to go on behind them. -/
structure Lawful (units : List (List UInt8)) : Prop where
  /-- There are not too many. -/
  count : units.length ≤ cameraMaxNals
  /-- Each obeys the rules for a unit. -/
  each : ∀ unit ∈ units, UnitRules unit
  /-- A parameter set comes before every slice, and once. -/
  order : units.Pairwise fun earlier later =>
    isParameterSet later → ¬isSlice earlier ∧ avcType earlier ≠ avcType later
  /-- They fit in a frame behind their lengths. -/
  fits : adaptedBytes units ≤ cameraMaxFrameBytes

/-- What the units of an access unit have to be. -/
structure AccessUnit (units : List (List UInt8)) : Prop where
  /-- They obey the rules for each of them. -/
  lawful : Lawful units
  /-- There are slices, either of an independent picture or of one that is not. -/
  pictures : (∃ unit ∈ units, avcType unit = 5) ↔ ¬∃ unit ∈ units, avcType unit = 1
  /-- An independent picture has its parameter sets with it. -/
  sets : (∃ unit ∈ units, avcType unit = 5) →
    (∃ unit ∈ units, avcType unit = 7) ∧ ∃ unit ∈ units, avcType unit = 8

/-- A stream of good pieces with some units. -/
def Stream (bytes : List UInt8) (units : List (List UInt8)) : Prop :=
  ∃ pieces, AllGood pieces ∧ bytes = bytesOf pieces ∧ units = pieces.map Piece.unit

/-- The ranges of the units of pieces from an offset on. -/
def positions : Nat → List Piece → List CameraNal
  | _, [] => []
  | start, piece :: pieces =>
    ⟨start + piece.code.length, piece.unit.length, avcType piece.unit⟩ ::
      positions (start + piece.bytes.length) pieces

/-- The index of the parameter set of a type among units: the most units where there is none. -/
structure SetIndex (units : List (List UInt8)) (type : UInt8) (index : Nat) : Prop where
  /-- The index is that of a set of the type. -/
  found : index ≠ cameraMaxNals → ∃ unit, units[index]? = some unit ∧ avcType unit = type
  /-- Without an index there is none. -/
  missing : index = cameraMaxNals → ∀ unit ∈ units, avcType unit ≠ type

/-- What is known of the units behind a scan. -/
structure Known (scan : AvcScan) (units : List (List UInt8)) : Prop where
  /-- The units obey the rules. -/
  lawful : Lawful units
  /-- There is a range for each. -/
  count : scan.payload.nals.length = units.length
  /-- The bytes behind their lengths are counted. -/
  adapted : scan.adapted = adaptedBytes units
  /-- A slice of a dependent picture is noted. -/
  dependent : scan.dependent = true ↔ ∃ unit ∈ units, avcType unit = 1
  /-- A slice of an independent picture is noted. -/
  independent : scan.payload.independent = true ↔ ∃ unit ∈ units, avcType unit = 5
  /-- The sequence parameter set is noted. -/
  sps : SetIndex units 7 scan.payload.sps
  /-- The picture parameter set is noted. -/
  pps : SetIndex units 8 scan.payload.pps

/-- A unit that is not a parameter set of a type is not noted as one. -/
theorem SetIndex.other {units : List (List UInt8)} {type : UInt8} {index : Nat}
    (noted : SetIndex units type index) {unit : List UInt8} (other : avcType unit ≠ type) :
    SetIndex (units ++ [unit]) type index := by
  refine ⟨fun indexed => ?_, fun none member present => ?_⟩
  · obtain ⟨found, here, same⟩ := noted.found indexed
    exact ⟨found, by rw [List.getElem?_append_left (List.getElem?_eq_some_iff.mp here).1, here],
      same⟩
  · obtain earlier | latest := List.mem_append.mp present
    · exact noted.missing none member earlier
    · exact List.mem_singleton.mp latest ▸ other

/-- A parameter set is noted by its index. -/
theorem SetIndex.here {units : List (List UInt8)} {unit : List UInt8}
    (few : units.length < cameraMaxNals) :
    SetIndex (units ++ [unit]) (avcType unit) units.length :=
  ⟨fun _ => ⟨unit, List.getElem?_concat_length, rfl⟩, fun most => absurd most (Nat.ne_of_lt few)⟩

/-- Without an index there is no set of the type, and the other way round. -/
theorem SetIndex.none_iff {units : List (List UInt8)} {type : UInt8} {index : Nat}
    (noted : SetIndex units type index) :
    index = cameraMaxNals ↔ ∀ unit ∈ units, avcType unit ≠ type := by
  refine ⟨noted.missing, fun absent => ?_⟩
  by_contra indexed
  obtain ⟨unit, here, same⟩ := noted.found indexed
  exact absent unit (List.mem_of_getElem? here) same

/-- Another unit takes its bytes and four more. -/
theorem adaptedBytes_concat (units : List (List UInt8)) (unit : List UInt8) :
    adaptedBytes (units ++ [unit]) = adaptedBytes units + (4 + unit.length) := by
  unfold adaptedBytes
  rw [List.map_append, List.sum_append, List.map_singleton, List.sum_singleton]

/-- Another unit obeys the rules if it does by itself and behind the others. -/
theorem lawful_concat {units : List (List UInt8)} {unit : List UInt8} :
    Lawful (units ++ [unit]) ↔ Lawful units ∧ units.length < cameraMaxNals ∧ UnitRules unit ∧
      (isParameterSet unit →
        ∀ earlier ∈ units, ¬isSlice earlier ∧ avcType earlier ≠ avcType unit) ∧
      adaptedBytes units + (4 + unit.length) ≤ cameraMaxFrameBytes := by
  have counted : (units ++ [unit]).length = units.length + 1 := by
    rw [List.length_append, List.length_singleton]
  constructor
  · rintro ⟨count, each, order, fits⟩
    rw [adaptedBytes_concat] at fits
    obtain ⟨order_before, -, across⟩ := List.pairwise_append.mp order
    refine ⟨⟨by omega, fun other member => each other (List.mem_append_left _ member),
      order_before, by omega⟩, by omega, each unit (List.mem_append_right _ (by simp)), ?_, fits⟩
    exact fun parameter earlier member => across earlier member unit (by simp) parameter
  · rintro ⟨lawful, few, rules, order, fits⟩
    refine ⟨by omega, fun other member => ?_, ?_, by rwa [adaptedBytes_concat]⟩
    · obtain earlier | latest := List.mem_append.mp member
      · exact lawful.each other earlier
      · exact List.mem_singleton.mp latest ▸ rules
    · refine List.pairwise_append.mpr ⟨lawful.order, List.pairwise_singleton _ _, ?_⟩
      intro earlier member later latest parameter
      obtain rfl := List.mem_singleton.mp latest
      exact order parameter earlier member

/-- The check of a type is that of an ordinary access unit. -/
theorem ordinaryType_iff (type : UInt8) :
    ordinaryType type = true ↔ type = 1 ∨ type = 5 ∨ (6 ≤ type ∧ type ≤ 12) := by
  simp only [ordinaryType, Bool.not_eq_true', Bool.and_eq_false_iff, decide_eq_false_iff_not,
    not_not, Bool.or_eq_false_iff, UInt8.not_lt, gt_iff_lt]
  exact ⟨fun checked => by tauto, fun checked => by tauto⟩

/-- A unit of a type with a payload is a slice or a parameter set. -/
theorem carryingType_iff (unit : List UInt8) :
    carryingType (avcType unit) = true ↔ isSlice unit ∨ isParameterSet unit := by
  simp only [carryingType, isSlice, isParameterSet, Bool.or_eq_true, decide_eq_true_eq]
  tauto

/-- Whether some unit has a type, with another unit. -/
theorem exists_concat {units : List (List UInt8)} {unit : List UInt8} {type : UInt8} :
    (∃ other ∈ units ++ [unit], avcType other = type) ↔
      (∃ other ∈ units, avcType other = type) ∨ avcType unit = type := by
  simp [or_and_right, exists_or]

/-- What the check of a parameter set leaves is what the rules ask of one. -/
theorem parameters_checked {scan : AvcScan} {units : List (List UInt8)} (known : Known scan units)
    (unit : List UInt8) :
    ¬((avcType unit = 7 ∨ avcType unit = 8) ∧ (scan.dependent = true ∨
      scan.payload.independent = true ∨
        (if avcType unit = 7 then scan.payload.sps else scan.payload.pps) ≠ cameraMaxNals ∨
          cameraMaxParameterBytes < unit.length)) ↔
      (isParameterSet unit → (∀ earlier ∈ units,
        ¬isSlice earlier ∧ avcType earlier ≠ avcType unit) ∧
          unit.length ≤ cameraMaxParameterBytes) := by
  have index : isParameterSet unit →
      ((if avcType unit = 7 then scan.payload.sps else scan.payload.pps) = cameraMaxNals ↔
        ∀ earlier ∈ units, avcType earlier ≠ avcType unit) := by
    rintro (seven | eight)
    · rw [if_pos seven, seven]
      exact known.sps.none_iff
    · rw [if_neg (by rw [eight]; decide), eight]
      exact known.pps.none_iff
  have slices : ¬scan.dependent = true ∧ ¬scan.payload.independent = true ↔
      ∀ earlier ∈ units, ¬isSlice earlier := by
    rw [known.dependent, known.independent]
    unfold isSlice
    constructor
    · rintro ⟨no_dependent, no_independent⟩ earlier member (one | five)
      · exact no_dependent ⟨earlier, member, one⟩
      · exact no_independent ⟨earlier, member, five⟩
    · refine fun all => ⟨?_, ?_⟩
      · rintro ⟨earlier, member, one⟩
        exact all earlier member (.inl one)
      · rintro ⟨earlier, member, five⟩
        exact all earlier member (.inr five)
  constructor
  · intro passed parameter
    have fine : ¬(scan.dependent = true ∨ scan.payload.independent = true ∨
        (if avcType unit = 7 then scan.payload.sps else scan.payload.pps) ≠ cameraMaxNals ∨
          cameraMaxParameterBytes < unit.length) := fun bad => passed ⟨parameter, bad⟩
    rw [not_or, not_or, not_or, not_not, Nat.not_lt] at fine
    obtain ⟨no_dependent, no_independent, none, small⟩ := fine
    refine ⟨fun earlier member => ⟨?_, (index parameter).mp none earlier member⟩, small⟩
    exact slices.mp ⟨no_dependent, no_independent⟩ earlier member
  · rintro rules ⟨parameter, bad⟩
    obtain ⟨before, small⟩ := rules parameter
    have free := slices.mpr fun earlier member => (before earlier member).1
    obtain dependent | independent | indexed | large := bad
    · exact free.1 dependent
    · exact free.2 independent
    · exact indexed ((index parameter).mpr fun earlier member => (before earlier member).2)
    · omega

/-- A unit is noted, or refused where the rules refuse it behind the others. -/
theorem noteNal_spec {scan : AvcScan} {units : List (List UInt8)} (known : Known scan units)
    (few : units.length < cameraMaxNals) {unit : List UInt8}
    (clear : unit.headD 0 &&& 0x80 = 0) {position begin' stop : Nat} {first : UInt8}
    (stops : stop = begin' + unit.length) (starts : first = unit.headD 0) :
    (∃ next, noteNal scan position begin' stop first = some (.next next) ∧
      next.position = position ∧
      next.payload.nals = scan.payload.nals ++ [⟨begin', unit.length, avcType unit⟩] ∧
      Known next (units ++ [unit])) ∨
    (noteNal scan position begin' stop first = some (.leave none) ∧
      ¬Lawful (units ++ [unit])) := by
  have type_eq : nalType first = avcType unit := by rw [starts]; rfl
  have size_eq : stop - begin' = unit.length := by omega
  unfold noteNal
  rw [difference_eq (by omega)]
  simp only [Option.bind_eq_bind, Option.bind_some, type_eq, size_eq]
  by_cases ordinary : ordinaryType (avcType unit) = true
  swap
  · refine .inr ⟨if_pos (by simpa using ordinary), fun lawful => ?_⟩
    exact ordinary ((ordinaryType_iff _).mpr (lawful_concat.mp lawful).2.2.1.ordinary)
  rw [if_neg (by simp [ordinary])]
  by_cases empty : carryingType (avcType unit) = true ∧ unit.length < 2
  · refine .inr ⟨if_pos empty, fun lawful => ?_⟩
    have least := (lawful_concat.mp lawful).2.2.1.payload ((carryingType_iff unit).mp empty.1)
    omega
  rw [if_neg empty]
  by_cases refused : (avcType unit = 7 ∨ avcType unit = 8) ∧ (scan.dependent = true ∨
      scan.payload.independent = true ∨
        (if avcType unit = 7 then scan.payload.sps else scan.payload.pps) ≠ cameraMaxNals ∨
          cameraMaxParameterBytes < unit.length)
  · refine .inr ⟨if_pos refused, fun lawful => ?_⟩
    obtain ⟨-, -, rules, order, -⟩ := lawful_concat.mp lawful
    exact (parameters_checked known unit).mpr
      (fun parameter => ⟨order parameter, rules.small parameter⟩) refused
  have sets := (parameters_checked known unit).mp refused
  rw [if_neg refused, known.adapted]
  by_cases full : cameraMaxFrameBytes < adaptedBytes units + (4 + unit.length)
  · refine .inr ⟨if_pos full, fun lawful => ?_⟩
    have fits := (lawful_concat.mp lawful).2.2.2.2
    omega
  rw [if_neg full]
  have rules : UnitRules unit :=
    { forbidden := clear
      ordinary := (ordinaryType_iff _).mp ordinary
      payload := fun carrying => Nat.le_of_not_lt fun short =>
        empty ⟨(carryingType_iff unit).mpr carrying, short⟩
      small := fun parameter => (sets parameter).2 }
  have lawful : Lawful (units ++ [unit]) := lawful_concat.mpr
    ⟨known.lawful, few, rules, fun parameter => (sets parameter).1, Nat.le_of_not_lt full⟩
  refine .inl ⟨_, rfl, rfl, rfl, ?_⟩
  refine ⟨lawful, ?_, (adaptedBytes_concat units unit).symm, ?_, ?_, ?_, ?_⟩
  · show (scan.payload.nals ++ [_]).length = _
    rw [List.length_append, List.length_append, known.count]
    rfl
  · show (scan.dependent || decide (avcType unit = 1)) = true ↔ _
    rw [exists_concat, Bool.or_eq_true, known.dependent, decide_eq_true_eq]
  · show (scan.payload.independent || decide (avcType unit = 5)) = true ↔ _
    rw [exists_concat, Bool.or_eq_true, known.independent, decide_eq_true_eq]
  · show SetIndex _ 7 (if avcType unit = 7 then scan.payload.nals.length else scan.payload.sps)
    by_cases seven : avcType unit = 7
    · rw [if_pos seven, known.count, ← seven]
      exact SetIndex.here few
    · rw [if_neg seven]
      exact known.sps.other seven
  · show SetIndex _ 8 (if avcType unit = 8 then scan.payload.nals.length else scan.payload.pps)
    by_cases eight : avcType unit = 8
    · rw [if_pos eight, known.count, ← eight]
      exact SetIndex.here few
    · rw [if_neg eight]
      exact known.pps.other eight

/-- Units in front of others that obey the rules obey them. -/
theorem Lawful.front {units more : List (List UInt8)} (lawful : Lawful (units ++ more)) :
    Lawful units := by
  have bytes : adaptedBytes (units ++ more) = adaptedBytes units + adaptedBytes more := by
    unfold adaptedBytes
    rw [List.map_append, List.sum_append]
  have count := lawful.count
  have fits := lawful.fits
  rw [List.length_append] at count
  exact ⟨by omega, fun unit member => lawful.each unit (List.mem_append_left _ member),
    (List.pairwise_append.mp lawful.order).1, by omega⟩

/-- A stream of bytes starts with a unit, and the other units are the stream of the rest. -/
theorem Stream.next {bytes : List UInt8} {units : List (List UInt8)} (stream : Stream bytes units)
    (some_bytes : bytes ≠ []) :
    codeOf bytes ≠ 0 ∧ unitOf bytes ≠ [] ∧
      ∃ others, units = unitOf bytes :: others ∧ Stream (restOf bytes) others := by
  obtain ⟨pieces, good, rfl, rfl⟩ := stream
  cases pieces with
  | nil => exact absurd rfl some_bytes
  | cons piece pieces =>
    have piece_good := good piece List.mem_cons_self
    obtain ⟨unit, others, others_good, units, rest⟩ := unit_of_piece piece_good
      fun other member => good other (List.mem_cons_of_mem _ member)
    refine ⟨?_, unit ▸ piece_good.nonempty, others.map Piece.unit, ?_, others, others_good, rest,
      rfl⟩
    · rw [show bytesOf (piece :: pieces) = piece.bytes ++ bytesOf pieces from rfl, codeOf_piece]
      unfold Piece.code
      cases piece.long <;> decide
    · rw [List.map_cons, unit, units]

/-- A stream of no bytes has no units. -/
theorem Stream.none {units : List (List UInt8)} (stream : Stream [] units) : units = [] := by
  obtain ⟨pieces, -, bytes, rfl⟩ := stream
  cases pieces with
  | nil => rfl
  | cons piece pieces =>
    have lengths := congrArg List.length bytes
    rw [show bytesOf (piece :: pieces) = piece.bytes ++ bytesOf pieces from rfl] at lengths
    unfold Piece.bytes Piece.code at lengths
    cases long : piece.long <;> simp [long] at lengths

/-- The ranges of pieces with another one behind them. -/
theorem positions_concat (start : Nat) (pieces : List Piece) (piece : Piece) :
    positions start (pieces ++ [piece]) = positions start pieces ++
      [⟨start + (bytesOf pieces).length + piece.code.length, piece.unit.length,
        avcType piece.unit⟩] := by
  induction pieces generalizing start with
  | nil => rfl
  | cons first pieces ih =>
    have length : (bytesOf (first :: pieces)).length =
        first.bytes.length + (bytesOf pieces).length := by
      rw [show bytesOf (first :: pieces) = first.bytes ++ bytesOf pieces from rfl,
        List.length_append]
    rw [List.cons_append, positions, ih, positions, List.cons_append, length, Nat.add_assoc start]

/-- A parameter set of a type is among units exactly where its index is. -/
theorem SetIndex.lt_iff {units : List (List UInt8)} {type : UInt8} {index : Nat}
    (noted : SetIndex units type index) (few : units.length ≤ cameraMaxNals) :
    index < units.length ↔ ∃ unit ∈ units, avcType unit = type := by
  constructor
  · intro inside
    obtain ⟨unit, here, same⟩ := noted.found (by omega)
    exact ⟨unit, List.mem_of_getElem? here, same⟩
  · rintro ⟨unit, member, same⟩
    have indexed : index ≠ cameraMaxNals := fun most => noted.missing most unit member same
    obtain ⟨found, here, -⟩ := noted.found indexed
    exact (List.getElem?_eq_some_iff.mp here).1

/-- A scan that is over has a payload exactly where its units are an access unit. -/
theorem avcResult_iff {scan : AvcScan} {units : List (List UInt8)} (known : Known scan units) :
    (AccessUnit units → avcResult scan = some scan.payload) ∧
      (¬AccessUnit units → avcResult scan = none) := by
  have few := known.lawful.count
  have pictures : scan.dependent ≠ scan.payload.independent ↔
      ((∃ unit ∈ units, avcType unit = 5) ↔ ¬∃ unit ∈ units, avcType unit = 1) := by
    rw [← known.dependent, ← known.independent]
    cases scan.dependent <;> cases scan.payload.independent <;> simp
  have sets : (scan.payload.sps < scan.payload.nals.length ∧
      scan.payload.pps < scan.payload.nals.length) ↔
        (∃ unit ∈ units, avcType unit = 7) ∧ ∃ unit ∈ units, avcType unit = 8 := by
    rw [known.count, known.sps.lt_iff few, known.pps.lt_iff few]
  have checked : (scan.payload.nals.length ≠ 0 ∧ scan.dependent ≠ scan.payload.independent ∧
      (!scan.payload.independent ∨ (scan.payload.sps < scan.payload.nals.length ∧
        scan.payload.pps < scan.payload.nals.length))) ↔ AccessUnit units := by
    rw [pictures, sets]
    constructor
    · rintro ⟨-, either, complete⟩
      refine ⟨known.lawful, either, fun independent => ?_⟩
      obtain dependent | present := complete
      · rw [known.independent.mpr independent] at dependent
        cases dependent
      · exact present
    · rintro ⟨-, either, complete⟩
      refine ⟨?_, either, ?_⟩
      · rw [known.count]
        intro none
        obtain rfl := List.length_eq_zero_iff.mp none
        have slice := either.mpr (by simp)
        simp at slice
      · by_cases independent : scan.payload.independent = true
        · exact .inr (complete (known.independent.mp independent))
        · exact .inl (by simpa using independent)
  exact ⟨fun unit => if_pos (checked.mpr unit),
    fun unit => if_neg fun fine => unit (checked.mp fine)⟩

/-- Where a scan stands: some pieces are behind it, and every stream of the bytes goes on with a
stream of the rest. -/
structure Scanning (bytes : List UInt8) (scan : AvcScan) (pieces : List Piece)
    (rest : List UInt8) : Prop where
  /-- The pieces are good. -/
  good : AllGood pieces
  /-- The bytes are the pieces and the rest. -/
  split : bytes = bytesOf pieces ++ rest
  /-- The scan stands behind the pieces. -/
  position : scan.position = (bytesOf pieces).length
  /-- The ranges are those of the pieces. -/
  ranges : scan.payload.nals = positions 0 pieces
  /-- The units of the pieces are known. -/
  known : Known scan (pieces.map Piece.unit)
  /-- A stream of the bytes starts with the pieces. -/
  front : ∀ units, Stream bytes units →
    ∃ more, units = pieces.map Piece.unit ++ more ∧ Stream rest more

/-- An accepted payload: the bytes are good pieces whose units are an access unit, and the ranges
and the notes are theirs. -/
structure Accepted (bytes : List UInt8) (payload : CameraPayload) (pieces : List Piece) : Prop where
  /-- The pieces are good. -/
  good : AllGood pieces
  /-- The bytes are the pieces. -/
  bytes : bytes = bytesOf pieces
  /-- The units are an access unit. -/
  unit : AccessUnit (pieces.map Piece.unit)
  /-- The ranges are those of the pieces. -/
  ranges : payload.nals = positions 0 pieces
  /-- The payload is independent where a slice is. -/
  independent : payload.independent = true ↔ ∃ unit ∈ pieces.map Piece.unit, avcType unit = 5
  /-- The sequence parameter set is noted. -/
  sps : SetIndex (pieces.map Piece.unit) 7 payload.sps
  /-- The picture parameter set is noted. -/
  pps : SetIndex (pieces.map Piece.unit) 8 payload.pps

/-- What a scan of bytes leaves with. -/
def Parsed (bytes : List UInt8) : Option CameraPayload → Prop
  | some payload => ∃ pieces, Accepted bytes payload pieces
  | none => ¬∃ units, Stream bytes units ∧ AccessUnit units

/-- A turn of a scan goes on behind another piece, or leaves with what the bytes are. -/
theorem Scanning.turn {bytes : List UInt8} {scan : AvcScan} {pieces : List Piece}
    {rest : List UInt8} (scanning : Scanning bytes scan pieces rest) :
    (∃ result, avcTurn bytes scan = some (.leave result) ∧ Parsed bytes result) ∨
      ∃ next piece rest', avcTurn bytes scan = some (.next next) ∧
        Scanning bytes next (pieces ++ [piece]) rest' ∧
        bytes.length - next.position < bytes.length - scan.position := by
  obtain ⟨good, split, position, ranges, known, front⟩ := scanning
  have length : bytes.length = (bytesOf pieces).length + rest.length := by
    rw [split, List.length_append]
  have left : bytes.drop scan.position = rest := by rw [position, split, List.drop_left]
  unfold avcTurn
  by_cases done : bytes.length ≤ scan.position
  · refine .inl ⟨avcResult scan, if_pos done, ?_⟩
    have none : rest = [] := List.length_eq_zero_iff.mp (by omega)
    subst none
    obtain ⟨accepts, refuses⟩ := avcResult_iff known
    by_cases access : AccessUnit (pieces.map Piece.unit)
    · rw [accepts access]
      exact ⟨pieces, good, by rw [split, List.append_nil], access, ranges, known.independent,
        known.sps, known.pps⟩
    · rw [refuses access]
      rintro ⟨units, stream, other⟩
      obtain ⟨more, rfl, nothing⟩ := front units stream
      rw [nothing.none, List.append_nil] at other
      exact access other
  have some_rest : rest ≠ [] := by
    rintro rfl
    rw [List.length_nil] at length
    omega
  have body : bytes.drop (scan.position + codeOf rest) = rest.drop (codeOf rest) := by
    rw [← List.drop_drop, left]
  -- A stream of the bytes has the unit that the scan is at behind the pieces.
  have refuse (refused : codeOf rest ≠ 0 → unitOf rest ≠ [] →
      ¬Lawful (pieces.map Piece.unit ++ [unitOf rest])) : Parsed bytes none := by
    rintro ⟨units, stream, access⟩
    obtain ⟨more, rfl, stream_rest⟩ := front units stream
    obtain ⟨coded, nonempty, others, rfl, -⟩ := stream_rest.next some_rest
    refine refused coded nonempty (@Lawful.front _ others ?_)
    rw [List.append_assoc]
    exact access.lawful
  rw [if_neg done, cameraStartCode_eq, left]
  simp only [Option.bind_eq_bind, Option.bind_some]
  by_cases stuck : codeOf rest = 0 ∨ scan.payload.nals.length = cameraMaxNals
  · refine .inl ⟨none, if_pos stuck, refuse fun coded _ lawful => ?_⟩
    obtain uncoded | full := stuck
    · exact coded uncoded
    · have few := (lawful_concat.mp lawful).2.1
      rw [known.count] at full
      omega
  rw [not_or] at stuck
  obtain ⟨coded, room⟩ := stuck
  have code_inside : codeOf rest ≤ rest.length := by
    obtain ⟨long, whole, size⟩ := code_front coded
    have lengths := congrArg List.length whole
    rw [List.length_append, ← size, List.length_drop] at lengths
    omega
  have raw_inside := rawOf_length_le (rest.drop (codeOf rest))
  have trimmed_inside := trimmedOf_length_le (rawOf (rest.drop (codeOf rest)))
  rw [List.length_drop] at raw_inside
  rw [if_neg (by rw [not_or]; exact ⟨coded, room⟩), endLoop_eq (by omega), body]
  have taken : (rest.drop (codeOf rest)).take (rawOf (rest.drop (codeOf rest))).length =
      rawOf (rest.drop (codeOf rest)) := by
    have whole := rawOf_append (rest.drop (codeOf rest))
    exact (congrArg (List.take _) whole.symm).trans List.take_left
  have trimmed : loop (trimTurn bytes (scan.position + codeOf rest)) (bytes.length + 1)
      (scan.position + codeOf rest + (rawOf (rest.drop (codeOf rest))).length) =
        some (scan.position + codeOf rest + (unitOf rest).length) := by
    rw [trimLoop_eq (by omega) (by omega), body, Nat.add_sub_cancel_left, taken]
    rfl
  simp only [Option.bind_some, trimmed]
  by_cases empty : scan.position + codeOf rest + (unitOf rest).length =
      scan.position + codeOf rest
  · refine .inl ⟨none, if_pos empty, refuse fun _ nonempty _ => nonempty ?_⟩
    exact List.length_eq_zero_iff.mp (by omega)
  have nonempty : unitOf rest ≠ [] := by
    intro none
    rw [none] at empty
    exact empty rfl
  have first : bytes[scan.position + codeOf rest]? = some ((unitOf rest).headD 0) := by
    obtain ⟨piece, -, unit, size, whole⟩ := piece_front coded nonempty
    obtain ⟨byte, others, cons⟩ := List.exists_cons_of_ne_nil nonempty
    have start := @List.getElem?_drop _ bytes (scan.position + codeOf rest) 0
    rw [Nat.add_zero, body, ← size, whole, Piece.bytes, List.append_assoc, List.drop_left,
      unit, cons] at start
    rw [← size, cons]
    exact start.symm
  rw [if_neg empty, first]
  simp only [Option.bind_some]
  by_cases forbidden : (unitOf rest).headD 0 &&& 0x80 ≠ 0
  · refine .inl ⟨none, if_pos forbidden, refuse fun _ _ lawful => ?_⟩
    exact forbidden (lawful_concat.mp lawful).2.2.1.forbidden
  rw [if_neg forbidden]
  have few : (pieces.map Piece.unit).length < cameraMaxNals := by
    have most := known.lawful.count
    rw [known.count] at room
    omega
  obtain ⟨next, goes, next_position, next_ranges, next_known⟩ | ⟨leaves, unlawful⟩ :=
    @noteNal_spec _ _ known few _ (not_not.mp forbidden)
      (scan.position + codeOf rest + (rawOf (rest.drop (codeOf rest))).length)
      (scan.position + codeOf rest) _ _ rfl rfl
  · obtain ⟨piece, piece_good, unit, size, whole⟩ := piece_front coded nonempty
    have units : (pieces ++ [piece]).map Piece.unit = pieces.map Piece.unit ++ [unitOf rest] := by
      rw [List.map_append, List.map_singleton, unit]
    have bytes_eq : bytesOf (pieces ++ [piece]) = bytesOf pieces ++ piece.bytes := by
      unfold bytesOf
      rw [List.flatMap_append, List.flatMap_singleton]
    have rest_length : (restOf rest).length =
        rest.length - codeOf rest - (rawOf (rest.drop (codeOf rest))).length := by
      unfold restOf
      rw [List.length_drop, List.length_drop]
    have piece_length : piece.bytes.length =
        codeOf rest + (rawOf (rest.drop (codeOf rest))).length := by
      have lengths := congrArg List.length whole
      rw [List.length_append, rest_length] at lengths
      omega
    refine .inr ⟨next, piece, restOf rest, goes, ⟨?_, ?_, ?_, ?_, ?_, ?_⟩, by omega⟩
    · intro other member
      obtain earlier | latest := List.mem_append.mp member
      · exact good other earlier
      · exact List.mem_singleton.mp latest ▸ piece_good
    · rw [split, bytes_eq, List.append_assoc, ← whole]
    · rw [next_position, position, bytes_eq, List.length_append, piece_length, Nat.add_assoc]
    · rw [next_ranges, ranges, positions_concat, Nat.zero_add, size, unit, position]
    · rw [units]
      exact next_known
    · intro all stream
      obtain ⟨more, rfl, stream_rest⟩ := front all stream
      obtain ⟨-, -, others, rfl, stream_others⟩ := stream_rest.next some_rest
      exact ⟨others, by rw [units, List.append_assoc]; rfl, stream_others⟩
  · exact .inl ⟨none, leaves, refuse fun _ _ lawful => unlawful lawful⟩

/-- A scan of bytes stays inside them, ends, and leaves with what they are. -/
theorem cameraParseAvc_spec (bytes : List UInt8) :
    ∃ result, cameraParseAvc bytes = some result ∧ Parsed bytes result := by
  apply loop_ends (fun scan => ∃ pieces rest, Scanning bytes scan pieces rest)
    (fun scan => bytes.length - scan.position)
  · rintro scan ⟨pieces, rest, scanning⟩
    obtain leaves | ⟨next, piece, rest', goes, kept, nearer⟩ := scanning.turn
    · exact .inl leaves
    · exact .inr ⟨next, goes, ⟨pieces ++ [piece], rest', kept⟩, nearer⟩
  · refine ⟨[], bytes, nofun, rfl, rfl, rfl, ?_, fun units stream => ⟨units, rfl, stream⟩⟩
    refine ⟨⟨Nat.zero_le _, nofun, .nil, Nat.zero_le _⟩, rfl, rfl, ?_, ?_, ?_, ?_⟩
    · simp
    · simp
    · exact ⟨fun other => absurd rfl other, fun _ => nofun⟩
    · exact ⟨fun other => absurd rfl other, fun _ => nofun⟩
  · show bytes.length - 0 < bytes.length + 1
    omega

/-! ### The ranges and the units behind their lengths -/

/-- What the ranges of an accepted payload are. -/
structure Ranges (bytes : List UInt8) (nals : List CameraNal) : Prop where
  /-- They are in order and apart. -/
  order : nals.Pairwise fun earlier later => earlier.offset + earlier.size ≤ later.offset
  /-- Each has the bytes of a unit, which is not empty and does not end with zero. -/
  units : ∀ nal ∈ nals, ∃ unit, span bytes nal.offset nal.size = some unit ∧ unit ≠ [] ∧
    unit.getLast? ≠ some 0 ∧ nal.type = avcType unit

/-- The unit of a piece behind a front is read at its range. -/
theorem span_piece (front : List UInt8) (piece : Piece) (pieces : List Piece) :
    span (front ++ bytesOf (piece :: pieces)) (front.length + piece.code.length)
      piece.unit.length = some piece.unit := by
  have split : front ++ bytesOf (piece :: pieces) = (front ++ piece.code) ++
      (piece.unit ++ (List.replicate piece.padding 0 ++ bytesOf pieces)) := by
    show front ++ (piece.code ++ (piece.unit ++ List.replicate piece.padding 0) ++ bytesOf pieces) =
      _
    simp only [List.append_assoc]
  rw [split]
  exact span_append (front ++ piece.code) piece.unit _ (by rw [List.length_append]) rfl

/-- The ranges of pieces behind a front are in order and not before it, and have the units. -/
theorem positions_ranges (front : List UInt8) {pieces : List Piece} (good : AllGood pieces) :
    Ranges (front ++ bytesOf pieces) (positions front.length pieces) ∧
      ∀ nal ∈ positions front.length pieces, front.length ≤ nal.offset := by
  induction pieces generalizing front with
  | nil => exact ⟨⟨.nil, nofun⟩, nofun⟩
  | cons piece pieces ih =>
    have piece_good := good piece List.mem_cons_self
    obtain ⟨⟨order, units⟩, after⟩ := ih (front ++ piece.bytes)
      fun other member => good other (List.mem_cons_of_mem _ member)
    have whole : front ++ bytesOf (piece :: pieces) = front ++ piece.bytes ++ bytesOf pieces := by
      rw [List.append_assoc]
      rfl
    have size : (front ++ piece.bytes).length =
        front.length + piece.code.length + (piece.unit.length + piece.padding) := by
      unfold Piece.bytes
      simp only [List.length_append, List.length_replicate]
      omega
    have length : front.length + piece.bytes.length = (front ++ piece.bytes).length := by
      rw [List.length_append]
    have here := span_piece front piece pieces
    unfold positions
    rw [length]
    refine ⟨⟨List.Pairwise.cons ?_ order, ?_⟩, ?_⟩
    · intro nal member
      have later := after nal member
      show front.length + piece.code.length + piece.unit.length ≤ nal.offset
      omega
    · intro nal member
      obtain rfl | later := List.mem_cons.mp member
      · exact ⟨piece.unit, here, piece_good.nonempty, piece_good.clean.last, rfl⟩
      · rw [whole]
        exact units nal later
    · intro nal member
      obtain rfl | later := List.mem_cons.mp member
      · exact Nat.le_add_right _ _
      · have behind := after nal later
        omega

/-- The units of pieces behind a front are adapted. -/
theorem adaptedOf_positions (front : List UInt8) (pieces : List Piece) :
    adaptedOf (front ++ bytesOf pieces) (positions front.length pieces) =
      some ((pieces.map Piece.unit).flatMap framed) := by
  induction pieces generalizing front with
  | nil => rfl
  | cons piece pieces ih =>
    have whole : front ++ bytesOf (piece :: pieces) = front ++ piece.bytes ++ bytesOf pieces := by
      rw [List.append_assoc]
      rfl
    have here := span_piece front piece pieces
    have rest := ih (front ++ piece.bytes)
    rw [List.length_append, ← whole] at rest
    unfold positions adaptedOf
    dsimp only
    rw [here, rest]
    simp only [Option.bind_eq_bind, Option.bind_some, List.map_cons, List.flatMap_cons, framed,
      List.append_assoc]

/-- Units behind their lengths take the bytes that are counted. -/
theorem length_adapted (units : List (List UInt8)) :
    (units.flatMap framed).length = adaptedBytes units := by
  induction units with
  | nil => rfl
  | cons unit units ih =>
    rw [List.flatMap_cons, List.length_append, length_framed, ih]
    rfl

/-- For every byte string, a scan stays inside it and ends; it accepts exactly the streams of good
pieces whose units are an access unit; the ranges are in order, apart and each of a unit, and the
pieces they are of are all of the bytes; and the units behind their lengths are all of the units,
with their bytes and in order, and fit in a frame. -/
theorem avc_law (bytes : List UInt8) :
    ∃ result, cameraParseAvc bytes = some result ∧
      (result ≠ none ↔ ∃ units, Stream bytes units ∧ AccessUnit units) ∧
      ∀ payload, result = some payload → ∃ pieces, Accepted bytes payload pieces ∧
        Ranges bytes payload.nals ∧
        adaptedOf bytes payload.nals = some ((pieces.map Piece.unit).flatMap framed) ∧
        ((pieces.map Piece.unit).flatMap framed).length ≤ cameraMaxFrameBytes := by
  obtain ⟨result, ends, parsed⟩ := cameraParseAvc_spec bytes
  refine ⟨result, ends, ?_, ?_⟩
  · cases result with
    | none => exact ⟨fun some_result => absurd rfl some_result, fun found => absurd found parsed⟩
    | some payload =>
      obtain ⟨pieces, accepted⟩ := parsed
      exact ⟨fun _ => ⟨_, ⟨pieces, accepted.good, accepted.bytes, rfl⟩, accepted.unit⟩,
        fun _ => nofun⟩
  · rintro payload rfl
    obtain ⟨pieces, accepted⟩ := parsed
    have ranges := (positions_ranges [] accepted.good).1
    have adapted := adaptedOf_positions [] pieces
    rw [List.nil_append, List.length_nil, ← accepted.ranges, ← accepted.bytes] at ranges adapted
    exact ⟨pieces, accepted, ranges, adapted,
      length_adapted _ ▸ accepted.unit.lawful.fits⟩

end Plank.Media
