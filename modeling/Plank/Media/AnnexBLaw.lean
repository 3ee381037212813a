import Plank.Media.AnnexB

/-!
# What is converted to start codes

A conversion ends with a result and goes nowhere outside its buffers. It succeeds exactly on a
sample whose block is a list of units with length prefixes, with the parameter sets of its key flag,
and gives the units back in order with a start code in front of each.
-/

namespace Plank.Media

open Transport Wire

/-- A unit behind its length. -/
def framed (unit : List UInt8) : List UInt8 := writeBe 4 unit.length ++ unit

/-- A unit behind a start code. -/
def started (unit : List UInt8) : List UInt8 := startCode ++ unit

/-- The type of a unit. -/
def typeOf (unit : List UInt8) : UInt8 := unitType (unit.getD 0 0)

/-- A unit is long enough for its header, its length has a prefix, and its header is valid. -/
structure Proper (unit : List UInt8) : Prop where
  /-- It has a header. -/
  least : 2 ≤ unit.length
  /-- Its length has a prefix. -/
  fits : unit.length < 256 ^ 4
  /-- Its header is valid. -/
  header : validUnitHeader (unit.getD 0 0) (unit.getD 1 0) = true

/-- A unit is a picture. -/
def isPicture (unit : List UInt8) : Bool := typeOf unit < 32

/-- A unit is a random access picture. -/
def isRandomAccess (unit : List UInt8) : Bool := 16 ≤ typeOf unit && typeOf unit ≤ 21

/-- A unit behind its length takes four bytes more. -/
theorem length_framed (unit : List UInt8) : (framed unit).length = 4 + unit.length := by
  unfold framed
  rw [List.length_append, length_writeBe]

/-- A unit behind a start code takes as much. -/
theorem length_started (unit : List UInt8) : (started unit).length = 4 + unit.length := by
  unfold started
  rw [List.length_append]
  rfl

/-- A unit behind its length can be told from what follows. -/
theorem framed_split {unit unit' rest rest' : List UInt8} (fits : unit.length < 256 ^ 4)
    (fits' : unit'.length < 256 ^ 4) (same : framed unit ++ rest = framed unit' ++ rest') :
    unit = unit' ∧ rest = rest' := by
  unfold framed at same
  rw [List.append_assoc, List.append_assoc] at same
  obtain ⟨sizes, rests⟩ := List.append_inj same (by rw [length_writeBe, length_writeBe])
  have lengths : unit.length = unit'.length := by
    rw [← readBe_writeBe fits, sizes, readBe_writeBe fits']
  exact List.append_inj rests lengths

/-- The size of a list of units does not depend on what is in front of them. -/
theorem length_flatMap_framed (units : List (List UInt8)) :
    (units.flatMap framed).length = (units.flatMap started).length := by
  induction units with
  | nil => rfl
  | cons unit units ih =>
    rw [List.flatMap_cons, List.flatMap_cons, List.length_append, List.length_append, ih,
      length_framed, length_started]

/-- What stands before a walk is the front of every list of units. -/
theorem framed_rest {units units' : List (List UInt8)} {rest : List UInt8}
    (proper : ∀ unit ∈ units, Proper unit) (proper' : ∀ unit ∈ units', Proper unit)
    (same : units.flatMap framed ++ rest = units'.flatMap framed) :
    ∃ more, units' = units ++ more ∧ rest = more.flatMap framed := by
  induction units generalizing units' with
  | nil => exact ⟨units', rfl, same⟩
  | cons unit units ih =>
    have fits := (proper unit List.mem_cons_self).fits
    cases units' with
    | nil =>
      have lengths := congrArg List.length same
      rw [List.flatMap_cons, List.append_assoc, List.length_append, length_framed,
        List.flatMap_nil, List.length_nil] at lengths
      omega
    | cons unit' units' =>
      rw [List.flatMap_cons, List.flatMap_cons, List.append_assoc] at same
      obtain ⟨rfl, rests⟩ := framed_split fits (proper' unit' List.mem_cons_self).fits same
      obtain ⟨more, split, left⟩ :=
        ih (fun other member => proper other (List.mem_cons_of_mem _ member))
          (fun other member => proper' other (List.mem_cons_of_mem _ member)) rests
      exact ⟨more, by rw [split, List.cons_append], left⟩

/-- A walk stands at a unit that is proper. -/
def AtUnit (rest : List UInt8) : Prop := ∃ unit more, rest = framed unit ++ more ∧ Proper unit

/-- Bytes after a front and a length are read there. -/
theorem getElem?_after (front size : List UInt8) (first second : UInt8) (others : List UInt8)
    (four : size.length = 4) :
    (front ++ (size ++ (first :: second :: others)))[front.length + 4]? = some first ∧
      (front ++ (size ++ (first :: second :: others)))[front.length + 5]? = some second := by
  have at_first : (front ++ (size ++ (first :: second :: others)))[front.length + 4]? =
      (first :: second :: others)[0]? := by
    rw [List.getElem?_append_right (by omega), List.getElem?_append_right (by omega)]
    exact congrArg (fun index => (first :: second :: others)[index]?) (by omega)
  have at_second : (front ++ (size ++ (first :: second :: others)))[front.length + 5]? =
      (first :: second :: others)[1]? := by
    rw [List.getElem?_append_right (by omega), List.getElem?_append_right (by omega)]
    exact congrArg (fun index => (first :: second :: others)[index]?) (by omega)
  exact ⟨at_first, at_second⟩

/-- A turn of the walk passes over a proper unit and puts a start code in front of it, or leaves
where none stands. -/
theorem rewriteTurn_spec {length : Nat} {front rest : List UInt8} {picture random : Bool}
    (whole : length = front.length + rest.length) (more : rest ≠ []) :
    (∃ unit after, rest = framed unit ++ after ∧ Proper unit ∧
      rewriteTurn length ⟨front.length, front ++ rest, picture, random⟩ =
        some (.next ⟨(front ++ started unit).length, (front ++ started unit) ++ after,
          picture || isPicture unit, random || isRandomAccess unit⟩)) ∨
      (¬AtUnit rest ∧
        rewriteTurn length ⟨front.length, front ++ rest, picture, random⟩ =
          some (.leave none)) := by
  have some_rest : 0 < rest.length := List.length_pos_iff.mpr more
  unfold rewriteTurn
  dsimp only
  rw [if_neg (by omega), difference_eq (by omega)]
  simp only [Option.bind_eq_bind, Option.bind_some]
  by_cases short : length - front.length < 4
  · refine .inr ⟨?_, if_pos short⟩
    rintro ⟨unit, after, rfl, -⟩
    rw [List.length_append, length_framed] at whole
    omega
  rw [if_neg short]
  obtain ⟨size, tail, split, four⟩ : ∃ size tail, rest = size ++ tail ∧ size.length = 4 :=
    ⟨rest.take 4, rest.drop 4, (List.take_append_drop 4 rest).symm,
      by rw [List.length_take]; omega⟩
  have read : span (front ++ rest) front.length 4 = some size := by
    rw [split]
    exact span_append front size tail rfl four.symm
  have number : (readU32 size 0).toNat = readBe size := by
    rw [readU32_eq (by omega), toNat_word32]
    unfold word
    rw [List.drop_zero, List.take_of_length_le (by omega)]
  rw [read, difference_eq (by omega)]
  simp only [Option.bind_some, number]
  have lengths : rest.length = 4 + tail.length := by rw [split, List.length_append, four]
  -- The length of a unit that stands here is the number that was read.
  have prefixed {unit after : List UInt8} (here : rest = framed unit ++ after)
      (proper : Proper unit) : readBe size = unit.length ∧ tail = unit ++ after := by
    rw [split] at here
    unfold framed at here
    rw [List.append_assoc] at here
    obtain ⟨sizes, tails⟩ := List.append_inj here (by rw [length_writeBe, four])
    exact ⟨by rw [sizes, readBe_writeBe proper.fits], tails⟩
  by_cases bad : readBe size < 2 ∨ length - front.length - 4 < readBe size
  · refine .inr ⟨?_, if_pos bad⟩
    rintro ⟨unit, after, here, proper⟩
    obtain ⟨same, tails⟩ := prefixed here proper
    have least := proper.least
    have tail_length : tail.length = unit.length + after.length := by
      rw [tails, List.length_append]
    omega
  rw [if_neg bad]
  obtain ⟨first, second, others, after, unit_split, counted⟩ : ∃ first second others after,
      tail = (first :: second :: others) ++ after ∧
        (first :: second :: others).length = readBe size := by
    have taken : (tail.take (readBe size)).length = readBe size := by
      rw [List.length_take]
      omega
    obtain ⟨first, rest', one⟩ : ∃ first rest', tail.take (readBe size) = first :: rest' :=
      List.exists_cons_of_length_pos (by omega)
    rw [one, List.length_cons] at taken
    obtain ⟨second, others, two⟩ : ∃ second others, rest' = second :: others :=
      List.exists_cons_of_length_pos (by omega)
    refine ⟨first, second, others, tail.drop (readBe size), ?_, ?_⟩
    · rw [← two, ← one, List.take_append_drop]
    · rw [← two, List.length_cons, taken]
  have data : front ++ rest = front ++ (size ++ (first :: second :: (others ++ after))) := by
    rw [split, unit_split]
    rfl
  obtain ⟨read_first, read_second⟩ := getElem?_after front size first second (others ++ after) four
  rw [data, read_first, read_second]
  simp only [Option.bind_some]
  cases header : validUnitHeader first second with
  | false =>
    refine .inr ⟨?_, if_pos rfl⟩
    rintro ⟨unit, after', here, proper⟩
    obtain ⟨same, tails⟩ := prefixed here proper
    rw [unit_split] at tails
    obtain ⟨rfl, -⟩ := List.append_inj tails (by rw [counted, same])
    exact absurd (header.symm.trans proper.header) Bool.false_ne_true
  | true =>
    have prefix' : writeBe 4 (first :: second :: others).length = size := by
      have written := writeBe_readBe size
      rwa [four, ← counted] at written
    have proper : Proper (first :: second :: others) := by
      refine ⟨by rw [List.length_cons, List.length_cons]; omega, ?_, header⟩
      have small := readBe_lt size
      rwa [four, ← counted] at small
    have written : overwrite (front ++ (size ++ (first :: second :: (others ++ after))))
        front.length startCode =
          some ((front ++ started (first :: second :: others)) ++ after) := by
      rw [overwrite_append front size _ startCode rfl four.symm]
      unfold started
      simp only [List.append_assoc, List.cons_append]
    have offset : front.length + 4 + readBe size =
        (front ++ started (first :: second :: others)).length := by
      rw [List.length_append, length_started, counted]
      omega
    refine .inl ⟨first :: second :: others, after, ?_, proper, ?_⟩
    · rw [split, unit_split]
      unfold framed
      rw [prefix', List.append_assoc]
    · rw [written, offset]
      rfl

/-- A block is a list of proper units, each behind its length. -/
def Units (block : List UInt8) (units : List (List UInt8)) : Prop :=
  block = units.flatMap framed ∧ ∀ unit ∈ units, Proper unit

/-- Where a walk over a list of units ends. -/
def walkedOver (units : List (List UInt8)) : RewriteState :=
  ⟨(units.flatMap started).length, units.flatMap started, units.any isPicture,
    units.any isRandomAccess⟩

/-- What a walk leaves with: what is after all of the units, or nothing where the block is not a
list of proper units. -/
def WalkEnd (block : List UInt8) : Option RewriteState → Prop
  | some walked => ∃ units, Units block units ∧ walked = walkedOver units
  | none => ¬∃ units, Units block units

/-- Where a walk stands: some units of the block are behind it, with start codes. -/
def Walking (block : List UInt8) (state : RewriteState) : Prop :=
  ∃ (units : List (List UInt8)) (rest : List UInt8), block = units.flatMap framed ++ rest ∧
    (∀ unit ∈ units, Proper unit) ∧
      state = ⟨(units.flatMap started).length, units.flatMap started ++ rest,
        units.any isPicture, units.any isRandomAccess⟩

/-- A walk over a block stays inside it and ends as it has to. -/
theorem walk_spec (block : List UInt8) :
    ∃ result, loop (rewriteTurn block.length) (block.length + 1) ⟨0, block, false, false⟩ =
      some result ∧ WalkEnd block result := by
  apply loop_ends (Walking block) (fun state => block.length - state.offset)
  · rintro state ⟨units, rest, split, proper, rfl⟩
    have whole : block.length = (units.flatMap started).length + rest.length := by
      rw [← length_flatMap_framed, split, List.length_append]
    by_cases done : rest = []
    · subst done
      rw [List.append_nil] at split
      refine .inl ⟨some (walkedOver units), ?_, units, ⟨split, proper⟩, rfl⟩
      unfold rewriteTurn walkedOver
      rw [List.append_nil]
      exact if_pos (by rw [whole]; exact Nat.le_refl _)
    · obtain ⟨unit, after, here, unit_proper, goes⟩ | ⟨stuck, leaves⟩ :=
        @rewriteTurn_spec _ _ _ (units.any isPicture) (units.any isRandomAccess) whole done
      · refine .inr ⟨_, goes, ⟨units ++ [unit], after, ?_, ?_, ?_⟩, ?_⟩
        · rw [split, here, List.flatMap_append, List.flatMap_singleton, List.append_assoc]
        · intro other member
          obtain earlier | latest := List.mem_append.mp member
          · exact proper other earlier
          · exact List.mem_singleton.mp latest ▸ unit_proper
        · simp only [List.flatMap_append, List.flatMap_singleton, List.any_append, List.any_cons,
            List.any_nil, Bool.or_false]
        · have unit_length := length_started unit
          have rest_length := congrArg List.length here
          rw [List.length_append, length_framed] at rest_length
          dsimp only
          rw [List.length_append]
          omega
      · refine .inl ⟨none, leaves, ?_⟩
        rintro ⟨all, framed_all, all_proper⟩
        obtain ⟨more, rfl, left⟩ := framed_rest proper all_proper (split.symm.trans framed_all)
        cases more with
        | nil => exact done left
        | cons unit more =>
          exact stuck ⟨unit, more.flatMap framed, left,
            all_proper unit (List.mem_append_right units List.mem_cons_self)⟩
  · exact ⟨[], block, rfl, fun _ member => absurd member List.not_mem_nil, rfl⟩
  · exact Nat.lt_succ_of_le (Nat.sub_le _ _)

/-! ### Parameter sets -/

/-- The types of parameter sets: video, sequence and picture. -/
def parameterTypes : List UInt8 := [32, 33, 34]

/-- A parameter set has a valid header with one of the types. -/
structure ProperSet (set : List UInt8) : Prop where
  /-- It has a header. -/
  least : 2 ≤ set.length
  /-- Its header is valid. -/
  header : validUnitHeader (set.getD 0 0) (set.getD 1 0) = true
  /-- Its type is one of the three. -/
  type : typeOf set ∈ parameterTypes

/-- The bit of a type, among the bits that are noted. -/
def noted (types : Nat) (type : UInt8) : Bool := types.testBit (type.toNat - 32)

/-- The bits of the three types. -/
def typeBits : List Nat := [0, 1, 2, 3, 4, 5, 6, 7]

/-- Noting a type adds its bit and no other one. -/
theorem noted_more : ∀ types ∈ typeBits, ∀ type ∈ parameterTypes,
    (types ||| (1 <<< (type.toNat - 32))) ∈ typeBits ∧ ∀ other ∈ parameterTypes,
      noted (types ||| (1 <<< (type.toNat - 32))) other = (noted types other || type = other) := by
  decide +kernel

/-- All of the bits are those of all types. -/
theorem noted_all : ∀ types ∈ typeBits,
    (types = 7 ↔ ∀ type ∈ parameterTypes, noted types type = true) := by
  decide +kernel

/-- A type between the first and the last is one of the three. -/
theorem mem_parameterTypes {type : UInt8} : type ∈ parameterTypes ↔ ¬(type < 32 ∨ 34 < type) := by
  simp only [parameterTypes, List.mem_cons, List.not_mem_nil, or_false, ← UInt8.toNat_inj,
    UInt8.lt_iff_toNat_lt]
  show type.toNat = 32 ∨ type.toNat = 33 ∨ type.toNat = 34 ↔ ¬(type.toNat < 32 ∨ 34 < type.toNat)
  omega

/-- Sets that are given, each as it has to be, that fit behind an output. -/
structure Fitting (sets : List (Option (List UInt8))) (output : List UInt8)
    (parameters : List (List UInt8)) : Prop where
  /-- All of the sets are given. -/
  given : sets = parameters.map some
  /-- They are proper. -/
  proper : ∀ set ∈ parameters, ProperSet set
  /-- They fit behind the output. -/
  fits : (output ++ parameters.flatMap started).length ≤ maximumFrameBytes

/-- What appending comes to: the sets behind the output and their types with those noted before, or
nothing where the sets do not fit. -/
def Appended (sets : List (Option (List UInt8))) (types : Nat) (output : List UInt8) :
    Option (Nat × List UInt8) → Prop
  | some (types', output') => ∃ parameters, Fitting sets output parameters ∧
      output' = output ++ parameters.flatMap started ∧ types' ∈ typeBits ∧
        ∀ type ∈ parameterTypes,
          noted types' type = (noted types type || parameters.any (typeOf · = type))
  | none => ¬∃ parameters, Fitting sets output parameters

/-- Sets fit if the first one does and the others fit behind it. -/
theorem fitting_cons {set : List UInt8} {sets : List (Option (List UInt8))} {output : List UInt8}
    {parameters : List (List UInt8)} :
    Fitting (some set :: sets) output parameters ↔
      ProperSet set ∧ ∃ others, parameters = set :: others ∧
        Fitting sets (output ++ started set) others := by
  constructor
  · rintro ⟨given, proper, fits⟩
    cases parameters with
    | nil => cases given
    | cons other others =>
      rw [List.map_cons] at given
      obtain ⟨first, rest⟩ := List.cons.inj given
      obtain rfl := Option.some.inj first
      refine ⟨proper set List.mem_cons_self, others, rfl, rest,
        fun other member => proper other (List.mem_cons_of_mem _ member), ?_⟩
      rwa [List.append_assoc, ← List.flatMap_cons]
  · rintro ⟨proper, others, rfl, given, others_proper, fits⟩
    refine ⟨by rw [given, List.map_cons], fun other member => ?_, ?_⟩
    · obtain rfl | later := List.mem_cons.mp member
      · exact proper
      · exact others_proper other later
    · rwa [List.append_assoc, ← List.flatMap_cons] at fits

/-- A set that is refused, with the sets after it, does not fit. -/
theorem unfitting {set : List UInt8} {sets : List (Option (List UInt8))} {output : List UInt8}
    (refused : ProperSet set → (output ++ started set).length ≤ maximumFrameBytes → False) :
    ¬∃ parameters, Fitting (some set :: sets) output parameters := by
  rintro ⟨parameters, fitting⟩
  obtain ⟨proper, others, -, -, -, fits⟩ := fitting_cons.mp fitting
  rw [List.length_append] at fits
  exact refused proper (Nat.le_trans (Nat.le_add_right _ _) fits)

/-- Appending parameter sets stays inside its buffers and comes to what it has to. -/
theorem appendParameterSets_spec (sets : List (Option (List UInt8))) {types : Nat}
    {output : List UInt8} (bits : types ∈ typeBits) (fits : output.length ≤ maximumFrameBytes) :
    ∃ result, appendParameterSets sets types output = some result ∧
      Appended sets types output result := by
  induction sets generalizing types output with
  | nil =>
    refine ⟨some (types, output), rfl, [], ⟨rfl, nofun, ?_⟩, ?_, bits, fun type _ => ?_⟩
    · rwa [List.flatMap_nil, List.append_nil]
    · rw [List.flatMap_nil, List.append_nil]
    · rw [List.any_nil, Bool.or_false]
  | cons set sets ih =>
    cases set with
    | none =>
      refine ⟨none, rfl, ?_⟩
      rintro ⟨parameters, given, -, -⟩
      cases parameters <;> cases given
    | some set =>
      unfold appendParameterSets
      have behind : (output ++ started set).length = output.length + (4 + set.length) := by
        rw [List.length_append, length_started]
      have ceiling : maximumFrameBytes = 67108864 := rfl
      by_cases sized : set.length < 2 ∨ maximumFrameBytes - 4 < set.length
      · refine ⟨none, if_pos sized, unfitting fun proper room => ?_⟩
        have least := proper.least
        omega
      rw [if_neg sized, difference_eq (by omega)]
      simp only [Option.bind_eq_bind, Option.bind_some]
      by_cases full : maximumFrameBytes - 4 - set.length < output.length
      · refine ⟨none, if_pos full, unfitting fun _ room => ?_⟩
        omega
      obtain ⟨first, rest, one⟩ : ∃ first rest, set = first :: rest :=
        List.exists_cons_of_length_pos (by omega)
      obtain ⟨second, others, two⟩ : ∃ second others, rest = second :: others := by
        rw [one, List.length_cons] at sized
        exact List.exists_cons_of_length_pos (by omega)
      subst one two
      rw [if_neg full]
      simp only [List.getElem?_cons_zero, List.getElem?_cons_succ, Option.bind_some]
      by_cases refused : (!validUnitHeader first second) = true ∨ unitType first < 32 ∨
          34 < unitType first
      · refine ⟨none, if_pos refused, unfitting fun proper _ => ?_⟩
        obtain invalid | other := refused
        · rw [show validUnitHeader first second = true from proper.header] at invalid
          cases invalid
        · exact mem_parameterTypes.mp proper.type other
      rw [if_neg refused]
      rw [not_or, Bool.not_eq_true', Bool.not_eq_false] at refused
      have type : unitType first ∈ parameterTypes := mem_parameterTypes.mpr refused.2
      have proper : ProperSet (first :: second :: others) := ⟨by omega, refused.1, type⟩
      obtain ⟨bits', more⟩ := noted_more types bits (unitType first) type
      obtain ⟨result, ends, appended⟩ :=
        @ih _ (output ++ started (first :: second :: others)) bits' (by omega)
      refine ⟨result, ends, ?_⟩
      cases result with
      | none =>
        rintro ⟨parameters, fitting⟩
        obtain ⟨-, others', -, fitting'⟩ := fitting_cons.mp fitting
        exact appended ⟨others', fitting'⟩
      | some found =>
        obtain ⟨parameters, fitting, output_eq, types_bits, types_eq⟩ := appended
        refine ⟨(first :: second :: others) :: parameters,
          fitting_cons.mpr ⟨proper, parameters, rfl, fitting⟩, ?_, types_bits,
          fun type member => ?_⟩
        · rw [output_eq, List.flatMap_cons, List.append_assoc]
        · rw [types_eq type member, more type member, List.any_cons, Bool.or_assoc]
          rfl

/-- The parameter sets in front of a frame: all of the format's sets for a key frame, each proper
and with all types among them, and none for any other frame. -/
structure Leading (sets : List (Option (List UInt8))) (key : Bool)
    (parameters : List (List UInt8)) : Prop where
  /-- A frame that is no key frame has none. -/
  absent : key = false → parameters = []
  /-- A key frame has all of the sets. -/
  given : key = true → sets = parameters.map some
  /-- They are proper. -/
  proper : ∀ set ∈ parameters, ProperSet set
  /-- A key frame has a set of each type. -/
  complete : key = true → ∀ type ∈ parameterTypes, ∃ set ∈ parameters, typeOf set = type

/-- The sets in front of a frame, as bytes, or nothing where there are none that fit. -/
def Led (sets : List (Option (List UInt8))) (key : Bool) : Option (List UInt8) → Prop
  | some output => ∃ parameters, Leading sets key parameters ∧
      output = parameters.flatMap started ∧ output.length ≤ maximumFrameBytes
  | none => ¬∃ parameters, Leading sets key parameters ∧
      (parameters.flatMap started).length ≤ maximumFrameBytes

/-- The sets in front of a frame are found without going outside a buffer. -/
theorem parametersOf_spec (sets : List (Option (List UInt8))) (key : Bool) :
    ∃ result, parametersOf sets key = some result ∧ Led sets key result := by
  cases key with
  | false =>
    exact ⟨some [], rfl, [], ⟨fun _ => rfl, nofun, nofun, nofun⟩, rfl, Nat.zero_le _⟩
  | true =>
    obtain ⟨result, ends, appended⟩ := @appendParameterSets_spec sets 0 [] (by decide)
      (Nat.zero_le _)
    unfold parametersOf
    simp only [Bool.not_true, Bool.false_eq_true, if_false, ends, Option.bind_eq_bind,
      Option.bind_some]
    cases result with
    | none =>
      refine ⟨none, rfl, ?_⟩
      rintro ⟨parameters, leading, fits⟩
      exact appended ⟨parameters, leading.given rfl, leading.proper, fits⟩
    | some found =>
      obtain ⟨types, output⟩ := found
      obtain ⟨parameters, fitting, output_eq, bits, types_eq⟩ := appended
      rw [List.nil_append] at output_eq
      have present {type : UInt8} (member : type ∈ parameterTypes) :
          noted types type = true ↔ ∃ set ∈ parameters, typeOf set = type := by
        rw [types_eq type member]
        simp [noted]
      dsimp only
      by_cases all : types = 7
      · rw [if_neg (not_not.mpr all)]
        refine ⟨some output, rfl, parameters, ⟨nofun, fun _ => fitting.given, fitting.proper,
          fun _ type member => ?_⟩, output_eq, output_eq ▸ fitting.fits⟩
        exact (present member).mp ((noted_all types bits).mp all type member)
      · rw [if_pos all]
        refine ⟨none, rfl, ?_⟩
        rintro ⟨others, leading, -⟩
        have same : parameters = others := by
          have maps := fitting.given.symm.trans (leading.given rfl)
          exact List.map_injective_iff.mpr (Option.some_injective _) maps
        subst same
        exact all ((noted_all types bits).mpr fun type member =>
          (present member).mpr (leading.complete rfl type member))

/-- A sample that can be converted, with its parameter sets and its units. -/
structure Convertible (headerLength : Int) (sets : List (Option (List UInt8))) (key : Bool)
    (block : List UInt8) (parameters units : List (List UInt8)) : Prop where
  /-- The lengths of the units have four bytes. -/
  header : headerLength = 4
  /-- The format has three to eight parameter sets. -/
  count : 3 ≤ sets.length ∧ sets.length ≤ 8
  /-- The first of them is given. -/
  first : sets.head?.join ≠ none
  /-- Those of a key frame are proper, with all types among them. -/
  leading : Leading sets key parameters
  /-- There is a block. -/
  nonempty : block ≠ []
  /-- The block is the units, each proper and behind its length. -/
  parts : Units block units
  /-- A unit is a picture. -/
  picture : ∃ unit ∈ units, typeOf unit < 32
  /-- The frame is a key frame exactly where a unit is a random access picture. -/
  sync : key = true ↔ ∃ unit ∈ units, 16 ≤ typeOf unit ∧ typeOf unit ≤ 21
  /-- The frame fits. -/
  total : (parameters.flatMap started).length + block.length ≤ maximumFrameBytes

/-- The units of a block are determined by it. -/
theorem units_unique {block : List UInt8} {units units' : List (List UInt8)}
    (found : Units block units) (found' : Units block units') : units = units' := by
  have same : units.flatMap framed ++ [] = units'.flatMap framed := by
    rw [List.append_nil, ← found.1, ← found'.1]
  obtain ⟨more, rfl, none⟩ := framed_rest found.2 found'.2 same
  cases more with
  | nil => rw [List.append_nil]
  | cons unit more =>
    have lengths := congrArg List.length none
    rw [List.flatMap_cons, List.length_append, length_framed] at lengths
    rw [List.length_nil] at lengths
    omega

/-- The parameter sets in front of a frame are determined by the format and the key flag. -/
theorem leading_unique {sets : List (Option (List UInt8))} {key : Bool}
    {parameters parameters' : List (List UInt8)} (found : Leading sets key parameters)
    (found' : Leading sets key parameters') : parameters = parameters' := by
  cases key with
  | false => rw [found.absent rfl, found'.absent rfl]
  | true =>
    have maps := (found.given rfl).symm.trans (found'.given rfl)
    exact List.map_injective_iff.mpr (Option.some_injective _) maps

/-- A conversion goes nowhere outside its buffers, succeeds exactly on what can be converted, and
gives the parameter sets and the units with start codes. -/
theorem annexB_spec (headerLength : Int) (sets : List (Option (List UInt8))) (key copies : Bool)
    (block : List UInt8) :
    ∃ result, annexB headerLength sets key copies block = some result ∧
      ∀ output, result = some output ↔ copies = true ∧ ∃ parameters units,
        Convertible headerLength sets key block parameters units ∧
          output = parameters.flatMap started ++ units.flatMap started := by
  have refuse (refused : ∀ parameters units, copies = true →
      ¬Convertible headerLength sets key block parameters units) (output : List UInt8) :
      (none : Option (List UInt8)) = some output ↔ copies = true ∧ ∃ parameters units,
        Convertible headerLength sets key block parameters units ∧
          output = parameters.flatMap started ++ units.flatMap started := by
    refine ⟨nofun, ?_⟩
    rintro ⟨copied, parameters, units, convertible, -⟩
    exact absurd convertible (refused parameters units copied)
  unfold annexB
  by_cases bad : sets.head?.join = none ∨ headerLength ≠ 4 ∨ sets.length < 3 ∨ 8 < sets.length
  · refine ⟨none, if_pos bad, refuse fun parameters units _ convertible => ?_⟩
    obtain missing | long | few | many := bad
    · exact convertible.first missing
    · exact long convertible.header
    · have count := convertible.count
      omega
    · have count := convertible.count
      omega
  obtain ⟨front, found, led⟩ := parametersOf_spec sets key
  rw [if_neg bad]
  simp only [found, Option.bind_eq_bind, Option.bind_some]
  have ceiling : maximumFrameBytes = 67108864 := rfl
  cases front with
  | none =>
    refine ⟨none, rfl, refuse fun parameters units _ convertible => led ?_⟩
    exact ⟨parameters, convertible.leading,
      Nat.le_trans (Nat.le_add_right _ _) convertible.total⟩
  | some output =>
    obtain ⟨parameters, leading, output_eq, output_fits⟩ := led
    dsimp only
    by_cases empty : block.length = 0
    · exact ⟨none, if_pos empty, refuse fun _ _ _ convertible =>
        convertible.nonempty (List.length_eq_zero_iff.mp empty)⟩
    rw [if_neg empty, difference_eq output_fits]
    simp only [Option.bind_some]
    by_cases wide : maximumFrameBytes - output.length < block.length ∨ (!copies) = true
    · refine ⟨none, if_pos wide, refuse fun parameters' units copied convertible => ?_⟩
      have total := convertible.total
      rw [leading_unique convertible.leading leading, ← output_eq] at total
      obtain large | uncopied := wide
      · omega
      · rw [copied] at uncopied
        cases uncopied
    obtain ⟨result, walked, ends⟩ := walk_spec block
    rw [if_neg wide, walked]
    simp only [Option.bind_some]
    rw [not_or, Nat.not_lt, Bool.not_eq_true', Bool.not_eq_false] at wide
    cases result with
    | none =>
      exact ⟨none, rfl, refuse fun _ units _ convertible => ends ⟨units, convertible.parts⟩⟩
    | some walked =>
      obtain ⟨units, parts, rfl⟩ := ends
      have picture : (walkedOver units).hasPicture = true ↔ ∃ unit ∈ units, typeOf unit < 32 := by
        show units.any isPicture = true ↔ _
        simp [isPicture]
      have random : (walkedOver units).hasRandomAccessPicture = true ↔
          ∃ unit ∈ units, 16 ≤ typeOf unit ∧ typeOf unit ≤ 21 := by
        show units.any isRandomAccess = true ↔ _
        simp [isRandomAccess]
      by_cases wrong : (!(walkedOver units).hasPicture) = true ∨
          key ≠ (walkedOver units).hasRandomAccessPicture
      · refine ⟨none, if_pos wrong, refuse fun parameters' units' _ convertible => ?_⟩
        obtain rfl := units_unique parts convertible.parts
        obtain pictureless | other := wrong
        · rw [picture.mpr convertible.picture] at pictureless
          cases pictureless
        · exact other (Bool.eq_iff_iff.mpr (convertible.sync.trans random.symm))
      · refine ⟨some (output ++ units.flatMap started), if_neg wrong, fun other => ?_⟩
        rw [not_or, Bool.not_eq_true', Bool.not_eq_false, not_not] at wrong
        constructor
        · rintro same
          obtain rfl := Option.some.inj same
          refine ⟨wide.2, parameters, units, ?_, by rw [output_eq]⟩
          simp only [not_or, not_not, Nat.not_lt] at bad
          obtain ⟨given, four, least, most⟩ := bad
          exact
            { header := four
              count := ⟨least, most⟩
              first := given
              leading := leading
              nonempty := fun none => empty (by rw [none, List.length_nil])
              parts := parts
              picture := picture.mp wrong.1
              sync := (Bool.eq_iff_iff.mp wrong.2).trans random
              total := by rw [← output_eq]; omega }
        · rintro ⟨-, parameters', units', convertible, rfl⟩
          rw [output_eq, leading_unique convertible.leading leading,
            units_unique parts convertible.parts]

/-- For every sample and size, a conversion goes nowhere outside its buffers; where it fails it
gives nothing back, and it gives a frame back exactly for a sample that is presented as it has to be
and can be converted: the parameter sets of a key frame and then the units, in order, each with its
bytes behind a start code, in as many bytes as the sets and the block have in advance. -/
theorem conversion_law (convertScale : CMTime → Int → CMTime) (sample : HevcSample)
    (width height : Int) :
    ∃ converted, hevcAnnexB convertScale sample width height = some converted ∧
      (converted.output = none → converted = .refused) ∧
      ∀ output, converted.output = some output ↔ ∃ format key pts parameters units,
        sample.presented convertScale width height = some (format, key, pts) ∧
          sample.copies = true ∧
          Convertible format.headerLength format.parameterSets key (sample.block.getD []) parameters
            units ∧
          output = parameters.flatMap started ++ units.flatMap started ∧
          output.length = (parameters.flatMap started).length + (sample.block.getD []).length ∧
          output.length ≤ maximumFrameBytes ∧
          converted = ⟨some output, key, UInt64.ofNat pts.toNat⟩ := by
  unfold hevcAnnexB
  cases presented : sample.presented convertScale width height with
  | none =>
    refine ⟨.refused, rfl, fun _ => rfl, fun output => ⟨nofun, ?_⟩⟩
    rintro ⟨format, key, pts, parameters, units, other, -⟩
    cases other
  | some found =>
    obtain ⟨format, key, pts⟩ := found
    obtain ⟨result, computed, exactly⟩ := annexB_spec format.headerLength format.parameterSets key
      sample.copies (sample.block.getD [])
    simp only [computed, Option.bind_eq_bind, Option.bind_some]
    cases result with
    | none =>
      refine ⟨.refused, rfl, fun _ => rfl, fun output => ⟨nofun, ?_⟩⟩
      rintro ⟨format', key', pts', parameters, units, same, copied, convertible, bytes, -⟩
      obtain ⟨rfl, rfl, rfl⟩ : format = format' ∧ key = key' ∧ pts = pts' := by
        simpa using same
      exact absurd ((exactly output).mpr ⟨copied, parameters, units, convertible, bytes⟩) nofun
    | some bytes =>
      refine ⟨_, rfl, nofun, fun output => ⟨fun same => ?_, ?_⟩⟩
      · obtain rfl : bytes = output := Option.some.inj same
        obtain ⟨copied, parameters, units, convertible, bytes_eq⟩ := (exactly bytes).mp rfl
        have length : bytes.length =
            (parameters.flatMap started).length + (sample.block.getD []).length := by
          rw [bytes_eq, List.length_append, ← length_flatMap_framed units, ← convertible.parts.1]
        exact ⟨format, key, pts, parameters, units, rfl, copied, convertible, bytes_eq, length,
          length ▸ convertible.total, rfl⟩
      · rintro ⟨format', key', pts', parameters, units, same, copied, convertible, bytes_eq, -⟩
        obtain ⟨rfl, rfl, rfl⟩ : format = format' ∧ key = key' ∧ pts = pts' := by
          simpa using same
        exact (exactly output).mpr ⟨copied, parameters, units, convertible, bytes_eq⟩

/-- A sample with a picture parameter set whose forbidden bit is set. -/
def forbiddenSample : HevcSample where
  valid := true
  ready := true
  samples := 1
  format := some ⟨true, true, (2, 2), 4,
    [some [0x40, 0x01], some [0x42, 0x01], some [0xc4, 0x01]]⟩
  presentation := ⟨0, 90000, true, 0⟩
  attachments := none
  block := some (framed [0x26, 0x01])
  copies := true

/-- A key frame whose parameter sets have the three types is refused where the header of one of them
is invalid. -/
theorem forbidden_set_refused :
    (∀ set ∈ [[0x40, 0x01], [0x42, 0x01], [0xc4, 0x01]],
      2 ≤ set.length ∧ typeOf set ∈ parameterTypes) ∧
      (∀ type ∈ parameterTypes,
        ∃ set ∈ [[0x40, 0x01], [0x42, 0x01], [0xc4, 0x01]], typeOf set = type) ∧
      Units (framed [0x26, 0x01]) [[0x26, 0x01]] ∧ isPicture [0x26, 0x01] = true ∧
      isRandomAccess [0x26, 0x01] = true ∧
      hevcAnnexB (fun time _ => time) forbiddenSample 2 2 = some .refused := by
  refine ⟨by decide +kernel, by decide +kernel, ⟨rfl, fun unit member => ?_⟩, by decide, by decide,
    by decide +kernel⟩
  obtain rfl := List.mem_singleton.mp member
  exact ⟨by decide, by decide, by decide⟩

end Plank.Media
