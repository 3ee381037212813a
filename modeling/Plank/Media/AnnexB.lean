import Plank.Program.Buffer
import Plank.Program.Loop
import Plank.Transport.Bytes

/-!
# From length prefixes to start codes

An encoded HEVC sample is checked and put into one buffer: the parameter sets of a key frame with
start codes, then the block of the sample with each length prefix written over by a start code.
Reads and writes of the model are checked against their buffers and differences of sizes against
zero; a conversion with a result went nowhere outside.
-/

namespace Plank.Media

open Transport

/-- Most bytes of a frame. -/
def maximumFrameBytes : Nat := 64 * 1024 * 1024

/-- The start code of a unit. -/
def startCode : List UInt8 := [0, 0, 0, 1]

/-- The type of a unit, in its first byte. -/
def unitType (first : UInt8) : UInt8 := (first >>> 1) &&& 63

/-- The forbidden bit of a header is clear and its temporal id is not zero. -/
def validUnitHeader (first second : UInt8) : Bool := first &&& 0x80 = 0 && second &&& 7 ≠ 0

/-- Append the parameter sets of a key frame, noting their types: the types and the output, or
nothing where a set is refused. A set that the format does not give is missing. -/
def appendParameterSets : List (Option (List UInt8)) → Nat → List UInt8 →
    Option (Option (Nat × List UInt8))
  | [], types, output => some (some (types, output))
  | none :: _, _, _ => some none
  | some set :: sets, types, output => do
    if set.length < 2 ∨ maximumFrameBytes - 4 < set.length then some none
    else if (← difference (maximumFrameBytes - 4) set.length) < output.length then some none
    else
      let first ← set[0]?
      let second ← set[1]?
      let type := unitType first
      if !validUnitHeader first second ∨ type < 32 ∨ 34 < type then some none
      else
        appendParameterSets sets (types ||| (1 <<< (type.toNat - 32)))
          (output ++ (startCode ++ set))

/-- Where the walk over a block stands. -/
structure RewriteState where
  /-- The offset of the next length. -/
  offset : Nat
  /-- The copy of the block. -/
  data : List UInt8
  /-- A unit is a picture. -/
  hasPicture : Bool
  /-- A unit is a random access picture. -/
  hasRandomAccessPicture : Bool
  deriving DecidableEq

/-- A turn of the walk: the unit at the offset is checked and its length is replaced. -/
def rewriteTurn (length : Nat) (state : RewriteState) :
    Option (Turn RewriteState (Option RewriteState)) := do
  if length ≤ state.offset then some (.leave (some state))
  else
    let left ← difference length state.offset
    if left < 4 then some (.leave none)
    else
      let size ← span state.data state.offset 4
      let nal := (readU32 size 0).toNat
      if nal < 2 ∨ (← difference left 4) < nal then some (.leave none)
      else
        let first ← state.data[state.offset + 4]?
        let second ← state.data[state.offset + 5]?
        if !validUnitHeader first second then some (.leave none)
        else
          let type := unitType first
          let data ← overwrite state.data state.offset startCode
          some (.next ⟨state.offset + 4 + nal, data, state.hasPicture || type < 32,
            state.hasRandomAccessPicture || (16 ≤ type && type ≤ 21)⟩)

/-- The parameter sets that go in front of a key frame: all of the three types have to be there. -/
def parametersOf (sets : List (Option (List UInt8))) (key : Bool) :
    Option (Option (List UInt8)) := do
  if !key then some (some [])
  else
    match ← appendParameterSets sets 0 [] with
    | none => some none
    | some (types, output) => some (if types ≠ 7 then none else some output)

/-- The parameter sets and the block of a sample in one buffer, or nothing where they are
refused. -/
def annexB (headerLength : Int) (sets : List (Option (List UInt8))) (key copies : Bool)
    (block : List UInt8) : Option (Option (List UInt8)) := do
  if sets.head?.join = none ∨ headerLength ≠ 4 ∨ sets.length < 3 ∨ 8 < sets.length then some none
  else
    match ← parametersOf sets key with
    | none => some none
    | some output =>
      if block.length = 0 then some none
      else if (← difference maximumFrameBytes output.length) < block.length ∨ !copies then some none
      else
        match ← loop (rewriteTurn block.length) (block.length + 1) ⟨0, block, false, false⟩ with
        | none => some none
        | some walked =>
          if !walked.hasPicture ∨ key ≠ walked.hasRandomAccessPicture then some none
          else some (some (output ++ walked.data))

/-- A media time. -/
structure CMTime where
  /-- Its value. -/
  value : Int
  /-- The units of a second. -/
  timescale : Int
  /-- It is a number. -/
  numeric : Bool
  /-- Its epoch. -/
  epoch : Int
  deriving DecidableEq

/-- A video format of a sample. -/
structure HevcFormat where
  /-- It is of video. -/
  video : Bool
  /-- Its coding is HEVC. -/
  hevc : Bool
  /-- Its width and height. -/
  dimensions : Int × Int
  /-- The size of a length prefix. -/
  headerLength : Int
  /-- Its parameter sets, each missing where it is not given. -/
  parameterSets : List (Option (List UInt8))

/-- A sample buffer. -/
structure HevcSample where
  /-- It is valid. -/
  valid : Bool
  /-- Its data is ready. -/
  ready : Bool
  /-- How many samples it has. -/
  samples : Int
  /-- Its format. -/
  format : Option HevcFormat
  /-- Its presentation time. -/
  presentation : CMTime
  /-- Its attachments: for each sample the not-sync value, where there is one, and whether it is a
  truth value. -/
  attachments : Option (List (Option (Option Bool)))
  /-- The bytes of its block, if it has one. -/
  block : Option (List UInt8)
  /-- The bytes of the block can be copied. -/
  copies : Bool

/-- What a conversion gives back. -/
structure Converted where
  /-- The frame. -/
  output : Option (List UInt8)
  /-- It is a key frame. -/
  keyFrame : Bool
  /-- Its time in units of a 90,000th. -/
  pts90Khz : UInt64
  deriving DecidableEq

/-- Nothing is given back. -/
def Converted.refused : Converted := ⟨none, false, 0⟩

section Convert

-- The conversion of a time to a scale, rounded toward zero.
variable (convertScale : CMTime → Int → CMTime)

/-- The key flag and the time of a sample whose format and attachments are as they have to be. -/
def HevcSample.presented (sample : HevcSample) (width height : Int) :
    Option (HevcFormat × Bool × Int) :=
  if width ≤ 0 ∨ height ≤ 0 ∨ 8192 < width ∨ 8192 < height ∨ width % 2 ≠ 0 ∨ height % 2 ≠ 0 ∨
      !sample.valid ∨ !sample.ready ∨ sample.samples ≠ 1 then
    none
  else
    match sample.format with
    | none => none
    | some format =>
      if !format.video ∨ !format.hevc ∨ format.dimensions ≠ (width, height) then none
      else if !sample.presentation.numeric ∨ sample.presentation.epoch ≠ 0 ∨
          sample.presentation.value < 0 then
        none
      else
        let pts := convertScale sample.presentation 90000
        if !pts.numeric ∨ pts.value < 0 then none
        else
          match sample.attachments with
          | none => some (format, true, pts.value)
          | some [none] => some (format, true, pts.value)
          | some [some (some notSync)] => some (format, !notSync, pts.value)
          | some _ => none

/-- `PLANKMacHEVCAnnexB`. -/
def hevcAnnexB (sample : HevcSample) (width height : Int) : Option Converted := do
  match sample.presented convertScale width height with
  | none => some .refused
  | some (format, key, pts) =>
    match ← annexB format.headerLength format.parameterSets key sample.copies
        (sample.block.getD []) with
    | none => some .refused
    | some output => some ⟨some output, key, UInt64.ofNat pts.toNat⟩

end Convert

end Plank.Media
