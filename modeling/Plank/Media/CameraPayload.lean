import Plank.Program.Buffer
import Plank.Program.Loop
import Plank.Wire.BigEndian

/-!
# The units of a camera access unit

A scan over an H.264 access unit with start codes: the ranges of its units, checked against the
rules for an ordinary access unit, and the same units behind their lengths. Every read is checked
against the size of the payload.
-/

namespace Plank.Media

/-- Most units of an access unit. -/
def cameraMaxNals : Nat := 64

/-- Most bytes of a parameter set. -/
def cameraMaxParameterBytes : Nat := 4096

/-- Most bytes of a camera frame. -/
def cameraMaxFrameBytes : Nat := 4 * 1024 * 1024

/-- The range of a unit. -/
structure CameraNal where
  /-- Where it starts. -/
  offset : Nat
  /-- Its bytes. -/
  size : Nat
  /-- Its type. -/
  type : UInt8
  deriving DecidableEq

/-- What is known of a payload. -/
structure CameraPayload where
  /-- The units. -/
  nals : List CameraNal
  /-- The index of the sequence parameter set: the most units where there is none. -/
  sps : Nat
  /-- The index of the picture parameter set: the most units where there is none. -/
  pps : Nat
  /-- A decoder can start at it. -/
  independent : Bool
  deriving DecidableEq

/-- The size of the start code at an offset, or zero. -/
def cameraStartCode (bytes : List UInt8) (index : Nat) : Option Nat := do
  if bytes.length < index then some 0
  else
    let left ← difference bytes.length index
    if left < 3 then some 0
    else if (← bytes[index]?) ≠ 0 then some 0
    else if (← bytes[index + 1]?) ≠ 0 then some 0
    else
      let third ← bytes[index + 2]?
      if third = 1 then some 3
      else if left < 4 ∨ third ≠ 0 then some 0
      else some (if (← bytes[index + 3]?) = 1 then 4 else 0)

/-- A turn of the search for the end of a unit, at the next start code or the end of the bytes. -/
def endTurn (bytes : List UInt8) (stop : Nat) : Option (Turn Nat Nat) := do
  if bytes.length ≤ stop then some (.leave stop)
  else if (← cameraStartCode bytes stop) ≠ 0 then some (.leave stop)
  else some (.next (stop + 1))

/-- A turn over the zero bytes at the end of a unit. -/
def trimTurn (bytes : List UInt8) (begin' stop : Nat) : Option (Turn Nat Nat) := do
  if stop ≤ begin' then some (.leave stop)
  else if (← bytes[stop - 1]?) = 0 then some (.next (stop - 1))
  else some (.leave stop)

/-- Where a scan stands. -/
structure AvcScan where
  /-- The offset of the next start code. -/
  position : Nat
  /-- The bytes of the units behind their lengths. -/
  adapted : Nat
  /-- A unit depends on an earlier picture. -/
  dependent : Bool
  /-- The units before. -/
  payload : CameraPayload
  deriving DecidableEq

/-- The type of a unit. -/
def nalType (first : UInt8) : UInt8 := first &&& 31

/-- A type that an ordinary access unit has. -/
def ordinaryType (type : UInt8) : Bool := !(type ≠ 1 && type ≠ 5 && (type < 6 || type > 12))

/-- A type whose units have a payload. -/
def carryingType (type : UInt8) : Bool := type = 1 || type = 5 || type = 7 || type = 8

/-- Take note of a unit of a range that starts with a byte, unless the rules refuse it. -/
def noteNal (scan : AvcScan) (position begin' stop : Nat) (first : UInt8) :
    Option (Turn AvcScan (Option CameraPayload)) := do
  let type := nalType first
  let size ← difference stop begin'
  let payload := scan.payload
  if !ordinaryType type then some (.leave none)
  else if carryingType type ∧ size < 2 then some (.leave none)
  else
    let index := if type = 7 then payload.sps else payload.pps
    if (type = 7 ∨ type = 8) ∧ (scan.dependent ∨ payload.independent ∨ index ≠ cameraMaxNals ∨
        cameraMaxParameterBytes < size) then
      some (.leave none)
    else
      let adapted := scan.adapted + (4 + size)
      if cameraMaxFrameBytes < adapted then some (.leave none)
      else
        some (.next
          { position
            adapted
            dependent := scan.dependent || type = 1
            payload :=
              { nals := payload.nals ++ [⟨begin', size, type⟩]
                sps := if type = 7 then payload.nals.length else payload.sps
                pps := if type = 8 then payload.nals.length else payload.pps
                independent := payload.independent || type = 5 } })

/-- The payload of a scan that is over, if it is an access unit. -/
def avcResult (scan : AvcScan) : Option CameraPayload :=
  let payload := scan.payload
  if payload.nals.length ≠ 0 ∧ scan.dependent ≠ payload.independent ∧
      (!payload.independent ∨
        (payload.sps < payload.nals.length ∧ payload.pps < payload.nals.length)) then
    some payload
  else none

/-- A turn of the scan: the unit behind the next start code. -/
def avcTurn (bytes : List UInt8) (scan : AvcScan) :
    Option (Turn AvcScan (Option CameraPayload)) := do
  if bytes.length ≤ scan.position then some (.leave (avcResult scan))
  else
    let code ← cameraStartCode bytes scan.position
    if code = 0 ∨ scan.payload.nals.length = cameraMaxNals then some (.leave none)
    else
      let begin' := scan.position + code
      let stop ← loop (endTurn bytes) (bytes.length + 1) begin'
      let trimmed ← loop (trimTurn bytes begin') (bytes.length + 1) stop
      if trimmed = begin' then some (.leave none)
      else
        let first ← bytes[begin']?
        if first &&& 0x80 ≠ 0 then some (.leave none)
        else noteNal scan stop begin' trimmed first

/-- `PLANKCameraParseAVC`. -/
def cameraParseAvc (bytes : List UInt8) : Option (Option CameraPayload) :=
  loop (avcTurn bytes) (bytes.length + 1) ⟨0, 0, false, ⟨[], cameraMaxNals, cameraMaxNals, false⟩⟩

/-- The units of a payload, each behind its length. -/
def adaptedOf (bytes : List UInt8) : List CameraNal → Option (List UInt8)
  | [] => some []
  | nal :: nals => do
    let unit ← span bytes nal.offset nal.size
    let rest ← adaptedOf bytes nals
    some (Wire.writeBe 4 nal.size ++ (unit ++ rest))

end Plank.Media
