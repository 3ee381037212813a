import Plank.Program.Buffer
import Plank.Program.Loop
import Plank.Wire.BigEndian

/-!
# The segments of a camera image

A walk over a JPEG image: marker segments with lengths, one baseline frame of the size that was
announced, one scan with its entropy-coded data, and the end of the image as its last bytes. Every
read is checked against the image, and within a segment against the segment.
-/

namespace Plank.Media

/-- Most markers of an image. -/
def jpegMaxMarkers : Nat := 512

/-- A number of two bytes. -/
def jpegWord (high low : UInt8) : Nat := (high.toNat <<< 8) ||| low.toNat

/-- Where a walk stands. -/
structure JpegState where
  /-- The offset of the next marker. -/
  position : Nat
  /-- The components of the frame: none before it. -/
  ids : List UInt8
  /-- The markers so far. -/
  markers : Nat
  /-- The scan is behind. -/
  scan : Bool
  deriving DecidableEq

/-- A turn over the bytes that fill up to a marker. -/
def fillTurn (bytes : List UInt8) (index : Nat) : Option (Turn Nat Nat) := do
  if bytes.length ≤ index then some (.leave index)
  else if (← bytes[index]?) = 0xff then some (.next (index + 1))
  else some (.leave index)

/-- A sampling factor is between one and four in both directions. -/
def validSampling (sampling : UInt8) : Bool :=
  !(sampling >>> 4 = 0 || sampling >>> 4 > 4 || sampling &&& 15 = 0 || sampling &&& 15 > 4)

/-- The components of a frame from one on, with those before it. -/
def frameComponents (payload : List UInt8) : Nat → Nat → List UInt8 → Option (Option (List UInt8))
  | 0, _, ids => some (some ids)
  | count + 1, index, ids => do
    let id ← payload[6 + 3 * index]?
    let sampling ← payload[7 + 3 * index]?
    if !validSampling sampling then some none
    else if (← payload[8 + 3 * index]?) > 3 then some none
    else if id ∈ ids then some none
    else frameComponents payload count (index + 1) (ids ++ [id])

/-- The components of a frame of a size, or nothing where it is refused. -/
def frameIds (payload : List UInt8) (width height : Nat) : Option (Option (List UInt8)) := do
  if payload.length < 6 then some none
  else if (← payload[0]?) ≠ 8 then some none
  else if jpegWord (← payload[1]?) (← payload[2]?) ≠ height then some none
  else if jpegWord (← payload[3]?) (← payload[4]?) ≠ width then some none
  else
    let components := (← payload[5]?).toNat
    if (components ≠ 1 ∧ components ≠ 3) ∨ payload.length ≠ 6 + 3 * components then some none
    else frameComponents payload components 0 []

/-- The place of a component of the frame: the number of components where it has none. -/
def componentIndex (ids : List UInt8) (id : UInt8) : Nat :=
  ids.zipIdx.foldl (fun found entry => if entry.1 = id then entry.2 else found) ids.length

/-- The components of a scan from one on are those of the frame, each once. -/
def scanComponents (payload ids : List UInt8) : Nat → Nat → Nat → Option Bool
  | 0, _, _ => some true
  | count + 1, index, seen => do
    let tables ← payload[2 + 2 * index]?
    let found := componentIndex ids (← payload[1 + 2 * index]?)
    if found = ids.length ∨ seen &&& (1 <<< found) ≠ 0 ∨ tables >>> 4 > 3 ∨ tables &&& 15 > 3 then
      some false
    else scanComponents payload ids count (index + 1) (seen ||| (1 <<< found))

/-- The header of a scan is that of a baseline scan over all components of the frame. -/
def scanHeader (payload ids : List UInt8) : Option Bool := do
  if ids.length = 0 ∨ payload.length ≠ 4 + 2 * ids.length then some false
  else if (← payload[0]?).toNat ≠ ids.length then some false
  else if (← payload[payload.length - 3]?) ≠ 0 then some false
  else if (← payload[payload.length - 2]?) ≠ 63 then some false
  else if (← payload[payload.length - 1]?) ≠ 0 then some false
  else scanComponents payload ids ids.length 0 0

/-- A byte that may follow 0xff in entropy-coded data: a stuffed zero or a restart marker. -/
def stuffing (byte : UInt8) : Bool := byte = 0 || (byte ≥ 0xd0 && byte ≤ 0xd7)

/-- A turn over entropy-coded data: it ends at a marker or at the end of the bytes. -/
def entropyTurn (bytes : List UInt8) (index : Nat) : Option (Turn Nat (Option Nat)) := do
  if bytes.length ≤ index then some (.leave (some index))
  else if (← bytes[index]?) ≠ 0xff then some (.next (index + 1))
  else if (← difference bytes.length index) < 2 then some (.leave none)
  else if stuffing (← bytes[index + 1]?) then some (.next (index + 2))
  else some (.leave (some index))

/-- A marker of a segment that is passed over: tables, restart interval, comment or application. -/
def passedMarker (marker : UInt8) : Bool :=
  !(marker ≠ 0xc4 && marker ≠ 0xdb && marker ≠ 0xdd && marker ≠ 0xfe &&
    !(marker ≥ 0xe0 && marker ≤ 0xef))

/-- A segment with a marker and a payload, that ends at an offset. -/
def jpegSegment (bytes : List UInt8) (width height : Nat) (state : JpegState) (marker : UInt8)
    (payload : List UInt8) (stop : Nat) : Option (Turn JpegState Bool) := do
  let markers := state.markers + 1
  if marker = 0xc0 then
    if state.ids.length ≠ 0 then some (.leave false)
    else
      match ← frameIds payload width height with
      | none => some (.leave false)
      | some ids => some (.next ⟨stop, ids, markers, false⟩)
  else if marker = 0xda then
    if !(← scanHeader payload state.ids) then some (.leave false)
    else
      match ← loop (entropyTurn bytes) (bytes.length + 1) stop with
      | none => some (.leave false)
      | some ends =>
        if ends = stop then some (.leave false)
        else some (.next ⟨ends, state.ids, markers, true⟩)
  else if passedMarker marker then some (.next ⟨stop, state.ids, markers, state.scan⟩)
  else some (.leave false)

/-- A turn of the walk: a marker and what belongs to it. -/
def jpegTurn (bytes : List UInt8) (width height : Nat) (state : JpegState) :
    Option (Turn JpegState Bool) := do
  if bytes.length ≤ state.position then some (.leave false)
  else if jpegMaxMarkers < state.markers + 1 then some (.leave false)
  else if (← bytes[state.position]?) ≠ 0xff then some (.leave false)
  else
    let at' ← loop (fillTurn bytes) (bytes.length + 1) (state.position + 1)
    if at' = bytes.length then some (.leave false)
    else
      let marker ← bytes[at']?
      if marker = 0xd9 then some (.leave (state.scan && at' + 1 = bytes.length))
      else if state.scan ∨ marker = 0 ∨ marker = 1 ∨ (marker ≥ 0xd0 ∧ marker ≤ 0xd8) then
        some (.leave false)
      else
        let left ← difference bytes.length (at' + 1)
        if left < 2 then some (.leave false)
        else
          let length := jpegWord (← bytes[at' + 1]?) (← bytes[at' + 2]?)
          if length < 2 ∨ left < length then some (.leave false)
          else
            let payload ← span bytes (at' + 3) (length - 2)
            jpegSegment bytes width height state marker payload (at' + 1 + length)

/-- `PLANKCameraParseJPEG`. -/
def cameraParseJpeg (bytes : List UInt8) (width height : Nat) : Option Bool := do
  if bytes.length < 4 then some false
  else if (← bytes[0]?) ≠ 0xff then some false
  else if (← bytes[1]?) ≠ 0xd8 then some false
  else loop (jpegTurn bytes width height) (bytes.length + 1) ⟨2, [], 0, false⟩

end Plank.Media
