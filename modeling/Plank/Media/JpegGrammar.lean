import Plank.Media.CameraJpeg
import Plank.Transport.Bytes

/-!
# The grammar of camera images

What an image of a size is: the start of the image, segments that are passed over, one baseline
frame, the header of one scan over its components, entropy-coded data, and the end of the image. A
list of bytes has at most one marker with its segment at the front.
-/

namespace Plank.Media

open Transport Wire

/-- The bytes of a marker, with bytes that fill up to it. -/
def markerBytes (fill : Nat) (marker : UInt8) : List UInt8 :=
  0xff :: (List.replicate fill 0xff ++ [marker])

/-- The bytes of a segment. -/
def segmentBytes (fill : Nat) (marker : UInt8) (payload : List UInt8) : List UInt8 :=
  markerBytes fill marker ++ (writeBe 2 (payload.length + 2) ++ payload)

/-- A component of a frame. -/
structure JpegComponent where
  /-- Its name. -/
  id : UInt8
  /-- Its sampling factors. -/
  sampling : UInt8
  /-- Its quantization table. -/
  table : UInt8

/-- The bytes of a component. -/
def JpegComponent.bytes (component : JpegComponent) : List UInt8 :=
  [component.id, component.sampling, component.table]

/-- The payload of a baseline frame of a size with components. -/
structure JpegFrame (width height : Nat) (payload : List UInt8) (components : List JpegComponent) :
    Prop where
  /-- It has eight bits a sample, its size and its components. -/
  bytes : payload = 8 :: (writeBe 2 height ++ (writeBe 2 width ++
    UInt8.ofNat components.length :: components.flatMap JpegComponent.bytes))
  /-- The size has two bytes in both directions. -/
  size : width < 65536 ∧ height < 65536
  /-- It is grey, or has three components. -/
  count : components.length = 1 ∨ components.length = 3
  /-- Their sampling and their tables are in range. -/
  valid : ∀ component ∈ components,
    validSampling component.sampling = true ∧ component.table ≤ 3
  /-- They have different names. -/
  distinct : (components.map JpegComponent.id).Nodup

/-- A component of a scan. -/
structure JpegScanEntry where
  /-- Its name. -/
  id : UInt8
  /-- Its coding tables. -/
  tables : UInt8

/-- The bytes of a component of a scan. -/
def JpegScanEntry.bytes (entry : JpegScanEntry) : List UInt8 := [entry.id, entry.tables]

/-- The payload of the header of a baseline scan over the components of a frame. -/
structure JpegScan (ids payload : List UInt8) (entries : List JpegScanEntry) : Prop where
  /-- It has the components and the limits of a baseline scan. -/
  bytes : payload = UInt8.ofNat entries.length ::
    (entries.flatMap JpegScanEntry.bytes ++ [0, 63, 0])
  /-- There is an entry for each component. -/
  count : entries.length = ids.length
  /-- The entries are of components of the frame. -/
  known : ∀ entry ∈ entries, entry.id ∈ ids
  /-- They are of different ones. -/
  distinct : (entries.map JpegScanEntry.id).Nodup
  /-- Their tables are in range. -/
  tables : ∀ entry ∈ entries, entry.tables >>> 4 ≤ 3 ∧ entry.tables &&& 15 ≤ 3

/-- Entropy-coded data: any bytes, with 0xff only before a stuffed zero or as a restart marker. -/
inductive Entropy : List UInt8 → Prop
  /-- No data. -/
  | nil : Entropy []
  /-- Another byte than 0xff. -/
  | plain {byte : UInt8} {data : List UInt8} (other : byte ≠ 0xff) (more : Entropy data) :
      Entropy (byte :: data)
  /-- A stuffed zero or a restart marker. -/
  | stuffed {byte : UInt8} {data : List UInt8} (stuffs : stuffing byte = true)
      (more : Entropy data) : Entropy (0xff :: byte :: data)

/-- The end of an image after a number of markers. -/
def JpegEnd (markers : Nat) (bytes : List UInt8) : Prop :=
  markers < jpegMaxMarkers ∧ ∃ fill, bytes = markerBytes fill 0xd9

/-- What stands in an image of a size after a number of markers, with the components of the frame
where it is behind. -/
inductive JpegBody (width height : Nat) : List UInt8 → Nat → List UInt8 → Prop
  /-- A segment that is passed over, and more. -/
  | passed {ids : List UInt8} {markers fill : Nat} {marker : UInt8} {payload rest : List UInt8}
      (few : markers < jpegMaxMarkers) (passes : passedMarker marker = true)
      (fits : payload.length + 2 < 65536) (more : JpegBody width height ids (markers + 1) rest) :
      JpegBody width height ids markers (segmentBytes fill marker payload ++ rest)
  /-- The frame, and more. -/
  | frame {markers fill : Nat} {payload rest : List UInt8} {components : List JpegComponent}
      (few : markers < jpegMaxMarkers) (is_frame : JpegFrame width height payload components)
      (fits : payload.length + 2 < 65536)
      (more : JpegBody width height (components.map JpegComponent.id) (markers + 1) rest) :
      JpegBody width height [] markers (segmentBytes fill 0xc0 payload ++ rest)
  /-- The scan over the components of the frame, with its data, and the end. -/
  | scan {ids : List UInt8} {markers fill : Nat} {payload data ending : List UInt8}
      {entries : List JpegScanEntry} (few : markers < jpegMaxMarkers) (framed : ids ≠ [])
      (is_scan : JpegScan ids payload entries) (fits : payload.length + 2 < 65536)
      (coded : Entropy data) (nonempty : data ≠ []) (ends : JpegEnd (markers + 1) ending) :
      JpegBody width height ids markers (segmentBytes fill 0xda payload ++ (data ++ ending))

/-- An image of a size. -/
def JpegImage (width height : Nat) (bytes : List UInt8) : Prop :=
  ∃ body, bytes = 0xff :: 0xd8 :: body ∧ JpegBody width height [] 0 body

/-! ### The front of a list of bytes -/

/-- The bytes that fill up to another byte, that byte and those after it are determined. -/
theorem fill_unique {fill fill' : Nat} {marker marker' : UInt8} {rest rest' : List UInt8}
    (other : marker ≠ 0xff) (other' : marker' ≠ 0xff)
    (same : List.replicate fill 0xff ++ marker :: rest =
      List.replicate fill' 0xff ++ marker' :: rest') :
    marker = marker' ∧ rest = rest' := by
  induction fill generalizing fill' with
  | zero =>
    cases fill' with
    | zero => exact List.cons.inj same
    | succ fill' => exact absurd (List.cons.inj same).1 other
  | succ fill ih =>
    cases fill' with
    | zero => exact absurd (List.cons.inj same).1.symm other'
    | succ fill' => exact ih (List.cons.inj same).2

/-- The bytes of a marker and more. -/
theorem markerBytes_append (fill : Nat) (marker : UInt8) (rest : List UInt8) :
    markerBytes fill marker ++ rest = 0xff :: (List.replicate fill 0xff ++ marker :: rest) := by
  unfold markerBytes
  rw [List.cons_append, List.append_assoc, List.singleton_append]

/-- The bytes of a segment and more. -/
theorem segmentBytes_append (fill : Nat) (marker : UInt8) (payload rest : List UInt8) :
    segmentBytes fill marker payload ++ rest = 0xff :: (List.replicate fill 0xff ++
      marker :: (writeBe 2 (payload.length + 2) ++ (payload ++ rest))) := by
  unfold segmentBytes
  rw [List.append_assoc, List.append_assoc, markerBytes_append]

/-- A segment at the front and the bytes after it are determined. -/
theorem segment_unique {fill fill' : Nat} {marker marker' : UInt8}
    {payload payload' rest rest' : List UInt8} (other : marker ≠ 0xff) (other' : marker' ≠ 0xff)
    (fits : payload.length + 2 < 65536) (fits' : payload'.length + 2 < 65536)
    (same : segmentBytes fill marker payload ++ rest =
      segmentBytes fill' marker' payload' ++ rest') :
    marker = marker' ∧ payload = payload' ∧ rest = rest' := by
  rw [segmentBytes_append, segmentBytes_append] at same
  obtain ⟨markers, bodies⟩ := fill_unique other other' (List.cons.inj same).2
  obtain ⟨sizes, payloads⟩ := List.append_inj bodies (by rw [length_writeBe, length_writeBe])
  have lengths : payload.length + 2 = payload'.length + 2 := by
    rw [← @readBe_writeBe 2 (payload.length + 2) fits, sizes, readBe_writeBe fits']
  obtain ⟨payload_eq, rest_eq⟩ := List.append_inj payloads (by omega)
  exact ⟨markers, payload_eq, rest_eq⟩

/-- A marker of a segment in an image is not a byte that fills up. -/
theorem passed_other {marker : UInt8} (passes : passedMarker marker = true) :
    marker ≠ 0xff ∧ marker ≠ 0xc0 ∧ marker ≠ 0xda ∧ marker ≠ 0xd9 := by
  refine ⟨?_, ?_, ?_, ?_⟩ <;>
    · rintro rfl
      revert passes
      decide

/-- What stands in an image starts with a marker. -/
theorem JpegBody.front {width height markers : Nat} {ids bytes : List UInt8}
    (body : JpegBody width height ids markers bytes) :
    markers < jpegMaxMarkers ∧ ∃ fill marker payload rest,
      bytes = segmentBytes fill marker payload ++ rest ∧ payload.length + 2 < 65536 ∧
        (passedMarker marker = true ∨ marker = 0xc0 ∨ marker = 0xda) := by
  cases body with
  | passed few passes fits more => exact ⟨few, _, _, _, _, rfl, fits, .inl passes⟩
  | frame few is_frame fits more => exact ⟨few, _, _, _, _, rfl, fits, .inr (.inl rfl)⟩
  | scan few framed is_scan fits coded nonempty ends =>
    exact ⟨few, _, _, _, _, rfl, fits, .inr (.inr rfl)⟩

/-- What stands in an image behind a segment at its front. -/
theorem jpegBody_segment {width height markers fill : Nat} {ids payload rest : List UInt8}
    {marker : UInt8} (other : marker ≠ 0xff) (fits : payload.length + 2 < 65536) :
    JpegBody width height ids markers (segmentBytes fill marker payload ++ rest) ↔
      markers < jpegMaxMarkers ∧
        ((passedMarker marker = true ∧ JpegBody width height ids (markers + 1) rest) ∨
          (marker = 0xc0 ∧ ids = [] ∧ ∃ components, JpegFrame width height payload components ∧
            JpegBody width height (components.map JpegComponent.id) (markers + 1) rest) ∨
          (marker = 0xda ∧ ids ≠ [] ∧ (∃ entries, JpegScan ids payload entries) ∧
            ∃ data ending, rest = data ++ ending ∧ Entropy data ∧ data ≠ [] ∧
              JpegEnd (markers + 1) ending)) := by
  constructor
  · intro body
    generalize whole : segmentBytes fill marker payload ++ rest = bytes at body
    cases body with
    | passed few passes fits' more =>
      obtain ⟨rfl, rfl, rfl⟩ := segment_unique other (passed_other passes).1 fits fits' whole
      exact ⟨few, .inl ⟨passes, more⟩⟩
    | frame few is_frame fits' more =>
      obtain ⟨rfl, rfl, rfl⟩ := segment_unique other (by decide) fits fits' whole
      exact ⟨few, .inr (.inl ⟨rfl, rfl, _, is_frame, more⟩)⟩
    | scan few framed is_scan fits' coded nonempty ends =>
      obtain ⟨rfl, rfl, rfl⟩ := segment_unique other (by decide) fits fits' whole
      exact ⟨few, .inr (.inr ⟨rfl, framed, ⟨_, is_scan⟩, _, _, rfl, coded, nonempty, ends⟩)⟩
  · rintro ⟨few, ⟨passes, more⟩ | ⟨rfl, rfl, components, is_frame, more⟩ |
      ⟨rfl, framed, ⟨entries, is_scan⟩, data, ending, rfl, coded, nonempty, ends⟩⟩
    · exact .passed few passes fits more
    · exact .frame few is_frame fits more
    · exact .scan few framed is_scan fits coded nonempty ends

end Plank.Media
