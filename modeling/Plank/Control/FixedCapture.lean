import Plank.Control.MediaFeatures
import Plank.Transition.System

/-!
# The topology that is captured

`fixed-capture.m` describes the display that is captured. `displayChanged` counts a revision up for
every callback of the display system, on any thread; `snapshot` reads the display twice under its
lock, and gives what it read a generation that lasts while neither it nor the revision changes. What
the display system answers is arbitrary, call by call, and a callback may fall between any two
accesses. An observer counts the callbacks and the changes of what is selected, and keeps what
every `snapshot` returned.
-/

namespace Plank.Control

/-! ### The description -/

/-- A row of `plank_encoding_profiles` whose encoder is `PLANK_ENCODER_APPLE`. -/
structure EncodingProfile where
  /-- `mode`. -/
  mode : String
  /-- `backend`. -/
  backend : String := "videotoolbox"
  /-- `codec`. -/
  codec : String := "hevc"
  /-- `profile`. -/
  profile : String
  /-- `bit_depth`. -/
  bitDepth : Nat := 10
  /-- `chroma`. -/
  chroma : String
  /-- `matrix`. -/
  matrix : String := "bt709"
  /-- `rgb_identity`. -/
  rgbIdentity : Bool := false
  deriving DecidableEq, Repr

/-- The rows of `plank_encoding_profiles` whose encoder is `PLANK_ENCODER_APPLE`. -/
def appleProfiles : List EncodingProfile :=
  [{ mode := "hevc-10-420-videotoolbox", profile := "main10", chroma := "4:2:0" },
    { mode := "hevc-10-444-videotoolbox", profile := "rext", chroma := "4:4:4" }]

/-- The modes of these rows are those that a client can ask for. -/
example : appleProfiles.map (fun profile => profile.mode) = appleModes := by decide

/-- `PLANKMacEncodingProfile`. -/
def macEncodingProfile (mode : Option String) : Option EncodingProfile :=
  mode.bind fun mode => appleProfiles.find? fun profile => profile.mode == mode

/-- What the code asks of a `CGFloat`. -/
structure Doubles (Number : Type) where
  /-- `==`. -/
  equal : Number → Number → Bool
  /-- `isfinite`. -/
  finite : Number → Bool
  /-- `fabs(number) > 65536`. -/
  far : Number → Bool
  /-- `number <= 0`. -/
  nonpositive : Number → Bool
  /-- `number > 65536`. -/
  large : Number → Bool

/-- `CGRect`. -/
structure Bounds (Number : Type) where
  /-- `origin.x`. -/
  x : Number
  /-- `origin.y`. -/
  y : Number
  /-- `size.width`. -/
  width : Number
  /-- `size.height`. -/
  height : Number
  deriving DecidableEq, Repr

/-- `CGRectEqualToRect`. -/
def Bounds.equal {Number : Type} (doubles : Doubles Number) (left right : Bounds Number) : Bool :=
  doubles.equal left.x right.x && doubles.equal left.y right.y &&
    doubles.equal left.width right.width && doubles.equal left.height right.height

/-- The dictionary of `PLANKMacFixedCaptureDescription`; a generation is the number of its UUID,
written in its canonical form. -/
structure CaptureDescription (Number : Type) where
  /-- `schema_version`. -/
  schemaVersion : Nat := 13
  /-- `feature_flags`. -/
  featureFlags : Nat := 7897201
  /-- `generation`. -/
  generation : BitVec 128
  /-- `id` of `capture`. -/
  id : String
  /-- `width`. -/
  width : Nat
  /-- `height`. -/
  height : Nat
  /-- `logical_bounds`. -/
  logicalBounds : Bounds Number
  /-- `encoding_profile`. -/
  encodingProfile : EncodingProfile
  deriving DecidableEq, Repr

/-- `PLANKMacFixedCaptureDescription`. -/
def fixedCaptureDescription {Number : Type} (doubles : Doubles Number)
    (generation : Option (BitVec 128)) (identifier : String) (width height : Nat)
    (bounds : Bounds Number) (encodingMode : Option String) :
    Option (CaptureDescription Number) :=
  match macEncodingProfile encodingMode, generation with
  | some profile, some generation =>
    if generation = 0 ∨ identifier.length = 0 ∨ identifier.length > 128 ∨ width < 2 ∨ height < 2 ∨
        width > 8192 ∨ height > 8192 ∨ width % 2 ≠ 0 ∨ height % 2 ≠ 0 ∨
        !doubles.finite bounds.x ∨ !doubles.finite bounds.y ∨ !doubles.finite bounds.width ∨
        !doubles.finite bounds.height ∨ doubles.far bounds.x ∨ doubles.far bounds.y ∨
        doubles.nonpositive bounds.width ∨ doubles.nonpositive bounds.height ∨
        doubles.large bounds.width ∨ doubles.large bounds.height then none
    else
      some {
        generation, id := identifier, width, height, logicalBounds := bounds
        encodingProfile := profile }
  | _, _ => none

/-! ### The object -/

/-- What the generation of a snapshot stands for. -/
structure Fingerprint (Number : Type) where
  /-- `display`. -/
  display : UInt32
  /-- `mode`: the number of its mode. -/
  mode : Int32
  /-- `revision`. -/
  revision : UInt64
  /-- `width`. -/
  width : Nat
  /-- `height`. -/
  height : Nat
  /-- `encoding_mode`. -/
  encodingMode : Option String
  /-- `bounds`. -/
  bounds : Bounds Number
  deriving DecidableEq, Repr

/-- `PLANKMacFixedCapture`. -/
structure FixedCapture (Number : Type) where
  /-- `_previous`. -/
  previous : Option (Fingerprint Number) := none
  /-- `_cached`. -/
  cached : Option (CaptureDescription Number) := none
  /-- `_cachedRevision`. -/
  cachedRevision : UInt64 := 0
  /-- `_cachedAt`. -/
  cachedAt : UInt64 := 0
  /-- `_selectedDisplay`. -/
  selectedDisplay : UInt32 := 0
  /-- `_encodingMode`. -/
  encodingMode : Option String := some "hevc-10-420-videotoolbox"
  /-- `_generation`. -/
  generation : Option (BitVec 128) := none
  /-- `_unavailableReason`. -/
  unavailableReason : Option String := none

/-- A mode of a display. -/
structure DisplayMode where
  /-- `CGDisplayModeGetPixelWidth`. -/
  width : Nat
  /-- `CGDisplayModeGetPixelHeight`. -/
  height : Nat
  /-- `CGDisplayModeGetIODisplayModeID`. -/
  id : Int32
  deriving DecidableEq, Repr

/-- What the display system answers to one reading of a display. -/
structure DisplayAnswers (Number : Type) where
  /-- `CGMainDisplayID`. -/
  main : UInt32
  /-- `CGDisplayIsActive`. -/
  active : Bool
  /-- `CGDisplayCopyDisplayMode`. -/
  mode : Option DisplayMode
  /-- `CGDisplayBounds`. -/
  bounds : Bounds Number

/-- `snapshotLifetimeNs`. -/
def snapshotLifetimeNs : UInt64 := 20000000

namespace FixedCapture

variable {Number : Type}

/-- `-unavailable:`. -/
def unavailable (capture : FixedCapture Number) (reason : String) : FixedCapture Number :=
  { capture with
    unavailableReason := some reason, previous := none, generation := none, cached := none }

/-- `-setSelectedDisplay:`. -/
def setSelectedDisplay (capture : FixedCapture Number) (display : UInt32) : FixedCapture Number :=
  if capture.selectedDisplay = display then capture
  else
    { capture with
      selectedDisplay := display, cached := none, previous := none, generation := none }

/-- `isEqual:`, which `nil` answers with no. -/
def isEqualMode (left right : Option String) : Bool := left.isSome && left == right

/-- `-setEncodingMode:`. -/
def setEncodingMode (capture : FixedCapture Number) (mode : Option String) : FixedCapture Number :=
  if isEqualMode capture.encodingMode mode then capture
  else { capture with encodingMode := mode, cached := none, previous := none, generation := none }

/-- The display that is read. -/
def display (capture : FixedCapture Number) (main : UInt32) : UInt32 :=
  if capture.selectedDisplay = 0 then main else capture.selectedDisplay

/-- Both readings of the display, up to the last load of the revision: what was read, or the reason
why there is nothing. -/
def readDisplay [DecidableEq Number] (doubles : Doubles Number) (capture : FixedCapture Number)
    (revision : UInt64) (first second : DisplayAnswers Number) :
    Except String (Fingerprint Number) :=
  let display := capture.display first.main
  if macEncodingProfile capture.encodingMode = none then .error "unsupported encoding mode"
  else if display = 0 ∨ !first.active then .error "selected display is inactive"
  else
    match first.mode, second.mode with
    | none, _ => .error "display mode unavailable"
    | some mode, some check =>
      if display = capture.display second.main ∧ second.active ∧ mode.id = check.id ∧
          mode.width = check.width ∧ mode.height = check.height ∧
          first.bounds.equal doubles second.bounds then
        .ok {
          display, mode := mode.id, revision, width := mode.width, height := mode.height
          encodingMode := capture.encodingMode, bounds := first.bounds }
      else .error "display changed during snapshot"
    | some _, none => .error "display changed during snapshot"

/-- A stable reading keeps its generation, or takes the new one. -/
def identified [DecidableEq Number] (capture : FixedCapture Number)
    (fingerprint : Fingerprint Number) (uuid : BitVec 128) : FixedCapture Number :=
  if capture.previous = some fingerprint then capture
  else { capture with generation := some uuid, previous := some fingerprint }

/-- What a fingerprint is described by. -/
def describe (doubles : Doubles Number) (generation : Option (BitVec 128))
    (fingerprint : Fingerprint Number) : Option (CaptureDescription Number) :=
  fixedCaptureDescription doubles generation s!"cgdisplay:{fingerprint.display}"
    fingerprint.width fingerprint.height fingerprint.bounds fingerprint.encodingMode

/-- The end of a stable reading. -/
def describing [DecidableEq Number] (doubles : Doubles Number) (capture : FixedCapture Number)
    (fingerprint : Fingerprint Number) (now : UInt64) (uuid : BitVec 128) :
    Option (CaptureDescription Number) × FixedCapture Number :=
  let identified := capture.identified fingerprint uuid
  match describe doubles identified.generation fingerprint with
  | none => (none, identified.unavailable "unsupported pixel or desktop bounds")
  | some description =>
    (some description, { identified with
      unavailableReason := none, cached := some description
      cachedRevision := fingerprint.revision, cachedAt := now })

end FixedCapture

/-! ### Runs -/

/-- `displayChanged` at its compare and exchange. -/
structure RevisionCallback where
  /-- `previous`. -/
  previous : UInt64
  /-- `kCGDisplayBeginConfigurationFlag`. -/
  begins : Bool
  deriving DecidableEq, Repr

/-- `next`. -/
def RevisionCallback.next (callback : RevisionCallback) : UInt64 :=
  ((callback.previous + 2) &&& ~~~1) ||| if callback.begins then 1 else 0

/-- Where a `snapshot` is, with the callbacks that had been counted at its first load. -/
inductive SnapshotStage (Number : Type) where
  /-- None is under way. -/
  | idle
  /-- At its first load of the revision. -/
  | entered
  /-- At the clock. -/
  | loaded (revision : UInt64) (opened : Nat)
  /-- At its last load of the revision, with a description that is cached. -/
  | rechecking (revision now : UInt64) (opened : Nat)
  /-- At the readings of the display. -/
  | reading (revision now : UInt64) (opened : Nat)
  /-- At its last load of the revision, with what it read. -/
  | settling (fingerprint : Fingerprint Number) (now : UInt64) (opened : Nat)

/-- When a description was read. -/
structure SnapshotReading where
  /-- The callbacks that had been counted at the first load. -/
  opened : Nat := 0
  /-- The callbacks that had been counted at the last load. -/
  settled : Nat := 0
  /-- The clock. -/
  now : UInt64 := 0
  deriving DecidableEq, Repr

/-- What a `snapshot` returned. -/
structure Snapshot (Number : Type) where
  /-- The description. -/
  description : CaptureDescription Number
  /-- What it was made from. -/
  fingerprint : Fingerprint Number
  /-- It was cached. -/
  cached : Bool
  /-- The revision it loaded. -/
  revision : UInt64
  /-- This call. -/
  call : SnapshotReading
  /-- The call that read the display. -/
  reading : SnapshotReading
  /-- The changes of what is selected that came before. -/
  changes : Nat
  deriving DecidableEq, Repr

/-- A generation that was made. -/
structure MadeGeneration (Number : Type) where
  /-- The UUID. -/
  uuid : BitVec 128
  /-- What it was made for. -/
  fingerprint : Fingerprint Number
  /-- The changes of what is selected that came before. -/
  changes : Nat

/-- The object, the revision, and what an observer keeps. -/
structure CaptureRun (Number : Type) where
  /-- `displayRevision`. -/
  revision : UInt64 := 0
  /-- The calls of `displayChanged`. -/
  callbacks : List RevisionCallback := []
  /-- The object. -/
  capture : FixedCapture Number := {}
  /-- The `snapshot` that holds its lock. -/
  stage : SnapshotStage Number := .idle
  /-- How often `displayChanged` was called. -/
  called : Nat := 0
  /-- The revision after each call that took effect, oldest first. -/
  revisions : List UInt64 := []
  /-- How often what is selected changed. -/
  changes : Nat := 0
  /-- The generations, oldest first. -/
  made : List (MadeGeneration Number) := []
  /-- When what is cached was read. -/
  reading : SnapshotReading := {}
  /-- What was returned, oldest first. -/
  returned : List (Snapshot Number) := []

/-- What happens next. -/
inductive CaptureLabel (Number : Type) where
  /-- A thread calls `displayChanged`, which loads the revision. -/
  | callback (begins : Bool)
  /-- Such a call tries to exchange it, and may fail for no reason. -/
  | exchange (index : Nat) (spurious : Bool)
  /-- `-setSelectedDisplay:`. -/
  | select (display : UInt32)
  /-- `-setEncodingMode:`. -/
  | encode (mode : Option String)
  /-- `-snapshot` takes the lock. -/
  | snapshot
  /-- Its first load of the revision. -/
  | load
  /-- Its reading of the clock. -/
  | clock (now : UInt64)
  /-- Its readings of the display. -/
  | read (first second : DisplayAnswers Number)
  /-- Its last load of the revision, and all that follows, with a UUID for a new generation. -/
  | settle (uuid : BitVec 128)

namespace CaptureRun

variable {Number : Type} [DecidableEq Number] (doubles : Doubles Number)

/-- A call of `displayChanged` tries to exchange the revision. -/
def exchange (run : CaptureRun Number) (index : Nat) (spurious : Bool)
    (callback : RevisionCallback) : CaptureRun Number :=
  if run.revision = callback.previous ∧ spurious = false then
    { run with
      revision := callback.next
      callbacks := run.callbacks.eraseIdx index
      revisions := run.revisions ++ [callback.next] }
  else
    { run with callbacks := run.callbacks.set index { callback with previous := run.revision } }

/-- `snapshot` returns nothing. -/
def refuse (run : CaptureRun Number) (reason : String) : CaptureRun Number :=
  { run with capture := run.capture.unavailable reason, stage := .idle }

/-- The cached description can be returned, but for the last load. -/
def fresh (capture : FixedCapture Number) (revision now : UInt64) : Bool :=
  capture.cached.isSome && revision == capture.cachedRevision && capture.cachedAt ≤ now &&
    now - capture.cachedAt < snapshotLifetimeNs

/-- The end of a `snapshot` whose description is cached. -/
def recheck (run : CaptureRun Number) (revision now : UInt64) (opened : Nat) :
    CaptureRun Number :=
  if revision ≠ run.revision then run.refuse "display changed during snapshot"
  else
    match run.capture.cached, run.capture.previous with
    | some description, some fingerprint =>
      { run with
        stage := .idle
        returned := run.returned ++
          [⟨description, fingerprint, true, revision, ⟨opened, run.revisions.length, now⟩,
            run.reading, run.changes⟩] }
    | _, _ => { run with stage := .idle }

/-- A UUID that was not made before. -/
def isNew (run : CaptureRun Number) (uuid : BitVec 128) : Bool :=
  uuid != 0 && run.made.all fun earlier => earlier.uuid != uuid

/-- The end of a `snapshot` that read the display. -/
def settle (run : CaptureRun Number) (fingerprint : Fingerprint Number) (now : UInt64)
    (opened : Nat) (uuid : BitVec 128) : Option (CaptureRun Number) :=
  if fingerprint.revision ≠ run.revision then
    some (run.refuse "display changed during snapshot")
  else if run.capture.previous ≠ some fingerprint ∧ !run.isNew uuid then none
  else
    let made := if run.capture.previous = some fingerprint then run.made
      else run.made ++ [⟨uuid, fingerprint, run.changes⟩]
    let reading : SnapshotReading := ⟨opened, run.revisions.length, now⟩
    match run.capture.describing doubles fingerprint now uuid with
    | (none, capture) => some { run with capture, made, stage := .idle }
    | (some description, capture) =>
      some { run with
        capture, made, reading, stage := .idle
        returned := run.returned ++
          [⟨description, fingerprint, false, fingerprint.revision, reading, reading,
            run.changes⟩] }

/-- One step. -/
def step (run : CaptureRun Number) : CaptureLabel Number → Option (CaptureRun Number)
  | .callback begins =>
    some { run with
      callbacks := run.callbacks ++ [⟨run.revision, begins⟩], called := run.called + 1 }
  | .exchange index spurious => run.callbacks[index]?.map (run.exchange index spurious)
  | .select display =>
    match run.stage with
    | .idle =>
      some { run with
        capture := run.capture.setSelectedDisplay display
        changes := if run.capture.selectedDisplay = display then run.changes else run.changes + 1 }
    | _ => none
  | .encode mode =>
    match run.stage with
    | .idle =>
      some { run with
        capture := run.capture.setEncodingMode mode
        changes := if FixedCapture.isEqualMode run.capture.encodingMode mode then run.changes
          else run.changes + 1 }
    | _ => none
  | .snapshot =>
    match run.stage with
    | .idle => some { run with stage := .entered }
    | _ => none
  | .load =>
    match run.stage with
    | .entered =>
      if run.revision &&& 1 ≠ 0 then some (run.refuse "display reconfiguration in progress")
      else some { run with stage := .loaded run.revision run.revisions.length }
    | _ => none
  | .clock now =>
    match run.stage with
    | .loaded revision opened =>
      if fresh run.capture revision now then
        some { run with stage := .rechecking revision now opened }
      else some { run with stage := .reading revision now opened }
    | _ => none
  | .read first second =>
    match run.stage with
    | .reading revision now opened =>
      match run.capture.readDisplay doubles revision first second with
      | .error reason => some (run.refuse reason)
      | .ok fingerprint => some { run with stage := .settling fingerprint now opened }
    | _ => none
  | .settle uuid =>
    match run.stage with
    | .rechecking revision now opened => some (run.recheck revision now opened)
    | .settling fingerprint now opened => run.settle doubles fingerprint now opened uuid
    | _ => none

/-- Every order of callbacks, changes and accesses of snapshots. -/
def system : Transition.System (CaptureRun Number) (CaptureLabel Number) where
  initial run := run = {}
  step := step doubles

end CaptureRun

end Plank.Control
