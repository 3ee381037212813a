import Mathlib.Data.List.Range
import Plank.Transport.Result

/-!
# Recovery pictures

`video-recovery.h` and the gate of `native-video.m`: a key picture that is requested, one that is
being encoded, and which encoded frames are handed to the transport meanwhile. What the lease, the
validity block, the conversion and the transport answer is read from the environment. An observer
writes down what became of each frame, newest first.
-/

namespace Plank.Capture

open Plank.Transport (Status)

/-- `PLANKMacVideoRecovery`. -/
structure Recovery where
  /-- Whether a key picture is needed. -/
  requested : Bool
  /-- Whether a forced key picture is at the encoder. -/
  encoding : Bool
  deriving DecidableEq, Repr

/-- `PLANKMacVideoRecoveryBegin`. -/
def Recovery.begin (state : Recovery) : Recovery × Bool :=
  if !state.requested || state.encoding then (state, false)
  else ({ state with encoding := true }, true)

/-- `PLANKMacVideoRecoverySent`. -/
def Recovery.sent (state : Recovery) (key accepted evicted : Bool) : Recovery :=
  if key && accepted then { state with requested := false }
  else if !accepted || evicted then { state with requested := true }
  else state

/-- What became of a frame, or a request; written down by an observer. -/
inductive VideoEvent where
  /-- `requestKeyFrame`. -/
  | requested
  /-- The encoder dropped a frame or failed on it. -/
  | encoderDropped
  /-- A converted frame was skipped by the gate. -/
  | skipped (number pts : Nat)
  /-- A converted frame was offered to the transport. -/
  | offered (number pts : Nat) (key : Bool) (result : Status)
  /-- A converted frame got a number and was not offered. -/
  | withheld (number pts : Nat)
  /-- A frame was refused before it got a number. -/
  | refused
  deriving DecidableEq, Repr

/-- `PLANKMacNativeVideo`. The last field is an observer's. -/
structure Video where
  /-- `_recovery`. -/
  recovery : Recovery := ⟨true, false⟩
  /-- `_hasTimestamp`. -/
  hasTimestamp : Bool := false
  /-- `_lastPTS`. -/
  lastPTS : Nat := 0
  /-- `_frameNumber`. -/
  frameNumber : Nat := 0
  /-- What became of each frame, newest first. -/
  history : List VideoEvent := []
  deriving DecidableEq, Repr

/-- What one `sendSample` reads from its environment. -/
structure SendReading where
  /-- `authorizeStreamLease`. -/
  authorized : Bool
  /-- `_validity` before the conversion. -/
  valid : Bool
  /-- Whether the endpoint is ready. -/
  ready : Bool
  /-- The conversion: whether the frame is a key picture, and its time. -/
  payload : Option (Bool × Nat)
  /-- Whether `performWithStreamLease` ran the action. -/
  performed : Bool
  /-- `_validity` in the action. -/
  stillValid : Bool
  /-- `plank_transport_native_video_send`. -/
  result : Status
  deriving DecidableEq, Repr

namespace Video

/-- Write an event down. -/
def note (video : Video) (event : VideoEvent) : Video :=
  { video with history := event :: video.history }

/-- `requestKeyFrame`. -/
def requestKeyFrame (video : Video) : Video :=
  { video.note .requested with recovery := { video.recovery with requested := true } }

/-- `beginKeyFrameRequest`. -/
def beginKeyFrameRequest (video : Video) : Video × Bool :=
  ({ video with recovery := video.recovery.begin.1 }, video.recovery.begin.2)

/-- `completeKeyFrameRequest`. -/
def completeKeyFrameRequest (video : Video) : Video :=
  { video with recovery := { video.recovery with encoding := false } }

/-- A converted frame gets the next number. -/
def numbered (video : Video) (pts : Nat) (event : VideoEvent) : Video :=
  { video.note event with
    lastPTS := pts, hasTimestamp := true, frameNumber := video.frameNumber + 1 }

/-- `sendSample`. -/
def sendSample (video : Video) (reading : SendReading) : Video × Status :=
  if !reading.authorized || !reading.valid || !reading.ready then
    (video.note .refused, .invalidState)
  else
    match reading.payload with
    | none => (video.note .refused, .invalidArgument)
    | some (key, pts) =>
      if (video.hasTimestamp && pts ≤ video.lastPTS) || video.frameNumber = 0xffffffffffffffff then
        (video.note .refused, .invalidArgument)
      else
        let number := video.frameNumber + 1
        if video.recovery.requested && !key then
          -- skipped frames are counted: the receiver must see the discontinuity
          (video.numbered pts (.skipped number pts), .dropped)
        else if !reading.performed then (video.note .refused, .invalidState)
        else
          let result := if reading.stillValid then reading.result else .invalidState
          let event := if reading.stillValid then .offered number pts key result
            else .withheld number pts
          ({ video.numbered pts event with
            recovery := video.recovery.sent key result.taken (result = .dropped) }, result)

end Video

/-- A delta frame the transport took without evicting an older one. -/
def VideoEvent.contiguous : VideoEvent → Bool
  | .offered _ _ key result => !key && result = .ok
  | _ => false

/-- A key frame the transport took. -/
def VideoEvent.acceptedKey : VideoEvent → Bool
  | .offered _ _ key result => key && result.taken
  | _ => false

/-- The number and time of a frame that was skipped or offered. -/
def VideoEvent.frame : VideoEvent → Option (Nat × Nat)
  | .skipped number pts => some (number, pts)
  | .offered number pts _ _ => some (number, pts)
  | _ => none

/-- The latest key frame taken, with nothing but contiguous deltas since. -/
def Recovered (history : List VideoEvent) : Prop :=
  ∃ since key before, history = since ++ key :: before ∧ key.acceptedKey = true ∧
    ∀ event ∈ since, event.contiguous = true

/-- A key frame taken recovers. -/
theorem Recovered.key {history : List VideoEvent} {event : VideoEvent}
    (accepted : event.acceptedKey = true) : Recovered (event :: history) :=
  ⟨[], event, history, rfl, accepted, by simp⟩

/-- A contiguous delta keeps what was recovered. -/
theorem Recovered.delta {history : List VideoEvent} (recovered : Recovered history)
    {event : VideoEvent} (contiguous : event.contiguous = true) :
    Recovered (event :: history) := by
  obtain ⟨since, key, before, rfl, accepted, clean⟩ := recovered
  refine ⟨event :: since, key, before, rfl, accepted, ?_⟩
  intro other member
  rcases List.mem_cons.mp member with rfl | earlier
  · exact contiguous
  · exact clean other earlier

/-- Every delta frame taken was sent after a key frame, with only contiguous deltas between. -/
def Dependent (history : List VideoEvent) : Prop :=
  ∀ later number pts result earlier,
    history = later ++ .offered number pts false result :: earlier → result.taken = true →
      Recovered earlier

/-- An event that is not a delta taken needs nothing. -/
theorem Dependent.cons {history : List VideoEvent} (dependent : Dependent history)
    {event : VideoEvent}
    (recovered : ∀ number pts result, event = .offered number pts false result →
      result.taken = true → Recovered history) : Dependent (event :: history) := by
  intro later number pts result earlier split taken
  cases later with
  | nil =>
    obtain ⟨rfl, rfl⟩ := List.cons.inj split
    exact recovered number pts result rfl taken
  | cons head rest =>
    obtain ⟨rfl, rfl⟩ := List.cons.inj split
    exact dependent rest number pts result earlier rfl taken

/-- The numbers of the frames skipped or offered are consecutive, and their times increase. -/
structure Numbered (history : List VideoEvent) : Prop where
  /-- They are numbered from one on, without a gap. -/
  consecutive : ((history.filterMap VideoEvent.frame).map Prod.fst).reverse =
    List.range' 1 (history.filterMap VideoEvent.frame).length
  /-- Each is later than the one before. -/
  increasing : (history.filterMap VideoEvent.frame).Pairwise fun later earlier =>
    earlier.2 < later.2

/-- An event that is no frame changes no number. -/
theorem Numbered.skip {history : List VideoEvent} (numbered : Numbered history)
    {event : VideoEvent} (other : event.frame = none) : Numbered (event :: history) := by
  constructor
  · simpa [other] using numbered.consecutive
  · simpa [other] using numbered.increasing

/-- The next frame gets the next number and a later time. -/
theorem Numbered.frame {history : List VideoEvent} (numbered : Numbered history)
    {event : VideoEvent} {pts : Nat}
    (next : event.frame = some ((history.filterMap VideoEvent.frame).length + 1, pts))
    (later : ∀ frame ∈ history.filterMap VideoEvent.frame, frame.2 < pts) :
    Numbered (event :: history) := by
  constructor
  · rw [List.filterMap_cons_some next]
    simp only [List.map_cons, List.reverse_cons, numbered.consecutive, List.length_cons]
    rw [List.range'_concat]
    simp [Nat.add_comm]
  · rw [List.filterMap_cons_some next]
    exact List.pairwise_cons.mpr ⟨later, numbered.increasing⟩

/-- What holds of the gate until a send fails. -/
structure Gated (video : Video) : Prop where
  /-- Unless a key picture is needed, one was taken and only contiguous deltas since. -/
  recovered : video.recovery.requested = false → Recovered video.history
  /-- The number counts the frames skipped and offered. -/
  counted : (video.history.filterMap VideoEvent.frame).length = video.frameNumber
  /-- No frame is later than the last. -/
  last : ∀ frame ∈ video.history.filterMap VideoEvent.frame,
    video.hasTimestamp = true ∧ frame.2 ≤ video.lastPTS

/-- What holds of the history for ever. -/
structure Lawful (history : List VideoEvent) : Prop where
  /-- Every delta taken was sent after a key frame, with only contiguous deltas between. -/
  dependent : Dependent history
  /-- Frames are numbered without gaps and their times increase. -/
  numbered : Numbered history

/-- A new gate. -/
theorem Gated.start : Gated {} where
  recovered := by simp
  counted := rfl
  last := by simp

/-- Nothing was sent. -/
theorem Lawful.start : Lawful [] where
  dependent := by
    intro later number pts result earlier split
    exact absurd split (by simp)
  numbered := ⟨rfl, .nil⟩

/-- A request closes the gate. -/
theorem Gated.requestKeyFrame {video : Video} (gated : Gated video) :
    Gated video.requestKeyFrame where
  recovered := by simp [Video.requestKeyFrame]
  counted := gated.counted
  last := gated.last

/-- Writing down a request or a drop keeps the laws. -/
theorem Lawful.note {history : List VideoEvent} (lawful : Lawful history) {event : VideoEvent}
    (other : event.frame = none) : Lawful (event :: history) where
  dependent := lawful.dependent.cons (by
    rintro number pts result rfl _
    exact absurd other (by simp [VideoEvent.frame]))
  numbered := lawful.numbered.skip other

/-- A frame with the next number and a later time keeps the numbers. -/
theorem Gated.next {video : Video} (gated : Gated video) (numbers : Numbered video.history)
    {event : VideoEvent} {pts : Nat}
    (frame : event.frame = some (video.frameNumber + 1, pts))
    (later : video.hasTimestamp = true → video.lastPTS < pts) :
    Numbered (event :: video.history) := by
  have counted : event.frame =
      some ((video.history.filterMap VideoEvent.frame).length + 1, pts) := by
    rw [gated.counted]
    exact frame
  refine numbers.frame counted ?_
  intro other member
  obtain ⟨stamped, before⟩ := gated.last other member
  exact Nat.lt_of_le_of_lt before (later stamped)

/-- A frame with the next number keeps the counter and the last time. -/
theorem Gated.numbered {video : Video} (gated : Gated video) {event : VideoEvent} {pts : Nat}
    (frame : event.frame = some (video.frameNumber + 1, pts))
    (later : video.hasTimestamp = true → video.lastPTS < pts) :
    ((event :: video.history).filterMap VideoEvent.frame).length = video.frameNumber + 1 ∧
      ∀ other ∈ (event :: video.history).filterMap VideoEvent.frame, other.2 ≤ pts := by
  rw [List.filterMap_cons_some frame]
  refine ⟨by rw [List.length_cons, gated.counted], ?_⟩
  intro other member
  rcases List.mem_cons.mp member with rfl | earlier
  · exact Nat.le_refl _
  · obtain ⟨stamped, before⟩ := gated.last other earlier
    exact Nat.le_trans before (Nat.le_of_lt (later stamped))

/-- A send keeps the laws, and keeps the gate unless it fails. -/
theorem Gated.sendSample {video : Video} (gated : Gated video) (lawful : Lawful video.history)
    (reading : SendReading) :
    Lawful (video.sendSample reading).1.history ∧
      ((video.sendSample reading).2.taken = true → Gated (video.sendSample reading).1) := by
  have refused : Lawful (VideoEvent.refused :: video.history) := lawful.note rfl
  unfold Video.sendSample
  split
  · exact ⟨refused, by simp [Status.taken]⟩
  · split
    · exact ⟨refused, by simp [Status.taken]⟩
    · next key pts converted =>
      split
      · exact ⟨refused, by simp [Status.taken]⟩
      · next fresh =>
        have later : video.hasTimestamp = true → video.lastPTS < pts := by
          intro stamped
          simp only [stamped, Bool.true_and, Bool.or_eq_true, decide_eq_true_eq, not_or] at fresh
          omega
        dsimp only
        split
        · next gate =>
          have requested : video.recovery.requested = true := by
            simp only [Bool.and_eq_true] at gate
            exact gate.1
          have skipped : (VideoEvent.skipped (video.frameNumber + 1) pts).frame =
              some (video.frameNumber + 1, pts) := rfl
          obtain ⟨counted, last⟩ := gated.numbered skipped later
          refine ⟨⟨lawful.dependent.cons (by simp), gated.next lawful.numbered skipped later⟩, ?_⟩
          intro _
          exact ⟨by simp [Video.numbered, Video.note, requested], counted,
            fun frame member => ⟨rfl, last frame member⟩⟩
        · next gate =>
          split
          · exact ⟨refused, by simp [Status.taken]⟩
          · cases valid : reading.stillValid with
            | false =>
              simp only [Bool.false_eq_true, if_false]
              exact ⟨lawful.note rfl, by simp [Status.taken]⟩
            | true =>
              simp only [if_true]
              have offered : (VideoEvent.offered (video.frameNumber + 1) pts key
                  reading.result).frame = some (video.frameNumber + 1, pts) := rfl
              obtain ⟨counted, last⟩ := gated.numbered offered later
              refine ⟨⟨lawful.dependent.cons ?_, gated.next lawful.numbered offered later⟩, ?_⟩
              · intro number time result same taken
                obtain ⟨_, _, rfl, _⟩ := VideoEvent.offered.inj same
                exact gated.recovered (by simpa using gate)
              · intro taken
                refine ⟨?_, counted, fun frame member => ⟨rfl, last frame member⟩⟩
                intro open_
                cases key with
                | true => exact .key (by simp [VideoEvent.acceptedKey, taken])
                | false =>
                  have requested : video.recovery.requested = false := by simpa using gate
                  refine (gated.recovered requested).delta ?_
                  -- an eviction would have closed the gate
                  by_contra evicted
                  have dropped : reading.result ≠ .ok := by
                    simpa [VideoEvent.contiguous] using evicted
                  have result : reading.result = .dropped := by
                    simp only [Status.taken, Bool.or_eq_true, decide_eq_true_eq] at taken
                    exact taken.resolve_left dropped
                  simp [Recovery.sent, result, Status.taken] at open_

end Plank.Capture
