import Plank.Preview.Bitrate

/-!
# The bitrate is agreed

Three parties hold a bitrate: the client by the last acknowledgement, the transport by its policy
and the encoder by its target. While the session streams the last two follow `_bitrate`, and the
last request is pending, being changed to, or acknowledged.
-/

namespace Plank.Preview

open Plank.Capture (Pipeline Encoder Encode Encoded)

/-- The bitrate of a request. -/
def RateEvent.request : RateEvent → Option Nat
  | .requested _ bitrate => some bitrate
  | _ => none

/-- The bitrate of an acknowledgement. -/
def RateEvent.answer : RateEvent → Option Nat
  | .acknowledged bitrate _ _ => some bitrate
  | _ => none

/-- What the transport was given. -/
def RateEvent.given : RateEvent → Option (Nat × Nat)
  | .policy bitrate peak => some (bitrate, peak)
  | _ => none

/-- The last event of a kind. -/
def latest {Value : Type} (kind : RateEvent → Option Value) (log : List RateEvent) :
    Option Value := (log.filterMap kind).head?

/-- An event of another kind. -/
theorem latest_other {Value : Type} (kind : RateEvent → Option Value) {event : RateEvent}
    (other : kind event = none) (log : List RateEvent) :
    latest kind (event :: log) = latest kind log := by
  rw [latest, List.filterMap_cons_none other, latest]

/-- An event of the kind. -/
theorem latest_same {Value : Type} (kind : RateEvent → Option Value) {event : RateEvent}
    {value : Value} (same : kind event = some value) (log : List RateEvent) :
    latest kind (event :: log) = some value := by
  rw [latest, List.filterMap_cons_some same, List.head?_cons]

/-- When the first of the requests that are not taken up was received. -/
def burst : List RateEvent → Option Nat
  | [] => none
  | .taken _ _ :: _ => none
  | .requested now _ :: log => some ((burst log).getD now)
  | _ :: log => burst log

/-- An acknowledgement carries the encoder in use and what the transport was last given. -/
def Answers (log : List RateEvent) : Prop :=
  ∀ later bitrate peak encoder earlier,
    log = later ++ .acknowledged bitrate peak encoder :: earlier →
    peak = bitrate * 2 ∧ (∃ id, encoder = some ⟨id, bitrate⟩) ∧
      latest RateEvent.given earlier = some (bitrate, peak)

/-- Any other event. -/
theorem Answers.other {log : List RateEvent} (answers : Answers log) {event : RateEvent}
    (other : event.answer = none) : Answers (event :: log) := by
  intro later bitrate peak encoder earlier split
  cases later with
  | nil =>
    obtain ⟨rfl, _⟩ := List.cons.inj split
    exact absurd other (by simp [RateEvent.answer])
  | cons head rest => exact answers rest bitrate peak encoder earlier (List.cons.inj split).2

/-- An acknowledgement of what is in use. -/
theorem Answers.acknowledged {log : List RateEvent} (answers : Answers log) {bitrate : Nat}
    {encoder : Option Encoder} (using_ : ∃ id, encoder = some ⟨id, bitrate⟩)
    (given : latest RateEvent.given log = some (bitrate, bitrate * 2)) :
    Answers (.acknowledged bitrate (bitrate * 2) encoder :: log) := by
  intro later other peak before earlier split
  cases later with
  | nil =>
    obtain ⟨same, rfl⟩ := List.cons.inj split
    obtain ⟨rfl, rfl, rfl⟩ := RateEvent.acknowledged.inj same
    exact ⟨rfl, using_, given⟩
  | cons head rest => exact answers rest other peak before earlier (List.cons.inj split).2

namespace Stream

/-- What holds of a stream for ever. -/
structure Sound (stream : Stream) : Prop where
  /-- The flags of the encoder say what is outstanding. -/
  accounted : stream.capture.Accounted
  /-- The session is stopping when its capture is. -/
  stopping : stream.captureStopping = true ↔ stream.state = .stopping
  /-- The session is one of these. -/
  state : stream.state = .connecting ∨ stream.state = .streaming ∨ stream.state = .stopping
  /-- Every frame at the encoder is at the one in use. -/
  current : ∀ encode ∈ stream.capture.encodes,
    ∃ bitrate, stream.capture.encoder = some ⟨encode.encoder, bitrate⟩
  /-- A replacement is built for a change, with no frame at the encoder. -/
  building : stream.capture.buildingEncoder = true →
    stream.capture.inFlight = 0 ∧ stream.capture.changingEncoder = true
  /-- Acknowledgements. -/
  answers : Answers stream.log

/-- What holds while the session does not stop. -/
structure Running (stream : Stream) : Prop where
  /-- The session and the capture change together. -/
  changing : stream.capture.changingEncoder = stream.changingBitrate
  /-- The completion is kept meanwhile. -/
  completion : stream.capture.replacementCompletion = stream.changingBitrate
  /-- They change to the same bitrate. -/
  target : stream.changingBitrate = true →
    stream.capture.replacementBitrate = stream.changeBitrate ∧ 0 < stream.changeBitrate
  /-- Otherwise the encoder has the bitrate. -/
  encoder : stream.changingBitrate = false →
    ∃ id, stream.capture.encoder = some ⟨id, stream.bitrate⟩
  /-- The transport was given the bitrate. -/
  given : stream.state = .streaming →
    latest RateEvent.given stream.log = some (stream.bitrate, stream.bitrate * 2)
  /-- Before the stream nothing is requested. -/
  early : stream.state = .connecting → stream.changingBitrate = false ∧
    stream.pendingBitrate = 0 ∧ latest RateEvent.request stream.log = none
  /-- The last request is pending. -/
  pending : stream.pendingBitrate ≠ 0 →
    latest RateEvent.request stream.log = some stream.pendingBitrate
  /-- Or it is being changed to. -/
  change : stream.pendingBitrate = 0 → stream.changingBitrate = true →
    latest RateEvent.request stream.log = some stream.changeBitrate
  /-- Or it was acknowledged. -/
  answered : stream.pendingBitrate = 0 → stream.changingBitrate = false →
    latest RateEvent.request stream.log = none ∨
      latest RateEvent.request stream.log = latest RateEvent.answer stream.log
  /-- The first request that is not taken up. -/
  first : burst stream.log =
    if stream.pendingBitrate = 0 then none else some stream.bitrateFirstRequest
  /-- It is due in time. -/
  due : stream.pendingBitrate ≠ 0 →
    stream.bitrateDue ≤ stream.bitrateFirstRequest + 500 * nsecPerMsec

/-- What holds between two steps. -/
structure Accord (stream : Stream) : Prop where
  /-- For ever. -/
  sound : Sound stream
  /-- While the session does not stop. -/
  running : stream.state ≠ .stopping → Running stream

variable {stream : Stream}

/-- A session that stops. -/
theorem Sound.stopOnQueue (sound : Sound stream) : Accord stream.stopOnQueue := by
  unfold Stream.stopOnQueue
  split
  · next stopping =>
    refine ⟨sound, fun running => absurd ?_ running⟩
    rcases sound.state with connecting | streaming | stopping'
    · simp [connecting] at stopping
    · simp [streaming] at stopping
    · exact stopping'
  · exact ⟨{ sound with
      accounted := ⟨sound.accounted.flying, sound.accounted.building⟩
      stopping := iff_of_true rfl rfl
      state := .inr (.inr rfl) }, fun running => absurd rfl running⟩

/-- An event that acknowledges nothing. -/
theorem Sound.note (sound : Sound stream) {event : RateEvent} (other : event.answer = none) :
    Sound (stream.note event) := { sound with answers := sound.answers.other other }

/-- A stop of a running session is all that a running session can come to. -/
theorem Sound.runs (sound : Sound stream) (running : stream.state ≠ .stopping) :
    stream.captureStopping = false := by
  by_contra stopping
  exact running (sound.stopping.mp (by simpa using stopping))

/-- What a change of the recovery leaves alone. -/
theorem Accord.video (accord : Accord stream) (video : Capture.Video) :
    Accord { stream with capture := { stream.capture with video } } where
  sound := { accord.sound with
    accounted := ⟨accord.sound.accounted.flying, accord.sound.accounted.building⟩ }
  running := fun runs => { accord.running runs with }

/-- The replacement may begin to be built. -/
theorem Accord.replace (accord : Accord stream) :
    Accord { stream with
      capture := stream.capture.replaceEncoderWhenDrained stream.captureStopping } := by
  have accounted := accord.sound.accounted.replace stream.captureStopping
  unfold Pipeline.replaceEncoderWhenDrained at accounted ⊢
  split
  · exact accord
  · next drained =>
    rw [if_neg drained] at accounted
    simp only [Bool.or_eq_true, not_or, Bool.not_eq_true, Bool.not_eq_true', Bool.not_eq_false,
      decide_eq_true_eq, not_not] at drained
    obtain ⟨⟨⟨changing, _⟩, none⟩, _⟩ := drained
    have empty : stream.capture.encodes = [] := by
      refine List.length_eq_zero_iff.mp ?_
      rw [← accord.sound.accounted.flying, none]
    refine ⟨{ accord.sound with
      accounted := accounted
      current := fun encode member => by
        rw [show stream.capture.encodes = [] from empty] at member
        exact absurd member (by simp)
      building := fun _ => ⟨none, changing⟩ }, fun runs => { accord.running runs with
        encoder := fun still => ?_ }⟩
    have both := (accord.running runs).changing
    rw [changing, show stream.changingBitrate = false from still] at both
    exact absurd both (by simp)

/-- `started` of the capture. -/
theorem Accord.started (accord : Accord stream) (reading : RateReading) :
    Accord (stream.started (stream.bitrate * 2) reading) := by
  unfold Stream.started
  split
  · exact accord
  · next connecting =>
    have connecting : stream.state = .connecting := by simpa using connecting
    have runs : stream.state ≠ .stopping := by simp [connecting]
    split
    · exact accord.sound.stopOnQueue
    · have noted := accord.sound.note
        (show (RateEvent.policy stream.bitrate (stream.bitrate * 2)).answer = none from rfl)
      obtain ⟨changing, completion, target, encoder, _, early, pending, change, answered, first,
        due⟩ := accord.running runs
      exact ⟨{ noted with
        stopping := iff_of_false (by simp [Stream.note, accord.sound.runs runs]) (by simp)
        state := .inr (.inl rfl) }, fun _ => {
          changing := changing
          completion := completion
          target := target
          encoder := encoder
          given := fun _ => latest_same RateEvent.given rfl _
          early := fun connecting => absurd connecting (by simp)
          pending := pending
          change := change
          answered := answered
          first := first
          due := due }⟩

/-- A request. -/
theorem Accord.request (accord : Accord stream) (streaming : stream.state = .streaming)
    (now bitrate : Nat) : Accord (stream.request now bitrate) := by
  have runs : stream.state ≠ .stopping := by simp [streaming]
  have noted := accord.sound.note (show (RateEvent.requested now bitrate).answer = none from rfl)
  obtain ⟨changing, completion, target, encoder, given, early, pending, change, answered, first,
    due⟩ := accord.running runs
  have given' : latest RateEvent.given (.requested now bitrate :: stream.log) =
      some (stream.bitrate, stream.bitrate * 2) := (latest_other _ rfl _).trans (given streaming)
  have waiting : ∀ {property : Prop}, stream.state = .connecting → property := by
    intro property connecting
    rw [streaming] at connecting
    exact absurd connecting (by simp)
  unfold Stream.request
  split
  · exact accord.sound.stopOnQueue
  · next range =>
    have positive : bitrate ≠ 0 := by
      simp only [Bool.or_eq_true, decide_eq_true_eq, not_or] at range
      omega
    dsimp only
    by_cases none : stream.pendingBitrate = 0
    · rw [if_pos (show (stream.note (.requested now bitrate)).pendingBitrate = 0 from none)]
      split
      · next same =>
        have same : stream.pendingBitrate = bitrate := same
        exact absurd (same.symm.trans none) positive
      · exact ⟨{ noted with }, fun _ => {
          changing := changing
          completion := completion
          target := target
          encoder := encoder
          given := fun _ => given'
          early := waiting
          pending := fun _ => latest_same RateEvent.request rfl _
          change := fun absent => absurd absent positive
          answered := fun absent => absurd absent positive
          first := by
            show burst (.requested now bitrate :: stream.log) = _
            rw [burst, first, if_pos none, if_neg positive, Option.getD_none]
          due := fun _ => Nat.min_le_right _ _ }⟩
    · rw [if_neg (show (stream.note (.requested now bitrate)).pendingBitrate ≠ 0 from none)]
      rw [if_neg none] at first
      have begun : burst (.requested now bitrate :: stream.log) =
          some stream.bitrateFirstRequest := by
        rw [burst, first, Option.getD_some]
      split
      · next same =>
        have same : stream.pendingBitrate = bitrate := same
        exact ⟨noted, fun _ => {
          changing := changing
          completion := completion
          target := target
          encoder := encoder
          given := fun _ => given'
          early := waiting
          pending := fun _ => (latest_same RateEvent.request rfl _).trans (congrArg some same.symm)
          change := fun absent => absurd absent none
          answered := fun absent => absurd absent none
          first := begun.trans (if_neg none).symm
          due := due }⟩
      · exact ⟨{ noted with }, fun _ => {
          changing := changing
          completion := completion
          target := target
          encoder := encoder
          given := fun _ => given'
          early := waiting
          pending := fun _ => latest_same RateEvent.request rfl _
          change := fun absent => absurd absent positive
          answered := fun absent => absurd absent positive
          first := begun.trans (if_neg positive).symm
          due := fun _ => Nat.min_le_right _ _ }⟩

/-- What holds once a request is taken up, or its change has come to an end, and is not yet
acknowledged. -/
structure Taken (stream : Stream) : Prop where
  /-- For ever. -/
  sound : Sound stream
  /-- No change is in flight. -/
  changing : stream.changingBitrate = false ∧ stream.capture.changingEncoder = false ∧
    stream.capture.replacementCompletion = false
  /-- The encoder has the bitrate. -/
  encoder : ∃ id, stream.capture.encoder = some ⟨id, stream.bitrate⟩
  /-- The transport was given the bitrate. -/
  given : latest RateEvent.given stream.log = some (stream.bitrate, stream.bitrate * 2)
  /-- The last request is pending, or the bitrate. -/
  request : latest RateEvent.request stream.log =
    some (if stream.pendingBitrate = 0 then stream.bitrate else stream.pendingBitrate)
  /-- The first request that is not taken up. -/
  first : burst stream.log =
    if stream.pendingBitrate = 0 then none else some stream.bitrateFirstRequest
  /-- It is due in time. -/
  due : stream.pendingBitrate ≠ 0 →
    stream.bitrateDue ≤ stream.bitrateFirstRequest + 500 * nsecPerMsec
  /-- The session streams. -/
  streaming : stream.state = .streaming

/-- The bitrate is acknowledged. -/
theorem Taken.acknowledge (taken : Taken stream) (reading : RateReading) :
    Accord (stream.acknowledgeBitrate stream.bitrate (stream.bitrate * 2) reading) := by
  unfold Stream.acknowledgeBitrate
  split
  · exact taken.sound.stopOnQueue
  · obtain ⟨still, unchanged, done⟩ := taken.changing
    have request := taken.request
    exact ⟨{ taken.sound with
        answers := taken.sound.answers.acknowledged taken.encoder taken.given },
      fun _ => {
        changing := unchanged.trans still.symm
        completion := done.trans still.symm
        target := fun changes => by
          rw [show stream.changingBitrate = true from changes] at still
          exact absurd still (by simp)
        encoder := fun _ => taken.encoder
        given := fun _ => taken.given
        early := fun connecting => by
          have streaming := taken.streaming
          rw [show stream.state = .connecting from connecting] at streaming
          exact absurd streaming (by simp)
        pending := fun waiting => by
          rw [if_neg (show stream.pendingBitrate ≠ 0 from waiting)] at request
          exact request
        change := fun _ changes => by
          rw [show stream.changingBitrate = true from changes] at still
          exact absurd still (by simp)
        answered := fun none _ => by
          rw [if_pos (show stream.pendingBitrate = 0 from none)] at request
          exact .inr (request.trans (latest_same RateEvent.answer rfl _).symm)
        first := taken.first
        due := taken.due }⟩

/-- `applyPendingBitrate`. -/
theorem Accord.apply (accord : Accord stream) (now : Nat) (reading : RateReading) :
    Accord (stream.applyPendingBitrate now reading) := by
  unfold Stream.applyPendingBitrate
  split
  · exact accord
  · next streaming =>
    have streaming : stream.state = .streaming := by simpa using streaming
    have runs : stream.state ≠ .stopping := by simp [streaming]
    split
    · split
      · exact accord.sound.stopOnQueue
      · exact accord
    · next still =>
      have still : stream.changingBitrate = false := by simpa using still
      split
      · exact accord
      · next ready =>
        have waiting : stream.pendingBitrate ≠ 0 := by
          intro none
          simp [none] at ready
        have running := accord.running runs
        have unchanged := running.changing.trans still
        have done := running.completion.trans still
        have noted := accord.sound.note
          (show (RateEvent.taken now stream.pendingBitrate).answer = none from rfl)
        dsimp only [Stream.note]
        by_cases same : stream.pendingBitrate = stream.bitrate
        · rw [if_pos same, same]
          have taken : Taken { stream.note (.taken now stream.bitrate) with
              pendingBitrate := 0 } := {
            sound := { noted with answers := accord.sound.answers.other rfl }
            changing := ⟨still, unchanged, done⟩
            encoder := running.encoder still
            given := running.given streaming
            request := (running.pending waiting).trans (congrArg some same)
            first := rfl
            due := fun absent => absurd rfl absent
            streaming := streaming }
          exact taken.acknowledge reading
        · rw [if_neg same]
          have quiet := accord.sound.runs runs
          unfold Pipeline.setBitrate
          split
          · -- the capture refuses the change: the session stops
            have refused : Sound { stream.note (.taken now stream.pendingBitrate) with
                pendingBitrate := 0
                changingBitrate := false
                bitrateDeadline := now + 5000 * nsecPerMsec
                changeBitrate := stream.pendingBitrate } := { noted with }
            simp only [if_true]
            unfold Stream.changed
            rw [if_neg (by simp [streaming])]
            dsimp only
            rw [if_pos (by simp [Nat.pos_of_ne_zero waiting])]
            exact refused.stopOnQueue
          · have changes : Accord { stream.note (.taken now stream.pendingBitrate) with
                pendingBitrate := 0
                changingBitrate := true
                bitrateDeadline := now + 5000 * nsecPerMsec
                changeBitrate := stream.pendingBitrate
                capture := { stream.capture with
                  changingEncoder := true
                  replacementBitrate := stream.pendingBitrate
                  replacementCompletion := true } } := {
              sound := { noted with
                accounted := ⟨accord.sound.accounted.flying, accord.sound.accounted.building⟩
                building := fun building => ⟨(accord.sound.building building).1, rfl⟩ }
              running := fun _ => {
                changing := rfl
                completion := rfl
                target := fun _ => ⟨rfl, Nat.pos_of_ne_zero waiting⟩
                encoder := fun still => absurd still (by simp)
                given := running.given
                early := fun connecting => by
                  rw [show stream.state = .connecting from connecting] at streaming
                  exact absurd streaming (by simp)
                pending := fun absent => absurd rfl absent
                change := fun _ _ => running.pending waiting
                answered := fun _ still => absurd still (by simp)
                first := rfl
                due := fun absent => absurd rfl absent } }
            simp only [Bool.false_eq_true, if_false]
            exact changes.replace

/-- A complete frame is captured. -/
theorem Accord.frame (accord : Accord stream) (failed : Bool) : Accord (stream.frame failed) := by
  unfold Stream.frame
  split
  · exact accord
  · next submits =>
    have unchanged : stream.capture.changingEncoder = false := by
      simp only [Pipeline.skips, Bool.or_eq_true, not_or, Bool.not_eq_true] at submits
      exact submits.2.1
    have accounted := accord.sound.accounted.submit failed
    have idle : stream.capture.buildingEncoder = true → False := by
      intro building
      have changing := (accord.sound.building building).2
      rw [unchanged] at changing
      exact absurd changing (by simp)
    have submitted : Accord { stream with capture := stream.capture.submit failed } := by
      rcases stream.capture.submit_cases failed with
        ⟨video, same⟩ | ⟨video, encoder, inUse, submitted⟩
      · rw [same]
        exact accord.video video
      · rw [submitted] at accounted ⊢
        refine ⟨{ accord.sound with
          accounted := accounted
          current := ?_
          building := fun building => (idle building).elim },
          fun runs => { accord.running runs with }⟩
        intro encode member
        rcases List.mem_append.mp member with before | new
        · exact accord.sound.current encode before
        · obtain rfl := List.mem_singleton.mp new
          exact ⟨encoder.bitrate, inUse⟩
    dsimp only
    split
    · exact submitted.sound.stopOnQueue
    · exact submitted

/-- The encoder completes a frame. -/
theorem Accord.encoded (accord : Accord stream) {index : Nat} {encode : Encode}
    (present : stream.capture.encodes[index]? = some encode) (outcome : Encoded) :
    Accord (stream.encoded index encode outcome) := by
  have completed : Accord { stream with capture := stream.capture.complete index } :=
    ⟨{ accord.sound with
      accounted := accord.sound.accounted.complete present
      current := fun other member =>
        accord.sound.current other (List.mem_of_mem_eraseIdx member)
      building := fun building => by
        obtain ⟨none, changing⟩ := accord.sound.building building
        refine ⟨?_, changing⟩
        show stream.capture.inFlight - 1 = 0
        omega }, fun runs => { accord.running runs with }⟩
  have delivered : ∀ {after : Stream}, Accord after →
      Accord { after with
        capture := after.capture.finish encode after.captureStopping } := by
    intro after accord
    exact Accord.replace (accord.video (if encode.forced then
      after.capture.video.completeKeyFrameRequest else after.capture.video))
  unfold Stream.encoded
  dsimp only
  apply delivered
  split
  · exact completed
  · have sent : Accord { stream with
        capture := ((stream.capture.complete index).deliver outcome).1 } := by
      cases outcome <;> exact completed.video _
    split
    · exact sent.sound.stopOnQueue
    · exact sent

/-- The replacement encoder was built, or failed. -/
theorem Accord.built (accord : Accord stream) (outstanding : stream.capture.builds ≠ 0)
    (succeeded : Bool) (reading : RateReading) : Accord (stream.built succeeded reading) := by
  have building : stream.capture.buildingEncoder = true := by
    by_contra idle
    have none := accord.sound.accounted.building
    rw [if_neg idle] at none
    exact outstanding none
  obtain ⟨none, changing⟩ := accord.sound.building building
  have empty : stream.capture.encodes = [] :=
    List.length_eq_zero_iff.mp (accord.sound.accounted.flying.symm.trans none)
  have current : ∀ encoder : Option Encoder, ∀ encode ∈ stream.capture.encodes,
      ∃ bitrate, encoder = some ⟨encode.encoder, bitrate⟩ := by
    intro encoder encode member
    rw [empty] at member
    exact absurd member (by simp)
  have accounted := accord.sound.accounted.built
  unfold Stream.built
  dsimp only
  split
  · next stopping =>
    have stopped := accord.sound.stopping.mp stopping
    have built : Sound { stream with capture := stream.capture.built } := { accord.sound with
      accounted := accounted
      current := current _
      building := fun building => absurd building (by simp [Pipeline.built]) }
    split
    · exact ⟨built.note rfl, fun runs => absurd stopped runs⟩
    · exact ⟨built, fun runs => absurd stopped runs⟩
  · next runs =>
    have runs : stream.state ≠ .stopping := fun stopped =>
      runs (accord.sound.stopping.mpr stopped)
    have running := accord.running runs
    have changes := running.changing.symm.trans changing
    have streaming : stream.state = .streaming := by
      rcases accord.sound.state with connecting | streaming | stopping
      · have still := (running.early connecting).1
        rw [changes] at still
        exact absurd still (by simp)
      · exact streaming
      · exact absurd stopping runs
    obtain ⟨target, positive⟩ := running.target changes
    have installed : Sound { stream with capture := stream.capture.built.install succeeded } :=
      { accord.sound with
        accounted := accounted.install succeeded
        current := by
          cases succeeded <;> exact current _
        building := fun building => by
          cases succeeded <;> exact absurd building (by simp [Pipeline.built, Pipeline.install,
            Pipeline.create]) }
    have completion : stream.capture.built.replacementCompletion = true :=
      running.completion.trans changes
    rw [if_pos completion]
    unfold Stream.changed
    rw [if_neg (by simp [streaming])]
    dsimp only
    have failed : Sound { stream with
        capture := stream.capture.built.install succeeded
        changingBitrate := false } := { installed with }
    cases succeeded with
    | false =>
      simp only [Bool.false_eq_true, if_false]
      rw [if_pos (by simp [positive])]
      exact failed.stopOnQueue
    | true =>
      simp only [if_true]
      split
      · exact failed.stopOnQueue
      · have peak : stream.capture.built.replacementBitrate * 2 = stream.changeBitrate * 2 :=
          congrArg (· * 2) target
        have done : Taken ({ stream with
            capture := stream.capture.built.install true
            changingBitrate := false
            bitrate := stream.changeBitrate }.note
              (.policy stream.changeBitrate (stream.changeBitrate * 2))) := {
          sound := { installed with answers := accord.sound.answers.other rfl }
          changing := ⟨rfl, rfl, rfl⟩
          encoder := ⟨stream.capture.created, congrArg
            (fun bitrate => some (⟨stream.capture.created, bitrate⟩ : Encoder)) target⟩
          given := latest_same RateEvent.given rfl _
          request := by
            show latest RateEvent.request stream.log = some
              (if stream.pendingBitrate = 0 then stream.changeBitrate else stream.pendingBitrate)
            split
            · next empty => exact running.change empty changes
            · next waiting => exact running.pending waiting
          first := running.first
          due := running.due
          streaming := streaming }
        rw [peak]
        exact done.acknowledge reading

/-- Every step keeps what holds between two steps. -/
theorem accord_step : system.Preserves Accord := by
  intro stream label after accord stepped
  cases label with
  | started reading =>
    obtain rfl := Option.some.inj stepped
    exact accord.started reading
  | request now bitrate =>
    obtain ⟨streaming, result⟩ := Option.ite_none_right_eq_some.mp stepped
    obtain rfl := Option.some.inj result
    exact accord.request streaming now bitrate
  | apply now reading =>
    obtain rfl := Option.some.inj stepped
    exact accord.apply now reading
  | frame failed =>
    obtain rfl := Option.some.inj stepped
    exact accord.frame failed
  | encoded index outcome =>
    obtain ⟨encode, present, rfl⟩ := Option.map_eq_some_iff.mp stepped
    exact accord.encoded present outcome
  | built succeeded reading =>
    obtain ⟨outstanding, result⟩ := Option.ite_none_left_eq_some.mp stepped
    obtain rfl := Option.some.inj result
    exact accord.built outstanding succeeded reading
  | requestKeyFrame =>
    obtain rfl := Option.some.inj stepped
    exact accord.video _
  | stop =>
    obtain rfl := Option.some.inj stepped
    exact accord.sound.stopOnQueue
  | drained =>
    obtain ⟨drained, result⟩ := Option.ite_none_right_eq_some.mp stepped
    obtain rfl := Option.some.inj result
    simp only [Bool.and_eq_true, decide_eq_true_eq] at drained
    have empty : stream.capture.encodes = [] :=
      List.length_eq_zero_iff.mp (accord.sound.accounted.flying.symm.trans drained.1.2)
    refine ⟨{ accord.sound with
      accounted := ⟨accord.sound.accounted.flying, accord.sound.accounted.building⟩
      current := fun encode member => ?_ },
      fun runs => absurd (accord.sound.stopping.mp drained.1.1) runs⟩
    rw [show stream.capture.encodes = [] from empty] at member
    exact absurd member (by simp)

/-- What holds between two steps holds in every reachable state. -/
theorem reachable_accord (reachable : system.Reachable stream) : Accord stream := by
  refine Transition.System.Preserves.reachable accord_step ?_ reachable
  rintro stream ⟨bitrate, rfl⟩
  exact {
    sound := {
      accounted := ⟨rfl, rfl⟩
      stopping := iff_of_false (by simp) (by simp)
      state := .inl rfl
      current := fun encode member => absurd member (by simp [Pipeline.create])
      building := fun building => absurd building (by simp [Pipeline.create])
      answers := fun later bitrate peak encoder earlier split => absurd split (by simp) }
    running := fun _ => {
      changing := rfl
      completion := rfl
      target := fun changes => absurd changes (by simp)
      encoder := fun _ => ⟨0, rfl⟩
      given := fun streaming => absurd streaming (by simp)
      early := fun _ => ⟨rfl, rfl, rfl⟩
      pending := fun waiting => absurd rfl waiting
      change := fun _ changes => absurd changes (by simp)
      answered := fun _ _ => .inl rfl
      first := rfl
      due := fun waiting => absurd rfl waiting } }

/-- What a session promises about its bitrate. -/
structure Tuned (stream : Stream) : Prop where
  /-- One replacement is being built at most. -/
  single : stream.capture.builds ≤ 1
  /-- No frame is submitted while a replacement is pending. -/
  waits : ∀ failed after, stream.step (.frame failed) = some after →
    after.capture.encodes ≠ stream.capture.encodes →
      stream.capture.changingEncoder = false ∧ stream.capture.builds = 0
  /-- Every frame that is still to be sent is of the encoder in use. -/
  current : ∀ encode ∈ stream.capture.encodes,
    ∃ bitrate, stream.capture.encoder = some ⟨encode.encoder, bitrate⟩
  /-- An acknowledgement carries the encoder in use and what the transport was last given. -/
  answers : Answers stream.log
  /-- The last request is not lost. -/
  kept : stream.state = .streaming → stream.pendingBitrate = 0 →
    stream.changingBitrate = false → ∀ bitrate, latest RateEvent.request stream.log = some bitrate →
      latest RateEvent.answer stream.log = some bitrate
  /-- A request is taken up half a second after the first of its burst. -/
  prompt : ∀ now reading after first, stream.state = .streaming →
    stream.changingBitrate = false → burst stream.log = some first →
      first + 500 * nsecPerMsec ≤ now → stream.step (.apply now reading) = some after →
        ∃ bitrate later, latest RateEvent.request stream.log = some bitrate ∧
          after.log = later ++ .taken now bitrate :: stream.log
  /-- A replacement that completes after the stop is disposed of. -/
  released : ∀ reading after, stream.state = .stopping →
    stream.step (.built true reading) = some after →
      after.log = .disposed :: stream.log ∧ after.capture.encoder = stream.capture.encoder

/-- A stop only adds to the log. -/
theorem stopOnQueue_log (stream : Stream) : stream.stopOnQueue.log = stream.log := by
  unfold stopOnQueue
  split <;> rfl

/-- So does an acknowledgement. -/
theorem acknowledgeBitrate_log (stream : Stream) (bitrate peak : Nat) (reading : RateReading) :
    ∃ later, (stream.acknowledgeBitrate bitrate peak reading).log = later ++ stream.log := by
  unfold acknowledgeBitrate
  split
  · exact ⟨[], stopOnQueue_log stream⟩
  · exact ⟨[_], rfl⟩

/-- So does the end of a change. -/
theorem changed_log (stream : Stream) (peak : Nat) (reading : RateReading) :
    ∃ later, (stream.changed peak reading).log = later ++ stream.log := by
  unfold changed
  split
  · exact ⟨[], rfl⟩
  · dsimp only
    split
    · exact ⟨[], stopOnQueue_log _⟩
    · obtain ⟨later, added⟩ := acknowledgeBitrate_log (Stream.note { stream with
        changingBitrate := false
        bitrate := stream.changeBitrate } (.policy stream.changeBitrate peak))
        stream.changeBitrate peak reading
      exact ⟨later ++ [.policy stream.changeBitrate peak], by rw [added]; simp [note]⟩

/-- A request that is due is taken up. -/
theorem applyPendingBitrate_takes {now : Nat} (streaming : stream.state = .streaming)
    (still : stream.changingBitrate = false) (waiting : stream.pendingBitrate ≠ 0)
    (due : stream.bitrateDue ≤ now) (reading : RateReading) :
    ∃ later, (stream.applyPendingBitrate now reading).log =
      later ++ .taken now stream.pendingBitrate :: stream.log := by
  unfold applyPendingBitrate
  rw [if_neg (by simp [streaming]), if_neg (by simp [still]),
    if_neg (by simp [waiting]; omega)]
  dsimp only
  split
  · exact acknowledgeBitrate_log _ _ _ reading
  · split
    · exact changed_log _ 0 reading
    · exact ⟨[], rfl⟩

/-- In every run the bitrate is agreed. -/
theorem reachable_tuned (reachable : system.Reachable stream) : Tuned stream := by
  have accord := reachable_accord reachable
  have sound := accord.sound
  constructor
  · rw [sound.accounted.building]
    split <;> omega
  · intro failed after stepped grown
    obtain rfl := Option.some.inj stepped
    have unchanged : stream.capture.changingEncoder = false := by
      by_contra changing
      refine grown ?_
      unfold frame
      rw [if_pos (by simp [Pipeline.skips, show stream.capture.changingEncoder = true by
        simpa using changing])]
    refine ⟨unchanged, ?_⟩
    have idle : stream.capture.buildingEncoder ≠ true := by
      intro building
      have changing := (sound.building building).2
      rw [unchanged] at changing
      exact absurd changing (by simp)
    rw [sound.accounted.building, if_neg idle]
  · exact sound.current
  · exact sound.answers
  · intro streaming none still bitrate requested
    rcases (accord.running (by simp [streaming])).answered none still with never | same
    · rw [never] at requested
      exact absurd requested (by simp)
    · exact same.symm.trans requested
  · intro now reading after first streaming still begun late stepped
    obtain rfl := Option.some.inj stepped
    have running := accord.running (by simp [streaming])
    have waiting : stream.pendingBitrate ≠ 0 := by
      intro none
      have nothing := running.first
      rw [if_pos none, begun] at nothing
      exact absurd nothing (by simp)
    have same := running.first
    rw [if_neg waiting, begun] at same
    obtain rfl := Option.some.inj same
    have due := running.due waiting
    obtain ⟨later, taken⟩ := applyPendingBitrate_takes streaming still waiting
      (Nat.le_trans due late) reading
    exact ⟨stream.pendingBitrate, later, running.pending waiting, taken⟩
  · intro reading after stopping stepped
    obtain ⟨outstanding, result⟩ := Option.ite_none_left_eq_some.mp stepped
    obtain rfl := Option.some.inj result
    unfold built
    rw [if_pos (sound.stopping.mpr stopping)]
    exact ⟨rfl, rfl⟩

/-- Two requests in one burst, a frame in flight, the replacement, and a stop during the next. -/
def sampleRates : List RateLabel :=
  [.started {}, .frame false, .request 0 30000, .request 100000000 40000,
    .apply 250000000 {}, .encoded 0 .dropped, .built true {}, .request 300000000 20000,
    .apply 450000000 {}, .stop, .built true {}]

/-- The burst is changed to once; the second replacement is disposed of. -/
theorem sample_tuned :
    ((system.run { bitrate := 20000, capture := ({} : Pipeline).create 20000 }
      sampleRates).getD { bitrate := 0, capture := {} }).Tuned ∧
    ((system.run { bitrate := 20000, capture := ({} : Pipeline).create 20000 }
      sampleRates).getD { bitrate := 0, capture := {} }).log =
        [.disposed, .taken 450000000 20000, .requested 300000000 20000,
          .acknowledged 40000 80000 (some ⟨1, 40000⟩), .policy 40000 80000,
          .taken 250000000 40000, .requested 100000000 40000, .requested 0 30000,
          .policy 20000 40000] :=
  ⟨reachable_tuned (Transition.System.reachable_of_run ⟨20000, rfl⟩
    (show system.run { bitrate := 20000, capture := ({} : Pipeline).create 20000 }
      sampleRates = some _ from rfl)), rfl⟩

end Stream

end Plank.Preview
