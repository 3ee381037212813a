import Plank.Capture.Stop

/-!
# Recovery over whole runs

A send that fails makes the owner stop the capture, so a running capture never sent after one. The
frames at the encoder that are forced key pictures are counted by the flag of the recovery; between
a completion and the end of its block the frame is in transit.
-/

namespace Plank.Capture

open Plank.Transport (Status)

/-- What a stop may do to the encoder: it is released, and its owner is told nothing more. -/
def Pipeline.Released (before after : Pipeline) : Prop :=
  ∃ encoder replacementCompletion, after = { before with encoder, replacementCompletion }

/-- Nothing is released by doing nothing. -/
theorem Pipeline.Released.refl (pipeline : Pipeline) : pipeline.Released pipeline :=
  ⟨pipeline.encoder, pipeline.replacementCompletion, rfl⟩

/-- Two releases in order. -/
theorem Pipeline.Released.trans {first second third : Pipeline} (before : first.Released second)
    (after : second.Released third) : first.Released third := by
  obtain ⟨_, _, rfl⟩ := before
  obtain ⟨encoder, completion, rfl⟩ := after
  exact ⟨encoder, completion, rfl⟩

/-- Forced key pictures at the encoder. -/
def Pipeline.forced (pipeline : Pipeline) : Nat := pipeline.encodes.countP (·.forced)

/-- A frame leaves the encoder. -/
theorem Pipeline.forced_complete {pipeline : Pipeline} {index : Nat} {encode : Encode}
    (present : pipeline.encodes[index]? = some encode) :
    (pipeline.complete index).forced + (if encode.forced then 1 else 0) = pipeline.forced := by
  obtain ⟨inside, rfl⟩ := List.getElem?_eq_some_iff.mp present
  have count := (List.getElem_cons_eraseIdx_perm inside).countP_eq (·.forced)
  rwa [List.countP_cons] at count

namespace Screen

/-- The stop completion releases the encoder alone. -/
theorem finishStop_released (screen : Screen) :
    screen.pipeline.Released screen.finishStop.pipeline := by
  unfold finishStop
  split
  · exact .refl _
  · exact ⟨none, screen.pipeline.replacementCompletion, rfl⟩

/-- The completion of the stop of a tap releases nothing else. -/
theorem tapStopped_released (screen : Screen) (tap : Nat) :
    screen.pipeline.Released (screen.tapStopped tap).pipeline := by
  have finished := finishStop_released { screen.note (.tapStopped tap) with audioStopped := true }
  unfold tapStopped
  dsimp only
  split <;> exact finished

/-- Nor does the stop of a tap. -/
theorem stopTap_released (screen : Screen) (tap : Nat) (reaction : Reaction) :
    screen.pipeline.Released (screen.stopTap tap reaction).pipeline := by
  unfold stopTap
  dsimp only
  split
  · exact tapStopped_released (screen.note (.tapStop tap)) tap
  · exact .refl _

/-- Nor does the stop of the audio. -/
theorem stopDesktopAudio_released (screen : Screen) (reaction : Reaction) :
    screen.pipeline.Released (screen.stopDesktopAudio reaction).pipeline := by
  unfold stopDesktopAudio
  cases screen.audioTap with
  | none => exact .refl _
  | some tap =>
    dsimp only
    cases screen.outputSelection with
    | none => exact stopTap_released _ tap reaction
    | some route =>
      dsimp only
      split
      · exact stopTap_released _ tap reaction
      · exact .refl _

/-- A stop releases the encoder at most. -/
theorem stopWithCompletion_released (screen : Screen) (reaction : Reaction) :
    screen.pipeline.Released (screen.stopWithCompletion reaction).pipeline := by
  unfold stopWithCompletion
  split
  · exact .refl _
  · have asked : screen.pipeline.Released { screen.pipeline with replacementCompletion := false } :=
      ⟨screen.pipeline.encoder, false, rfl⟩
    have silent := asked.trans (stopDesktopAudio_released { screen.note .stop with
      stopping := true
      drained := true
      audioRestartPending := false
      pipeline := { screen.pipeline with replacementCompletion := false }
      audioEncoder := false } reaction)
    dsimp only
    split
    · exact silent
    · unfold stopCapture
      split
      · exact silent.trans (finishStop_released _)
      · exact silent

/-- Nor does a callback. -/
theorem callback_released (screen : Screen) (event : Event) (reaction : Reaction) :
    screen.pipeline.Released (screen.callback event reaction).pipeline := by
  unfold callback
  dsimp only
  split
  · exact stopWithCompletion_released (screen.note event) reaction
  · exact .refl _

/-- Nor does giving up the tap. -/
theorem disableDesktopAudio_released (screen : Screen) (reaction : Reaction) :
    screen.pipeline.Released (screen.disableDesktopAudio reaction).pipeline := by
  unfold disableDesktopAudio
  split
  · exact .refl _
  · exact stopDesktopAudio_released _ reaction

/-- Nor does `startDesktopAudio`. -/
theorem startDesktopAudio_released (screen : Screen) (reaction : Reaction) :
    screen.pipeline.Released (screen.startDesktopAudio reaction).pipeline := by
  unfold startDesktopAudio
  split
  · exact .refl _
  · split
    · exact disableDesktopAudio_released _ reaction
    · exact .refl _

end Screen

namespace Video

/-- A send leaves the flag of the forced key picture alone. -/
theorem sendSample_encoding (video : Video) (reading : SendReading) :
    (video.sendSample reading).1.recovery.encoding = video.recovery.encoding := by
  have sent : ∀ key accepted evicted,
      (video.recovery.sent key accepted evicted).encoding = video.recovery.encoding := by
    intro key accepted evicted
    unfold Recovery.sent
    split
    · rfl
    · split <;> rfl
  unfold sendSample
  split
  · rfl
  · split
    · rfl
    · split
      · rfl
      · dsimp only
        split
        · rfl
        · split
          · rfl
          · exact sent _ _ _

end Video

/-- The flag of the forced key picture does not concern the gate. -/
theorem Gated.encoding {video : Video} (gated : Gated video) (encoding : Bool) :
    Gated { video with recovery := { video.recovery with encoding } } where
  recovered := gated.recovered
  counted := gated.counted
  last := gated.last

namespace Pipeline

/-- What holds of the pictures of a capture; `transit` counts a forced key picture whose block has
not ended. -/
structure Recovering (transit : Nat) (stopping : Bool) (pipeline : Pipeline) : Prop where
  /-- What became of the frames. -/
  lawful : Lawful pipeline.video.history
  /-- While the capture runs no send has failed. -/
  gated : stopping = false → Gated pipeline.video
  /-- The flag counts the forced key pictures at the encoder. -/
  flagged : pipeline.forced + transit = if pipeline.video.recovery.encoding then 1 else 0
  /-- Frames at the encoder. -/
  capacity : pipeline.encodes.length ≤ 3

variable {transit : Nat} {stopping : Bool} {pipeline : Pipeline}

/-- Neither the encoder nor its replacement concerns the pictures. -/
theorem Recovering.same (recovering : Recovering transit stopping pipeline) {changed : Pipeline}
    (video : changed.video = pipeline.video) (encodes : changed.encodes = pipeline.encodes) :
    Recovering transit stopping changed := by
  constructor
  · rw [video]
    exact recovering.lawful
  · rw [video]
    exact recovering.gated
  · rw [forced, encodes, video]
    exact recovering.flagged
  · rw [encodes]
    exact recovering.capacity

/-- A stop leaves the pictures alone. -/
theorem Recovering.released (recovering : Recovering transit stopping pipeline)
    {changed : Pipeline} (released : pipeline.Released changed) {later : Bool}
    (running : later = false → stopping = false) : Recovering transit later changed := by
  obtain ⟨encoder, completion, rfl⟩ := released
  exact ⟨recovering.lawful, fun runs => recovering.gated (running runs), recovering.flagged,
    recovering.capacity⟩

/-- A key picture is asked for. -/
theorem Recovering.requestKeyFrame (recovering : Recovering transit stopping pipeline) :
    Recovering transit stopping { pipeline with video := pipeline.video.requestKeyFrame } where
  lawful := recovering.lawful.note rfl
  gated := fun runs => (recovering.gated runs).requestKeyFrame
  flagged := recovering.flagged
  capacity := recovering.capacity

/-- Replacing the encoder leaves the pictures alone. -/
theorem replaceEncoderWhenDrained_same (pipeline : Pipeline) (stopping : Bool) :
    (pipeline.replaceEncoderWhenDrained stopping).video = pipeline.video ∧
      (pipeline.replaceEncoderWhenDrained stopping).encodes = pipeline.encodes := by
  unfold replaceEncoderWhenDrained
  split <;> exact ⟨rfl, rfl⟩

/-- So does a change of bitrate. -/
theorem setBitrate_same (pipeline : Pipeline) (stopping : Bool) (bitrate : Nat) :
    (pipeline.setBitrate stopping bitrate).1.video = pipeline.video ∧
      (pipeline.setBitrate stopping bitrate).1.encodes = pipeline.encodes := by
  unfold setBitrate
  split
  · exact ⟨rfl, rfl⟩
  · exact replaceEncoderWhenDrained_same _ stopping

/-- A replacement begins with a key picture. -/
theorem Recovering.install (recovering : Recovering transit stopping pipeline)
    (succeeded : Bool) : Recovering transit stopping (pipeline.install succeeded) := by
  have requested := recovering.requestKeyFrame
  cases succeeded <;> exact requested.same rfl rfl

/-- A frame is submitted: the key picture asked for is forced unless one is at the encoder. -/
theorem Recovering.submit (recovering : Recovering 0 stopping pipeline)
    (room : pipeline.encodes.length < 3) (failed : Bool) :
    Recovering 0 stopping (pipeline.submit failed) := by
  obtain ⟨lawful, gated, flagged, capacity⟩ := recovering
  unfold Pipeline.submit Video.beginKeyFrameRequest
  dsimp only
  unfold Recovery.begin
  by_cases forces : (!pipeline.video.recovery.requested || pipeline.video.recovery.encoding) = true
  · simp only [forces, if_true]
    cases pipeline.encoder with
    | none => exact ⟨lawful, gated, flagged, capacity⟩
    | some encoder =>
      cases failed with
      | true => exact ⟨lawful, gated, flagged, capacity⟩
      | false =>
        refine ⟨lawful, gated, ?_, by simpa using room⟩
        simpa [forced, List.countP_append] using flagged
  · simp only [forces]
    have open_ : pipeline.video.recovery.encoding = false := by
      simp only [Bool.or_eq_true, not_or, Bool.not_eq_true] at forces
      exact forces.2
    rw [open_] at flagged
    have none : pipeline.forced = 0 := by simpa using flagged
    cases pipeline.encoder with
    | none => exact ⟨lawful, fun runs => (gated runs).encoding false, none, capacity⟩
    | some encoder =>
      cases failed with
      | true =>
        exact ⟨lawful, fun runs => (gated runs).encoding false, none, capacity⟩
      | false =>
        refine ⟨lawful, fun runs => (gated runs).encoding true, ?_, by simpa using room⟩
        simpa [forced, List.countP_append] using none

/-- The recovery begins a forced key picture when one is asked for and none is at the encoder. -/
theorem Recovering.begins (recovering : Recovering 0 stopping pipeline) :
    pipeline.video.recovery.begin.2 = true ↔
      pipeline.video.recovery.requested = true ∧ pipeline.forced = 0 := by
  have flagged := recovering.flagged
  have free : pipeline.forced = 0 ↔ pipeline.video.recovery.encoding = false := by
    cases encoding : pipeline.video.recovery.encoding <;> simp [encoding] at flagged ⊢ <;> omega
  rw [free]
  unfold Recovery.begin
  cases pipeline.video.recovery.requested <;> cases pipeline.video.recovery.encoding <;> simp

/-- A frame leaves the encoder; its block has begun. -/
theorem Recovering.complete (recovering : Recovering 0 stopping pipeline) {index : Nat}
    {encode : Encode} (present : pipeline.encodes[index]? = some encode) :
    Recovering (if encode.forced then 1 else 0) stopping (pipeline.complete index) where
  lawful := recovering.lawful
  gated := recovering.gated
  flagged := (forced_complete present).trans recovering.flagged
  capacity := Nat.le_trans (List.length_eraseIdx_le _ _) recovering.capacity

/-- A frame is delivered; the gate holds unless the send failed. -/
theorem Recovering.deliver (recovering : Recovering transit false pipeline) (outcome : Encoded) :
    Recovering transit (pipeline.deliver outcome).2 (pipeline.deliver outcome).1 := by
  obtain ⟨lawful, gated, flagged, capacity⟩ := recovering
  cases outcome with
  | dropped =>
    have dropped : Lawful (VideoEvent.encoderDropped :: pipeline.video.history) := lawful.note rfl
    have gate := gated rfl
    exact ⟨dropped.note rfl, fun _ => ⟨fun requested =>
      absurd (show true = false from requested) (by simp), gate.counted, gate.last⟩,
      flagged, capacity⟩
  | sample reading =>
    obtain ⟨after, gate⟩ := (gated rfl).sendSample lawful reading
    refine ⟨after, fun taken => gate (by simpa [Pipeline.deliver] using taken), ?_, capacity⟩
    rw [show (pipeline.deliver (.sample reading)).1.video.recovery.encoding =
      pipeline.video.recovery.encoding from pipeline.video.sendSample_encoding reading]
    exact flagged

/-- The block of a frame ends. -/
theorem Recovering.finish {encode : Encode}
    (recovering : Recovering (if encode.forced then 1 else 0) stopping pipeline) :
    Recovering 0 stopping (pipeline.finish encode stopping) := by
  have ended : Recovering 0 stopping { pipeline with
      video := if encode.forced then pipeline.video.completeKeyFrameRequest
        else pipeline.video } := by
    obtain ⟨lawful, gated, flagged, capacity⟩ := recovering
    cases key : encode.forced with
    | true =>
      refine ⟨lawful, fun runs => (gated runs).encoding false, ?_, capacity⟩
      rw [key] at flagged
      simp only [if_true] at flagged ⊢
      show pipeline.forced + 0 = 0
      split at flagged <;> omega
    | false =>
      rw [key] at flagged
      exact ⟨lawful, gated, flagged, capacity⟩
  obtain ⟨video, encodes⟩ := replaceEncoderWhenDrained_same { pipeline with
    video := if encode.forced then pipeline.video.completeKeyFrameRequest
      else pipeline.video } stopping
  exact ended.same video encodes

end Pipeline

namespace Screen

/-- The pictures of a capture between two steps. -/
def Recovering (screen : Screen) : Prop := screen.pipeline.Recovering 0 screen.stopping

variable {screen : Screen}

/-- A step that only releases the encoder leaves the pictures alone. -/
theorem Recovering.released (recovering : Recovering screen) {changed : Screen}
    (released : screen.pipeline.Released changed.pipeline)
    (running : changed.stopping = false → screen.stopping = false) : Recovering changed :=
  Pipeline.Recovering.released recovering released running

/-- A callback leaves the pictures alone. -/
theorem Recovering.callback (recovering : Recovering screen) (event : Event)
    (reaction : Reaction) : Recovering (screen.callback event reaction) := by
  refine recovering.released (callback_released screen event reaction) ?_
  intro running
  rw [callback_running running] at running
  exact running

/-- Giving up the tap leaves a capture running. -/
theorem disableDesktopAudio_stopping (screen : Screen) (reaction : Reaction) :
    (screen.disableDesktopAudio reaction).stopping = false → screen.stopping = false := by
  unfold disableDesktopAudio
  split
  · exact id
  · dsimp only
    rw [(stopDesktopAudio_kept _ reaction).1.stopping]
    exact id

/-- So does `startDesktopAudio`. -/
theorem startDesktopAudio_stopping (screen : Screen) (reaction : Reaction) :
    (screen.startDesktopAudio reaction).stopping = false → screen.stopping = false := by
  unfold startDesktopAudio
  split
  · exact id
  · split
    · exact disableDesktopAudio_stopping { screen with audioReady := false } reaction
    · exact id

/-- The encoder completes a frame. -/
theorem Recovering.encoded (recovering : Recovering screen) {index : Nat} {encode : Encode}
    (present : screen.pipeline.encodes[index]? = some encode) {reaction : Reaction}
    (stops : reaction.stops = true) (outcome : Encoded) :
    Recovering (screen.encoded index encode outcome reaction) := by
  have completed := Pipeline.Recovering.complete recovering present
  unfold Screen.encoded
  dsimp only
  generalize delivered : (if screen.stopping then { screen with
      pipeline := screen.pipeline.complete index } else _) = after
  have step : after.pipeline.Recovering (if encode.forced then 1 else 0) after.stopping := by
    subst delivered
    by_cases stopping : screen.stopping = true
    · rw [if_pos stopping]
      exact completed
    · rw [if_neg stopping]
      have runs : screen.stopping = false := by simpa using stopping
      rw [runs] at completed
      have sent := completed.deliver outcome
      by_cases failed : ((screen.pipeline.complete index).deliver outcome).2 = true
      · rw [if_pos failed]
        refine sent.released (callback_released _ .failed reaction) ?_
        rw [Screen.callback, if_pos stops, stopWithCompletion_stops]
        exact fun running => absurd running (by simp)
      · rw [if_neg failed]
        refine sent.released (.refl _) ?_
        intro _
        simpa using failed
  refine Recovering.released (show Recovering { after with
    pipeline := after.pipeline.finish encode after.stopping } from step.finish)
    (finishStop_released _) ?_
  rw [(finishStop_kept _).stopping]
  exact id

/-- The runs in which a send that fails stops the capture, as its owner does. -/
def careful (_ : Screen) : Label → Bool
  | .encoded _ _ reaction => reaction.stops
  | _ => true

/-- What the pictures of a capture promise its viewer. -/
structure Pictures (screen : Screen) : Prop where
  /-- Every delta taken was sent after a key frame, with only contiguous deltas between. -/
  dependent : Dependent screen.pipeline.video.history
  /-- Frames are numbered without gaps and their times increase. -/
  numbered : Numbered screen.pipeline.video.history
  /-- Unless a key picture is asked for, one was taken and only contiguous deltas since. -/
  answered : screen.stopping = false → screen.pipeline.video.recovery.requested = false →
    Recovered screen.pipeline.video.history
  /-- One forced key picture is at the encoder at most. -/
  forced : screen.pipeline.forced ≤ 1
  /-- Three frames are at the encoder at most. -/
  capacity : screen.pipeline.encodes.length ≤ 3
  /-- A frame is submitted as a forced key picture just when one is asked for and none is there. -/
  next : ∀ valid failed reaction after,
    screen.step (.screenSample valid failed reaction) = some after →
      ∀ encode, after.pipeline.encodes = screen.pipeline.encodes ++ [encode] →
        (encode.forced = true ↔
          screen.pipeline.video.recovery.requested = true ∧ screen.pipeline.forced = 0)

/-- Every step keeps the pictures in order. -/
theorem recovering_step {screen after : Screen} {label : Label}
    (accounted : screen.pipeline.Accounted) (recovering : Recovering screen)
    (stepped : (system.restrict careful).step screen label = some after) : Recovering after := by
  obtain ⟨prudent, stepped⟩ := Option.ite_none_right_eq_some.mp stepped
  have quiet : ∀ {changed : Screen}, changed.pipeline = screen.pipeline →
      changed.stopping = screen.stopping → Recovering changed := by
    intro changed pipeline stopping
    unfold Recovering
    rw [pipeline, stopping]
    exact recovering
  cases label with
  | start bitrate tapMade valid reaction =>
    obtain ⟨unbegun, result⟩ := Option.ite_none_left_eq_some.mp stepped
    obtain rfl := Option.some.inj result
    have tap : Recovering (if screen.desktopAudioTap then
        Screen.createDesktopAudioTap (Screen.createAudioEncoder
          { screen with begun := true, bitrate }) tapMade
        else Screen.createAudioEncoder { screen with begun := true, bitrate }) := by
      split
      · unfold Screen.createDesktopAudioTap
        split <;> exact quiet rfl rfl
      · exact quiet rfl rfl
    unfold Screen.start
    dsimp only [Screen.createAudioEncoder, Screen.note] at tap ⊢
    split
    · exact tap.callback .failed reaction
    · exact tap
  | discovered discovery reaction =>
    obtain ⟨discovering, result⟩ := Option.ite_none_right_eq_some.mp stepped
    obtain rfl := Option.some.inj result
    have created : Recovering { screen.note .streamCreated with
        discovering := false
        starting := false
        pipeline := screen.pipeline.create screen.bitrate
        stream := true } :=
      Pipeline.Recovering.same recovering rfl rfl
    have done : Recovering { screen with discovering := false, starting := false } :=
      quiet rfl rfl
    unfold Screen.discovered
    dsimp only
    split
    · exact done.released (finishStop_released _) (by
        rw [(finishStop_kept _).stopping]
        exact id)
    · cases discovery with
      | unavailable => exact done.callback .failed reaction
      | outputRefused => exact created.callback .failed reaction
      | ready => exact created
  | streamStarted error reaction =>
    obtain ⟨starting, result⟩ := Option.ite_none_right_eq_some.mp stepped
    obtain rfl := Option.some.inj result
    have done : Recovering { screen with startingStream := false, starting := false } :=
      quiet rfl rfl
    unfold Screen.streamStarted
    dsimp only
    split
    · unfold Screen.stopCapture
      split
      · exact done.released (finishStop_released _) (by
          rw [(finishStop_kept _).stopping]
          exact id)
      · exact done
    · split
      · exact done.callback .failed reaction
      · refine (done.callback .started reaction).released (startDesktopAudio_released _ reaction) ?_
        exact startDesktopAudio_stopping _ reaction
  | streamStopped =>
    obtain ⟨leaving, result⟩ := Option.ite_none_right_eq_some.mp stepped
    obtain rfl := Option.some.inj result
    exact recovering.released (finishStop_released { screen.note .streamStopped with
      stoppingStream := false, captureStopped := true }) (by
        rw [(finishStop_kept _).stopping]
        exact id)
  | streamError reaction =>
    obtain ⟨stream, result⟩ := Option.ite_none_left_eq_some.mp stepped
    obtain rfl := Option.some.inj result
    split
    · exact recovering
    · exact recovering.callback .failed reaction
  | screenSample valid failed reaction =>
    obtain ⟨stream, result⟩ := Option.ite_none_right_eq_some.mp stepped
    obtain rfl := Option.some.inj result
    unfold Screen.screenSample
    dsimp only
    split
    · exact recovering
    · split
      · exact recovering.callback .failed reaction
      · split
        · exact recovering
        · next room =>
          have room : screen.pipeline.encodes.length < 3 := by
            simp only [Pipeline.skips, Bool.or_eq_true, decide_eq_true_eq, not_or] at room
            have flying := accounted.flying
            omega
          have submitted : Recovering { screen with
              pipeline := screen.pipeline.submit failed } :=
            Pipeline.Recovering.submit recovering room failed
          split
          · exact submitted.callback .failed reaction
          · exact submitted
  | audioSample encoded reaction =>
    obtain ⟨stream, result⟩ := Option.ite_none_right_eq_some.mp stepped
    obtain rfl := Option.some.inj result
    split
    · exact recovering
    · exact recovering.callback .failed reaction
  | encoded index outcome reaction =>
    obtain ⟨encode, present, rfl⟩ := Option.map_eq_some_iff.mp stepped
    exact recovering.encoded present prudent outcome
  | built succeeded reaction =>
    obtain ⟨building, result⟩ := Option.ite_none_left_eq_some.mp stepped
    obtain rfl := Option.some.inj result
    have built : Recovering { screen with pipeline := screen.pipeline.built } :=
      Pipeline.Recovering.same recovering rfl rfl
    have installed : Recovering { screen with
        pipeline := screen.pipeline.built.install succeeded } :=
      Pipeline.Recovering.install built succeeded
    have noted : ∀ event, Recovering (Screen.note { screen with
        pipeline := screen.pipeline.built.install succeeded } event) := fun _ => installed
    unfold Screen.built
    dsimp only
    split
    · refine Recovering.released (show Recovering (if succeeded then
        Screen.note { screen with pipeline := screen.pipeline.built } .encoderDisposed
        else { screen with pipeline := screen.pipeline.built }) from ?_) (finishStop_released _) ?_
      · split <;> exact built
      · rw [(finishStop_kept _).stopping]
        exact id
    · cases succeeded with
      | true =>
        simp only [if_true]
        split
        · exact (noted .encoderInstalled).callback _ reaction
        · exact installed
      | false =>
        simp only [Bool.false_eq_true, if_false]
        split
        · exact installed.callback _ reaction
        · exact installed
  | setBitrate bitrate reaction =>
    obtain ⟨begun, result⟩ := Option.ite_none_right_eq_some.mp stepped
    obtain rfl := Option.some.inj result
    obtain ⟨video, encodes⟩ := screen.pipeline.setBitrate_same screen.stopping bitrate
    have changed : Recovering { screen with
        pipeline := (screen.pipeline.setBitrate screen.stopping bitrate).1 } :=
      Pipeline.Recovering.same recovering video encodes
    unfold Screen.setBitrate
    dsimp only
    split
    · exact changed.callback (.replaced 0) reaction
    · exact changed
  | requestKeyFrame =>
    obtain ⟨begun, result⟩ := Option.ite_none_right_eq_some.mp stepped
    obtain rfl := Option.some.inj result
    exact Pipeline.Recovering.requestKeyFrame recovering
  | tapStarted ready route reaction =>
    obtain ⟨starting, result⟩ := Option.ite_none_right_eq_some.mp stepped
    obtain ⟨tap, current, rfl⟩ := Option.map_eq_some_iff.mp result
    unfold Screen.tapStarted
    dsimp only
    split
    · exact quiet rfl rfl
    · split
      · exact recovering.released (disableDesktopAudio_released _ reaction)
          (disableDesktopAudio_stopping _ reaction)
      · split <;> exact quiet rfl rfl
  | tapFailed reaction =>
    obtain ⟨tap, current, rfl⟩ := Option.map_eq_some_iff.mp stepped
    split
    · exact recovering
    · exact recovering.released (disableDesktopAudio_released _ reaction)
        (disableDesktopAudio_stopping _ reaction)
  | routeStopped index reaction =>
    obtain ⟨⟨route, tap⟩, present, rfl⟩ := Option.map_eq_some_iff.mp stepped
    exact recovering.released (stopTap_released _ tap reaction) (by
      rw [(stopTap_kept _ tap reaction).stopping]
      exact id)
  | tapStopped index =>
    obtain ⟨tap, present, rfl⟩ := Option.map_eq_some_iff.mp stepped
    exact recovering.released (tapStopped_released _ tap) (by
      rw [(tapStopped_kept _ tap).stopping]
      exact id)
  | restart tapMade reaction =>
    obtain ⟨planned, result⟩ := Option.ite_none_left_eq_some.mp stepped
    obtain rfl := Option.some.inj result
    unfold Screen.restart
    dsimp only
    split
    · exact quiet rfl rfl
    · have tap : Recovering (Screen.createDesktopAudioTap (Screen.createAudioEncoder { screen with
          restartTimers := screen.restartTimers - 1
          audioRestartPending := false
          audioDiscontinuity := true }) tapMade) := by
        unfold Screen.createDesktopAudioTap
        split <;> exact quiet rfl rfl
      exact tap.released (startDesktopAudio_released _ reaction)
        (startDesktopAudio_stopping _ reaction)
  | stop reaction =>
    obtain ⟨begun, result⟩ := Option.ite_none_right_eq_some.mp stepped
    obtain rfl := Option.some.inj result
    refine recovering.released (stopWithCompletion_released screen reaction) ?_
    rw [stopWithCompletion_stops]
    exact fun running => absurd running (by simp)

/-- In every run the pictures of a capture are in order. -/
theorem reachable_pictures {screen : Screen}
    (reachable : (system.restrict careful).Reachable screen) : Pictures screen := by
  have recovering : Recovering screen := by
    refine Transition.System.Reachable.keeps ?_ ?_ reachable
    · intro before label after reachable recovering stepped
      exact recovering_step (reachable_settled reachable.of_restrict).core.accounted recovering
        stepped
    · rintro screen ⟨desktop, rfl⟩
      exact ⟨Lawful.start, fun _ => Gated.start, rfl, Nat.zero_le 3⟩
  obtain ⟨lawful, gated, flagged, capacity⟩ := recovering
  refine ⟨lawful.dependent, lawful.numbered, fun runs => (gated runs).recovered, ?_, capacity, ?_⟩
  · split at flagged <;> omega
  · intro valid failed reaction after stepped encode appended
    have changed : after.pipeline.encodes ≠ screen.pipeline.encodes := by
      rw [appended]
      simp
    have unchanged : ∀ (before : Screen) (event : Event),
        (before.callback event reaction).pipeline.encodes = before.pipeline.encodes := by
      intro before event
      obtain ⟨_, _, released⟩ := callback_released before event reaction
      rw [released]
    obtain ⟨stream, result⟩ := Option.ite_none_right_eq_some.mp stepped
    obtain rfl := Option.some.inj result
    rw [← Pipeline.Recovering.begins ⟨lawful, gated, flagged, capacity⟩]
    have submitted : (screen.screenSample valid failed reaction).pipeline.encodes =
        (screen.pipeline.submit failed).encodes := by
      unfold Screen.screenSample at changed ⊢
      dsimp only at changed ⊢
      split
      · next stopping => exact absurd (by rw [if_pos stopping]) changed
      · next runs =>
        rw [if_neg runs] at changed
        split
        · next invalid => exact absurd (by rw [if_pos invalid, unchanged]) changed
        · next fits =>
          rw [if_neg fits] at changed
          split
          · next full => exact absurd (by rw [if_pos full]) changed
          · split
            · exact unchanged _ _
            · rfl
    rw [submitted] at appended
    rcases screen.pipeline.submit_cases failed with ⟨_, same⟩ | ⟨_, encoder, _, next⟩
    · exact absurd (submitted.trans (congrArg Pipeline.encodes same)) changed
    · rw [next] at appended
      obtain rfl := List.singleton_inj.mp (List.append_cancel_left appended)
      exact Iff.rfl

/-- A key frame, a delta, an eviction, a skipped delta and the forced key picture after it. -/
def samplePictures : List Label :=
  [.start 20000 true true {}, .discovered .ready {}, .streamStarted false {},
    .screenSample true false {},
    .encoded 0 (.sample ⟨true, true, true, some (true, 1), true, true, .ok⟩) { stops := true },
    .screenSample true false {},
    .encoded 0 (.sample ⟨true, true, true, some (false, 2), true, true, .dropped⟩)
      { stops := true },
    .screenSample true false {}, .screenSample true false {},
    .encoded 1 (.sample ⟨true, true, true, some (false, 3), true, true, .ok⟩) { stops := true },
    .encoded 0 (.sample ⟨true, true, true, some (true, 4), true, true, .ok⟩) { stops := true }]

/-- After an eviction the deltas are skipped until the forced key picture is taken. -/
theorem sample_pictures :
    (((system.restrict careful).run {} samplePictures).getD {}).Pictures ∧
    ((((system.restrict careful).run {} samplePictures).getD {}).pipeline.video.history.map
      fun event => (event.acceptedKey, event.contiguous)) =
        [(true, false), (false, false), (false, false), (true, false)] :=
  ⟨reachable_pictures (Transition.System.reachable_of_run ⟨false, rfl⟩
    (show (system.restrict careful).run {} samplePictures = some _ from rfl)), rfl⟩

end Screen

end Plank.Capture
