import Plank.Capture.Encoder
import Plank.Transition.System

/-!
# The screen capture

`screen-capture.m` on its serial queue. Every asynchronous call of a framework is outstanding
until its completion runs on the queue, and completions run in any order. A callback into the
owner may make it stop the capture before the callback returns. A tap and a route are numbered in
the order of their creation; a tap delivers neither its start nor a failure once it was stopped,
and its stop completes at once when it was cancelled before its activation (`audio-tap.m`). A
route that has finished completes its stop at once (`output-route.m`).
-/

namespace Plank.Capture

/-- What an observer sees of a capture. -/
inductive Event where
  /-- `started` was called. -/
  | started
  /-- `failed` was called. -/
  | failed
  /-- `stopWithCompletion` was called. -/
  | stop
  /-- The stop completion was called. -/
  | drained
  /-- The completion of a change of bitrate was called with this peak. -/
  | replaced (peak : Nat)
  /-- A stream was created. -/
  | streamCreated
  /-- The stop of the stream completed. -/
  | streamStopped
  /-- An audio encoder was created. -/
  | audioEncoderCreated
  /-- An audio tap was created. -/
  | tapCreated (tap : Nat)
  /-- An output route was started for a tap. -/
  | routeStarted (route tap : Nat)
  /-- The stop of an output route completed. -/
  | routeStopped (route : Nat)
  /-- A tap is stopped. -/
  | tapStop (tap : Nat)
  /-- The stop of a tap completed. -/
  | tapStopped (tap : Nat)
  /-- A replacement encoder was installed. -/
  | encoderInstalled
  /-- A replacement encoder was disposed of. -/
  | encoderDisposed
  deriving DecidableEq, Repr

/-- The instance variables of `PLANKMacScreenCapture`, with the calls outstanding. -/
structure Screen where
  /-- `_desktopAudioTap`. -/
  desktopAudioTap : Bool := false
  /-- Whether `_queue` is set. -/
  begun : Bool := false
  /-- Bitrate the capture is started with. -/
  bitrate : Nat := 0
  /-- `_stopping`. -/
  stopping : Bool := false
  /-- `_captureStopped`. -/
  captureStopped : Bool := false
  /-- `_starting`. -/
  starting : Bool := false
  /-- Whether `_drained` is set. -/
  drained : Bool := false
  /-- Whether `_stream` is set. -/
  stream : Bool := false
  /-- The encoder. -/
  pipeline : Pipeline := {}
  /-- Whether `_audioEncoder` is set. -/
  audioEncoder : Bool := false
  /-- `_audioTap`. -/
  audioTap : Option Nat := none
  /-- `_outputSelection`. -/
  outputSelection : Option Nat := none
  /-- `_audioStopped`. -/
  audioStopped : Bool := true
  /-- `_audioReady`. -/
  audioReady : Bool := false
  /-- `_audioRestartPending`. -/
  audioRestartPending : Bool := false
  /-- `_audioDiscontinuity`. -/
  audioDiscontinuity : Bool := false
  /-- `_audioRestarts`. -/
  audioRestarts : Nat := 0
  /-- Taps created so far. -/
  taps : Nat := 0
  /-- Routes created so far. -/
  routes : Nat := 0
  /-- Whether the display discovery is outstanding. -/
  discovering : Bool := false
  /-- Whether the start of the stream is outstanding. -/
  startingStream : Bool := false
  /-- Whether the stop of the stream is outstanding. -/
  stoppingStream : Bool := false
  /-- Whether the start of the current tap is outstanding. -/
  startingTap : Bool := false
  /-- Stops of routes outstanding, each with the tap to stop next. -/
  routeStopping : List (Nat × Nat) := []
  /-- Stops of taps outstanding. -/
  tapStopping : List Nat := []
  /-- Delayed restarts of the audio outstanding. -/
  restartTimers : Nat := 0
  /-- What an observer saw, newest first. -/
  trace : List Event := []
  deriving DecidableEq, Repr

/-- What the owner and the frameworks do before a call returns. -/
structure Reaction where
  /-- The owner stops the capture inside the callback. -/
  stops : Bool := false
  /-- The stop of a tap completes at once. -/
  tapCancelled : Bool := false
  /-- The stop of a route completes at once. -/
  routeDone : Bool := false
  /-- The start of a tap is refused at once. -/
  tapRefused : Bool := false
  deriving DecidableEq, Repr

/-- What the display discovery leads to. -/
inductive Discovery where
  /-- No display of this geometry, or no encoder. -/
  | unavailable
  /-- An encoder and a stream whose outputs are refused. -/
  | outputRefused
  /-- A stream that is started. -/
  | ready
  deriving DecidableEq, Repr

/-- Everything that can happen next on the queue. -/
inductive Label where
  /-- `startWithTopology`; `tapMade` is whether a tap could be made, `valid` whether the topology
  and the permission are. -/
  | start (bitrate : Nat) (tapMade valid : Bool) (reaction : Reaction)
  /-- The display discovery completes. -/
  | discovered (discovery : Discovery) (reaction : Reaction)
  /-- The start of the stream completes. -/
  | streamStarted (error : Bool) (reaction : Reaction)
  /-- The stop of the stream completes. -/
  | streamStopped
  /-- The stream stops with an error. -/
  | streamError (reaction : Reaction)
  /-- A complete screen sample; `valid` is whether it has the geometry and a later time, `failed`
  whether the encoder refuses it. -/
  | screenSample (valid failed : Bool) (reaction : Reaction)
  /-- An audio sample of the stream; `encoded` is whether the audio encoder took it. -/
  | audioSample (encoded : Bool) (reaction : Reaction)
  /-- The encoder completes a frame. -/
  | encoded (index : Nat) (encoded : Encoded) (reaction : Reaction)
  /-- The replacement encoder was built, or failed. -/
  | built (succeeded : Bool) (reaction : Reaction)
  /-- `setBitrate`. -/
  | setBitrate (bitrate : Nat) (reaction : Reaction)
  /-- The owner asks for a key picture. -/
  | requestKeyFrame
  /-- The start of the current tap completes; `route` is whether there is a route for it. -/
  | tapStarted (ready route : Bool) (reaction : Reaction)
  /-- The current tap fails. -/
  | tapFailed (reaction : Reaction)
  /-- The stop of a route completes. -/
  | routeStopped (index : Nat) (reaction : Reaction)
  /-- The stop of a tap completes. -/
  | tapStopped (index : Nat)
  /-- The delay of a restart is over. -/
  | restart (tapMade : Bool) (reaction : Reaction)
  /-- `stopWithCompletion`. -/
  | stop (reaction : Reaction)
  deriving DecidableEq, Repr

namespace Screen

/-- Write an event down. -/
def note (screen : Screen) (event : Event) : Screen :=
  { screen with trace := event :: screen.trace }

/-- `finishStop`. -/
def finishStop (screen : Screen) : Screen :=
  if !screen.stopping || !screen.captureStopped || !screen.audioStopped ||
      screen.pipeline.inFlight ≠ 0 || screen.pipeline.buildingEncoder then screen
  else
    { screen with
      pipeline := { screen.pipeline with encoder := none }
      stream := false
      drained := false
      trace := if screen.drained then .drained :: screen.trace else screen.trace }

/-- `stopCapture`. -/
def stopCapture (screen : Screen) : Screen :=
  if !screen.stream then { screen with captureStopped := true }.finishStop
  else { screen with stoppingStream := true }

/-- The completion of the stop of a tap. -/
def tapStopped (screen : Screen) (tap : Nat) : Screen :=
  let screen := { screen.note (.tapStopped tap) with audioStopped := true }.finishStop
  if screen.stopping || !screen.audioRestartPending then screen
  else { screen with restartTimers := screen.restartTimers + 1 }

/-- `stopTap` of `stopDesktopAudio`. -/
def stopTap (screen : Screen) (tap : Nat) (reaction : Reaction) : Screen :=
  let screen := screen.note (.tapStop tap)
  if reaction.tapCancelled then screen.tapStopped tap
  else { screen with tapStopping := screen.tapStopping ++ [tap] }

/-- `stopDesktopAudio`. -/
def stopDesktopAudio (screen : Screen) (reaction : Reaction) : Screen :=
  match screen.audioTap with
  | none => screen
  | some tap =>
    let released := { screen with audioTap := none, startingTap := false, outputSelection := none }
    match screen.outputSelection with
    | none => released.stopTap tap reaction
    | some route =>
      if reaction.routeDone then (released.note (.routeStopped route)).stopTap tap reaction
      else { released with routeStopping := released.routeStopping ++ [(route, tap)] }

/-- `stopWithCompletion`. -/
def stopWithCompletion (screen : Screen) (reaction : Reaction) : Screen :=
  if screen.stopping then screen
  else
    let screen := { screen.note .stop with
      stopping := true
      drained := true
      audioRestartPending := false
      pipeline := { screen.pipeline with replacementCompletion := false }
      audioEncoder := false }
    let screen := screen.stopDesktopAudio reaction
    if screen.starting then screen else screen.stopCapture

/-- A callback into the owner, which may stop the capture. -/
def callback (screen : Screen) (event : Event) (reaction : Reaction) : Screen :=
  let screen := screen.note event
  if reaction.stops then screen.stopWithCompletion reaction else screen

/-- `disableDesktopAudio`. -/
def disableDesktopAudio (screen : Screen) (reaction : Reaction) : Screen :=
  if screen.audioTap.isNone then screen
  else
    let pending := screen.audioReady && !screen.stopping && screen.audioRestarts < 3
    { screen with
      audioRestartPending := pending
      audioRestarts := if pending then screen.audioRestarts + 1 else screen.audioRestarts
      audioReady := false
      audioEncoder := false }.stopDesktopAudio reaction

/-- `createAudioEncoder`. -/
def createAudioEncoder (screen : Screen) : Screen :=
  { screen.note .audioEncoderCreated with audioEncoder := true }

/-- `createDesktopAudioTap`; `made` is whether the tap could be made. -/
def createDesktopAudioTap (screen : Screen) (made : Bool) : Screen :=
  if made then
    { screen.note (.tapCreated screen.taps) with
      audioReady := false
      audioTap := some screen.taps
      taps := screen.taps + 1
      audioStopped := false }
  else { screen with audioReady := false, audioTap := none, audioStopped := true }

/-- `startDesktopAudio`. -/
def startDesktopAudio (screen : Screen) (reaction : Reaction) : Screen :=
  if screen.stopping || screen.audioTap.isNone then screen
  else if reaction.tapRefused then { screen with audioReady := false }.disableDesktopAudio reaction
  else { screen with startingTap := true }

/-- The completion of the start of the current tap. -/
def tapStarted (screen : Screen) (tap : Nat) (ready route : Bool) (reaction : Reaction) : Screen :=
  let screen := { screen with startingTap := false }
  if screen.stopping then screen
  else
    let screen := { screen with audioReady := ready }
    if !ready then screen.disableDesktopAudio reaction
    else if route then
      { screen.note (.routeStarted screen.routes tap) with
        outputSelection := some screen.routes
        routes := screen.routes + 1 }
    else screen

/-- `startWithTopology`. -/
def start (screen : Screen) (bitrate : Nat) (tapMade valid : Bool) (reaction : Reaction) : Screen :=
  let screen := { screen with begun := true, bitrate }.createAudioEncoder
  let screen := if screen.desktopAudioTap then screen.createDesktopAudioTap tapMade else screen
  if !valid then screen.callback .failed reaction
  else { screen with starting := true, discovering := true }

/-- The completion of the display discovery. -/
def discovered (screen : Screen) (discovery : Discovery) (reaction : Reaction) : Screen :=
  let screen := { screen with discovering := false, starting := false }
  if screen.stopping then { screen with captureStopped := true }.finishStop
  else
    let created := { screen.note .streamCreated with
      pipeline := screen.pipeline.create screen.bitrate, stream := true }
    match discovery with
    | .unavailable => screen.callback .failed reaction
    | .outputRefused => created.callback .failed reaction
    | .ready => { created with starting := true, startingStream := true }

/-- The completion of the start of the stream. -/
def streamStarted (screen : Screen) (error : Bool) (reaction : Reaction) : Screen :=
  let screen := { screen with startingStream := false, starting := false }
  if screen.stopping then screen.stopCapture
  else if error then screen.callback .failed reaction
  else (screen.callback .started reaction).startDesktopAudio reaction

/-- A complete screen sample. -/
def screenSample (screen : Screen) (valid failed : Bool) (reaction : Reaction) : Screen :=
  if screen.stopping then screen
  else if !valid then screen.callback .failed reaction
  else if screen.pipeline.skips then screen
  else
    let submitted := { screen with pipeline := screen.pipeline.submit failed }
    if failed || screen.pipeline.encoder.isNone then submitted.callback .failed reaction
    else submitted

/-- The block of the encoder's completion. -/
def encoded (screen : Screen) (index : Nat) (encode : Encode) (outcome : Encoded)
    (reaction : Reaction) : Screen :=
  let screen := { screen with pipeline := screen.pipeline.complete index }
  let screen := if screen.stopping then screen
    else
      let (pipeline, failed) := screen.pipeline.deliver outcome
      let screen := { screen with pipeline }
      if failed then screen.callback .failed reaction else screen
  { screen with pipeline := screen.pipeline.finish encode screen.stopping }.finishStop

/-- The replacement encoder was built, or failed. -/
def built (screen : Screen) (succeeded : Bool) (reaction : Reaction) : Screen :=
  let screen := { screen with pipeline := screen.pipeline.built }
  if screen.stopping then
    (if succeeded then screen.note .encoderDisposed else screen).finishStop
  else
    let completion := screen.pipeline.replacementCompletion
    let peak := if succeeded then screen.pipeline.replacementBitrate * 2 else 0
    let screen := { screen with pipeline := screen.pipeline.install succeeded }
    let screen := if succeeded then screen.note .encoderInstalled else screen
    if completion then screen.callback (.replaced peak) reaction else screen

/-- `setBitrate`. -/
def setBitrate (screen : Screen) (bitrate : Nat) (reaction : Reaction) : Screen :=
  let (pipeline, refused) := screen.pipeline.setBitrate screen.stopping bitrate
  let screen := { screen with pipeline }
  if refused then screen.callback (.replaced 0) reaction else screen

/-- The delay of a restart is over. -/
def restart (screen : Screen) (tapMade : Bool) (reaction : Reaction) : Screen :=
  let screen := { screen with restartTimers := screen.restartTimers - 1 }
  if screen.stopping || !screen.audioRestartPending then screen
  else
    ({ screen with audioRestartPending := false, audioDiscontinuity := true }.createAudioEncoder
      |>.createDesktopAudioTap tapMade).startDesktopAudio reaction

/-- The effect of one label. -/
def step (screen : Screen) : Label → Option Screen
  | .start bitrate tapMade valid reaction =>
    if screen.begun then none else some (screen.start bitrate tapMade valid reaction)
  | .discovered discovery reaction =>
    if screen.discovering then some (screen.discovered discovery reaction) else none
  | .streamStarted error reaction =>
    if screen.startingStream then some (screen.streamStarted error reaction) else none
  | .streamStopped =>
    if screen.stoppingStream then
      some { screen.note .streamStopped with
        stoppingStream := false, captureStopped := true }.finishStop
    else none
  | .streamError reaction =>
    if !screen.stream then none
    else some (if screen.stopping then screen else screen.callback .failed reaction)
  | .screenSample valid failed reaction =>
    if screen.stream then some (screen.screenSample valid failed reaction) else none
  | .audioSample encoded reaction =>
    if screen.stream && !screen.desktopAudioTap then
      some (if screen.stopping || encoded then screen else screen.callback .failed reaction)
    else none
  | .encoded index outcome reaction =>
    screen.pipeline.encodes[index]?.map fun encode => screen.encoded index encode outcome reaction
  | .built succeeded reaction =>
    if screen.pipeline.builds = 0 then none else some (screen.built succeeded reaction)
  | .setBitrate bitrate reaction =>
    if screen.begun then some (screen.setBitrate bitrate reaction) else none
  | .requestKeyFrame =>
    if screen.begun then
      some { screen with
        pipeline := { screen.pipeline with video := screen.pipeline.video.requestKeyFrame } }
    else none
  | .tapStarted ready route reaction =>
    if screen.startingTap then
      screen.audioTap.map fun tap => screen.tapStarted tap ready route reaction
    else none
  | .tapFailed reaction =>
    screen.audioTap.map fun _ =>
      if screen.stopping then screen else screen.disableDesktopAudio reaction
  | .routeStopped index reaction =>
    screen.routeStopping[index]?.map fun (route, tap) =>
      { screen.note (.routeStopped route) with
        routeStopping := screen.routeStopping.eraseIdx index }.stopTap tap reaction
  | .tapStopped index =>
    screen.tapStopping[index]?.map fun tap =>
      { screen with tapStopping := screen.tapStopping.eraseIdx index }.tapStopped tap
  | .restart tapMade reaction =>
    if screen.restartTimers = 0 then none else some (screen.restart tapMade reaction)
  | .stop reaction => if screen.begun then some (screen.stopWithCompletion reaction) else none

/-- Every run of a capture, with desktop audio or without. -/
def system : Transition.System Screen Label where
  initial screen := ∃ desktopAudioTap, screen = { desktopAudioTap }
  step := step

end Screen

end Plank.Capture
