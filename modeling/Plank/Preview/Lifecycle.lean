import Plank.Auth.History
import Plank.Input.Event
import Plank.Native.Lifecycle
import Plank.Preview.Bitrate
import Plank.Program.Triple
import Plank.Transport.Envelope

/-!
# The life of a preview session

`preview-session.m` from `start` to `finishStop`. Its queue is serial, so a block that runs on it
runs whole; a block that returns early is a program that stops. The thread that receives input waits
outside the queue and hands one packet at a time over to it. Others call the same authentication
sessions at any time, also inside a block, before each call of its own. What the topology, the
transport, the capture and the input answer comes with each block, and the capture may call back
before it returns. An observer keeps a log, newest first.
-/

namespace Plank.Preview

open Auth (GraphicalIdentity)
open Input (InputResult)
open Native (EndpointState)
open Program
open Transport (ShortPacket readU32)

/-! ### The state -/

/-- What a packet or a timer is handled as. -/
inductive Handled where
  /-- A control packet. -/
  | control
  /-- An input packet. -/
  | input
  /-- A key repeat. -/
  | keyRepeat
  deriving DecidableEq, Repr

/-- What an observer of the session sees. -/
inductive PreviewEvent where
  /-- The state was set. -/
  | entered (state : PreviewState)
  /-- Something was handled. -/
  | handled (kind : Handled)
  /-- The capture was started. -/
  | captureStarted
  /-- The capture reported that it has drained. -/
  | captureDrained
  /-- The input receiver was started. -/
  | receiverStarted
  /-- The input receiver left its group. -/
  | receiverExited
  /-- `[_input stop]`; whether there is an input. -/
  | inputStopped (input : Bool)
  /-- `endStreamLease`. -/
  | leaseEnded
  /-- `plank_transport_native_endpoint_stop`. -/
  | endpointStopped
  /-- `plank_transport_native_endpoint_destroy`. -/
  | endpointDestroyed
  /-- `didStop` was called. -/
  | didStop
  /-- The completion of a stop or of a takeover that was granted was kept. -/
  | registered (request : Nat)
  /-- A completion was called; a takeover is told whether the session stopped for it. -/
  | completed (request : Nat) (stopped : Bool)
  deriving DecidableEq, Repr

/-- What `plank_transport_native_input_receive` returns. -/
inductive InputReceived where
  /-- `PLANK_TRANSPORT_TIMEOUT`. -/
  | timeout
  /-- Any other code but `PLANK_TRANSPORT_OK`. -/
  | failed (result : Int)
  /-- `PLANK_TRANSPORT_INPUT_CLIPBOARD_OFFER`. -/
  | clipboardOffer
  /-- A packet of any other type. -/
  | packet (type : UInt8)
  deriving DecidableEq, Repr

/-- How far the thread that receives input is. -/
inductive ReceiverStage where
  /-- It was not started. -/
  | unborn
  /-- It waits in the transport. -/
  | receiving
  /-- It waits for the queue. -/
  | handing (received : InputReceived)
  /-- It was told not to go on. -/
  | leaving
  /-- It left the group, whose notification waits for the queue. -/
  | exited
  /-- The notification has run. -/
  | notified
  deriving DecidableEq, Repr

/-- Whether `_inputGroup` is not empty. -/
def ReceiverStage.running : ReceiverStage → Bool
  | .receiving | .handing _ | .leaving => true
  | _ => false

/-- How far `stopWithCompletion` of the capture is. -/
inductive CaptureStop where
  /-- It was not called. -/
  | idle
  /-- The capture drains. -/
  | draining
  /-- It has drained, and its completion waits for the queue. -/
  | drained
  /-- The completion has run. -/
  | reported
  deriving DecidableEq, Repr

/-- The instance variables that say how far a session is, with what is outside of it. -/
structure Life where
  /-- `_sessions`. -/
  sessions : Auth.Session
  /-- `_lease`. -/
  lease : Nat
  /-- Whether `didStop` was set. -/
  announces : Bool
  /-- `state`. -/
  state : PreviewState := .prepared
  /-- `_captureStarted`. -/
  captureStarted : Bool := false
  /-- `_captureDrained`. -/
  captureDrained : Bool := false
  /-- The stop of the capture. -/
  captureStop : CaptureStop := .idle
  /-- `_endpoint`; whether there is one. -/
  endpoint : Bool := true
  /-- `_input`; whether there is one. -/
  input : Bool := false
  /-- `didStop`; whether it is still set. -/
  didStop : Bool := announces
  /-- The thread that receives input. -/
  receiver : ReceiverStage := .unborn
  /-- `_stopCallbacks`, by the number of the request. -/
  stopCallbacks : List Nat := []
  /-- How many stops and takeovers were asked for. -/
  requests : Nat := 0
  /-- What an observer saw, newest first. -/
  log : List PreviewEvent := []

/-- The instance variables that a change of bitrate uses. -/
structure Rates where
  /-- `_bitrate`. -/
  bitrate : Nat
  /-- `_pendingBitrate`. -/
  pendingBitrate : Nat := 0
  /-- `_changingBitrate`. -/
  changingBitrate : Bool := false
  /-- `_bitrateDue`. -/
  bitrateDue : Nat := 0
  /-- `_bitrateFirstRequest`. -/
  bitrateFirstRequest : Nat := 0
  /-- `_bitrateDeadline`. -/
  bitrateDeadline : Nat := 0
  deriving DecidableEq, Repr

/-- A request for a bitrate in range becomes the pending one. -/
def Rates.request (rates : Rates) (bitrate now : Nat) : Rates :=
  let rates := if rates.pendingBitrate = 0 then { rates with bitrateFirstRequest := now } else rates
  if rates.pendingBitrate = bitrate then rates
  else
    { rates with
      pendingBitrate := bitrate
      bitrateDue := min (now + 150 * nsecPerMsec) (rates.bitrateFirstRequest + 500 * nsecPerMsec) }

/-- `PLANKMacPreviewSession`. -/
structure PreviewSession extends Life where
  /-- `clipboardEnabled`. -/
  clipboardEnabled : Bool
  /-- `microphoneEnabled`. -/
  microphoneEnabled : Bool
  /-- `cameraEnabled`. -/
  cameraEnabled : Bool
  /-- Whether the capture drains before its `stopWithCompletion` returns. -/
  drainsAtOnce : Bool
  /-- The bitrate and its changes. -/
  rates : Rates
  /-- `stopReason`. -/
  stopReason : Option String := none
  /-- `_inputDevice`; whether there is one. -/
  inputDevice : Bool := true
  /-- `_clipboard`; whether there is one. -/
  clipboard : Bool := false
  /-- `_microphone`; whether there is one. -/
  microphone : Bool := false
  /-- `_camera`; whether there is one. -/
  camera : Bool := false
  /-- `_captureDeadline`. -/
  captureDeadline : Nat := 0
  /-- The completions of `setBitrate` that the capture holds, by the bitrate each is for. -/
  changes : List Nat := []
  /-- How many stops are delayed by a takeover. -/
  delayed : Nat := 0

/-- The states in their order. -/
def PreviewState.rank : PreviewState → Nat
  | .prepared => 0
  | .connecting => 1
  | .streaming => 2
  | .stopping => 3
  | .stopped => 4

/-! ### What the calls of a block are answered -/

/-- What a completion of `setBitrate` is given and answered. -/
structure BitrateChange where
  /-- The peak of the new encoder; zero if it failed. -/
  peak : Nat
  /-- Whether `plank_transport_native_set_video_bitrate` succeeds. -/
  policyOk : Bool
  /-- Whether the acknowledgement can be encoded and sent. -/
  sendOk : Bool
  deriving DecidableEq, Repr

/-- What `applyPendingBitrate` is answered. -/
structure BitrateReading where
  /-- The clock. -/
  now : Nat
  /-- Whether the acknowledgement of the bitrate in use can be encoded and sent. -/
  sendOk : Bool
  /-- The completion of `setBitrate`, if the capture calls it before it returns. -/
  atOnce : Option BitrateChange
  deriving DecidableEq, Repr

/-- A call of the capture back to the session. -/
inductive CaptureCall where
  /-- `started`; whether `plank_transport_native_set_video_bitrate` succeeds. -/
  | started (peak : Nat) (policyOk : Bool)
  /-- `failed`. -/
  | failed
  deriving DecidableEq, Repr

/-- What `plank_transport_native_data_receive` returns. -/
inductive ControlReceived where
  /-- `PLANK_TRANSPORT_TIMEOUT`. -/
  | timeout
  /-- Any other code but `PLANK_TRANSPORT_OK`. -/
  | failed (result : Int)
  /-- A packet, if it can be decoded, with whether the camera or the microphone accepts it, and the
  clock. -/
  | packet (decoded : Option ShortPacket) (accepted : Bool) (now : Nat)
  deriving DecidableEq, Repr

/-- What the start of the media in a tick is answered. -/
structure MediaReading where
  /-- What others call before the lease is activated. -/
  meanwhile : List Auth.Action
  /-- The seconds that pass before the clock is read. -/
  wait : Nat
  /-- The snapshot that is read. -/
  current : GraphicalIdentity
  /-- Whether there are a video and an audio. -/
  mediaMade : Bool
  /-- Whether there is an input. -/
  inputMade : Bool
  /-- The clock. -/
  now : Nat
  /-- What the capture calls before its start returns. -/
  calls : List CaptureCall

/-- What a tick is answered. -/
structure TickReading where
  /-- The seconds that pass before the clock is read. -/
  wait : Nat
  /-- The snapshot that is read. -/
  current : GraphicalIdentity
  /-- What others call before the token of the lease is read. -/
  meanwhile : List Auth.Action
  /-- Whether the topology is still the one selected. -/
  topologySame : Bool
  /-- `plank_transport_native_endpoint_state`. -/
  transport : EndpointState
  /-- The start of the media. -/
  media : MediaReading
  /-- `[_inputDevice available]`. -/
  available : Bool
  /-- The clock. -/
  now : Nat
  /-- What is received as control. -/
  controls : List ControlReceived
  /-- The change of bitrate. -/
  bitrate : BitrateReading

/-- What a packet that is handed over is answered. -/
structure InputReading where
  /-- Whether the clipboard accepts it. -/
  accepted : Bool
  /-- What became of it as input. -/
  delivered : InputResult
  deriving DecidableEq, Repr

/-- What a takeover brings and is answered. -/
structure TakeoverReading where
  /-- `valid()`. -/
  valid : Bool
  /-- `token`. -/
  token : Option Auth.Text
  /-- `peer`. -/
  peer : Option Auth.Peer
  /-- The seconds that pass before the clock is read. -/
  wait : Nat
  /-- The snapshot that is read. -/
  current : GraphicalIdentity
  /-- The snapshot that is read after pruning. -/
  again : GraphicalIdentity

/-- `PLANKMacInputResult`, as a number. -/
def resultCode : InputResult → Nat
  | .event => 0
  | .noEvent => 1
  | .unsupported => 2
  | .malformed => 3
  | .stopped => 4
  | .denied => 5

namespace PreviewSession

/-! ### Small changes -/

/-- Write an event down. -/
def note (session : PreviewSession) (event : PreviewEvent) : PreviewSession :=
  { session with log := event :: session.log }

/-- Set the state. -/
def enter (session : PreviewSession) (state : PreviewState) : PreviewSession :=
  { session with state := state }.note (.entered state)

/-- A call of the authentication sessions. -/
def call (session : PreviewSession) (action : Auth.Action) : PreviewSession :=
  { session with sessions := (session.sessions.step action).getD session.sessions }

/-- Calls of others. -/
def others (session : PreviewSession) (actions : List Auth.Action) : PreviewSession :=
  actions.foldl call session

/-- Set what a change of bitrate uses. -/
def retune (session : PreviewSession) (rates : Rates) : PreviewSession := { session with rates }

/-! ### The end -/

/-- The endpoint is destroyed, if there is one. -/
def destroyEndpoint (session : PreviewSession) : PreviewSession :=
  if session.endpoint then { session.note .endpointDestroyed with endpoint := false } else session

/-- `didStop` is called once, if it is set. -/
def announce (session : PreviewSession) : PreviewSession :=
  if session.didStop then { session.note .didStop with didStop := false } else session

/-- The kept completions are called. -/
def callBack (session : PreviewSession) : PreviewSession :=
  session.stopCallbacks.foldl (fun session request => session.note (.completed request true))
    { session with stopCallbacks := [] }

/-- `finishStop`. -/
def finishStop (session : PreviewSession) : PreviewSession :=
  if session.state ≠ .stopping || !session.captureDrained || session.receiver.running then session
  else
    let session := { session with input := false, inputDevice := false, clipboard := false }
    (session.destroyEndpoint.enter .stopped).announce.callBack

/-- The completion block of the capture's stop. -/
def captureReported (session : PreviewSession) : PreviewSession :=
  { session.note .captureDrained with
    captureStop := .reported, captureDrained := true }.finishStop

/-- The part of `stopOnQueueForReason` before the capture is stopped. -/
def revoke (reason : String) (session : PreviewSession) : PreviewSession :=
  let session := { session with stopReason := some reason }.enter .stopping
  let session := { session with microphone := false, camera := false }
  let session := session.note (.inputStopped session.input)
  let session := (session.call (.endStreamLease (some session.lease))).note .leaseEnded
  if session.endpoint then session.note .endpointStopped else session

/-- `stopOnQueueForReason`. -/
def stopOnQueue (reason : String) (session : PreviewSession) : PreviewSession :=
  if session.state = .stopping || session.state = .stopped then session
  else
    let session := session.revoke reason
    if session.captureStarted then
      let session := { session with captureStop := .draining }
      if session.drainsAtOnce then session.captureReported else session
    else { session with captureDrained := true }.finishStop

end PreviewSession

/-- A block on the queue, that may return early. -/
abbrev Block := Program PreviewSession Unit Unit

namespace PreviewSession

/-- Stop the session and return. -/
def halt (reason : String) : Block := do
  modify (stopOnQueue reason)
  stop ()

/-- Return on a condition. -/
def returnIf (condition : Bool) : Block := if condition then stop () else pure ()

/-- Stop the session and return on a condition. -/
def haltIf (condition : Bool) (reason : String) : Block :=
  if condition then halt reason else pure ()

/-! ### Start -/

/-- `start`; whether the endpoint starts. -/
def start (started : Bool) : Block := do
  let session ← read
  returnIf (session.state ≠ .prepared)
  modify fun session => session.enter .connecting
  haltIf (!started) "transport-start-failed"

/-- `startClipboard`. -/
def startClipboard (session : PreviewSession) : PreviewSession :=
  { session with clipboard := session.clipboardEnabled }

/-- `startMicrophone`. -/
def startMicrophone (session : PreviewSession) : PreviewSession :=
  { session with microphone := session.microphoneEnabled }

/-- `startCamera`. -/
def startCamera (session : PreviewSession) : PreviewSession :=
  { session with camera := session.cameraEnabled }

/-- `startInputReceiver`. -/
def startInputReceiver (session : PreviewSession) : PreviewSession :=
  { session.note .receiverStarted with receiver := .receiving }

/-- The blocks `started` and `failed` of the capture. -/
def captureCall : CaptureCall → Block
  | .started peak policyOk => do
    let session ← read
    returnIf (session.state ≠ .connecting)
    haltIf (peak < session.rates.bitrate || !policyOk) "initial-bitrate-failed"
    modify fun session =>
      (session.enter .streaming).startClipboard.startMicrophone.startCamera.startInputReceiver
  | .failed => modify (stopOnQueue "capture-failed")

/-! ### Bitrate -/

/-- `acknowledgeBitrate`; whether the packet can be encoded and sent. -/
def acknowledgeBitrate (sendOk : Bool) : Block :=
  if sendOk then pure () else modify (stopOnQueue "bitrate-acknowledgment-failed")

/-- The completion block of `setBitrate`. -/
def bitrateChanged (bitrate : Nat) (change : BitrateChange) : Block := do
  let session ← read
  returnIf (session.state ≠ .streaming)
  modify fun session => session.retune { session.rates with changingBitrate := false }
  haltIf (change.peak < bitrate || !change.policyOk) "bitrate-update-failed"
  modify fun session => session.retune { session.rates with bitrate }
  acknowledgeBitrate change.sendOk

/-- `setBitrate` of the capture: its completion is called at once or kept. -/
def setBitrate (bitrate : Nat) : Option BitrateChange → Block
  | some change => method (bitrateChanged bitrate change)
  | none => modify fun session => { session with changes := session.changes ++ [bitrate] }

/-- The end of `applyPendingBitrate`, where the pending request is due. -/
def takeBitrate (reading : BitrateReading) : Block := do
  let session ← read
  let bitrate := session.rates.pendingBitrate
  modify fun session => session.retune { session.rates with pendingBitrate := 0 }
  if bitrate = session.rates.bitrate then acknowledgeBitrate reading.sendOk
  else do
    modify fun session => session.retune { session.rates with
      changingBitrate := true
      bitrateDeadline := reading.now + 5000 * nsecPerMsec }
    setBitrate bitrate reading.atOnce

/-- `applyPendingBitrate`. -/
def applyPendingBitrate (reading : BitrateReading) : Block := do
  let session ← read
  returnIf (session.state ≠ .streaming)
  if session.rates.changingBitrate then
    haltIf (reading.now ≥ session.rates.bitrateDeadline) "encoder-replacement-timeout"
  else if session.rates.pendingBitrate = 0 || reading.now < session.rates.bitrateDue then pure ()
  else takeBitrate reading

/-! ### Control -/

/-- A request for a bitrate in `receiveControls`. -/
def requestBitrate (bitrate now : Nat) : Block := do
  haltIf (bitrate < 10000 || bitrate > 150000) "bitrate-out-of-range"
  modify fun session => session.retune (session.rates.request bitrate now)

/-- What `receiveControls` does with a packet that it could decode. A key picture is asked for
without any effect on the session. -/
def handleControl (packet : ShortPacket) (accepted : Bool) (now : Nat) : Block := do
  let session ← read
  if packet.type = 1 && packet.payload.length = 0 then halt "client-disconnect"
  else if packet.type = 3 && packet.payload.length = 0 then pure ()
  else if packet.type = 4 && packet.payload.length = 8 &&
      readU32 packet.payload 0 ≤ readU32 packet.payload 4 then pure ()
  else if packet.type = 5 && packet.payload.length = 4 then
    requestBitrate (readU32 packet.payload 0).toNat now
  else if packet.type = 10 && session.cameraEnabled then
    haltIf (!(session.camera && accepted)) "camera-control-rejected"
  else if packet.type = 8 && session.microphoneEnabled then
    haltIf (!(session.microphone && accepted)) "microphone-control-rejected"
  else halt "control-unsupported"

/-- One round of `receiveControls`. -/
def receiveControl : ControlReceived → Block
  | .timeout => stop ()
  | .failed result => halt s!"control-receive-failed result={result}"
  | .packet decoded accepted now => do
    modify fun session => session.note (.handled .control)
    match decoded with
    | none => halt "control-malformed"
    | some packet => handleControl packet accepted now

/-- `receiveControls`: eight packets at most. -/
def receiveControls (controls : List ControlReceived) : Block :=
  forEach (fun received _ => receiveControl received) (controls.take 8) ()

/-! ### Ticks -/

/-- The part of a tick that starts the media. -/
def startMedia (reading : MediaReading) : Block := do
  modify fun session => session.others reading.meanwhile
  let session ← read
  let activated := (session.sessions.state.activateStreamLease (some session.lease)
    (session.sessions.clock + reading.wait) reading.current).2
  modify fun session =>
    session.call (.activateStreamLease (some session.lease) reading.wait reading.current)
  haltIf (!activated) "lease-activation-failed"
  modify fun session => { session with input := reading.inputMade }
  haltIf (!(reading.mediaMade && reading.inputMade)) "media-input-initialization-failed"
  modify fun session => { session.note .captureStarted with
    captureStarted := true
    captureDeadline := reading.now + 5000 * nsecPerMsec }
  forEach (fun call _ => method (captureCall call)) reading.calls ()

/-- The part of a tick that looks at the endpoint being ready; whether the lease is active. -/
def tickReady (active : Bool) (reading : TickReading) : Block := do
  let session ← read
  if session.state = .connecting && !session.captureStarted && reading.transport = .ready then
    startMedia reading.media
  else haltIf (session.captureStarted && !active) "stream-authorization-ended"

/-- The end of a tick. -/
def tickStreaming (reading : TickReading) : Block := do
  let session ← read
  haltIf (session.captureStarted && !(session.inputDevice && reading.available))
    "input-permission-unavailable"
  haltIf (session.captureStarted && session.state = .connecting &&
    reading.now ≥ session.captureDeadline) "capture-start-timeout"
  returnIf (session.state ≠ .streaming)
  method (receiveControls reading.controls)
  method (applyPendingBitrate reading.bitrate)

/-- `tick`. -/
def tick (reading : TickReading) : Block := do
  let session ← read
  returnIf (session.state ≠ .connecting && session.state ≠ .streaming)
  let active := (session.sessions.state.authorizeStreamLease (some session.lease) true
    (session.sessions.clock + reading.wait) reading.current).2
  modify fun session =>
    session.call (.authorizeStreamLease (some session.lease) true reading.wait reading.current)
  modify fun session => session.others reading.meanwhile
  let session ← read
  haltIf (session.sessions.state.leases session.lease).transportToken.isNone "lease-ended"
  haltIf (!reading.topologySame) "topology-changed"
  haltIf (reading.transport = .failed || reading.transport = .stopping ||
    reading.transport = .stopped || reading.transport = .invalid) "transport-ended"
  tickReady active reading
  tickStreaming reading

/-! ### Input -/

/-- Whether the session stops for what became of an input packet. -/
def rejects (delivered : InputResult) : Bool :=
  delivered = .malformed || delivered = .denied || delivered = .stopped

/-- What became of an input packet, in the reason of a stop. -/
def causeOf : InputResult → String
  | .malformed => "malformed"
  | .denied => "denied"
  | _ => "stopped"

/-- What the block that a packet is handed over to does while the session streams. -/
def handleInput (reading : InputReading) : InputReceived → Block
  | .timeout => pure ()
  | .failed result => halt s!"input-receive-failed result={result}"
  | .clipboardOffer => do
    modify fun session => session.note (.handled .input)
    let session ← read
    haltIf (!(session.clipboard && reading.accepted)) "clipboard-rejected"
  | .packet type => do
    modify fun session => session.note (.handled .input)
    let cause := causeOf reading.delivered
    haltIf (rejects reading.delivered) s!"input-{cause} type={type}"

/-- The block of `startInputReceiver` that a packet is handed over to: it ends with `keepGoing` set,
unless it returns early. -/
def handOver (reading : InputReading) (received : InputReceived) : Block := do
  let session ← read
  returnIf (session.state ≠ .streaming)
  handleInput reading received

/-- The thread after the block that it handed a packet to. -/
def afterHandOver (session : PreviewSession) (reading : InputReading) (received : InputReceived) :
    PreviewSession :=
  match handOver reading received session with
  | (.ok _, after) => { after with receiver := .receiving }
  | (.error _, after) => { after with receiver := .leaving }

/-- The handler of `_repeatWatch`. -/
def keyRepeat (result : InputResult) : Block := do
  let session ← read
  returnIf (session.state ≠ .streaming)
  modify fun session => session.note (.handled .keyRepeat)
  let code := resultCode result
  haltIf (rejects result) s!"key-repeat-rejected result={code}"

/-! ### Stops and takeovers -/

/-- The block of `takeOverWithToken`. -/
def takeOver (reading : TakeoverReading) (session : PreviewSession) : PreviewSession :=
  let request := session.requests
  let session := { session with requests := request + 1 }
  if !reading.valid then session.note (.completed request false)
  else
    let (_, record) := session.sessions.state.authorizeTakeoverToken reading.token reading.peer
      (some session.lease) (session.sessions.clock + reading.wait) reading.current reading.again
    let session := session.call (.authorizeTakeoverToken reading.token reading.peer
      (some session.lease) reading.wait reading.current reading.again)
    if record.isNone then session.note (.completed request false)
    else
      { session.note (.registered request) with
        stopCallbacks := session.stopCallbacks ++ [request]
        delayed := session.delayed + 1 }

/-- The block of `stopWithCompletion`; whether there is a completion. -/
def stopWithCompletion (completion : Bool) (session : PreviewSession) : PreviewSession :=
  let request := session.requests
  let session := { session with requests := request + 1 }
  if session.state = .stopped then
    if completion then (session.note (.registered request)).note (.completed request true)
    else session
  else
    let session := if completion then
        { session.note (.registered request) with
          stopCallbacks := session.stopCallbacks ++ [request] }
      else session
    stopOnQueue "owner-stop" session

/-! ### Runs -/

/-- Everything that can happen next. -/
inductive Label where
  /-- Someone else calls the authentication sessions. -/
  | others (action : Auth.Action)
  /-- `start`. -/
  | start (started : Bool)
  /-- The watchdog fires. -/
  | tick (reading : TickReading)
  /-- The capture calls back. -/
  | captureCall (call : CaptureCall)
  /-- The capture calls one of the completions of `setBitrate`. -/
  | bitrateChanged (index : Nat) (change : BitrateChange)
  /-- The transport returns from a receive of input. -/
  | inputReceived (received : InputReceived)
  /-- The packet is handed over. -/
  | handOver (reading : InputReading)
  /-- The thread leaves its group. -/
  | receiverExits
  /-- The notification of the group runs. -/
  | receiverNotified
  /-- The timer of the key repeat fires. -/
  | keyRepeat (result : InputResult)
  /-- The capture has drained. -/
  | captureDrains
  /-- The completion of the capture's stop runs. -/
  | captureReports
  /-- The block of a takeover runs. -/
  | takeOver (reading : TakeoverReading)
  /-- A stop that a takeover delayed runs. -/
  | delayedStop
  /-- The block of a stop runs. -/
  | stop (completion : Bool)

/-- The effect of one label. -/
def step (session : PreviewSession) : Label → Option PreviewSession
  | .others action => some (session.call action)
  | .start started => some ((start started).after session)
  | .tick reading => some ((tick reading).after session)
  | .captureCall call =>
    if session.captureStarted then some ((captureCall call).after session) else none
  | .bitrateChanged index change =>
    session.changes[index]?.map fun bitrate =>
      (bitrateChanged bitrate change).after
        { session with changes := session.changes.eraseIdx index }
  | .inputReceived received =>
    if session.receiver = .receiving then some { session with receiver := .handing received }
    else none
  | .handOver reading =>
    match session.receiver with
    | .handing received => some (session.afterHandOver reading received)
    | _ => none
  | .receiverExits =>
    if session.receiver = .leaving then
      some { session.note .receiverExited with receiver := .exited }
    else none
  | .receiverNotified =>
    if session.receiver = .exited then some { session with receiver := .notified }.finishStop
    else none
  | .keyRepeat result => some ((keyRepeat result).after session)
  | .captureDrains =>
    if session.captureStop = .draining then some { session with captureStop := .drained }
    else none
  | .captureReports =>
    if session.captureStop = .drained then some session.captureReported else none
  | .takeOver reading => some (session.takeOver reading)
  | .delayedStop =>
    if session.delayed = 0 then none
    else some (stopOnQueue "session-taken-over" { session with delayed := session.delayed - 1 })
  | .stop completion => some (session.stopWithCompletion completion)

/-- What a session is made with. -/
structure Options where
  /-- Whether `didStop` is set. -/
  announces : Bool
  /-- `clipboardEnabled`. -/
  clipboardEnabled : Bool
  /-- `microphoneEnabled`. -/
  microphoneEnabled : Bool
  /-- `cameraEnabled`. -/
  cameraEnabled : Bool
  /-- Whether the capture drains before its `stopWithCompletion` returns. -/
  drainsAtOnce : Bool
  /-- `bitrate_kbps`. -/
  bitrate : Nat
  deriving DecidableEq, Repr

/-- A session as `init` returns it, with the lease that it claimed. -/
def made (sessions : Auth.Session) (lease : Nat) (options : Options) : PreviewSession where
  sessions := sessions
  lease := lease
  announces := options.announces
  clipboardEnabled := options.clipboardEnabled
  microphoneEnabled := options.microphoneEnabled
  cameraEnabled := options.cameraEnabled
  drainsAtOnce := options.drainsAtOnce
  rates := { bitrate := options.bitrate }

/-- Every run of a session, from where it was made. -/
def system : Transition.System PreviewSession Label where
  initial session := ∃ sessions lease options, Auth.Session.system.Reachable sessions ∧
    (∃ claim ∈ sessions.history.claims, claim.lease = lease) ∧ session = made sessions lease options
  step := step

end PreviewSession

end Plank.Preview
