import Plank.Camera.Header
import Plank.Media.Command
import Plank.Transition.System
import Plank.Transport.Envelope
import Plank.Transport.Result

/-!
# The camera of a session

`camera-session.m` makes a producer for each command that switches the camera on, activates the
transport lane once the producer is ready, and hands the lane's frames to it. Everything runs on one
serial queue. What the transport, the producer and the clock answer comes with each call.
-/

namespace Plank.Media

open Transport (Availability ShortPacket readU32 readU64)

/-- `PLANK_TRANSPORT_CONTROL_SET_CAMERA`. -/
def setCameraType : UInt16 := 10
/-- `PLANK_TRANSPORT_CONTROL_CAMERA_APPLIED`. -/
def cameraAppliedType : UInt16 := 11
/-- `PLANK_TRANSPORT_CONTROL_CAMERA_KEYFRAME`. -/
def cameraKeyframeType : UInt16 := 12

/-- `plank_camera_control_decode`, of a packet that is there. -/
def cameraControlDecode (packet : ShortPacket) : Option (UInt64 × UInt32) :=
  if (packet.type ≠ setCameraType && packet.type ≠ cameraAppliedType &&
      packet.type ≠ cameraKeyframeType) ||
      packet.payload.length ≠ (if packet.type = cameraKeyframeType then 8 else 12) then none
  else
    let command := readU64 packet.payload 0
    let state := if packet.payload.length = 12 then readU32 packet.payload 8 else 0
    if command = 0 || command = 0xffffffffffffffff ||
        (packet.type = setCameraType && state > 1) ||
        (packet.type = cameraAppliedType && state > 3) then none
    else some (command, state)

/-- `PLANKMacCameraSession`. -/
structure CameraSession where
  /-- The command, the activation, the state and the acknowledgement. -/
  desk : Desk := {}
  /-- `_deadline`. -/
  deadline : UInt64 := 0
  /-- `_keyAt`. -/
  keyAt : UInt64 := 0
  /-- `_receivedAt`. -/
  receivedAt : UInt64 := 0
  /-- `_producer`; the command that it was made for. -/
  producer : Option UInt64 := none
  /-- `_stopped`. -/
  stopped : Bool := false
  /-- `_producerReady`. -/
  producerReady : Bool := false
  /-- `_keyPending`. -/
  keyPending : Bool := false

/-- What `-advance` is answered. -/
structure CameraAdvance where
  /-- `_valid()`. -/
  valid : Bool
  /-- `plank_transport_native_camera_state`. -/
  lane : Availability
  /-- Whether the lane takes the activation. -/
  activates : Bool
  /-- The clock. -/
  now : UInt64

/-- What `plank_transport_native_camera_receive` returns. -/
inductive CameraReceived where
  /-- `PLANK_TRANSPORT_TIMEOUT`. -/
  | timeout
  /-- Any other code but `PLANK_TRANSPORT_OK`. -/
  | failed
  /-- The record of a packet of the lane, if it can be encoded. -/
  | record (packet : Camera.Native.Packet)

/-- What a turn of the loop in `-tick` is answered. -/
structure CameraFrame where
  /-- What the lane returns. -/
  received : CameraReceived
  /-- What an active media clock maps the capture time to; 0 when it does not. -/
  mapped : Option UInt64
  /-- `_valid()`. -/
  valid : Bool
  /-- `-submit:size:hostTimeNanos:` of the producer. -/
  submitted : Bool

/-- What `-tick` is answered. -/
structure CameraTick where
  /-- The clock. -/
  now : UInt64
  /-- `_valid()`. -/
  valid : Bool
  /-- `available` of the producer. -/
  available : Bool
  /-- `plank_transport_native_camera_state`. -/
  lane : Availability
  /-- What `-advance` is answered. -/
  advance : CameraAdvance
  /-- Whether the control lane takes an acknowledgement. -/
  acknowledges : Bool
  /-- What the loop is answered. -/
  frames : List CameraFrame
  /-- `plank_transport_native_camera_keyframe_needed`. -/
  needed : UInt64
  /-- `-takeKeyframeRequest` of the producer. -/
  requested : Bool
  /-- Whether the control lane takes a request for a key frame. -/
  requests : Bool

/-- Three seconds. -/
def threeSeconds : UInt64 := 3000000000

namespace CameraSession

/-- `-state:`. -/
def enter (session : CameraSession) (state : DeviceState) : CameraSession :=
  { session with desk := session.desk.enter state }

/-- `-close`, without the call that deactivates the lane. -/
def release (session : CameraSession) : CameraSession :=
  { session with producerReady := false, keyPending := false, producer := none }

/-- `-close`. -/
def close (session : CameraSession) : CameraSession :=
  { session.release with desk := session.desk.shut }

/-- `-fail`. -/
def fail (session : CameraSession) : CameraSession :=
  { session.release with desk := session.desk.fail }

/-- `-advance`. -/
def advance (session : CameraSession) (input : CameraAdvance) : CameraSession :=
  if session.desk.activation = 0 || session.desk.state ≠ .pending || !session.producerReady then
    session
  else if !input.valid then session.fail
  else if input.lane ≠ .ready then session
  else if !input.activates then session.fail
  else
    { session with
      receivedAt := input.now
      desk := (session.desk.note (.activated session.desk.activation)).enter .active }

/-- `-receive:`. `created` is whether there is a producer, and `refused` whether its `-start:` says
at once that it is not ready. -/
def receive (session : CameraSession) (packet : Option ShortPacket) (now : UInt64)
    (valid created refused : Bool) : CameraSession × Bool :=
  match packet with
  | none => (session, false)
  | some packet =>
    if session.stopped || packet.type ≠ setCameraType then (session, false)
    else
      match cameraControlDecode packet with
      | none => (session, false)
      | some (command, flags) =>
        if command ≤ session.desk.command then (session, false)
        else
          let session := { session.release with desk := session.desk.accept command, keyAt := 0 }
          if flags = 0 then (session.enter .off, true)
          else if !valid then (session.fail, true)
          else
            let session := { session with desk := { session.desk with activation := command } }
            let session := { session.enter .pending with deadline := now + threeSeconds }
            if !created then (session.fail, true)
            else
              let session := { session with producer := some command }
              (if refused then session.fail else session, true)

/-- The block that `-start:` of the producer for a command calls. -/
def ready (session : CameraSession) (command : UInt64) (isReady : Bool) (input : CameraAdvance) :
    CameraSession :=
  if session.stopped || session.producer ≠ some command || session.desk.activation ≠ command then
    session
  else if !isReady then session.fail
  else { session with producerReady := true }.advance input

/-- The loop of `-tick`. -/
def takeFrames (now : UInt64) : List CameraFrame → CameraSession → CameraSession
  | [], session => session
  | frame :: frames, session =>
    match frame.received with
    | .timeout => session
    | .failed => session.fail
    | .record packet =>
      match packet.encode with
      | .error _ => session.fail
      | .ok record =>
        match Camera.Native.Header.decode record with
        | none => takeFrames now frames session
        | some header =>
          if header.generation ≠ session.desk.activation then takeFrames now frames session
          else if frame.mapped = some 0 then
            takeFrames now frames { session with keyPending := true }
          else if !frame.valid || session.producer.isNone then session.fail
          else
            let session := { session with desk := session.desk.note (.handed header.generation) }
            if !frame.submitted then session.fail
            else takeFrames now frames { session with receivedAt := now }

/-- The first check of `-tick`. -/
def expired (session : CameraSession) (input : CameraTick) : Bool :=
  session.desk.activation ≠ 0 && (!input.valid || (session.producerReady && !input.available) ||
    input.lane = .failed ||
    (session.desk.state = .pending && session.deadline ≤ input.now) ||
    (session.desk.state = .active && threeSeconds ≤ input.now - session.receivedAt))

/-- The end of `-tick`: a key frame is asked for. -/
def requestKey (session : CameraSession) (input : CameraTick) : CameraSession :=
  let activation := session.desk.activation
  let session := if activation ≠ 0 && (input.needed = activation || input.requested) then
    { session with keyPending := true } else session
  if activation ≠ 0 && session.keyAt ≤ input.now && session.keyPending && input.requests then
    { session with
      desk := session.desk.note (.requested activation)
      keyAt := input.now + 500000000
      keyPending := false }
  else session

/-- `-tick`. -/
def tick (session : CameraSession) (input : CameraTick) : CameraSession :=
  if session.stopped || session.desk.command = 0 then session
  else
    let session := if session.expired input then session.fail else session
    let session := session.advance input.advance
    let session := { session with desk := session.desk.acknowledge input.acknowledges }
    if session.desk.activation = 0 || session.desk.state ≠ .active then session
    else (takeFrames input.now (input.frames.take 3) session).requestKey input

/-- `-stop`. -/
def stop (session : CameraSession) : CameraSession :=
  if session.stopped then session else { session.close with stopped := true }

/-- What happens on the queue. -/
inductive Action where
  /-- A control packet arrives. -/
  | receive (packet : Option ShortPacket) (now : UInt64) (valid created refused : Bool)
  /-- The producer for a command says whether it is ready. -/
  | ready (command : UInt64) (isReady : Bool) (input : CameraAdvance)
  /-- The timer fires. -/
  | tick (input : CameraTick)
  /-- The session stops. -/
  | stop

/-- One block on the queue. -/
def step (session : CameraSession) : Action → Option CameraSession
  | .receive packet now valid created refused =>
    some (session.receive packet now valid created refused).1
  | .ready command isReady input => some (session.ready command isReady input)
  | .tick input => some (session.tick input)
  | .stop => some session.stop

/-- Every order of blocks. -/
def system : Transition.System CameraSession Action where
  initial session := session = {}
  step := step

/-- What every block keeps. -/
structure Kept (session : CameraSession) : Prop where
  /-- The desk. -/
  desk : session.desk.Kept
  /-- An active camera has activated the lane for its activation. -/
  active : session.desk.activation ≠ 0 → session.desk.state = .active →
    activeOf session.desk.log = session.desk.activation

variable {session : CameraSession}

/-- The session fails. -/
theorem fail_kept (mid : session.desk.Mid) : Kept session.fail :=
  ⟨mid.fail, fun nonzero => absurd rfl nonzero⟩

/-- The camera enters a state other than active. -/
theorem enter_kept (mid : session.desk.Mid) {state : DeviceState} (idle : state ≠ .active) :
    Kept (session.enter state) :=
  ⟨mid.enter state, fun _ active => absurd active idle⟩

/-- The lane is activated, or not. -/
theorem Kept.advance (kept : Kept session) (input : CameraAdvance) :
    Kept (session.advance input) := by
  unfold CameraSession.advance
  split
  · exact kept
  · next waiting =>
    split
    · exact fail_kept kept.desk.toMid
    · split
      · exact kept
      · split
        · exact fail_kept kept.desk.toMid
        · simp only [Bool.or_eq_true, not_or, decide_eq_true_eq] at waiting
          have nonzero := waiting.1.1
          obtain ⟨same, may, shut⟩ := kept.desk.activation nonzero
          have law : commandLaw session.desk.log (.activated session.desk.activation) :=
            ⟨by rw [same]; exact may, shut⟩
          have mid : (session.desk.note (.activated session.desk.activation)).Mid :=
            ⟨kept.desk.lawful.cons law, kept.desk.command, kept.desk.state,
              fun _ => ⟨same, may, shut⟩⟩
          exact ⟨mid.enter .active, fun _ _ => rfl⟩

/-- A command arrives. -/
theorem Kept.receive (kept : Kept session) (packet : Option ShortPacket) (now : UInt64)
    (valid created refused : Bool) :
    Kept (session.receive packet now valid created refused).1 := by
  cases packet with
  | none => exact kept
  | some packet =>
    dsimp only [CameraSession.receive]
    split
    · exact kept
    · split
      · exact kept
      · next command flags _ =>
        split
        · exact kept
        · next newer =>
          have mid := kept.desk.toMid.accept (UInt64.not_le.mp newer)
          split
          · exact enter_kept mid nofun
          · split
            · exact fail_kept mid
            · have armed : ({ session.desk.accept command with activation := command }).Mid :=
                { mid with activation := fun _ => ⟨rfl, rfl, rfl⟩ }
              have entered := armed.enter .pending
              split
              · exact fail_kept entered.toMid
              · split
                · exact fail_kept entered.toMid
                · exact ⟨entered, fun _ active => absurd active nofun⟩

/-- The producer says whether it is ready. -/
theorem Kept.ready (kept : Kept session) (command : UInt64) (isReady : Bool)
    (input : CameraAdvance) : Kept (session.ready command isReady input) := by
  unfold CameraSession.ready
  split
  · exact kept
  · split
    · exact fail_kept kept.desk.toMid
    · have told : Kept { session with producerReady := true } := ⟨kept.desk, kept.active⟩
      exact told.advance input

/-- Frames are handed to an active camera. -/
theorem Kept.takeFrames (now : UInt64) (frames : List CameraFrame) {session : CameraSession}
    (kept : Kept session) (nonzero : session.desk.activation ≠ 0)
    (active : session.desk.state = .active) :
    Kept (takeFrames now frames session) ∧
      ((takeFrames now frames session).desk.activation ≠ 0 →
        (takeFrames now frames session).desk.state = .active) := by
  have failed : ∀ {session : CameraSession}, session.desk.Mid →
      Kept session.fail ∧ (session.fail.desk.activation ≠ 0 → session.fail.desk.state = .active) :=
    fun mid => ⟨fail_kept mid, fun nonzero => absurd rfl nonzero⟩
  induction frames generalizing session with
  | nil => exact ⟨kept, fun _ => active⟩
  | cons frame frames ih =>
    unfold CameraSession.takeFrames
    split
    · exact ⟨kept, fun _ => active⟩
    · exact failed kept.desk.toMid
    · split
      · exact failed kept.desk.toMid
      · split
        · exact ih kept nonzero active
        · next header _ =>
          split
          · exact ih kept nonzero active
          · next same =>
            have same := not_not.mp same
            split
            · have pending : Kept { session with keyPending := true } := ⟨kept.desk, kept.active⟩
              exact ih pending nonzero active
            · split
              · exact failed kept.desk.toMid
              · have given := (kept.desk.use nonzero (kept.active nonzero active)).1
                rw [← same] at given
                dsimp only
                split
                · exact failed given.toMid
                · exact ih ⟨given, kept.active⟩ nonzero active

/-- A key frame is asked for. -/
theorem Kept.requestKey (kept : Kept session)
    (active : session.desk.activation ≠ 0 → session.desk.state = .active) (input : CameraTick) :
    Kept (session.requestKey input) := by
  unfold CameraSession.requestKey
  have marked : ∀ condition : Bool, Kept (if condition then
      { session with keyPending := true } else session) ∧
      (if condition then { session with keyPending := true } else session).desk =
        session.desk := by
    intro condition
    cases condition
    · exact ⟨kept, rfl⟩
    · exact ⟨⟨kept.desk, kept.active⟩, rfl⟩
  dsimp only
  generalize (decide (session.desk.activation ≠ 0) &&
    (decide (input.needed = session.desk.activation) || input.requested)) = condition
  obtain ⟨marked, same⟩ := marked condition
  generalize (if condition = true then { session with keyPending := true } else session) = middle
    at marked same ⊢
  split
  · next due =>
    simp only [Bool.and_eq_true, decide_eq_true_eq] at due
    have nonzero := due.1.1.1
    have given := (kept.desk.use nonzero (kept.active nonzero (active nonzero))).2
    rw [same]
    exact ⟨given, kept.active⟩
  · exact marked

/-- The timer fires. -/
theorem Kept.tick (kept : Kept session) (input : CameraTick) : Kept (session.tick input) := by
  unfold CameraSession.tick
  split
  · exact kept
  · dsimp only
    have checked : Kept (if session.expired input then session.fail else session) := by
      split
      · exact fail_kept kept.desk.toMid
      · exact kept
    have advanced := checked.advance input.advance
    generalize (if session.expired input then session.fail else session).advance input.advance =
      middle at advanced ⊢
    have told : Kept { middle with desk := middle.desk.acknowledge input.acknowledges } := by
      refine ⟨advanced.desk.acknowledge input.acknowledges, ?_⟩
      show (middle.desk.acknowledge input.acknowledges).activation ≠ 0 → _
      unfold Desk.acknowledge
      split <;> exact advanced.active
    split
    · exact told
    · next live =>
      simp only [Bool.or_eq_true, not_or, decide_eq_true_eq, ne_eq, not_not] at live
      obtain ⟨taken, active⟩ := told.takeFrames input.now (input.frames.take 3) live.1 live.2
      exact taken.requestKey active input

/-- Every block keeps the invariant. -/
theorem Kept.step (kept : Kept session) {action : Action} {after : CameraSession}
    (stepped : session.step action = some after) : Kept after := by
  cases action with
  | receive packet now valid created refused =>
    obtain rfl := Option.some.inj stepped
    exact kept.receive packet now valid created refused
  | ready command isReady input =>
    obtain rfl := Option.some.inj stepped
    exact kept.ready command isReady input
  | tick input =>
    obtain rfl := Option.some.inj stepped
    exact kept.tick input
  | stop =>
    obtain rfl := Option.some.inj stepped
    unfold CameraSession.stop
    split
    · exact kept
    · exact ⟨kept.desk.shut, fun nonzero => absurd rfl nonzero⟩

/-- The invariant holds in every reachable session. -/
theorem reachable_kept (reachable : system.Reachable session) : Kept session := by
  have preserves : system.Preserves Kept := fun _ _ _ kept stepped => kept.step stepped
  apply preserves.reachable _ reachable
  rintro first rfl
  exact ⟨.start, fun nonzero => absurd rfl nonzero⟩

end CameraSession

/-- A record that the lane encodes has a header with the generation of its packet. -/
theorem header_of_encode {packet : Camera.Native.Packet} {record : List UInt8}
    (encoded : packet.encode = .ok record) :
    ∃ header, Camera.Native.Header.decode record = some header ∧
      header.generation = packet.generation :=
  ⟨packet.toHeader, (Camera.Native.header_decode_iff record packet.toHeader).mpr
    ⟨packet, (Camera.Native.Packet.decode_ok record packet).mpr encoded, rfl⟩, rfl⟩

end Plank.Media
