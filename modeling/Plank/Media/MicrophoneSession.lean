import Plank.Media.CameraSession

/-!
# The microphone of a session

`microphone-session.m` follows the camera's protocol with code of its own: it makes one producer for
all commands, activates the transport lane when the producer and the lane are ready, and once it
fails it stays failed.
-/

namespace Plank.Media

open Transport (Availability ShortPacket readU32)

/-- `PLANK_TRANSPORT_CONTROL_SET_MICROPHONE`. -/
def setMicrophoneType : UInt16 := 8

/-- `PLANKMacMicrophoneSession`. -/
structure MicrophoneSession where
  /-- The command, the activation, the state and the acknowledgement. -/
  desk : Desk := {}
  /-- `_nextSample`. -/
  nextSample : UInt64 := 0
  /-- `_deadline`. -/
  deadline : UInt64 := 0
  /-- Whether there is a `_producer`. -/
  producer : Bool := false
  /-- `_enabled`. -/
  enabled : Bool := false
  /-- `_stopped`. -/
  stopped : Bool := false
  /-- `_failed`. -/
  failed : Bool := false
  /-- `_hasSample`. -/
  hasSample : Bool := false
  /-- `_producerReady`. -/
  producerReady : Bool := false
  /-- `_configured`. -/
  configured : Bool := false
  /-- `_automaticInput`. -/
  automaticInput : Bool := false

/-- What `-advance` is answered. -/
structure MicrophoneAdvance where
  /-- `_valid()`. -/
  valid : Bool
  /-- `plank_transport_native_microphone_state`. -/
  lane : Availability
  /-- Whether the lane takes the activation. -/
  activates : Bool

/-- What `plank_transport_native_microphone_receive_timed` returns. -/
inductive MicrophoneReceived where
  /-- `PLANK_TRANSPORT_TIMEOUT`. -/
  | timeout
  /-- Any other code but `PLANK_TRANSPORT_OK`. -/
  | failed
  /-- A packet. -/
  | packet (generation sampleTime captureTime : UInt64) (opus : List UInt8)

/-- What a turn of the loop in `-tick` is answered. -/
structure MicrophoneFrame where
  /-- What the lane returns. -/
  received : MicrophoneReceived
  /-- `PLANKMicDecoderReset`. -/
  resets : Bool
  /-- `PLANKMicDecode`. -/
  decodes : Bool
  /-- `_valid()`. -/
  valid : Bool
  /-- `-submit:count:sampleTime:captureTimeNanos:` of the producer. -/
  submitted : Bool

/-- What `-tick` is answered. -/
structure MicrophoneTick where
  /-- The clock. -/
  now : UInt64
  /-- `_valid()`. -/
  valid : Bool
  /-- `available` of the producer. -/
  available : Bool
  /-- `plank_transport_native_microphone_state`. -/
  lane : Availability
  /-- What `-advance` is answered. -/
  advance : MicrophoneAdvance
  /-- Whether the control lane takes an acknowledgement. -/
  acknowledges : Bool
  /-- What the loop is answered. -/
  frames : List MicrophoneFrame

namespace MicrophoneSession

/-- `-state:`. -/
def enter (session : MicrophoneSession) (state : DeviceState) : MicrophoneSession :=
  { session with desk := session.desk.enter state }

/-- `-fail`, with its `-mute`. -/
def fail (session : MicrophoneSession) : MicrophoneSession :=
  { session with desk := session.desk.fail, hasSample := false, failed := true }

/-- `-advance`. -/
def advance (session : MicrophoneSession) (input : MicrophoneAdvance) : MicrophoneSession :=
  if session.stopped || session.failed || !session.configured then session
  else if !input.valid then session.fail
  else if !session.producerReady || input.lane ≠ .ready then session
  else
    let state := if session.enabled then .active else .off
    if session.enabled && session.desk.activation = 0 then
      if !input.activates then session.fail
      else
        let desk := session.desk.note (.activated session.desk.command)
        { session with desk := { desk with activation := session.desk.command } }.enter state
    else session.enter state

/-- `-receive:`. `created` is whether there is a producer, and `refused` whether its `-start:` says
at once that it is not ready. -/
def receive (session : MicrophoneSession) (packet : Option ShortPacket) (now : UInt64)
    (created refused : Bool) (input : MicrophoneAdvance) : MicrophoneSession × Bool :=
  match packet with
  | none => (session, false)
  | some packet =>
    if session.stopped || packet.type ≠ setMicrophoneType || packet.payload.length ≠ 12 then
      (session, false)
    else
      let command := (readU32 packet.payload 0).toUInt64 <<< 32 |||
        (readU32 packet.payload 4).toUInt64
      let flags := readU32 packet.payload 8
      if command = 0 || command ≤ session.desk.command || flags &&& ~~~3 ≠ 0 then (session, false)
      else
        let session := { session with
          desk := session.desk.accept command
          hasSample := false
          enabled := flags &&& 1 ≠ 0 }
        let automatic := decide (flags &&& 2 ≠ 0)
        if session.failed || (session.configured && automatic ≠ session.automaticInput) then
          (session.fail, true)
        else
          let session := { session.enter .pending with deadline := now + threeSeconds }
          if !session.configured then
            let session := { session with configured := true, automaticInput := automatic }
            if !created then (session.fail, true)
            else
              let session := { session with producer := true }
              (if refused then session.fail else session, true)
          else (session.advance input, true)

/-- The block that `-start:` of the producer calls. -/
def ready (session : MicrophoneSession) (isReady : Bool) (input : MicrophoneAdvance) :
    MicrophoneSession :=
  if session.stopped || !session.producer then session
  else if !isReady then session.fail
  else { session with producerReady := true }.advance input

/-- The loop of `-tick`. -/
def takeFrames : List MicrophoneFrame → MicrophoneSession → MicrophoneSession
  | [], session => session
  | frame :: frames, session =>
    match frame.received with
    | .timeout => session
    | .failed => session.fail
    | .packet generation sampleTime _ _ =>
      if generation ≠ session.desk.activation then takeFrames frames session
      else if session.hasSample && sampleTime ≠ session.nextSample && !frame.resets then
        session.fail
      else if !frame.decodes || !frame.valid || !session.producer then session.fail
      else
        let session := { session with desk := session.desk.note (.handed generation) }
        if !frame.submitted then session.fail
        else takeFrames frames { session with hasSample := true, nextSample := sampleTime + 480 }

/-- The first check of `-tick`. -/
def expired (session : MicrophoneSession) (input : MicrophoneTick) : Bool :=
  !session.failed && (!input.valid || (session.producerReady && !input.available) ||
    input.lane = .failed || (session.desk.state = .pending && session.deadline ≤ input.now))

/-- `-tick`. -/
def tick (session : MicrophoneSession) (input : MicrophoneTick) : MicrophoneSession :=
  if session.stopped || session.desk.command = 0 then session
  else
    let session := if session.expired input then session.fail else session
    let session := if session.desk.state = .pending then session.advance input.advance else session
    let session := { session with desk := session.desk.acknowledge input.acknowledges }
    if session.desk.activation = 0 || session.failed then session
    else takeFrames (input.frames.take 8) session

/-- `-stop`, with its `-mute`. -/
def stop (session : MicrophoneSession) : MicrophoneSession :=
  if session.stopped then session
  else { session with
    desk := session.desk.shut, hasSample := false, stopped := true, producer := false }

/-- What happens on the queue. -/
inductive Action where
  /-- A control packet arrives. -/
  | receive (packet : Option ShortPacket) (now : UInt64) (created refused : Bool)
    (input : MicrophoneAdvance)
  /-- The producer says whether it is ready. -/
  | ready (isReady : Bool) (input : MicrophoneAdvance)
  /-- The timer fires. -/
  | tick (input : MicrophoneTick)
  /-- The session stops. -/
  | stop

/-- One block on the queue. -/
def step (session : MicrophoneSession) : Action → Option MicrophoneSession
  | .receive packet now created refused input =>
    some (session.receive packet now created refused input).1
  | .ready isReady input => some (session.ready isReady input)
  | .tick input => some (session.tick input)
  | .stop => some session.stop

/-- Every order of blocks; a session may begin without a decoder. -/
def system : Transition.System MicrophoneSession Action where
  initial session := ∃ failed, session = { failed }
  step := step

/-- What every block keeps. -/
structure Kept (session : MicrophoneSession) : Prop where
  /-- The desk. -/
  desk : session.desk.Kept
  /-- An activation has activated the lane. -/
  active : session.desk.activation ≠ 0 → activeOf session.desk.log = session.desk.activation
  /-- A session that has not failed may activate its last command. -/
  permitted : session.failed = false → session.desk.command ≠ 0 →
    permitted session.desk.log = some session.desk.command ∧ closed session.desk.log = true
  /-- A configured session has a command. -/
  configured : session.configured = true → session.desk.command ≠ 0

variable {session : MicrophoneSession}

/-- The session fails. -/
theorem fail_kept (mid : session.desk.Mid)
    (configured : session.configured = true → session.desk.command ≠ 0) : Kept session.fail :=
  ⟨mid.fail, fun nonzero => absurd rfl nonzero, nofun, configured⟩

/-- The session fails later. -/
theorem Kept.fail (kept : Kept session) : Kept session.fail :=
  fail_kept kept.desk.toMid kept.configured

/-- The microphone enters a state. -/
theorem Kept.enter (kept : Kept session) (state : DeviceState) : Kept (session.enter state) :=
  ⟨kept.desk.toMid.enter state, kept.active, kept.permitted, kept.configured⟩

/-- The lane is activated, or not. -/
theorem Kept.advance (kept : Kept session) (input : MicrophoneAdvance) :
    Kept (session.advance input) := by
  unfold MicrophoneSession.advance
  split
  · exact kept
  · next going =>
    split
    · exact kept.fail
    · split
      · exact kept
      · dsimp only
        split
        · split
          · exact kept.fail
          · simp only [Bool.or_eq_true, not_or, Bool.not_eq_true, Bool.not_eq_true',
              Bool.not_eq_false] at going
            have nonzero := kept.configured going.2
            obtain ⟨may, shut⟩ := kept.permitted going.1.2 nonzero
            have law : commandLaw session.desk.log (.activated session.desk.command) := ⟨may, shut⟩
            have desk : ({ session.desk.note (.activated session.desk.command) with
                activation := session.desk.command }).Kept :=
              ⟨⟨kept.desk.lawful.cons law, kept.desk.command, kept.desk.state,
                fun _ => ⟨rfl, may, shut⟩⟩, kept.desk.pending⟩
            have activated : Kept { session with
                desk := { session.desk.note (.activated session.desk.command) with
                  activation := session.desk.command } } :=
              ⟨desk, fun _ => rfl, kept.permitted, kept.configured⟩
            exact activated.enter _
        · exact kept.enter _

/-- A command arrives. -/
theorem Kept.receive (kept : Kept session) (packet : Option ShortPacket) (now : UInt64)
    (created refused : Bool) (input : MicrophoneAdvance) :
    Kept (session.receive packet now created refused input).1 := by
  cases packet with
  | none => exact kept
  | some packet =>
    dsimp only [MicrophoneSession.receive]
    split
    · exact kept
    · split
      · exact kept
      · next fresh =>
        simp only [Bool.or_eq_true, not_or, decide_eq_true_eq] at fresh
        generalize (readU32 packet.payload 0).toUInt64 <<< 32 |||
          (readU32 packet.payload 4).toUInt64 = command at fresh ⊢
        have mid := kept.desk.toMid.accept (UInt64.not_le.mp fresh.1.2)
        have nonzero := fresh.1.1
        split
        · exact fail_kept mid fun _ => nonzero
        · have entered : ∀ enabled deadline, Kept { session with
              desk := (session.desk.accept command).enter .pending
              hasSample := false
              enabled := enabled
              deadline := deadline } := fun _ _ =>
            ⟨mid.enter .pending, fun other => absurd rfl other, fun _ _ => ⟨rfl, rfl⟩,
              fun _ => nonzero⟩
          have here := entered (decide (readU32 packet.payload 8 &&& 1 ≠ 0)) (now + threeSeconds)
          split
          · split
            · exact fail_kept here.desk.toMid fun _ => nonzero
            · dsimp only
              split
              · exact fail_kept here.desk.toMid fun _ => nonzero
              · exact ⟨here.desk, here.active, here.permitted, fun _ => nonzero⟩
          · exact here.advance input

/-- The producer says whether it is ready. -/
theorem Kept.ready (kept : Kept session) (isReady : Bool) (input : MicrophoneAdvance) :
    Kept (session.ready isReady input) := by
  unfold MicrophoneSession.ready
  split
  · exact kept
  · split
    · exact kept.fail
    · have told : Kept { session with producerReady := true } :=
        ⟨kept.desk, kept.active, kept.permitted, kept.configured⟩
      exact told.advance input

/-- Frames are handed over for the activation. -/
theorem Kept.takeFrames (frames : List MicrophoneFrame) {session : MicrophoneSession}
    (kept : Kept session) (nonzero : session.desk.activation ≠ 0) :
    Kept (takeFrames frames session) := by
  induction frames generalizing session with
  | nil => exact kept
  | cons frame frames ih =>
    unfold MicrophoneSession.takeFrames
    split
    · exact kept
    · exact kept.fail
    · next generation sampleTime _ _ _ =>
      split
      · exact ih kept nonzero
      · next same =>
        have same := not_not.mp same
        split
        · exact kept.fail
        · split
          · exact kept.fail
          · have given := (kept.desk.use nonzero (kept.active nonzero)).1
            rw [← same] at given
            have handed : Kept { session with
                desk := session.desk.note (.handed generation) } :=
              ⟨given, kept.active, kept.permitted, kept.configured⟩
            dsimp only
            split
            · exact handed.fail
            · exact ih ⟨handed.desk, handed.active, handed.permitted, handed.configured⟩ nonzero

/-- The timer fires. -/
theorem Kept.tick (kept : Kept session) (input : MicrophoneTick) : Kept (session.tick input) := by
  unfold MicrophoneSession.tick
  split
  · exact kept
  · dsimp only
    have checked : Kept (if session.expired input then session.fail else session) := by
      split
      · exact kept.fail
      · exact kept
    generalize (if session.expired input then session.fail else session) = first at checked ⊢
    have advanced : Kept (if first.desk.state = .pending then first.advance input.advance
        else first) := by
      split
      · exact checked.advance input.advance
      · exact checked
    generalize (if first.desk.state = .pending then first.advance input.advance else first) =
      middle at advanced ⊢
    have told : Kept { middle with desk := middle.desk.acknowledge input.acknowledges } := by
      have desk := advanced.desk.acknowledge input.acknowledges
      revert desk
      unfold Desk.acknowledge
      split
      · exact fun desk => ⟨desk, advanced.active, advanced.permitted, advanced.configured⟩
      · exact fun _ => advanced
    split
    · exact told
    · next live =>
      simp only [Bool.or_eq_true, not_or, decide_eq_true_eq] at live
      exact told.takeFrames (input.frames.take 8) live.1

/-- Every block keeps the invariant. -/
theorem Kept.step (kept : Kept session) {action : Action} {after : MicrophoneSession}
    (stepped : session.step action = some after) : Kept after := by
  cases action with
  | receive packet now created refused input =>
    obtain rfl := Option.some.inj stepped
    exact kept.receive packet now created refused input
  | ready isReady input =>
    obtain rfl := Option.some.inj stepped
    exact kept.ready isReady input
  | tick input =>
    obtain rfl := Option.some.inj stepped
    exact kept.tick input
  | stop =>
    obtain rfl := Option.some.inj stepped
    unfold MicrophoneSession.stop
    split
    · exact kept
    · refine ⟨kept.desk.shut, fun nonzero => absurd rfl nonzero, ?_, kept.configured⟩
      exact fun sound nonzero => ⟨(kept.permitted sound nonzero).1, rfl⟩

/-- The invariant holds in every reachable session. -/
theorem reachable_kept (reachable : system.Reachable session) : Kept session := by
  have preserves : system.Preserves Kept := fun _ _ _ kept stepped => kept.step stepped
  apply preserves.reachable _ reachable
  rintro first ⟨failed, rfl⟩
  exact ⟨.start, fun nonzero => absurd rfl nonzero, fun _ nonzero => absurd rfl nonzero, nofun⟩

end MicrophoneSession

/-- A raw frame of the seventh activation. -/
def sampleCameraPacket : Camera.Native.Packet where
  format := ⟨Camera.h264, 1280, 720, 1, 1, 1, 1⟩
  flags := Camera.keyFrame
  generation := 7
  sequence := 0
  captureTimeUs := 40
  driverSequence := 3
  payload := [1, 2, 3]

/-- The camera is switched on, its lane opens, a frame arrives, and the next receive fails. -/
def sampleCameraRun : List CameraSession.Action :=
  [.receive (some ⟨setCameraType, [0, 0, 0, 0, 0, 0, 0, 7, 0, 0, 0, 1]⟩) 5 true true false,
    .ready 7 true ⟨true, .ready, true, 6⟩,
    .tick ⟨8, true, true, .ready, ⟨true, .ready, true, 8⟩, true,
      [⟨.record sampleCameraPacket, none, true, true⟩, ⟨.failed, none, true, true⟩], 0, false,
      false⟩]

end Plank.Media
