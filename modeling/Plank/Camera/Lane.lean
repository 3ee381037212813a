import Mathlib.Order.Nat
import Plank.Transition.System
import Plank.Transport.Result
import Plank.Camera.Record
import Plank.Lane.Gate

/-!
# The camera lane

`native_camera.rs` keeps one lane state behind a mutex; every operation below is what one
critical section does to it. Time is read once per critical section, in nanoseconds. The lane
session at the end adds the clock and the ledger of activations, pushes and deliveries to the
state, and lists every way the program changes a lane: the capability call, the opening and
the failure of the lane task, activations, pushes by the producer, pops by the sending task,
receive calls by the consumer, holes on the wire, and the passing of time.
-/

namespace Plank.Camera

open Plank.Transport (Availability Status Output validateBytesOut)

/-- `SEND_FRAMES`: frames a sending lane queues. -/
def sendFrames : Nat := 2
/-- `RECEIVE_FRAMES`: frames a receiving lane queues. -/
def receiveFrames : Nat := 3
/-- `MAX_AGE`: 150 milliseconds, in nanoseconds. -/
def maxAge : Nat := 150000000

/-- `State` of the camera lane. -/
structure State where
  /-- Whether the capability was agreed. -/
  enabled : Bool := false
  /-- Agreed envelope version. -/
  version : UInt32 := 0
  /-- Whether a microphone was allocated before the camera. -/
  microphoneNegotiated : Bool := false
  /-- Availability of the lane. -/
  status : Availability := .unavailable
  /-- Current activation; zero while off. -/
  generation : UInt64 := 0
  /-- Greatest activation ever accepted. -/
  lastGeneration : UInt64 := 0
  /-- Sequence of the last accepted record of the activation. -/
  lastSequence : Option UInt64 := none
  /-- Capture time of the last accepted record of the activation. -/
  lastCaptureTime : UInt64 := 0
  /-- Format of the activation, once a record fixed it. -/
  format : Option Format := none
  /-- Whether dependent frames are discarded until a key frame. -/
  waitingForKey : Bool := false
  /-- Whether a key frame is being requested. -/
  requestKey : Bool := false
  /-- Whether the next queued record is to be marked discontinuous. -/
  discontinuity : Bool := false
  /-- Queued records with their arrival times, oldest first. -/
  packets : List (Nat × Record) := []
  deriving DecidableEq, Repr

/-- `when.elapsed() > MAX_AGE`. -/
def expired (now when : Nat) : Bool := now - when > maxAge

namespace State

/-- `State::gap`: forget the queue; unless the format is known not to be H.264, wait for a key
frame and ask for one. -/
def gap (state : State) : State :=
  let state := { state with packets := [], discontinuity := true }
  if state.format.all (·.codec == h264) then
    { state with waitingForKey := true, requestKey := true }
  else state

/-- Everything a gap changes. -/
theorem gap_eq (state : State) :
    state.gap = { state with
      packets := []
      discontinuity := true
      waitingForKey := state.format.all (·.codec == h264) || state.waitingForKey
      requestKey := state.format.all (·.codec == h264) || state.requestKey } := by
  unfold gap
  cases isH264 : state.format.all (·.codec == h264) <;> simp [isH264]

/-- The loop of `State::prune`: drop what is too old and, once anything was dropped, every
dependent frame behind it. Returns whether anything was dropped. -/
def pruneLoop (now : Nat) : Bool → List (Nat × Record) → Bool × List (Nat × Record)
  | dropped, [] => (dropped, [])
  | dropped, (arrival, packet) :: rest =>
    if expired now arrival || (dropped && packet.dependent) then pruneLoop now true rest
    else (dropped, (arrival, packet) :: rest)

/-- `State::prune`. -/
def prune (state : State) (now : Nat) : State :=
  if (state.packets.head?.any fun front => expired now front.1) then
    match pruneLoop now false state.packets with
    | (_, []) => { state with packets := [] }.gap
    | (true, (arrival, packet) :: rest) =>
      { state with packets := (arrival, packet.mark) :: rest }
    | (false, packets) => { state with packets := packets }
  else state

/-- `Camera::activate`. -/
def activate (state : State) (generation : UInt64) : State × Bool :=
  if !state.enabled || state.status = .failed ||
      (generation ≠ 0 ∧ generation ≤ state.lastGeneration) then (state, false)
  else
    ({ state with
      generation
      lastGeneration := if generation ≠ 0 then generation else state.lastGeneration
      lastSequence := none
      lastCaptureTime := 0
      format := none
      packets := []
      waitingForKey := true
      requestKey := generation ≠ 0
      discontinuity := true }, true)

/-- The checks of `Camera::push` that answer `INVALID_STATE`. -/
def refuses (state : State) (packet : Record) : Bool :=
  packet.format.version ≠ state.version || state.status ≠ .ready || state.generation = 0 ||
    packet.generation ≠ state.generation ||
    state.lastSequence.any (fun last => packet.sequence ≤ last) ||
    packet.captureTimeUs ≤ state.lastCaptureTime

/-- `Camera::push`. -/
def push (state : State) (now : Nat) (packet : Record) (capacity : Nat) : State × Status :=
  if state.refuses packet then (state, .invalidState)
  else if state.format.any (· ≠ packet.format) then (state, .invalidArgument)
  else
    let missing := state.lastSequence.any fun last => packet.sequence ≠ last + 1
    let overflow : Bool := state.packets.length = capacity
    let gap := missing || packet.discontinuous || overflow
    let dropped := missing || overflow || (gap && !state.packets.isEmpty)
    let state := { state with
      format := some packet.format
      lastSequence := some packet.sequence
      lastCaptureTime := packet.captureTimeUs }
    let state := if gap then state.gap else state
    let packet := if gap then packet.mark else packet
    if packet.dependent && state.waitingForKey then
      ({ state with requestKey := true }, .dropped)
    else
      let state := if packet.key then
        { state with waitingForKey := false, requestKey := false } else state
      let packet := if state.discontinuity then packet.mark else packet
      ({ state with discontinuity := false, packets := state.packets ++ [(now, packet)] },
        if dropped then .dropped else .ok)

/-- `Camera::pop`: the record taken, with its arrival time. -/
def pop (state : State) (now : Nat) : State × Option (Nat × Record) :=
  let state := state.prune now
  match state.packets with
  | [] => (state, none)
  | front :: rest => ({ state with packets := rest }, some front)

/-- What `plank_transport_native_camera_receive` hands back: the code, what `*length` is set
to, and the record copied out with its arrival time and bytes. -/
structure Receipt where
  /-- Result code. -/
  status : Status
  /-- Value written to `*length`. -/
  length : Option Nat
  /-- Record removed, its arrival time and the bytes copied. -/
  copied : Option (Nat × Record × List UInt8)

/-- `plank_transport_native_camera_receive`; `serving` is whether the endpoint is a server in
state `Ready`. -/
def receive (state : State) (now : Nat) (serving : Bool) (output : Output) : State × Receipt :=
  if !serving then (state, ⟨.invalidState, none, none⟩)
  else if !output.sizeOut then (state, ⟨.invalidArgument, none, none⟩)
  else
    let state := state.prune now
    match state.packets with
    | [] => (state, ⟨.timeout, some 0, none⟩)
    | (arrival, front) :: rest =>
      match validateBytesOut (headerBytes + front.payload.length) output with
      | (.ok, size) =>
        match front.encode with
        | .ok bytes => ({ state with packets := rest }, ⟨.ok, size, some (arrival, front, bytes)⟩)
        | .error _ => (state, ⟨.invalidState, size, none⟩)
      | (status, size) => (state, ⟨status, size, none⟩)

/-- The locked part of `plank_transport_native_camera_enable_version`; `open` is whether the
endpoint is in state `SetupReady` or `Ready`, `microphone` whether its microphone lane was
enabled before. -/
def enable (state : State) (microphoneNegotiated version : UInt32) (opened microphone : Bool) :
    State × Status :=
  if microphoneNegotiated > 1 || !(version == 1 || version == 2) then (state, .invalidArgument)
  else if !opened || microphone ≠ (microphoneNegotiated ≠ 0) || state.enabled then
    (state, .invalidState)
  else
    ({ state with
      enabled := true
      version
      status := .opening
      microphoneNegotiated := microphoneNegotiated ≠ 0 }, .ok)

/-- `status = 2`: the lane task has opened its endpoint. -/
def opened (state : State) : State := { state with status := .ready }

/-- The error branch of `run`. -/
def failed (state : State) : State :=
  { state with status := .failed, generation := 0, packets := [], requestKey := false }

/-- `plank_transport_native_camera_keyframe_needed` on an endpoint in state `Ready`. -/
def keyframeNeeded (state : State) : UInt64 :=
  if state.status = .ready && state.requestKey then state.generation else 0

end State

/-- A lane with the clock and the history an observer keeps of it. -/
structure Session where
  /-- The lane state behind its mutex. -/
  lane : State := {}
  /-- The monotonic clock. -/
  now : Nat := 0
  /-- Activations, accepted pushes and deliveries so far. -/
  ledger : Lane.Ledger Nat Record := .empty

/-- Everything the program does to a camera lane. -/
inductive Action where
  /-- The capability call of the C interface. -/
  | enable (microphoneNegotiated version : UInt32) (opened microphone : Bool)
  /-- The lane task opened its endpoint. -/
  | opened
  /-- The lane task ended with an error. -/
  | failed
  /-- An activation call; the result may be false. -/
  | activate (generation : UInt64)
  /-- A push, by the send call of a client or by the receiving task of a server. -/
  | push (packet : Record)
  /-- A pop by the sending task. -/
  | pop
  /-- A receive call. -/
  | receive (serving : Bool) (output : Output)
  /-- The wire reported a hole. -/
  | hole
  /-- Time passes. -/
  | tick (nanoseconds : Nat)

namespace Session

/-- One action on a lane whose queue holds `capacity` records. The lane task opens its endpoint
once and fails at most once. -/
def step (capacity : Nat) (session : Session) : Action → Option Session
  | .enable microphoneNegotiated version opened microphone =>
    some { session with
      lane := (session.lane.enable microphoneNegotiated version opened microphone).1 }
  | .opened =>
    if session.lane.status = .opening then some { session with lane := session.lane.opened }
    else none
  | .failed =>
    if session.lane.status = .opening ∨ session.lane.status = .ready then
      some { session with lane := session.lane.failed, ledger := session.ledger.note .failed }
    else none
  | .activate generation =>
    let (lane, accepted) := session.lane.activate generation
    some { session with
      lane
      ledger := if accepted then session.ledger.note (.activated generation.toNat)
        else session.ledger }
  | .push packet =>
    let (lane, status) := session.lane.push session.now packet capacity
    some { session with lane, ledger := session.ledger.notePushed status.taken packet }
  | .pop =>
    let (lane, taken) := session.lane.pop session.now
    some { session with lane, ledger := session.ledger.noteTaken session.now taken }
  | .receive serving output =>
    let (lane, receipt) := session.lane.receive session.now serving output
    some { session with
      lane
      ledger := session.ledger.noteTaken session.now
        (receipt.copied.map fun copied => (copied.1, copied.2.1)) }
  | .hole => some { session with lane := session.lane.gap }
  | .tick nanoseconds => some { session with now := session.now + nanoseconds }

/-- All sessions of a lane, from the untouched one. -/
def system (capacity : Nat) : Transition.System Session Action where
  initial session := session = {}
  step := step capacity

end Session

end Plank.Camera
